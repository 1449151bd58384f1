import UtilityClass.Class.Library
import UtilityClass.Proofs.Diagnosis
import UtilityClass.Proofs.Reflected

/-!
# Classes that are read plainly

What reflection reads of a class may be answered by its metaclass, and then it may be anything. Most
classes have a metaclass of the library, which leaves the attributes alone that each class has by
being a class. Such a class is *read plainly*: every attribute is what a lookup finds, the bases and
the namespace are the real ones, and no class is asked whether it equals another one.

Of such a class everything can be read but its name. A class may be given an empty short name and an
empty name inside its module, and then it has no qualified name. This is all that can go wrong with
its description; with the list of its constructors, it can go wrong besides that an annotation has
no text.

## Main definitions

* `Hierarchy.KeepsLibrary` : the library classes are what they were
* `Hierarchy.ReadsPlainly`, `Hierarchy.IsNamed`

## Main results

* `Hierarchy.KeepsLibrary.readsPlainly` : classes with a metaclass of the library
* `Hierarchy.ReadsPlainly.exists_description_iff`, `Hierarchy.ReadsPlainly.exists_listing_iff`
-/

namespace UtilityClass

open Result

theorem Json.truthy_str (text : String) : (Json.str text).truthy = decide (text ≠ "") := rfl

namespace Hierarchy

/-- The library classes are what they were, as far as lookups go. -/
structure KeepsLibrary (h : Hierarchy) : Prop where
  order : ∀ l : LibraryClass, (h.info l).order = l.info.order
  metaclass : ∀ l : LibraryClass, (h.info l).metaclass = l.info.metaclass
  members : ∀ l : LibraryClass, (h.info l).members = l.info.members

theorem keepsLibrary_initial : Hierarchy.initial.KeepsLibrary :=
  ⟨fun _ => rfl, fun _ => rfl, fun _ => rfl⟩

/-- A class is read plainly. -/
structure ReadsPlainly (h : Hierarchy) (c : ClassId) : Prop where
  /-- What is read is what a lookup finds. -/
  reads : ∀ name, h.read? c name = .ok (h.lookUp? c name)
  /-- The metaclass leaves what the class has by being a class as it is. -/
  fields : ∀ name ∈ ["__name__", "__qualname__", "__flags__", "__bases__", "__dict__"],
    h.lookUp? c name = some ⟨.native (.field name), true⟩
  /-- Where abstract methods are kept track of, the note on them is still there. -/
  notes : h.tracksAbstract c = true → (h.lookUp? c abstractMethodsName).isSome = true
  /-- Neither the bases nor the class that they are compared with have a say in equality. -/
  equality : ∀ d ∈ ClassId.library .abc :: (h.info c).bases, h.hook? d "__eq__" = none
  /-- The class has constructors, if only those of the root. -/
  inherits : ∀ name ∈ constructorNames, (h.lookUp? c name).isSome = true

/-- A class has a name: inside its module, or at least a short one. -/
def IsNamed (h : Hierarchy) (c : ClassId) : Prop :=
  (h.info c).qualname ≠ "" ∨ (h.info c).name ≠ ""

variable {h : Hierarchy} {c : ClassId}

/-- The declared constructors are the entries of the own namespace, if it is shown as it is. -/
theorem declaredConstructors_of_own (hc : h.namespaceOf c = .ok (.own (h.info c).members)) :
    h.declaredConstructors c = .ok (constructorNames.filterMap fun name =>
      (h.own? c name).map fun m => (name, .raw m)) := by
  rw [declaredConstructors, hc]
  cases hnew : (h.info c).members.lookup "__new__" <;>
    cases hinit : (h.info c).members.lookup "__init__" <;>
      simp [constructorNames, List.filterM, Namespace.contains, Namespace.entry, own?,
        ClassInfo.own?, hnew, hinit, pure, Except.pure]

/-- The effective constructors are those that are read, without the ones of the root. -/
theorem effectiveConstructors_of_read {new init : ClassAttribute}
    (hnew : h.read c "__new__" = .ok new) (hinit : h.read c "__init__" = .ok init) :
    h.effectiveConstructors c =
      .ok ([("__new__", new.member), ("__init__", init.member)].filter fun k =>
        !k.2.isRoot k.1) := by
  rw [effectiveConstructors, constructorNames, List.mapM_cons, List.mapM_cons, List.mapM_nil, hnew,
    hinit]
  rfl

namespace ReadsPlainly

variable (hc : h.ReadsPlainly c)
include hc

theorem read_eq {name : String} {a : ClassAttribute} (ha : h.lookUp? c name = some a) :
    h.read c name = .ok a := by
  rw [read, hc.reads, ha]
  rfl

theorem read_field {name : String}
    (hn : name ∈ ["__name__", "__qualname__", "__flags__", "__bases__", "__dict__"]) :
    h.read c name = .ok ⟨.native (.field name), true⟩ :=
  hc.read_eq (hc.fields name hn)

/-! ## Names -/

theorem nameAttribute?_qualname :
    h.nameAttribute? c "__qualname__" = .ok (some (.str (h.info c).qualname)) := by
  rw [nameAttribute?, hc.reads, hc.fields _ (by decide)]
  rfl

theorem nameAttribute?_name :
    h.nameAttribute? c "__name__" = .ok (some (.str (h.info c).name)) := by
  rw [nameAttribute?, hc.reads, hc.fields _ (by decide)]
  rfl

theorem exists_nameAttribute? (name : String) :
    ∃ value, h.nameAttribute? c name = .ok value := by
  rw [nameAttribute?, hc.reads]
  exact ⟨_, rfl⟩

/-- The name is made of the module and the first of the two names that is not empty. -/
theorem nameOf_eq {module : Option Json} (hm : h.nameAttribute? c "__module__" = .ok module) :
    h.nameOf c = (QualifiedName.make (module.getD .null) (.str
      (if (h.info c).qualname ≠ "" then (h.info c).qualname else (h.info c).name))).mapError
        .name := by
  rw [nameOf, hc.nameAttribute?_qualname, hm, hc.nameAttribute?_name, ok_bind]
  by_cases hq : (h.info c).qualname = ""
  · simp [hq, Json.truthy_str, QualifiedName.ofAttributes]
  · simp [hq, Json.truthy_str, QualifiedName.ofAttributes]

theorem nameOf_of_named (hn : h.IsNamed c) :
    ∃ module name, h.nameOf c = .ok ⟨module, .str name⟩ := by
  obtain ⟨module, hm⟩ := hc.exists_nameAttribute? "__module__"
  rw [hc.nameOf_eq hm, QualifiedName.make, if_pos]
  · exact ⟨_, _, rfl⟩
  · by_cases hq : (h.info c).qualname = ""
    · simpa [hq, Json.truthy_str] using hn.resolve_left (not_not_intro hq)
    · simp [hq, Json.truthy_str]

theorem nameOf_of_unnamed (hn : ¬h.IsNamed c) : h.nameOf c = .error (.name .empty) := by
  obtain ⟨module, hm⟩ := hc.exists_nameAttribute? "__module__"
  obtain ⟨hq, hs⟩ : (h.info c).qualname = "" ∧ (h.info c).name = "" := by
    simpa [IsNamed] using hn
  rw [hc.nameOf_eq hm, hq, hs]
  rfl

theorem nameText_of_named (hn : h.IsNamed c) : ∃ name, h.nameText c = .ok name := by
  obtain ⟨module, name, hname⟩ := hc.nameOf_of_named hn
  obtain ⟨text, htext⟩ := QualifiedName.text_isOk_of_str module name
  exact ⟨text, nameText_eq_ok_iff.2 ⟨_, hname, htext⟩⟩

/-! ## Kind and modifiers -/

theorem exists_classify : ∃ kind, h.classify c = .ok kind := by
  rw [classify, readTruth, hc.reads]
  exact exists_bind_iff.2 ⟨_, rfl, by split <;> exact ⟨_, rfl⟩⟩

theorem namespaceOf_eq : h.namespaceOf c = .ok (.own (h.info c).members) := by
  rw [namespaceOf, hc.read_field (by decide)]
  rfl

theorem hasFlag_eq (flag : Int) (isCase : Bool) : h.hasFlag c flag isCase = .ok isCase := by
  rw [hasFlag, hc.read_field (by decide)]
  rfl

/-- Nobody has a say in whether the class itself is among the bases. -/
theorem exists_isAmong {bases : List ClassId} (hb : ∀ d ∈ bases, h.hook? d "__eq__" = none) :
    ∃ isBase, h.isAmong (.library .abc) bases = .ok isBase := by
  induction bases with
  | nil => exact ⟨false, rfl⟩
  | cons d bases ih =>
    obtain ⟨hd, hb⟩ := List.forall_mem_cons.1 hb
    have hroot := hc.equality _ List.mem_cons_self
    have hsame : ∃ isSame, h.sameClass d (.library .abc) = .ok isSame := by
      by_cases hsame : d = .library .abc
      · exact ⟨true, if_pos hsame⟩
      · refine ⟨false, (if_neg hsame).trans ?_⟩
        split <;> simp [askEqual, hd, hroot]
    rw [isAmong]
    obtain ⟨isSame, hsame⟩ := hsame
    refine exists_bind_iff.2 ⟨isSame, hsame, ?_⟩
    cases isSame with
    | true => exact ⟨true, rfl⟩
    | false => exact ih hb

/-- Methods that are still abstract are not searched for, since the note on them is there. -/
theorem hasAbstractMethods_eq : h.hasAbstractMethods c = .ok (h.info c).isBarred := by
  rw [hasAbstractMethods, hc.hasFlag_eq, ok_bind]
  cases (h.info c).isBarred with
  | true => rfl
  | false =>
    cases htracks : h.tracksAbstract c with
    | false => rfl
    | true =>
      rw [hc.reads, ok_bind, if_pos (hc.notes htracks)]
      rfl

theorem exists_isAbstract : ∃ isAbstract, h.isAbstract c = .ok isAbstract := by
  rw [isAbstract, hc.hasAbstractMethods_eq, ok_bind]
  cases (h.info c).isBarred with
  | true => exact ⟨true, rfl⟩
  | false =>
    rw [readContains, hc.read_field (by decide)]
    exact hc.exists_isAmong fun d hd => hc.equality d (List.mem_cons_of_mem _ hd)

theorem exists_isFinal : ∃ isFinal, h.isFinal c = .ok isFinal := by
  rw [isFinal, hc.namespaceOf_eq, hc.hasFlag_eq]
  simp only [ok_bind, Namespace.get?]
  generalize (h.info c).members.lookup "__final__" = entry
  split
  · split <;> exact ⟨_, rfl⟩
  · exact ⟨_, rfl⟩

/-! ## Descriptions -/

/-- **A class that is read plainly is described** just if it has a name. -/
theorem exists_description_iff : (∃ d, h.description c = .ok d) ↔ h.IsNamed c := by
  constructor
  · rintro ⟨d, hd⟩
    refine Classical.byContradiction fun hn => ?_
    rw [description, hc.nameOf_of_unnamed hn] at hd
    cases hd
  · intro hn
    obtain ⟨module, name, hname⟩ := hc.nameOf_of_named hn
    obtain ⟨kind, hkind⟩ := hc.exists_classify
    obtain ⟨isAbstract, habstract⟩ := hc.exists_isAbstract
    obtain ⟨isFinal, hfinal⟩ := hc.exists_isFinal
    exact ⟨⟨_, kind, isAbstract, isFinal⟩,
      description_eq_ok_iff.2 ⟨hname, hkind, habstract, hfinal⟩⟩

/-! ## Constructors -/

theorem exists_effectiveConstructors : ∃ effective, h.effectiveConstructors c = .ok effective := by
  have hreads : ∀ name ∈ constructorNames,
      ∃ entry, (do return (name, (← h.read c name).member) : Except Fault _) = .ok entry := by
    intro name hname
    obtain ⟨a, ha⟩ := Option.isSome_iff_exists.1 (hc.inherits name hname)
    rw [hc.read_eq ha]
    exact ⟨_, rfl⟩
  obtain ⟨all, hall⟩ := exists_mapM_ok_iff.2 hreads
  rw [effectiveConstructors, hall]
  exact ⟨_, rfl⟩

theorem declaredConstructors_eq :
    h.declaredConstructors c = .ok (constructorNames.filterMap fun name =>
      (h.own? c name).map fun m => (name, .raw m)) :=
  declaredConstructors_of_own hc.namespaceOf_eq

theorem exists_reportedConstructors :
    ∃ reported, h.reportedConstructors c = .ok reported := by
  obtain ⟨effective, he⟩ := hc.exists_effectiveConstructors
  rw [reportedConstructors, hc.declaredConstructors_eq, ok_bind, he]
  split
  · exact ⟨_, rfl⟩
  · exact ⟨_, rfl⟩

/-- **The constructors of a class that is read plainly are listed** just if it has a name and each
reported constructor can be written. -/
theorem exists_listing_iff :
    (∃ list, h.listing c = .ok list) ↔ h.IsNamed c ∧ h.WritesConstructors c := by
  obtain ⟨reported, hr⟩ := hc.exists_reportedConstructors
  have hname : (∃ own, h.nameText c = .ok own) ↔ h.IsNamed c := by
    refine ⟨fun ⟨own, hown⟩ => Classical.byContradiction fun hn => ?_, hc.nameText_of_named⟩
    rw [nameText, hc.nameOf_of_unnamed hn] at hown
    cases hown
  rw [exists_listing_ok_iff, hname, WritesConstructors]
  simp [hr]

end ReadsPlainly

/-! ## Metaclasses of the library -/

/-- The classes that a library class derives from belong to the library. -/
theorem exists_library_of_mem_order (l : LibraryClass) {d : ClassId} (hd : d ∈ l.info.order) :
    ∃ k : LibraryClass, d = k := by
  have hids : ∃ classes, l.info.order = LibraryClass.ids classes := by
    cases l <;> exact ⟨_, rfl⟩
  obtain ⟨classes, hids⟩ := hids
  rw [hids, LibraryClass.ids, List.mem_map] at hd
  obtain ⟨k, -, rfl⟩ := hd
  exact ⟨k, rfl⟩

namespace KeepsLibrary

variable (hlibrary : h.KeepsLibrary)
include hlibrary

/-- Lookups on library classes find what they found at first. -/
theorem resolve?_eq (l : LibraryClass) (name : String) :
    h.resolve? l name = Hierarchy.initial.resolve? l name := by
  have hfirst (order : List ClassId) (ho : ∀ d ∈ order, ∃ k : LibraryClass, d = k) :
      h.firstIn? name order = Hierarchy.initial.firstIn? name order := by
    induction order with
    | nil => rfl
    | cons d order ih =>
      obtain ⟨⟨k, rfl⟩, hrest⟩ := List.forall_mem_cons.1 ho
      have hown : h.own? k name = Hierarchy.initial.own? k name := by
        rw [own?, ClassInfo.own?, hlibrary.members]
        rfl
      rw [firstIn?_cons, firstIn?_cons, hown, ih hrest]
  rw [resolve?, hlibrary.order]
  exact hfirst _ fun d hd => exists_library_of_mem_order l hd

theorem hook?_eq_none {l : LibraryClass} (hm : (h.info c).metaclass = l) (name : String) :
    h.hook? c name = none := by
  rw [hook?, hm]
  split
  · next serial m hr =>
    obtain ⟨hd, -⟩ := own?_of_firstIn? _ hr
    rw [hlibrary.order] at hd
    obtain ⟨k, hk⟩ := exists_library_of_mem_order l hd
    cases hk
  · rfl

end KeepsLibrary

/-- What a class of an order has is found. -/
theorem isSome_firstIn? {name : String} {order : List ClassId} {d : ClassId} {m : Member}
    (hd : d ∈ order) (hm : h.own? d name = some m) : (h.firstIn? name order).isSome = true := by
  rw [firstIn?, List.findSome?_isSome_iff]
  exact ⟨d, hd, by simp [hm]⟩

theorem resolve?_initial_fallback {l : LibraryClass}
    (hl : l ∈ [LibraryClass.type, .abcMeta, .protocolMeta]) :
    Hierarchy.initial.resolve? l "__getattr__" = none := by
  simp only [List.mem_cons, List.not_mem_nil, or_false] at hl
  obtain rfl | rfl | rfl := hl <;> rfl

theorem resolve?_initial_field {l : LibraryClass}
    (hl : l ∈ [LibraryClass.type, .abcMeta, .protocolMeta]) {name : String}
    (hn : name ∈ ["__name__", "__qualname__", "__flags__", "__bases__", "__dict__"]) :
    Hierarchy.initial.resolve? l name =
      some (.library .type, .native (.field name)) := by
  simp only [List.mem_cons, List.not_mem_nil, or_false] at hl hn
  obtain rfl | rfl | rfl := hl <;> obtain rfl | rfl | rfl | rfl | rfl := hn <;> rfl

theorem resolve?_initial_constructor {l : LibraryClass}
    (hl : l ∈ [LibraryClass.type, .abcMeta, .protocolMeta]) {name : String}
    (hn : name ∈ constructorNames) (key : String) (d : ClassId) :
    Hierarchy.initial.resolve? l name ≠ some (d, .native (.field key)) := by
  simp only [constructorNames, List.mem_cons, List.not_mem_nil, or_false] at hn hl
  obtain rfl | rfl | rfl := hl <;> obtain rfl | rfl := hn <;> exact nofun

namespace KeepsLibrary

variable (hlibrary : h.KeepsLibrary) {l : LibraryClass}
  (hl : l ∈ [LibraryClass.type, .abcMeta, .protocolMeta]) (hm : (h.info c).metaclass = l)
include hlibrary hl hm

theorem read?_eq (name : String) : h.read? c name = .ok (h.lookUp? c name) := by
  have hfallback : h.resolve? (h.info c).metaclass "__getattr__" = none := by
    rw [hm, hlibrary.resolve?_eq, resolve?_initial_fallback hl]
  rw [read?, hlibrary.hook?_eq_none hm, hfallback]
  cases h.lookUp? c name <;> rfl

theorem lookUp?_field {name : String}
    (hn : name ∈ ["__name__", "__qualname__", "__flags__", "__bases__", "__dict__"]) :
    h.lookUp? c name = some ⟨.native (.field name), true⟩ := by
  have hfield : h.field? c name = some (.native (.field name)) := by
    rw [field?, hm, hlibrary.resolve?_eq, resolve?_initial_field hl hn]
  have hhas : h.hasField c name = true := by
    simp only [List.mem_cons, List.not_mem_nil, or_false] at hn
    obtain rfl | rfl | rfl | rfl | rfl := hn <;> rfl
  rw [lookUp?, hfield]
  exact if_pos hhas

/-- Constructors are no attributes that a class has by being a class. -/
theorem field?_constructor {name : String} (hn : name ∈ constructorNames) :
    h.field? c name = none := by
  rw [field?, hm, hlibrary.resolve?_eq]
  split
  · next hr => exact absurd hr (resolve?_initial_constructor hl hn _ _)
  · rfl

omit hl hm in
theorem isSome_resolve?_constructor (hroot : ClassId.library .object ∈ (h.info c).order)
    {name : String} (hn : name ∈ constructorNames) : (h.resolve? c name).isSome = true := by
  have hown : ∃ m, h.own? (.library .object) name = some m := by
    rw [own?, ClassInfo.own?, hlibrary.members]
    simp only [constructorNames, List.mem_cons, List.not_mem_nil, or_false] at hn
    obtain rfl | rfl := hn <;> exact ⟨_, rfl⟩
  obtain ⟨m, hown⟩ := hown
  exact isSome_firstIn? hroot hown

theorem isSome_lookUp?_constructor (hroot : ClassId.library .object ∈ (h.info c).order)
    {name : String} (hn : name ∈ constructorNames) : (h.lookUp? c name).isSome = true := by
  obtain ⟨found, hfound⟩ :=
    Option.isSome_iff_exists.1 (hlibrary.isSome_resolve?_constructor hroot hn)
  rw [lookUp?, hlibrary.field?_constructor hl hm hn, hfound]
  rfl

/-- **A class whose metaclass is that of all classes, of abstract ones or of protocols** is read
plainly, if the metaclasses of its bases belong to the library as well. -/
theorem readsPlainly
    (hnotes : h.tracksAbstract c = true → (h.lookUp? c abstractMethodsName).isSome = true)
    (hbases : ∀ d ∈ (h.info c).bases, ∃ k : LibraryClass, (h.info d).metaclass = k)
    (hroot : ClassId.library .object ∈ (h.info c).order) : h.ReadsPlainly c where
  reads := hlibrary.read?_eq hl hm
  fields _ := hlibrary.lookUp?_field hl hm
  notes := hnotes
  equality d hd := by
    obtain rfl | hd := List.mem_cons.1 hd
    · exact hlibrary.hook?_eq_none (hlibrary.metaclass .abc) _
    · obtain ⟨k, hk⟩ := hbases d hd
      exact hlibrary.hook?_eq_none hk _
  inherits _ := hlibrary.isSome_lookUp?_constructor hl hm hroot

end KeepsLibrary

end Hierarchy

end UtilityClass
