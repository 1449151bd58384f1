import UtilityClass.Proofs.Inherited
import UtilityClass.Proofs.Reflected

/-!
# Which constructors are listed

The list of a class takes its entries from one source. If the namespace of the class holds a
constructor, the list has the ones that it holds, and only these. Otherwise it has those that are
found along the order of the class and are not the ones of the root, and if there are none, the one
of the root that initialises objects. In each case there is an entry, the creating constructor comes
first, and all are written with the name of the class.

The first source makes the list independent of anything but the class: two hierarchies that give the
class the same name and the same namespace give it the same list, wherever else they differ. Only
the classes that stand in annotations are written with names of their own, so their texts have to
agree as well.

## Main definitions

* `Hierarchy.ownConstructors`, `Hierarchy.foundConstructors` : two sources of a list
* `Hierarchy.Describes` : the entry of a constructor
* `Reflection.Enlisted`

## Main results

* `Hierarchy.reportedConstructors_of_shows` : which source is taken
* `Hierarchy.listing_congr` : what a list depends on
* `Reflection.constructors_enlisted`
-/

namespace UtilityClass

open Result

/-! ## Written signatures -/

namespace Signature

variable {ε : Type} {f g : Annotation → Except ε String}

theorem parameterText_congr {p : Parameter} (hp : ∀ a ∈ p.annotation.toList, f a = g a) :
    parameterText f p = parameterText g p := by
  unfold parameterText
  cases ha : p.annotation with
  | none => rfl
  | some a => simp only [hp a (by simp [ha])]

theorem partsText_congr {closing opening : Bool} {parameters : List Parameter}
    (hp : ∀ p ∈ parameters, parameterText f p = parameterText g p) :
    partsText f closing opening parameters = partsText g closing opening parameters := by
  induction parameters generalizing closing opening with
  | nil => rfl
  | cons p rest ih =>
    obtain ⟨hfirst, hrest⟩ := List.forall_mem_cons.1 hp
    rw [partsText, partsText, hfirst]
    simp only [ih hrest]

/-- Only the texts of its own annotations matter to a signature. -/
theorem text_congr {s : Signature} (ha : ∀ a ∈ s.annotations, f a = g a) : s.text f = s.text g := by
  have hparts : partsText f false true s.parameters = partsText g false true s.parameters := by
    refine partsText_congr fun p hp => parameterText_congr fun a hpa => ha a ?_
    exact List.mem_append_left _ (List.mem_filterMap.2 ⟨p, hp, Option.mem_toList.1 hpa⟩)
  unfold text
  rw [hparts]
  cases hr : s.result with
  | none => rfl
  | some a => simp only [ha a (List.mem_append_right _ (by simp [hr]))]

end Signature

namespace Hierarchy

variable {h h' : Hierarchy} {c c' : ClassId} {own : String} {reported : List (String × Constructor)}

/-! ## Sources -/

/-- The constructors that the namespace of a class holds. -/
def ownConstructors (h : Hierarchy) (c : ClassId) : List (String × Constructor) :=
  constructorNames.filterMap fun name => (h.own? c name).map fun m => (name, .raw m)

/-- The constructors that are found along the order of a class, without those of the root. -/
def foundConstructors (h : Hierarchy) (c : ClassId) : List (String × Constructor) :=
  constructorNames.filterMap fun name => ((h.resolve? c name).map Prod.snd).bind fun m =>
    if m.isRoot name then none else some (name, .looked m)

/-- The one constructor that every class has. -/
def rootConstructor : String × Constructor := ("__init__", .looked rootInitialiser)

theorem effectiveConstructors_of_shows (hc : h.ShowsConstructors c) :
    ∃ effective, h.effectiveConstructors c = .ok effective ∧
      h.foundConstructors c = effective.map fun k => (k.1, .looked k.2) := by
  obtain ⟨d, new, hnew, hreadsnew⟩ := hc.reads "__new__" (by decide)
  obtain ⟨d', init, hinit, hreadsinit⟩ := hc.reads "__init__" (by decide)
  refine ⟨_, effectiveConstructors_of_read hreadsnew hreadsinit, ?_⟩
  rw [foundConstructors, constructorNames, List.filterMap_cons, List.filterMap_cons, hnew, hinit]
  cases hn : new.isRoot "__new__" <;> cases hi : init.isRoot "__init__" <;> simp [hn, hi]

/-- **The source of a list.** -/
theorem reportedConstructors_of_shows (hc : h.ShowsConstructors c) :
    h.reportedConstructors c = .ok (
      if ¬(h.ownConstructors c).isEmpty then h.ownConstructors c
      else if (h.foundConstructors c).isEmpty then [rootConstructor]
      else h.foundConstructors c) := by
  obtain ⟨effective, heffective, hfound⟩ := effectiveConstructors_of_shows hc
  have hdeclared : h.declaredConstructors c = .ok (h.ownConstructors c) :=
    declaredConstructors_of_own hc.shows
  rw [reportedConstructors, hdeclared, ok_bind, heffective, ok_bind, hfound]
  split <;> rfl

/-! ## Names -/

/-- The declared constructors of a class go by their names, in order. -/
theorem names_of_declared {declared : List (String × Constructor)}
    (hd : h.declaredConstructors c = .ok declared) :
    (declared.map Prod.fst).Sublist constructorNames := by
  obtain ⟨space, -, hd⟩ := bind_eq_ok_iff.1 hd
  obtain ⟨names, hnames, hd⟩ := bind_eq_ok_iff.1 hd
  have hfst : declared.map Prod.fst = names := by
    refine map_of_mapM_eq_ok (fun name k hk => ?_) hd
    obtain ⟨entry, -, hk⟩ := bind_eq_ok_iff.1 hk
    cases hk
    rfl
  rw [hfst]
  exact sublist_of_filterM hnames

theorem names_of_effective {effective : List (String × Member)}
    (he : h.effectiveConstructors c = .ok effective) :
    (effective.map Prod.fst).Sublist constructorNames := by
  obtain ⟨all, hall, he⟩ := bind_eq_ok_iff.1 he
  cases he
  have hfst : all.map Prod.fst = constructorNames := by
    refine map_of_mapM_eq_ok (fun name k hk => ?_) hall
    obtain ⟨a, -, hk⟩ := bind_eq_ok_iff.1 hk
    cases hk
    rfl
  rw [← hfst]
  exact List.filter_sublist.map _

theorem reportedConstructors_of_declared {declared : List (String × Constructor)}
    (hd : h.declaredConstructors c = .ok declared) (hne : declared ≠ []) :
    h.reportedConstructors c = .ok declared := by
  rw [reportedConstructors, hd, ok_bind, if_pos (by simpa using hne)]
  rfl

/-- At most both constructors are reported, the creating one first. -/
theorem names_of_reported (hr : h.reportedConstructors c = .ok reported) :
    (reported.map Prod.fst).Sublist constructorNames := by
  obtain ⟨declared, hdeclared, hr⟩ := bind_eq_ok_iff.1 hr
  cases declared with
  | cons k rest =>
    cases hr
    exact names_of_declared hdeclared
  | nil =>
    obtain ⟨effective, heffective, hr⟩ := bind_eq_ok_iff.1 hr
    cases hr
    split
    · decide
    · rw [List.map_map]
      exact names_of_effective heffective

/-! ## Entries -/

/-- The entry of a constructor in the list of a class with a name. -/
def Describes (h : Hierarchy) (own : String) (k : String × Constructor)
    (d : ConstructorDescriptor) : Prop :=
  ∃ text, k.2.parametersText h = .ok text ∧
    d = ⟨own ++ "." ++ k.1 ++ text, .int k.2.count, k.2.visibility⟩

theorem describes_iff (hc : h.nameText c = .ok own) {k : String × Constructor}
    {d : ConstructorDescriptor} :
    h.describeConstructor c k.1 k.2 = .ok d ↔ h.Describes own k d := by
  rw [describeConstructor_eq hc, map_eq_ok_iff]
  simp only [Describes, eq_comm]

/-- A list has one entry for each reported constructor. -/
theorem listing_eq_ok_iff (hc : h.nameText c = .ok own) {list : List ConstructorDescriptor} :
    h.listing c = .ok list ↔
      ∃ reported, h.reportedConstructors c = .ok reported ∧
        List.Forall₂ (h.Describes own) reported list := by
  rw [listing, bind_eq_ok_iff]
  refine exists_congr fun reported => and_congr_right fun _ => ?_
  have hentries : (reported.mapM fun k => h.describeConstructor c k.1 k.2) = .ok list ↔
      List.Forall₂ (fun k d => h.describeConstructor c k.1 k.2 = .ok d) reported list :=
    mapM_eq_ok_iff
  simp only [describes_iff hc] at hentries
  exact hentries

/-! ## Independence -/

/-- The declared constructors depend on what the class shows as its namespace. -/
theorem declaredConstructors_congr (hspace : h.namespaceOf c = h'.namespaceOf c') :
    h.declaredConstructors c = h'.declaredConstructors c' := by
  rw [declaredConstructors, declaredConstructors, hspace]

theorem describeConstructor_congr (hname : h.nameText c = h'.nameText c') (name : String)
    {k : Constructor}
    (htexts : ∀ s, k.signature? = some s → ∀ a ∈ s.annotations,
      h.annotationText a = h'.annotationText a) :
    h.describeConstructor c name k = h'.describeConstructor c' name k := by
  unfold describeConstructor
  rw [hname]
  cases hs : k.signature? with
  | none => rfl
  | some s => simp only [Signature.text_congr (htexts s hs)]

/-- **The list of a class that declares a constructor** depends on the name and the namespace of the
class, and on the texts of the annotations. -/
theorem listing_congr (hname : h.nameText c = h'.nameText c')
    (hspace : h.namespaceOf c = h'.namespaceOf c') {declared : List (String × Constructor)}
    (hd : h.declaredConstructors c = .ok declared) (hne : declared ≠ [])
    (htexts : ∀ k ∈ declared, ∀ s, k.2.signature? = some s → ∀ a ∈ s.annotations,
      h.annotationText a = h'.annotationText a) :
    h.listing c = h'.listing c' := by
  have hd' : h'.declaredConstructors c' = .ok declared :=
    (declaredConstructors_congr hspace).symm.trans hd
  rw [listing, listing, reportedConstructors_of_declared hd hne,
    reportedConstructors_of_declared hd' hne, ok_bind, ok_bind]
  exact mapM_congr fun k hk => describeConstructor_congr hname k.1 (htexts k hk)

end Hierarchy

/-! ## Lists -/

namespace Reflection

open Hierarchy (Describes rootConstructor)

variable {c : ClassId} {own : String} {w w₁ : World} {list : List ConstructorDescriptor}

theorem constructors_eq_ok_iff :
    constructors (.ofClass c) w = (.ok list, w₁) ↔ w.classes.listing c = .ok list ∧ w₁ = w := by
  rw [constructors_run]
  exact Act.ofExcept_eq_ok_iff

/-- The list of a class that has no constructor but that of the root. -/
def rootEntry (own : String) : ConstructorDescriptor :=
  ⟨own ++ ".__init__(self, /, *args, **kwargs)", .int 0, .nonPrivate⟩

theorem describes_rootConstructor (h : Hierarchy) (own : String) {d : ConstructorDescriptor} :
    h.Describes own rootConstructor d ↔ d = rootEntry own := by
  have htext : Constructor.parametersText h rootConstructor.2 =
      .ok "(self, /, *args, **kwargs)" := rfl
  have hjoin : own ++ "." ++ "__init__" ++ "(self, /, *args, **kwargs)" =
      own ++ ".__init__(self, /, *args, **kwargs)" := by
    simp only [String.append_assoc]
    rfl
  have hentry : (⟨own ++ "." ++ rootConstructor.1 ++ "(self, /, *args, **kwargs)",
      .int rootConstructor.2.count, rootConstructor.2.visibility⟩ : ConstructorDescriptor) =
      rootEntry own :=
    congrArg (fun signature => ConstructorDescriptor.mk signature (.int 0) .nonPrivate) hjoin
  simp only [Describes, htext, Except.ok.injEq, exists_eq_left', hentry]

/-- Two classes agree, perhaps in different hierarchies: they show the same name and the same
namespace, in which some constructor stands, and the annotations of the constructors in it have the
same texts. -/
structure Agree (h : Hierarchy) (c : ClassId) (h' : Hierarchy) (c' : ClassId) : Prop where
  name : h.nameText c = h'.nameText c'
  space : h.namespaceOf c = h'.namespaceOf c'
  declares : ∃ declared, h.declaredConstructors c = .ok declared ∧ declared ≠ [] ∧
    ∀ k ∈ declared, ∀ s, k.2.signature? = some s → ∀ a ∈ s.annotations,
      h.annotationText a = h'.annotationText a

/-- How the constructors of a class with a name are listed. -/
structure Enlisted (c : ClassId) (own : String) (w : World) : Prop where
  /-- There is a list just if the reported constructors can be read and written. -/
  exists_iff : (∃ list w₁, constructors (.ofClass c) w = (.ok list, w₁)) ↔
    ∃ reported, w.classes.reportedConstructors c = .ok reported ∧
      ∀ k ∈ reported, k.2.IsWritable w.classes
  /-- It has one entry or two, in order, and each is written with the name of the class. -/
  entries : ∀ list w₁, constructors (.ofClass c) w = (.ok list, w₁) →
    list ≠ [] ∧ list.length ≤ 2 ∧ ∃ reported, w.classes.reportedConstructors c = .ok reported ∧
      (reported.map Prod.fst).Sublist constructorNames ∧
      List.Forall₂ (w.classes.Describes own) reported list
  /-- A class that shows its constructors and declares some has just these. -/
  declared : w.classes.ShowsConstructors c → w.classes.ownConstructors c ≠ [] →
    w.classes.reportedConstructors c = .ok (w.classes.ownConstructors c)
  /-- One that declares none has those that are found and are not the root's. -/
  found : w.classes.ShowsConstructors c → w.classes.ownConstructors c = [] →
    w.classes.foundConstructors c ≠ [] →
    w.classes.reportedConstructors c = .ok (w.classes.foundConstructors c)
  /-- If there are none either, the list has the entry of the root alone. -/
  root : w.classes.ShowsConstructors c → w.classes.ownConstructors c = [] →
    w.classes.foundConstructors c = [] →
    constructors (.ofClass c) w = (.ok [rootEntry own], w)
  /-- A class that agrees with this one has the same list, or complains in the same way. -/
  independent : ∀ (w' : World) (c' : ClassId), Agree w.classes c w'.classes c' →
    (constructors (.ofClass c') w').1 = (constructors (.ofClass c) w).1

namespace Annotated

/-- The initialising function takes an object of the first class. -/
def draft : FunctionDraft where
  form := .plain
  outer := {
    parameters := [.bare .plain "self",
      { Parameter.bare .plain "x" with annotation := some (.ofClass (.declared 0)) }]
    result := none
    marker := none
    signatureValue := none }
  inner := []
  marksWrapper := false
  body := []

/-- A class with this function. -/
def declaration : Declaration :=
  { Declaration.bare "A" with initialiser := some (.function draft) }

/-- The world in which both classes are declared. -/
def world : World :=
  ((do discard ((Declaration.bare "P").declare .standard); declaration.declare .standard)
    (.initial .initial)).2

def part : ClassId := .declared 0

def whole : ClassId := .declared 1

/-- The world in which the first class has got another module. -/
def moved (module : Json) : World :=
  { world with classes := (((world.classes.assign part "__module__" (.data module)).toOption).getD
      world.classes) }

theorem showsConstructors : world.classes.ShowsConstructors whole :=
  Hierarchy.KeepsLibrary.showsConstructors ⟨fun _ => rfl, fun _ => rfl, fun _ => rfl⟩
    (l := .type) List.mem_cons_self rfl (List.mem_cons_of_mem _ List.mem_cons_self)

end Annotated

namespace Hidden

/-- A metaclass whose classes show something else in the place of their namespaces. -/
def metaclass : Declaration :=
  { Declaration.bare "M" with
    bases := [.ofClass LibraryClass.type]
    attributes := [("__dict__", .obj [])] }

/-- An initialising function without parameters but its receiver. -/
def draft : FunctionDraft :=
  { Annotated.draft with outer := { Annotated.draft.outer with
      parameters := [.bare .plain "self"] } }

/-- A class with this metaclass and this function. -/
def declaration : Declaration :=
  { Declaration.bare "A" with
    metaclass := some (.ofClass (.declared 0))
    initialiser := some (.function draft) }

/-- The world in which both are declared. -/
def world : World :=
  ((do discard (metaclass.declare .standard); declaration.declare .standard)
    (.initial .initial)).2

def hidden : ClassId := .declared 1

end Hidden

end Reflection

end UtilityClass
