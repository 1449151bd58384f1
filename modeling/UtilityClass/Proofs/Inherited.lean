import UtilityClass.Construction.Declare
import UtilityClass.Construction.Level
import UtilityClass.Proofs.CallTrace
import UtilityClass.Proofs.PlainReading
import UtilityClass.Proofs.Receiver

/-!
# Inherited constructors

A constructor is listed for the class that declares it, and for each class that inherits it and
declares none of its own. The first list takes it from the namespace, the second one from a lookup,
which has handed over the class to a function that works on the class, and has taken off the wrapper
of such a function and of one that works on nothing.

So the two entries differ behind the name of the class in two cases. Where the function works on the
class, the second list does not write the parameter for the class any more, and does not count an
argument that follows it. Where it is only the wrapper that is marked as private, the second list
does not see the mark. In all other cases the two entries agree.

## Main definitions

* `ConstructorDescriptor.entry?` : the entry of a constructor in a list
* `Hierarchy.ShowsConstructors`, `Hierarchy.Inherits`

## Main results

* `Reflection.constructors_inherited` : the entries for a constructor that is inherited
-/

namespace UtilityClass

open Result

/-- The entry of a constructor in a list: the one whose signature begins with its qualified name. -/
def ConstructorDescriptor.entry? (own name : String) (list : List ConstructorDescriptor) :
    Option ConstructorDescriptor :=
  list.find? fun d => (own ++ "." ++ name ++ "(").toList.isPrefixOf d.signature.toList

namespace Constructor

/-- The written parameters of a constructor. -/
def parametersText (h : Hierarchy) (k : Constructor) : Except Fault String :=
  match k.signature? with
  | none => .ok "(...)"
  | some s => s.text h.annotationText

/-- How many arguments a constructor takes beyond its receiver, as far as can be read. -/
def count (k : Constructor) : Nat := k.signature?.elim 0 Signature.arity

variable {h : Hierarchy} {k : Constructor} {text : String}

theorem isPrivate_mk (signature : String) (count : Json) :
    ConstructorDescriptor.isPrivate ⟨signature, count, k.visibility⟩ = k.isMarked := by
  unfold ConstructorDescriptor.isPrivate visibility
  cases k.isMarked <;> rfl

theorem visibility_eq_iff {k k' : Constructor} :
    k.visibility = k'.visibility ↔ k.isMarked = k'.isMarked := by
  unfold visibility
  cases k.isMarked <;> cases k'.isMarked <;> decide

/-- Written parameters open with a bracket. -/
theorem exists_parametersText_eq (ht : k.parametersText h = .ok text) :
    ∃ tail, text.toList = '(' :: tail := by
  unfold parametersText at ht
  cases hs : k.signature? with
  | none =>
    rw [hs] at ht
    cases ht
    exact ⟨_, rfl⟩
  | some s =>
    rw [hs] at ht
    obtain ⟨parts, tail, -, htext, -⟩ := s.exists_text_eq ht
    exact ⟨_, htext⟩

end Constructor

namespace Hierarchy

variable {h : Hierarchy} {c : ClassId} {own name : String} {k : Constructor}

theorem describeConstructor_eq (hc : h.nameText c = .ok own) (name : String) (k : Constructor) :
    h.describeConstructor c name k = (k.parametersText h).map fun text =>
      ⟨own ++ "." ++ name ++ text, .int k.count, k.visibility⟩ := by
  unfold Constructor.parametersText Constructor.count
  cases hs : k.signature? with
  | none => exact describeConstructor_of_unreadable hc name hs
  | some s => exact describeConstructor_of_readable hc name hs

/-! ## Entries -/

/-- A qualified name of a constructor does not begin like that of another one. -/
theorem isPrefixOf_signature_iff {other : String} (hname : name ∈ constructorNames)
    (hother : other ∈ constructorNames) {text : String} (ht : ∃ tail, text.toList = '(' :: tail) :
    (own ++ "." ++ name ++ "(").toList.isPrefixOf (own ++ "." ++ other ++ text).toList = true ↔
      name = other := by
  obtain ⟨tail, ht⟩ := ht
  simp only [constructorNames, List.mem_cons, List.not_mem_nil, or_false] at hname hother
  obtain rfl | rfl := hname <;> obtain rfl | rfl := hother <;>
    simp [String.toList_append, ht, List.prefix_append_right_inj]

/-- Each reported constructor has its entry in the list. -/
theorem entry?_of_listed (hc : h.nameText c = .ok own) (hname : name ∈ constructorNames)
    {reported : List (String × Constructor)} (hnames : ∀ k ∈ reported, k.1 ∈ constructorNames)
    (hk : reported.lookup name = some k) {list : List ConstructorDescriptor}
    (hl : (reported.mapM fun k => h.describeConstructor c k.1 k.2) = .ok list) :
    ∃ text, k.parametersText h = .ok text ∧ ConstructorDescriptor.entry? own name list =
      some ⟨own ++ "." ++ name ++ text, .int k.count, k.visibility⟩ := by
  induction reported generalizing list with
  | nil => cases hk
  | cons first rest ih =>
    obtain ⟨other, k'⟩ := first
    obtain ⟨hfirst, hrest⟩ := List.forall_mem_cons.1 hnames
    rw [List.mapM_cons] at hl
    obtain ⟨d, hd, hl⟩ := bind_eq_ok_iff.1 hl
    obtain ⟨ds, hds, hl⟩ := bind_eq_ok_iff.1 hl
    cases hl
    rw [describeConstructor_eq hc, map_eq_ok_iff] at hd
    obtain ⟨text, htext, rfl⟩ := hd
    have hbegins : (own ++ "." ++ name ++ "(").toList.isPrefixOf
        (own ++ "." ++ other ++ text).toList = true ↔ name = other :=
      isPrefixOf_signature_iff hname hfirst (Constructor.exists_parametersText_eq htext)
    rw [List.lookup_cons] at hk
    by_cases hsame : name = other
    · rw [beq_iff_eq.2 hsame] at hk
      cases hk
      subst hsame
      exact ⟨text, htext, List.find?_cons_of_pos (hbegins.2 rfl)⟩
    · rw [beq_eq_false_iff_ne.2 hsame] at hk
      obtain ⟨text', htext', hentry⟩ := ih hrest hk hds
      refine ⟨text', htext', ?_⟩
      unfold ConstructorDescriptor.entry? at hentry ⊢
      exact (List.find?_cons_of_neg (by exact fun hp => hsame (hbegins.1 hp))).trans hentry

/-! ## Reported constructors -/

/-- A class shows its constructors: its namespace is shown as it is, and what a lookup along its
order finds of its constructors is what is read. -/
structure ShowsConstructors (h : Hierarchy) (c : ClassId) : Prop where
  shows : h.namespaceOf c = .ok (.own (h.info c).members)
  reads : ∀ name ∈ constructorNames, ∃ d m, h.resolve? c name = some (d, m) ∧
    h.read c name = .ok ⟨m, false⟩

/-- A class whose metaclass is that of all classes, of abstract ones or of protocols shows its
constructors. -/
theorem KeepsLibrary.showsConstructors (hlibrary : h.KeepsLibrary) {l : LibraryClass}
    (hl : l ∈ [LibraryClass.type, .abcMeta, .protocolMeta]) (hm : (h.info c).metaclass = l)
    (hroot : ClassId.library .object ∈ (h.info c).order) : h.ShowsConstructors c where
  shows := by
    rw [namespaceOf, read, hlibrary.read?_eq hl hm, hlibrary.lookUp?_field hl hm (by decide)]
    rfl
  reads name hn := by
    obtain ⟨⟨d, m⟩, hfound⟩ :=
      Option.isSome_iff_exists.1 (hlibrary.isSome_resolve?_constructor hroot hn)
    have hlookup : h.lookUp? c name = some ⟨m, false⟩ := by
      rw [lookUp?, hlibrary.field?_constructor hl hm hn, hfound]
    refine ⟨d, m, hfound, ?_⟩
    rw [read, hlibrary.read?_eq hl hm, hlookup]
    rfl

/-- A class declares no constructor, and inherits one that is a function, perhaps in a wrapper. -/
structure Inherits (h : Hierarchy) (c ancestor : ClassId) (name : String) (m : Member) : Prop where
  isConstructor : name ∈ constructorNames
  undeclared : ∀ own ∈ constructorNames, h.own? c own = none
  found : h.resolve? c name = some (ancestor, m)
  isFunction : m.isFunction = true

/-- Among the reported constructors of a class that declares one is the entry of its namespace. -/
theorem lookup_reported_of_own (hc : h.namespaceOf c = .ok (.own (h.info c).members))
    (hname : name ∈ constructorNames) {m : Member} (hm : h.own? c name = some m) :
    ∃ reported, h.reportedConstructors c = .ok reported ∧
      (∀ k ∈ reported, k.1 ∈ constructorNames) ∧ reported.lookup name = some (.raw m) := by
  refine ⟨constructorNames.filterMap fun name => (h.own? c name).map fun m => (name, .raw m),
    ?_, ?_, ?_⟩
  · rw [reportedConstructors, declaredConstructors_of_own hc, ok_bind, if_pos]
    · rfl
    · rw [Bool.not_eq_true, List.isEmpty_eq_false_iff]
      refine List.ne_nil_of_mem (a := (name, .raw m)) (List.mem_filterMap.2 ⟨name, hname, ?_⟩)
      simp [hm]
  · rintro k hk
    obtain ⟨own, hown, hk⟩ := List.mem_filterMap.1 hk
    obtain ⟨m', -, rfl⟩ := Option.map_eq_some_iff.1 hk
    exact hown
  · simp only [constructorNames, List.mem_cons, List.not_mem_nil, or_false] at hname
    obtain rfl | rfl := hname
    · simp [constructorNames, hm]
    · cases hnew : h.own? c "__new__" <;>
        simp only [constructorNames, List.filterMap_cons, List.filterMap_nil, hm, hnew] <;> rfl

/-- Among the reported constructors of a class that inherits one is what the lookup finds. -/
theorem lookup_reported_of_inherits (hc : h.ShowsConstructors c) {ancestor : ClassId} {m : Member}
    (hi : h.Inherits c ancestor name m) :
    ∃ reported, h.reportedConstructors c = .ok reported ∧
      (∀ k ∈ reported, k.1 ∈ constructorNames) ∧ reported.lookup name = some (.looked m) := by
  obtain ⟨hname, hown, hfound, hfunction⟩ := hi
  obtain ⟨d, new, hnew, hreadsnew⟩ := hc.reads "__new__" (by decide)
  obtain ⟨d', init, hinit, hreadsinit⟩ := hc.reads "__init__" (by decide)
  have hdeclared : h.declaredConstructors c = .ok [] := by
    rw [declaredConstructors_of_own hc.shows]
    simp [constructorNames, hown "__new__" (by decide), hown "__init__" (by decide)]
  have hroot : m.isRoot name = false := by
    cases m <;> simp_all [Member.isFunction, Member.isRoot]
  have hlookup : (([("__new__", new), ("__init__", init)].filter fun k => !k.2.isRoot k.1).map
      fun k => (k.1, Constructor.looked k.2)).lookup name = some (.looked m) := by
    simp only [constructorNames, List.mem_cons, List.not_mem_nil, or_false] at hname
    obtain rfl | rfl := hname
    · obtain ⟨-, rfl⟩ : d = ancestor ∧ new = m := by simpa [hnew] using hfound
      simp [hroot]
    · obtain ⟨-, rfl⟩ : d' = ancestor ∧ init = m := by simpa using hinit.symm.trans hfound
      cases hr : new.isRoot "__new__" <;> simp only [List.filter_cons, List.filter_nil, hr, hroot]
        <;> rfl
  refine ⟨_, ?_, ?_, hlookup⟩
  · have hne : ([("__new__", new), ("__init__", init)].filter fun k =>
        !k.2.isRoot k.1).map (fun k => (k.1, Constructor.looked k.2)) ≠ [] := by
      intro hnil
      rw [hnil] at hlookup
      cases hlookup
    rw [reportedConstructors, hdeclared, ok_bind, if_neg (by simp),
      effectiveConstructors_of_read hreadsnew hreadsinit, ok_bind]
    dsimp only
    rw [if_neg (by simpa using hne)]
    rfl
  · rintro k hk
    obtain ⟨k', hk', rfl⟩ := List.mem_map.1 hk
    have hmem := (List.mem_filter.1 hk').1
    simp only [List.mem_cons, List.not_mem_nil, or_false] at hmem
    obtain rfl | rfl := hmem
    · exact List.mem_cons_self
    · exact List.mem_cons_of_mem _ List.mem_cons_self

end Hierarchy

/-! ## Lookups and namespaces -/

namespace Member

/-- The private mark is on the wrapper alone. -/
def isMarkedOutside : Member → Bool
  | .static f marker | .classwise f marker => !f.marker.any Json.isTrue && marker.any Json.isTrue
  | _ => false

/-- What can be read of the member changes as soon as it is looked up: it works on the class, and
its first parameter, if it has one, is not one that collects positional arguments. -/
def LosesReceiver (m : Member) : Prop :=
  ∃ f marker s, m = .classwise f marker ∧ f.readable = some s ∧
    ¬∃ p rest, s.parameters = p :: rest ∧ p.kind = .rest

variable {m : Member}

theorem signature?_looked_eq_iff :
    (Constructor.looked m).signature? = (Constructor.raw m).signature? ↔ ¬m.LosesReceiver := by
  unfold LosesReceiver
  simp only [← Signature.bound?_eq_self_iff]
  cases m with
  | classwise f marker =>
    show f.readable.bind (·.bound?) = f.readable ↔ _
    cases hs : f.readable <;> simp [hs]
  | _ => simp [Constructor.signature?]

theorem visibility_looked_eq_iff :
    (Constructor.looked m).visibility = (Constructor.raw m).visibility ↔
      m.isMarkedOutside = false := by
  rw [Constructor.visibility_eq_iff]
  cases m with
  | static f marker | classwise f marker =>
    simp only [Constructor.isMarked, isMarkedOutside]
    cases f.marker.any Json.isTrue <;> cases marker.any Json.isTrue <;> decide
  | _ => simp [Constructor.isMarked, isMarkedOutside]

end Member

/-- Two entries for one constructor, where it is inherited and where it is declared. Behind the
names stand the written parameters. -/
structure Retold (m : Member) (text declaredText : String)
    (inherited declared : ConstructorDescriptor) : Prop where
  /-- The written parameters agree unless the receiver is lost. -/
  text_eq_iff : text = declaredText ↔ ¬m.LosesReceiver
  /-- The counts agree as well, and no argument is counted only where it is inherited. -/
  counts : ∃ n n' : Nat, inherited.parameterCount = .int n ∧ declared.parameterCount = .int n' ∧
    n ≤ n' ∧ (¬m.LosesReceiver → n = n')
  /-- The visibilities agree unless the private mark is on the wrapper alone. -/
  visibility_eq_iff : inherited.visibility = declared.visibility ↔ m.isMarkedOutside = false
  /-- What is private where it is inherited is private where it is declared. -/
  isPrivate : inherited.isPrivate = true → declared.isPrivate = true

/-- The entries agree behind the names just if neither of the two happens. -/
theorem Retold.agree_iff {m : Member} {text declaredText : String}
    {inherited declared : ConstructorDescriptor}
    (hr : Retold m text declaredText inherited declared) :
    (text = declaredText ∧ inherited.parameterCount = declared.parameterCount ∧
      inherited.visibility = declared.visibility) ↔
        ¬m.LosesReceiver ∧ m.isMarkedOutside = false := by
  obtain ⟨n, n', hn, hn', -, heq⟩ := hr.counts
  rw [hr.text_eq_iff, hr.visibility_eq_iff, hn, hn']
  exact ⟨fun ⟨hlost, _, hmark⟩ => ⟨hlost, hmark⟩, fun ⟨hlost, hmark⟩ =>
    ⟨hlost, by rw [heq hlost], hmark⟩⟩

namespace Constructor

variable {h : Hierarchy} {m : Member} {text declaredText : String}

/-- Through a lookup the same parameters are written just if the same signature is read. -/
theorem parametersText_eq_iff
    (hnames : ∀ s, (raw m).signature? = some s → ∀ p ∈ s.parameters, p.name ≠ "")
    (ht : (looked m).parametersText h = .ok text)
    (ht' : (raw m).parametersText h = .ok declaredText) :
    text = declaredText ↔ ¬m.LosesReceiver := by
  constructor
  · rintro rfl ⟨f, marker, s, rfl, hs, hrest⟩
    have hraw : (raw (.classwise f marker)).signature? = some s := hs
    have hlooked : (looked (.classwise f marker)).signature? = s.bound? := by
      show f.readable.bind (·.bound?) = s.bound?
      rw [hs]
      rfl
    unfold parametersText at ht ht'
    rw [hlooked] at ht
    rw [hraw] at ht'
    cases hb : s.bound? with
    | none =>
      rw [hb] at ht
      exact Signature.text_ne_unreadable hb ht' (Except.ok.inj ht).symm
    | some s' =>
      rw [hb] at ht
      have hne : s' ≠ s := by
        rintro rfl
        exact hrest (Signature.bound?_eq_self_iff.1 hb)
      obtain ⟨written, hwritten, hdiffers⟩ :=
        Signature.text_ne_of_bound hb hne (hnames s hraw) ht'
      exact hdiffers (Except.ok.inj (hwritten.symm.trans ht))
  · intro hkeeps
    unfold parametersText at ht ht'
    rw [Member.signature?_looked_eq_iff.2 hkeeps] at ht
    exact Except.ok.inj (ht.symm.trans ht')

theorem count_looked_le : (looked m).count ≤ (raw m).count := by
  cases m with
  | classwise f marker =>
    unfold count
    show (f.readable.bind (·.bound?)).elim 0 Signature.arity ≤ f.readable.elim 0 Signature.arity
    cases hs : f.readable with
    | none => exact le_rfl
    | some s =>
      show (s.bound?).elim 0 Signature.arity ≤ s.arity
      cases hb : s.bound? with
      | none => exact Nat.zero_le _
      | some s' => exact Signature.arity_le_of_bound hb
  | _ => exact le_rfl

theorem isPrivate_of_looked (hm : (looked m).isMarked = true) : (raw m).isMarked = true := by
  cases m with
  | static f marker | classwise f marker =>
    exact Bool.or_eq_true_iff.2 (.inl hm)
  | _ => exact hm

end Constructor

namespace Reflection

section Inherited

variable {sub base : ClassId} {name own ownBase : String} {m : Member} {w : World}

/-- **An inherited constructor is described like the one that is declared**, behind the names,
unless it is a function that works on the class and loses its receiver, or a function in a wrapper
that alone is marked as private. -/
theorem constructors_inherited (hsub : w.classes.ShowsConstructors sub)
    (hbase : w.classes.namespaceOf base = .ok (.own (w.classes.info base).members))
    (hi : w.classes.Inherits sub base name m)
    (hown : w.classes.nameText sub = .ok own) (hownBase : w.classes.nameText base = .ok ownBase)
    (hwrites : w.classes.WritesConstructors sub) (hwritesBase : w.classes.WritesConstructors base)
    (hnames : ∀ s, (Constructor.raw m).signature? = some s → ∀ p ∈ s.parameters, p.name ≠ "") :
    ∃ list listBase entry entryBase text textBase,
      constructors (.ofClass sub) w = (.ok list, w) ∧
      constructors (.ofClass base) w = (.ok listBase, w) ∧
      ConstructorDescriptor.entry? own name list = some entry ∧
      ConstructorDescriptor.entry? ownBase name listBase = some entryBase ∧
      entry.signature = own ++ "." ++ name ++ text ∧
      entryBase.signature = ownBase ++ "." ++ name ++ textBase ∧
      Retold m text textBase entry entryBase ∧
      ((text = textBase ∧ entry.parameterCount = entryBase.parameterCount ∧
        entry.visibility = entryBase.visibility) ↔
          ¬m.LosesReceiver ∧ m.isMarkedOutside = false) := by
  obtain ⟨reported, hr, hrnames, hlookup⟩ := Hierarchy.lookup_reported_of_inherits hsub hi
  obtain ⟨-, hmember⟩ := w.classes.own?_of_firstIn? hi.found
  obtain ⟨reportedBase, hrBase, hrnamesBase, hlookupBase⟩ :=
    Hierarchy.lookup_reported_of_own hbase hi.isConstructor hmember
  obtain ⟨list, hlist⟩ := Hierarchy.exists_listing_ok_iff.2
    ⟨⟨own, hown⟩, reported, hr, hwrites reported hr⟩
  obtain ⟨listBase, hlistBase⟩ := Hierarchy.exists_listing_ok_iff.2
    ⟨⟨ownBase, hownBase⟩, reportedBase, hrBase, hwritesBase reportedBase hrBase⟩
  have hl := hlist
  have hlBase := hlistBase
  rw [Hierarchy.listing, hr, ok_bind] at hl
  rw [Hierarchy.listing, hrBase, ok_bind] at hlBase
  obtain ⟨text, htext, hentry⟩ :=
    Hierarchy.entry?_of_listed hown hi.isConstructor hrnames hlookup hl
  obtain ⟨textBase, htextBase, hentryBase⟩ :=
    Hierarchy.entry?_of_listed hownBase hi.isConstructor hrnamesBase hlookupBase hlBase
  have hretold : Retold m text textBase
      ⟨own ++ "." ++ name ++ text, .int (Constructor.looked m).count,
        (Constructor.looked m).visibility⟩
      ⟨ownBase ++ "." ++ name ++ textBase, .int (Constructor.raw m).count,
        (Constructor.raw m).visibility⟩ := {
    text_eq_iff := Constructor.parametersText_eq_iff hnames htext htextBase
    counts := ⟨_, _, rfl, rfl, Constructor.count_looked_le, fun hkeeps => by
      rw [Constructor.count, Constructor.count, Member.signature?_looked_eq_iff.2 hkeeps]⟩
    visibility_eq_iff := Member.visibility_looked_eq_iff
    isPrivate := by
      rw [Constructor.isPrivate_mk, Constructor.isPrivate_mk]
      exact Constructor.isPrivate_of_looked }
  refine ⟨list, listBase, _, _, text, textBase, ?_, ?_, hentry, hentryBase, rfl, rfl, hretold,
    hretold.agree_iff⟩
  · rw [constructors_run, hlist, Act.ofExcept_ok_run]
  · rw [constructors_run, hlistBase, Act.ofExcept_ok_run]

end Inherited

/-! ## Entries that differ -/

namespace Classwise

/-- An initialising function that works on the class and takes one argument. -/
def draft : FunctionDraft where
  form := .classwise
  outer := {
    parameters := [.bare .plain "cls", .bare .plain "x"]
    result := none
    marker := none
    signatureValue := none }
  inner := []
  marksWrapper := false
  body := []

/-- A class with this function. -/
def declaring : Declaration :=
  { Declaration.bare "B" with initialiser := some (.function draft) }

/-- A class that inherits from it and has nothing of its own. -/
def inheriting : Declaration :=
  { Declaration.bare "S" with bases := [.ofClass (.declared 0)] }

/-- The world in which both classes are declared. -/
def world : World :=
  ((do discard (declaring.declare .standard); inheriting.declare .standard)
    (.initial .initial)).2

def base : ClassId := .declared 0

def sub : ClassId := .declared 1

/-- The entry of the function. -/
def member : Member := .classwise (draft.function base "B" "__init__") none

theorem showsConstructors : world.classes.ShowsConstructors sub :=
  Hierarchy.KeepsLibrary.showsConstructors ⟨fun _ => rfl, fun _ => rfl, fun _ => rfl⟩
    (l := .type) List.mem_cons_self rfl
    (List.mem_cons_of_mem _ (List.mem_cons_of_mem _ List.mem_cons_self))

theorem inherits : world.classes.Inherits sub base "__init__" member :=
  ⟨by decide, by decide, rfl, rfl⟩

theorem writesConstructors {c : ClassId} {k : Constructor}
    (hr : world.classes.reportedConstructors c = .ok [("__init__", k)])
    (hk : ∀ s, k.signature? = some s → s.annotations = []) :
    world.classes.WritesConstructors c := by
  intro reported hreported k' hk' s hs a ha
  obtain rfl := Except.ok.inj (hr.symm.trans hreported)
  obtain rfl := List.mem_singleton.1 hk'
  rw [hk s hs] at ha
  cases ha

theorem named (s : Signature) (hs : (Constructor.raw member).signature? = some s) :
    ∀ p ∈ s.parameters, p.name ≠ "" := by
  cases hs
  decide

theorem losesReceiver : member.LosesReceiver := by
  refine ⟨_, _, _, rfl, rfl, ?_⟩
  rintro ⟨p, rest, hp, hk⟩
  cases hp
  cases hk

end Classwise

open Classwise in
/-- A constructor that works on the class and takes one argument is described differently where it
is inherited, but it is private in neither list. -/
theorem constructors_inherited_classwise :
    world.classes.Inherits sub base "__init__" member ∧
      ∃ list listBase entry entryBase text textBase,
        constructors (.ofClass sub) world = (.ok list, world) ∧
        constructors (.ofClass base) world = (.ok listBase, world) ∧
        ConstructorDescriptor.entry? "spec.S" "__init__" list = some entry ∧
        ConstructorDescriptor.entry? "spec.B" "__init__" listBase = some entryBase ∧
        entry.signature = "spec.S" ++ "." ++ "__init__" ++ text ∧
        entryBase.signature = "spec.B" ++ "." ++ "__init__" ++ textBase ∧
        text ≠ textBase ∧ entry.visibility = entryBase.visibility := by
  have hown : world.classes.nameText sub = .ok "spec.S" := rfl
  obtain ⟨list, listBase, entry, entryBase, text, textBase, hlist, hlistBase, hentry, hentryBase,
    hsignature, hsignatureBase, hretold, -⟩ :=
    constructors_inherited showsConstructors rfl inherits hown rfl
      (writesConstructors (k := .looked member) rfl fun s hs => by cases hs; rfl)
      (writesConstructors (k := .raw member) rfl fun s hs => by cases hs; rfl) named
  exact ⟨inherits, list, listBase, entry, entryBase, text, textBase, hlist, hlistBase, hentry,
    hentryBase, hsignature, hsignatureBase, fun htext => hretold.text_eq_iff.1 htext losesReceiver,
    hretold.visibility_eq_iff.2 rfl⟩

open Classwise in
/-- The two lists, which differ in the parameters and in their count. -/
theorem constructors_inherited_differ :
    constructors (.ofClass base) world =
        (.ok [⟨"spec.B.__init__(cls, x)", .int 1, .nonPrivate⟩], world) ∧
      constructors (.ofClass sub) world =
        (.ok [⟨"spec.S.__init__(x)", .int 0, .nonPrivate⟩], world) :=
  ⟨rfl, rfl⟩

end Reflection

end UtilityClass
