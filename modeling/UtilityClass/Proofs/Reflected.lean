import UtilityClass.Introspector.Reflection
import UtilityClass.Proofs.Acting

/-!
# What reflection reads

Reflection describes a class, and lists its constructors, by reading attributes. Neither changes
anything, so both are results of the classes as they are. Every attribute may turn out to be
unreadable, and then the exception that says so is what comes out.

Here both results are taken apart: a description succeeds just if the name, the kind and both
modifiers of the class can be read, and a listing just if each reported constructor can be
described. A constructor whose signature cannot be read is described without one. Where there is a
signature it has to be written, which takes a text for each of its annotations.

## Main definitions

* `Hierarchy.description`, `Hierarchy.listing` : what reflection says of a class
* `Signature.annotations` : what a signature says of its parameters and its result
* `Constructor.IsWritable`, `Constructor.Conforms`

## Main results

* `Signature.exists_text_iff` : when a signature can be written
* `Hierarchy.description_eq_ok_iff`, `Hierarchy.exists_listing_ok_iff` : when a class is described,
  and when its constructors are listed
-/

namespace UtilityClass

open Result

/-! ## Written signatures -/

namespace Signature

variable {ε : Type} {annotationText : Annotation → Except ε String}

/-- What a signature says of its parameters and its result. -/
def annotations (s : Signature) : List Annotation :=
  s.parameters.filterMap Parameter.annotation ++ s.result.toList

theorem exists_parameterText_iff {p : Parameter} :
    (∃ t, parameterText annotationText p = .ok t) ↔
      ∀ a ∈ p.annotation.toList, ∃ t, annotationText a = .ok t := by
  unfold parameterText
  cases p.annotation with
  | none => simp
  | some a => simp [exists_bind_iff, exists_map_iff]

/-- The marks between parameters do not matter. -/
theorem exists_partsText_iff {closing opening : Bool} {parameters : List Parameter} :
    (∃ parts, partsText annotationText closing opening parameters = .ok parts) ↔
      ∀ p ∈ parameters, ∃ t, parameterText annotationText p = .ok t := by
  induction parameters generalizing closing opening with
  | nil => simp [partsText]
  | cons p rest ih =>
    rw [partsText, exists_bind_iff, List.forall_mem_cons, ← exists_and_right]
    refine exists_congr fun t => and_congr_right fun _ => ?_
    cases p.kind <;> simp only [exists_bind_iff] <;> simp [ih, pure, Except.pure]

/-- A signature can be written just if each of its annotations has a text. -/
theorem exists_text_iff {s : Signature} :
    (∃ t, s.text annotationText = .ok t) ↔ ∀ a ∈ s.annotations, ∃ t, annotationText a = .ok t := by
  have hparts : (∃ parts, partsText annotationText false true s.parameters = .ok parts) ↔
      ∀ a ∈ s.parameters.filterMap Parameter.annotation, ∃ t, annotationText a = .ok t := by
    rw [exists_partsText_iff]
    simp only [exists_parameterText_iff, List.mem_filterMap, Option.mem_toList]
    exact ⟨fun h a ⟨p, hp, ha⟩ => h p hp a ha, fun h p hp a ha => h a ⟨p, hp, ha⟩⟩
  rw [text, exists_bind_iff, annotations, List.forall_mem_append, ← hparts, ← exists_and_right]
  refine exists_congr fun parts => and_congr_right fun _ => ?_
  cases s.result with
  | none => simp [pure, Except.pure]
  | some a => simp [exists_bind_iff, pure, Except.pure]

end Signature

/-! ## Constructors -/

namespace Constructor

/-- A constructor can be written: its signature cannot be read, or has a text. -/
def IsWritable (h : Hierarchy) (k : Constructor) : Prop :=
  ∀ s, k.signature? = some s → ∀ a ∈ s.annotations, ∃ t, h.annotationText a = .ok t

/-- A constructor conforms: it is marked as private and takes no arguments beyond its receiver. -/
def Conforms (k : Constructor) : Prop :=
  k.isMarked = true ∧ ∀ s, k.signature? = some s → s.arity = 0

end Constructor

namespace Hierarchy

variable {h : Hierarchy} {c : ClassId}

/-- What reflection says of a class. -/
def description (h : Hierarchy) (c : ClassId) : Except Fault TypeDescriptor := do
  return {
    name := ← h.nameOf c
    classification := ← h.classify c
    isAbstract := ← h.isAbstract c
    isFinal := ← h.isFinal c }

/-- A class is marked as final, or cannot be a base: its own namespace can be read, and it holds
the value true under the name of the mark, or else the flag of classes that may be bases is off. -/
def IsMarkedOrSealed (h : Hierarchy) (c : ClassId) : Prop :=
  ∃ space entry, h.namespaceOf c = .ok space ∧ space.get? "__final__" = .ok entry ∧
    ((∃ value, entry = some (.data value) ∧ value.isTrue = true) ∨
      h.hasFlag c subclassableFlag (h.info c).subclassable = .ok false)

theorem classify_eq_ordinary_iff :
    h.classify c = .ok .ordinary ↔
      h.readTruth c "_is_protocol" = .ok false ∧ h.isEnumeration c = false := by
  rw [classify, bind_eq_ok_iff]
  constructor
  · rintro ⟨isProtocol, hp, hk⟩
    cases isProtocol with
    | true => cases hk
    | false =>
      cases he : h.isEnumeration c with
      | true => rw [he] at hk; cases hk
      | false => exact ⟨hp, rfl⟩
  · rintro ⟨hp, he⟩
    exact ⟨false, hp, by rw [he]; rfl⟩

theorem isAbstract_eq_false_iff :
    h.isAbstract c = .ok false ↔ h.hasAbstractMethods c = .ok false ∧
      h.readContains c "__bases__" (h.info c).bases (.library .abc) = .ok false := by
  rw [isAbstract, bind_eq_ok_iff]
  constructor
  · rintro ⟨hasMethods, hm, hk⟩
    cases hasMethods with
    | true => cases hk
    | false => exact ⟨hm, hk⟩
  · rintro ⟨hm, hb⟩
    exact ⟨false, hm, hb⟩

theorem isFinal_eq_true_iff : h.isFinal c = .ok true ↔ h.IsMarkedOrSealed c := by
  simp only [isFinal, IsMarkedOrSealed, bind_eq_ok_iff]
  refine exists_congr fun space => ?_
  rw [exists_and_left]
  refine and_congr_right fun _ => exists_congr fun entry => and_congr_right fun _ => ?_
  have hsealed : (do return !(← h.hasFlag c subclassableFlag (h.info c).subclassable)) =
      (.ok true : Except Fault Bool) ↔
        h.hasFlag c subclassableFlag (h.info c).subclassable = .ok false := by
    rw [bind_eq_ok_iff]
    simp [pure, Except.pure]
  split
  · next value _ =>
    by_cases hv : value.isTrue = true
    · rw [if_pos hv]
      exact ⟨fun _ => .inl ⟨value, rfl, hv⟩, fun _ => rfl⟩
    · rw [if_neg hv, hsealed]
      simp [hv]
  · next hother =>
    rw [if_neg Bool.false_ne_true, hsealed]
    exact ⟨.inr, fun hm => hm.resolve_left fun ⟨value, he, _⟩ => hother value he⟩

/-- The signatures of the reported constructors can be written. -/
def WritesConstructors (h : Hierarchy) (c : ClassId) : Prop :=
  ∀ reported, h.reportedConstructors c = .ok reported → ∀ k ∈ reported, k.2.IsWritable h

/-- The constructors that reflection lists for a class. -/
def listing (h : Hierarchy) (c : ClassId) : Except Fault (List ConstructorDescriptor) := do
  (← h.reportedConstructors c).mapM fun (name, constructor) =>
    h.describeConstructor c name constructor

theorem description_eq_ok_iff {d : TypeDescriptor} :
    h.description c = .ok d ↔ h.nameOf c = .ok d.name ∧ h.classify c = .ok d.classification ∧
      h.isAbstract c = .ok d.isAbstract ∧ h.isFinal c = .ok d.isFinal := by
  simp only [description, bind_eq_ok_iff]
  constructor
  · rintro ⟨name, hname, classification, hkind, isAbstract, habstract, isFinal, hfinal, hd⟩
    cases hd
    exact ⟨hname, hkind, habstract, hfinal⟩
  · rintro ⟨hname, hkind, habstract, hfinal⟩
    exact ⟨d.name, hname, d.classification, hkind, d.isAbstract, habstract, d.isFinal, hfinal, rfl⟩

theorem nameText_eq_ok_iff {name : String} :
    h.nameText c = .ok name ↔ ∃ q, h.nameOf c = .ok q ∧ q.text = .ok name := by
  simp only [nameText, bind_eq_ok_iff, mapError_eq_ok_iff]

/-- A class is described just if its name, its kind and both modifiers can be read. -/
theorem exists_description_iff :
    (∃ d, h.description c = .ok d) ↔ (∃ name, h.nameOf c = .ok name) ∧
      (∃ kind, h.classify c = .ok kind) ∧ (∃ isAbstract, h.isAbstract c = .ok isAbstract) ∧
      ∃ isFinal, h.isFinal c = .ok isFinal := by
  simp only [description_eq_ok_iff]
  constructor
  · rintro ⟨d, hname, hkind, habstract, hfinal⟩
    exact ⟨⟨_, hname⟩, ⟨_, hkind⟩, ⟨_, habstract⟩, ⟨_, hfinal⟩⟩
  · rintro ⟨⟨name, hname⟩, ⟨kind, hkind⟩, ⟨isAbstract, habstract⟩, isFinal, hfinal⟩
    exact ⟨⟨name, kind, isAbstract, isFinal⟩, hname, hkind, habstract, hfinal⟩

/-- A class is described by the name that it gives itself. -/
theorem text_name_of_description {d : TypeDescriptor} (hd : h.description c = .ok d)
    {own : String} : d.name.text = .ok own ↔ h.nameText c = .ok own := by
  simp [nameText_eq_ok_iff, (description_eq_ok_iff.1 hd).1]

theorem describeConstructor_of_error {f : Fault} (hc : h.nameText c = .error f) (name : String)
    (k : Constructor) : h.describeConstructor c name k = .error f := by
  unfold describeConstructor
  rw [hc]
  rfl

section Describe

variable {own : String} (hc : h.nameText c = .ok own) (name : String) {k : Constructor}
include hc

theorem describeConstructor_of_unreadable (hs : k.signature? = none) :
    h.describeConstructor c name k =
      .ok ⟨own ++ "." ++ name ++ "(...)", .int 0, k.visibility⟩ := by
  rw [describeConstructor, hc, hs]
  rfl

theorem describeConstructor_of_readable {s : Signature} (hs : k.signature? = some s) :
    h.describeConstructor c name k = (s.text h.annotationText).map fun text =>
      ⟨own ++ "." ++ name ++ text, .int s.arity, k.visibility⟩ := by
  rw [describeConstructor, hc, hs]
  rfl

/-- A constructor of a class with a name is described just if it can be written. Whether it is then
taken for a private one without arguments is a matter of its marker and its signature. -/
theorem exists_describeConstructor_iff {P : Bool → Bool → Prop} :
    (∃ d, h.describeConstructor c name k = .ok d ∧ P d.isPrivate d.takesArguments) ↔
      k.IsWritable h ∧ P k.isMarked (k.signature?.any fun s => decide (0 < s.arity)) := by
  have hprivate (signature : String) (count : Json) :
      ConstructorDescriptor.isPrivate ⟨signature, count, k.visibility⟩ = k.isMarked := by
    unfold ConstructorDescriptor.isPrivate Constructor.visibility
    cases k.isMarked <;> rfl
  have hcount (signature : String) (n : Nat) :
      ConstructorDescriptor.takesArguments ⟨signature, .int n, k.visibility⟩ = decide (0 < n) := by
    cases n <;> rfl
  unfold Constructor.IsWritable
  cases hs : k.signature? with
  | none =>
    have hzero := hcount (own ++ "." ++ name ++ "(...)") 0
    rw [describeConstructor_of_unreadable hc name hs]
    simp_all
  | some s =>
    rw [describeConstructor_of_readable hc name hs]
    have hsome : (∀ s', some s = some s' → ∀ a ∈ s'.annotations, ∃ t, h.annotationText a = .ok t) ↔
        ∃ t, s.text h.annotationText = .ok t := by
      rw [Signature.exists_text_iff]
      exact ⟨fun hall => hall s rfl, fun hall s' hs' => by cases hs'; exact hall⟩
    rw [hsome]
    cases s.text h.annotationText with
    | error f => simp [Except.map]
    | ok text => simp [Except.map, hprivate, hcount]

/-- The constructors of a class with a name are listed just if each one that is reported can be
written. What they are taken for is a matter of each constructor. -/
theorem exists_listing_iff {P : Bool → Bool → Prop} :
    (∃ list, h.listing c = .ok list ∧ ∀ d ∈ list, P d.isPrivate d.takesArguments) ↔
      ∃ reported, h.reportedConstructors c = .ok reported ∧ ∀ k ∈ reported,
        k.2.IsWritable h ∧ P k.2.isMarked (k.2.signature?.any fun s => decide (0 < s.arity)) := by
  rw [listing]
  cases h.reportedConstructors c with
  | error f => exact ⟨fun ⟨_, hl, _⟩ => (nomatch hl), fun ⟨_, hr, _⟩ => (nomatch hr)⟩
  | ok reported =>
    simp only [ok_bind, exists_mapM_iff, exists_describeConstructor_iff hc, Except.ok.injEq,
      exists_eq_left']

end Describe

/-- Some constructor is reported of every class. -/
theorem ne_nil_of_reportedConstructors {reported : List (String × Constructor)}
    (hr : h.reportedConstructors c = .ok reported) : reported ≠ [] := by
  obtain ⟨declared, -, hr⟩ := bind_eq_ok_iff.1 hr
  cases declared with
  | cons k rest =>
    cases hr
    exact List.cons_ne_nil k rest
  | nil =>
    obtain ⟨effective, -, hr⟩ := bind_eq_ok_iff.1 hr
    cases effective with
    | nil =>
      cases hr
      exact List.cons_ne_nil _ _
    | cons k rest =>
      cases hr
      exact List.cons_ne_nil _ _

/-- The constructors of a class are listed just if the class has a name and each reported
constructor can be written. -/
theorem exists_listing_ok_iff :
    (∃ list, h.listing c = .ok list) ↔ (∃ own, h.nameText c = .ok own) ∧
      ∃ reported, h.reportedConstructors c = .ok reported ∧ ∀ k ∈ reported, k.2.IsWritable h := by
  cases hc : h.nameText c with
  | ok own => simpa using exists_listing_iff hc (P := fun _ _ => True)
  | error f =>
    -- already the first one of the reported constructors cannot be described
    have hnone : ¬∃ list, h.listing c = .ok list := by
      rintro ⟨list, hl⟩
      obtain ⟨reported, hr, hl⟩ := bind_eq_ok_iff.1 hl
      obtain ⟨k, rest, rfl⟩ := List.exists_cons_of_ne_nil (ne_nil_of_reportedConstructors hr)
      obtain ⟨d, hd⟩ := exists_mapM_ok_iff.1 ⟨list, hl⟩ k List.mem_cons_self
      exact nomatch (describeConstructor_of_error hc k.1 k.2).symm.trans hd
    simpa using fun list hl => hnone ⟨list, hl⟩

end Hierarchy

namespace Reflection

variable (c : ClassId) (w : World)

theorem describe_run : describe (.ofClass c) w = Act.ofExcept (w.classes.description c) w := rfl

theorem constructors_run : constructors (.ofClass c) w = Act.ofExcept (w.classes.listing c) w := rfl

end Reflection

end UtilityClass
