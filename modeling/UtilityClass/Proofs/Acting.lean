import UtilityClass.Catching
import UtilityClass.Proofs.Results

/-!
# Runs of acts

An act is run in a world, and what it does is seen by running it: an act that is followed by others
is run, and if it ends with a value, the others are run in the world that it leaves behind. The
first part has one equation for each primitive act. The second part reads these equations backwards:
a sequence ends with a value just if all of its parts do.

Some acts only ask. Whether a class derives from another one is such a question: it may be put to
metaclasses, which keep their answers, but it neither looks at the journal or the readings, nor
leaves anything there, and apart from the answers the classes stay what they are. How such a
question is asked is gone through once, for every property of acts that can be shown along it.

## Main definitions

* `Act.OnlyAsks` : an act that only asks
* `Act.IsAskingHabit` : the properties that asking a class takes over from its parts

## Main results

* `Act.bind_eq_ok_iff`, `Act.bind_fst_eq_ok_iff` : when a sequence ends with a value
* `Act.isSubclass_habit`, `Act.isSubclass_onlyAsks`
-/

namespace UtilityClass

namespace Act

variable {α β : Type}

/-! ## Primitive acts -/

@[simp] theorem classes_run (w : World) : classes w = (.ok w.classes, w) := rfl

@[simp] theorem record_run (r : Record) (w : World) :
    record r w = (.ok (), { w with journal := w.journal ++ [r] }) := rfl

@[simp] theorem throw_run (e : Raised) (w : World) : (throw e : Act α) w = (.error e, w) := rfl

theorem ofExcept_run (x : Except Fault α) (w : World) :
    ofExcept x w = (x.mapError Fault.raised, w) := by
  cases x <;> rfl

@[simp] theorem ofExcept_ok_run (a : α) (w : World) : ofExcept (.ok a) w = (.ok a, w) := rfl

@[simp] theorem ofExcept_error_run (f : Fault) (w : World) :
    (ofExcept (.error f) : Act α) w = (.error f.raised, w) := rfl

/-! ## Sequences -/

section Sequence

variable {act : Act α} {f : α → Act β} {w : World}

/-- A step that ends with a value is followed by the others. -/
theorem bind_run_of_ok {a : α} {w' : World} (h : act w = (.ok a, w')) :
    (act >>= f) w = f a w' := by
  rw [bind_run, h]

/-- A step that ends with an exception ends the sequence. -/
theorem bind_run_of_error {e : Raised} {w' : World} (h : act w = (.error e, w')) :
    (act >>= f) w = (.error e, w') := by
  rw [bind_run, h]

theorem bind_eq_ok_iff {b : β} {w'' : World} :
    (act >>= f) w = (.ok b, w'') ↔ ∃ a w', act w = (.ok a, w') ∧ f a w' = (.ok b, w'') := by
  refine ⟨fun hb => ?_, fun ⟨a, w', ha, hf⟩ => (bind_run_of_ok ha).trans hf⟩
  rcases h : act w with ⟨_ | a, w'⟩
  · rw [bind_run_of_error h] at hb
    cases hb
  · rw [bind_run_of_ok h] at hb
    exact ⟨a, w', rfl, hb⟩

theorem bind_fst_eq_ok_iff {b : β} :
    ((act >>= f) w).1 = .ok b ↔ ∃ a w', act w = (.ok a, w') ∧ (f a w').1 = .ok b := by
  constructor
  · intro hb
    rcases hr : (act >>= f) w with ⟨r, w''⟩
    obtain rfl : r = .ok b := by rw [← hb, hr]
    obtain ⟨a, w', ha, hf⟩ := bind_eq_ok_iff.1 hr
    exact ⟨a, w', ha, congrArg Prod.fst hf⟩
  · rintro ⟨a, w', ha, hf⟩
    rw [bind_run_of_ok ha, hf]

theorem ofExcept_eq_ok_iff {x : Except Fault α} {a : α} {w' : World} :
    ofExcept x w = (.ok a, w') ↔ x = .ok a ∧ w' = w := by
  constructor
  · intro h
    cases x with
    | error f => cases h
    | ok b => cases h; exact ⟨rfl, rfl⟩
  · rintro ⟨rfl, rfl⟩
    rfl

theorem ofExcept_fst_eq_ok_iff {x : Except Fault α} {a : α} :
    (ofExcept x w).1 = .ok a ↔ x = .ok a := by
  rw [ofExcept_run, Result.mapError_eq_ok_iff]

end Sequence

/-! ## Catching -/

theorem catching_of_ok {act : Act α} {a : α} {w w' : World} (m : Machinery)
    (h : act w = (.ok a, w')) : catching m act w = (.ok (.ok a), w') := by
  simp [catching, bind_run, h]

theorem catching_of_error {act : Act α} {e : Raised} {w w' : World} (m : Machinery)
    (h : act w = (.error e, w')) :
    catching m act w = (do return .error (← e.settle m) : Act (Except Raised α)) w' := by
  rw [catching, bind_run_of_ok (attempt_run _ _), h]

/-- Whoever catches an exception finds one. -/
theorem exists_settle (m : Machinery) (e : Raised) (w : World) :
    ∃ e' w', e.settle m w = (.ok e', w') := by
  suffices h : ∀ fuel (e : Raised) w, ∃ e' w', e.settleWithin m fuel w = (.ok e', w') from h 32 e w
  intro fuel
  induction fuel with
  | zero => exact fun e w => ⟨e, w, rfl⟩
  | succ fuel ih =>
    intro e w
    rw [Raised.settleWithin, bind_run_of_ok (attempt_run _ _)]
    rcases isSubclass e.error.type e.raisedAs w with ⟨_ | derives, w₁⟩
    · exact ih _ _
    · cases derives with
      | true => exact ⟨_, _, rfl⟩
      | false =>
        simp only [bind_run_of_ok (attempt_run _ _)]
        rcases m.remake e.raisedAs e.error w₁ with ⟨_ | made, w₂⟩
        · exact ih _ _
        · exact ⟨_, _, rfl⟩

/-! ## Questions -/

end Act

/-- The hierarchy without the answers that its classes keep. -/
def Hierarchy.withoutAnswers (h : Hierarchy) : Hierarchy :=
  { h with info := fun c => { h.info c with answers := .empty } }

namespace Hierarchy

/-- Where an answer is kept, nothing else changes. -/
theorem withoutAnswers_of_keepAnswer {h h' : Hierarchy} {keeper c : ClassId} {answer : Bool}
    (hk : h.keepAnswer keeper c answer = .ok h') : h'.withoutAnswers = h.withoutAnswers := by
  unfold keepAnswer at hk
  cases hc : h.checkHashable c with
  | error f =>
    rw [hc] at hk
    cases hk
  | ok _ =>
    rw [hc] at hk
    cases hk
    have hinfo (d : ClassId) : { (h.modify keeper fun i =>
          { i with answers :=
              if answer then { i.answers with accepted := c :: i.answers.accepted }
              else { i.answers with refused := c :: i.answers.refused } }).info d with
          answers := SubclassAnswers.empty } = { h.info d with answers := .empty } := by
      by_cases hd : d = keeper
      · rw [hd, modify_info_self]
      · rw [modify_info_of_ne _ hd]
    simp only [withoutAnswers, hinfo]
    rfl

end Hierarchy

namespace Act

variable {α β : Type}

/-- An act only asks: what it does is the same in every world with these classes, and all that it
leaves behind are answers that classes keep. -/
structure OnlyAsks (act : Act α) : Prop where
  run : ∀ w, act w = ((act (.initial w.classes)).1,
    { w with classes := (act (.initial w.classes)).2.classes })
  keeps : ∀ h, (act (.initial h)).2.classes.withoutAnswers = h.withoutAnswers

namespace OnlyAsks

theorem pure (a : α) : OnlyAsks (pure a : Act α) := ⟨fun _ => rfl, fun _ => rfl⟩

theorem ofExcept (x : Except Fault α) : OnlyAsks (ofExcept x) := by
  constructor <;> intro <;> simp only [ofExcept_run] <;> rfl

theorem classes : OnlyAsks Act.classes := ⟨fun _ => rfl, fun _ => rfl⟩

theorem setClasses_of_keepAnswer (keeper c : ClassId) (answer : Bool) :
    OnlyAsks (do setClasses (← Act.ofExcept ((← Act.classes).keepAnswer keeper c answer))) := by
  constructor
  · intro w
    simp only [bind_run, classes_run, ofExcept_run, World.initial]
    cases w.classes.keepAnswer keeper c answer with
    | error f => rfl
    | ok h => rfl
  · intro h
    simp only [bind_run, classes_run, ofExcept_run, World.initial]
    cases hk : h.keepAnswer keeper c answer with
    | error f => rfl
    | ok h' => exact Hierarchy.withoutAnswers_of_keepAnswer hk

theorem bind {act : Act α} {f : α → Act β} (hact : OnlyAsks act) (hf : ∀ a, OnlyAsks (f a)) :
    OnlyAsks (act >>= f) := by
  constructor
  · intro w
    have h := hact.run w
    rcases hi : act (.initial w.classes) with ⟨_ | a, w'⟩
    · rw [hi] at h
      rw [bind_run_of_error h, bind_run_of_error hi]
    · rw [hi] at h
      rw [bind_run_of_ok h, bind_run_of_ok hi, (hf a).run, (hf a).run w']
  · intro h
    have hk := hact.keeps h
    rcases hi : act (.initial h) with ⟨_ | a, w'⟩
    · rw [hi] at hk
      rw [bind_run_of_error hi, hk]
    · rw [hi] at hk
      rw [bind_run_of_ok hi, (hf a).run, (hf a).keeps, hk]

theorem inFrame {act : Act α} (hact : OnlyAsks act) : OnlyAsks (inFrame act) := by
  constructor
  · intro w
    have h := hact.run w
    rcases hi : act (.initial w.classes) with ⟨_ | a, w'⟩
    · rw [hi] at h
      simp [Act.inFrame, h, hi]
    · rw [hi] at h
      simp [Act.inFrame, h, hi]
  · intro h
    have hk := hact.keeps h
    rcases hi : act (.initial h) with ⟨_ | a, w'⟩
    · rw [hi] at hk
      simp [Act.inFrame, hk, hi]
    · rw [hi] at hk
      simp [Act.inFrame, hk, hi]

end OnlyAsks

/-! ## Asking classes -/

/-- A property that the acts have of which asking a class consists, and that sequences and bodies of
functions keep. -/
structure IsAskingHabit (P : ∀ {α : Type}, Act α → Prop) : Prop where
  ofExcept {α : Type} (x : Except Fault α) : P (ofExcept x)
  classes : P classes
  keepAnswer (keeper c : ClassId) (answer : Bool) :
    P (do setClasses (← Act.ofExcept ((← Act.classes).keepAnswer keeper c answer)))
  bind {α β : Type} {act : Act α} {f : α → Act β} : P act → (∀ a, P (f a)) → P (act >>= f)
  inFrame {α : Type} {act : Act α} : P act → P (inFrame act)

section Asking

variable {P : ∀ {α : Type}, Act α → Prop} (hP : IsAskingHabit P)
include hP

theorem IsAskingHabit.pure (a : α) : P (pure a : Act α) := hP.ofExcept (.ok a)

theorem anyM_habit {p : β → Act Bool} (hp : ∀ b, P (p b)) (list : List β) : P (list.anyM p) := by
  induction list with
  | nil => exact hP.pure false
  | cons b list ih =>
    refine hP.bind (hp b) fun found => ?_
    cases found
    · exact ih
    · exact hP.pure true

theorem askSubclassHook_habit (onBehalf : Bool) (c : ClassId) : P (askSubclassHook onBehalf c) := by
  refine hP.bind hP.classes fun h => hP.bind (hP.ofExcept _) fun a => ?_
  split
  · exact hP.inFrame (hP.ofExcept _)
  · exact hP.pure ()
  · exact hP.bind (hP.ofExcept _) fun _ => hP.ofExcept (.error _)

theorem isSubclassWithin_habit (fuel : Nat) (onBehalf : Bool) (c ancestor : ClassId) :
    P (isSubclassWithin fuel onBehalf c ancestor) := by
  induction fuel generalizing onBehalf c ancestor with
  | zero => exact hP.pure false
  | succ fuel ih =>
    refine hP.bind hP.classes fun h => ?_
    split
    · exact hP.bind (hP.ofExcept _) fun _ => hP.pure false
    · refine hP.inFrame (hP.bind (hP.ofExcept _) fun keeper => ?_)
      refine hP.bind (hP.ofExcept _) fun kept => ?_
      cases kept with
      | some answer => exact hP.pure answer
      | none =>
        refine hP.bind (askSubclassHook_habit hP onBehalf ancestor) fun _ => ?_
        have keeping (answer : Bool) : P do
            setClasses (← Act.ofExcept ((← Act.classes).keepAnswer keeper c answer))
            return answer := by
          have hkept := hP.bind (hP.keepAnswer keeper c answer) fun _ => hP.pure answer
          simpa only [bind_assoc] using hkept
        split
        · exact keeping true
        · exact hP.bind (hP.ofExcept _) fun subclasses =>
            hP.bind (anyM_habit hP (ih true c) subclasses) keeping
    · exact hP.pure (h.derives c ancestor)

/-- Whether a class derives from another one is asked like this. -/
theorem isSubclass_habit (c ancestor : ClassId) : P (isSubclass c ancestor) :=
  hP.bind hP.classes fun _ => isSubclassWithin_habit hP _ _ _ _

end Asking

theorem isAskingHabit_onlyAsks : IsAskingHabit OnlyAsks where
  ofExcept := .ofExcept
  classes := .classes
  keepAnswer := .setClasses_of_keepAnswer
  bind h hf := h.bind hf
  inFrame h := h.inFrame

/-- **Whether a class derives from another one** is only asked. -/
theorem isSubclass_onlyAsks (c ancestor : ClassId) : OnlyAsks (isSubclass c ancestor) :=
  isSubclass_habit isAskingHabit_onlyAsks c ancestor

end Act

end UtilityClass
