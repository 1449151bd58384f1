import UtilityClass.Introspector.Reflection
import UtilityClass.Proofs.Acting

/-!
# What constructing a class shows

A class that needs arguments is not constructed at all. Any other one is, and an exception that
leaves the construction, as whoever catches it finds it, becomes an outcome if it is an ordinary
one. It first gives its message; then its traces tell whether it has left the body of a function,
and where it has not, native code may have refused to do without arguments. All of this may fail,
and then the exception that says so takes the place of an outcome. A signal that is no ordinary
exception goes on as it is.

## Main definitions

* `Reflection.judgement` : the outcome that an exception with a message makes

## Main results

* `Reflection.outcomeOf_eq_ok_iff`, `Reflection.outcomeOf_of_signal`
* `Reflection.invoke_eq_ok_iff` : all ways in which there is an outcome
-/

namespace UtilityClass

open Result

namespace Reflection

variable {m : Machinery} {c : ClassId} {e : Raised} {o : Outcome} {w w' : World}

/-- Whether an exception says that native code does not do without arguments. -/
def refusesArguments (h : Hierarchy) (c : ClassId) (e : Raised) : Except Fault Bool :=
  if h.derives e.error.type LibraryClass.typeError then h.hasNativeConstructor c else .ok false

/-- The outcome that an ordinary exception makes of the construction of a class. -/
def judgement (h : Hierarchy) (c : ClassId) (e : Raised) (message : Option String) :
    Except Fault Outcome := do
  if ← leftBody h e then return .failedWith (.ofClass e.error.type) message
  else if ← refusesArguments h c e then return .noDefaultConstructor
  else return .accessRefused (.ofClass e.error.type) message

/-! ## Exceptions -/

/-- What follows the message in the judgement of an exception only reads. -/
theorem judge_run (message : Option String) :
    (do
      let h ← Act.classes
      let error := Subject.ofClass e.error.type
      if ← Act.ofExcept (leftBody h e) then return .failedWith error message
      else if ← pure (h.derives e.error.type LibraryClass.typeError) <&&>
          Act.ofExcept (h.hasNativeConstructor c) then
        return .noDefaultConstructor
      else return .accessRefused error message : Act Outcome) w =
    Act.ofExcept (judgement w.classes c e message) w := by
  rw [Act.bind_run_of_ok (Act.classes_run w), judgement]
  cases leftBody w.classes e with
  | error f => rfl
  | ok left =>
    cases left with
    | true => rfl
    | false =>
      rw [refusesArguments]
      cases w.classes.derives e.error.type LibraryClass.typeError with
      | false => rfl
      | true =>
        cases w.classes.hasNativeConstructor c with
        | error f => rfl
        | ok isNative => cases isNative <;> rfl

theorem outcomeOf_of_signal (he : w.classes.isException e.error.type = false) :
    outcomeOf m c e w = (.error e, w) := by
  rw [outcomeOf, Act.bind_run_of_ok (Act.classes_run w), he]
  rfl

theorem outcomeOf_of_exception (he : w.classes.isException e.error.type = true) :
    outcomeOf m c e w = (do
      let message ← messageOf m e
      Act.ofExcept (judgement (← Act.classes) c e message) : Act Outcome) w := by
  rw [outcomeOf, Act.bind_run_of_ok (Act.classes_run w), he]
  show (messageOf m e >>= _) w = _
  rcases hm : messageOf m e w with ⟨e' | message, w'⟩
  · rw [Act.bind_run_of_error hm, Act.bind_run_of_error hm]
  · rw [Act.bind_run_of_ok hm, Act.bind_run_of_ok hm, Act.bind_run_of_ok (Act.classes_run w')]
    exact judge_run message

theorem outcomeOf_eq_ok_iff :
    outcomeOf m c e w = (.ok o, w') ↔ w.classes.isException e.error.type = true ∧
      ∃ message, messageOf m e w = (.ok message, w') ∧
        judgement w'.classes c e message = .ok o := by
  cases he : w.classes.isException e.error.type with
  | false =>
    rw [outcomeOf_of_signal he]
    exact ⟨fun ho => (nomatch ho), fun ho => (nomatch ho.1)⟩
  | true =>
    rw [outcomeOf_of_exception he]
    simp only [Act.bind_eq_ok_iff, Act.ofExcept_eq_ok_iff, true_and]
    constructor
    · rintro ⟨message, w₁, hm, h, _, hh, ho, rfl⟩
      cases hh
      exact ⟨message, hm, ho⟩
    · rintro ⟨message, hm, ho⟩
      exact ⟨message, w', hm, _, w', rfl, ho, rfl⟩

/-- What comes out in the place of an ordinary exception comes from reading it. -/
theorem message_or_fault_of_outcomeOf {e' : Raised}
    (he : w.classes.isException e.error.type = true)
    (ho : outcomeOf m c e w = (.error e', w')) :
    (∃ w₁, messageOf m e w = (.error e', w₁)) ∨ ∃ f : Fault, e' = f.raised := by
  rw [outcomeOf_of_exception he] at ho
  rcases hm : messageOf m e w with ⟨e'' | message, w₁⟩
  · rw [Act.bind_run_of_error hm] at ho
    cases ho
    exact .inl ⟨_, rfl⟩
  · rw [Act.bind_run_of_ok hm, Act.bind_run_of_ok (Act.classes_run w₁)] at ho
    cases hj : judgement w₁.classes c e message with
    | ok o =>
      rw [hj] at ho
      cases ho
    | error f =>
      rw [hj] at ho
      cases ho
      exact .inr ⟨f, rfl⟩

/-- The judgements of an exception, by whether it has left the body of a function. -/
theorem judgement_eq_ok_iff {h : Hierarchy} {message : Option String} :
    judgement h c e message = .ok o ↔
      (leftBody h e = .ok true ∧ o = .failedWith (.ofClass e.error.type) message) ∨
      (leftBody h e = .ok false ∧
        ((refusesArguments h c e = .ok true ∧ o = .noDefaultConstructor) ∨
          (refusesArguments h c e = .ok false ∧
            o = .accessRefused (.ofClass e.error.type) message))) := by
  rw [judgement]
  cases leftBody h e with
  | error f => exact ⟨nofun, by rintro (⟨hl, -⟩ | ⟨hl, -⟩) <;> cases hl⟩
  | ok left =>
    cases left with
    | true => simp [pure, Except.pure, eq_comm]
    | false =>
      cases refusesArguments h c e with
      | error f => simp [bind, Except.bind]
      | ok refuses => cases refuses <;> simp [pure, Except.pure, eq_comm]

/-! ## Constructions -/

theorem invoke_of_unknown {f : Fault} (ha : w.classes.acceptsNoArguments c = .error f) :
    invoke m (.ofClass c) w = (.error f.raised, w) := by
  show (Act.ofExcept (w.classes.acceptsNoArguments c) >>= _) w = _
  rw [ha, Act.bind_run_of_error (Act.ofExcept_error_run f w)]

theorem invoke_of_refused (ha : w.classes.acceptsNoArguments c = .ok false) :
    invoke m (.ofClass c) w = (.ok .noDefaultConstructor, w) := by
  show (Act.ofExcept (w.classes.acceptsNoArguments c) >>= _) w = _
  rw [ha, Act.bind_run_of_ok (Act.ofExcept_ok_run false w)]
  rfl

theorem invoke_of_accepted (ha : w.classes.acceptsNoArguments c = .ok true) :
    invoke m (.ofClass c) w = (do
      match ← Act.catching m (m.construct c) with
      | .ok made => return .constructed made
      | .error e => outcomeOf m c e : Act Outcome) w := by
  show (Act.ofExcept (w.classes.acceptsNoArguments c) >>= _) w = _
  rw [ha, Act.bind_run_of_ok (Act.ofExcept_ok_run true w)]
  rfl

theorem invoke_eq_ok_iff :
    invoke m (.ofClass c) w = (.ok o, w') ↔
      (w.classes.acceptsNoArguments c = .ok false ∧ o = .noDefaultConstructor ∧ w' = w) ∨
      (w.classes.acceptsNoArguments c = .ok true ∧
        ((∃ made, Act.catching m (m.construct c) w = (.ok (.ok made), w') ∧
            o = .constructed made) ∨
          ∃ e w₁, Act.catching m (m.construct c) w = (.ok (.error e), w₁) ∧
            outcomeOf m c e w₁ = (.ok o, w'))) := by
  cases ha : w.classes.acceptsNoArguments c with
  | error f =>
    rw [invoke_of_unknown ha]
    simp only [reduceCtorEq, false_and, or_self, iff_false]
    exact nofun
  | ok accepts =>
    cases accepts with
    | false =>
      rw [invoke_of_refused ha]
      simp only [Except.ok.injEq, reduceCtorEq, false_and, or_false, true_and]
      exact ⟨fun ho => by cases ho; exact ⟨rfl, rfl⟩, fun ⟨ho, hw⟩ => by rw [ho, hw]⟩
    | true =>
      rw [invoke_of_accepted ha, Act.bind_eq_ok_iff]
      simp only [Except.ok.injEq, reduceCtorEq, false_and, false_or, true_and]
      constructor
      · rintro ⟨e | made, w₁, hcatch, ho⟩
        · exact .inr ⟨e, w₁, hcatch, ho⟩
        · cases ho
          exact .inl ⟨made, hcatch, rfl⟩
      · rintro (⟨made, hcatch, rfl⟩ | ⟨e, w₁, hcatch, ho⟩)
        · exact ⟨.ok made, w', hcatch, rfl⟩
        · exact ⟨.error e, w₁, hcatch, ho⟩

end Reflection

end UtilityClass
