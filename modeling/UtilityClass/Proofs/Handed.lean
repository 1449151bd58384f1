import UtilityClass.Proofs.Acting
import UtilityClass.Verification

/-!
# What the verifier is handed

A handle that is a class is taken as it is, and costs nothing. Any other handle is refused: it has
to show itself for the complaint, and what follows is not reached. So an act that begins by
requiring a class is, for a value, the refusal of that value and nothing else. If showing the value
fails, there is no complaint, and the exception of the value comes out instead.

## Main definitions

* `Handle.refuse` : a complaint that shows a value

## Main results

* `Handle.require_value_bind` : what requires a class refuses a value
* `VerificationPolicy.make_eq_ok_iff` : the handles that policies are made of
* `Checker.forClass_run` : the checker of a class
* `UseCase.examine_value` : the verification of a value
-/

namespace UtilityClass

open Act (bind_run_of_ok bind_run_of_error)

/-- Plain data shows itself in the same way everywhere. -/
theorem Value.handle_data (value : Json) :
    (Value.data value).handle = .value (Act.ofExcept value.shown) := rfl

variable {α : Type} {w w' : World} {text : String} {e : Raised}

namespace Handle

variable {s : Handle} {c : ClassId} {complaint : String → Fault} {shown : Act String}

/-- A complaint about a value, which it shows. -/
def refuse (complaint : String → Fault) (shown : Act String) : Act α := do
  Act.fail (complaint (← shown))

theorem refuse_of_ok (ht : shown w = (.ok text, w')) :
    (refuse complaint shown : Act α) w = (.error (complaint text).raised, w') :=
  bind_run_of_ok ht

theorem refuse_of_error (he : shown w = (.error e, w')) :
    (refuse complaint shown : Act α) w = (.error e, w') :=
  bind_run_of_error he

/-- A refusal never ends with a value. -/
theorem refuse_ne_ok (a : α) : (refuse complaint shown w).1 ≠ .ok a := by
  rcases hs : shown w with ⟨e | text, w'⟩
  · rw [refuse_of_error hs]
    exact nofun
  · rw [refuse_of_ok hs]
    exact nofun

theorem refuse_bind {β : Type} (f : α → Act β) :
    (refuse complaint shown >>= f) = refuse complaint shown := by
  funext w
  rcases hs : shown w with ⟨e | text, w'⟩
  · rw [refuse_of_error hs, bind_run_of_error (refuse_of_error hs)]
  · rw [refuse_of_ok hs, bind_run_of_error (refuse_of_ok hs)]

@[simp] theorem require_ofClass : (ofClass c).require complaint = pure c := rfl

@[simp] theorem require_value : (value shown).require complaint = refuse complaint shown := rfl

/-- **What requires a class** does nothing with a value but refuse it. -/
theorem require_value_bind (f : ClassId → Act α) :
    ((value shown).require complaint >>= f) = refuse complaint shown := by
  rw [require_value, refuse_bind]

end Handle

/-! ## Policies -/

namespace VerificationPolicy

variable {b : Handle} {c : ClassId} {p : VerificationPolicy}

theorem make_of_isException (hc : w.classes.isException c = true) :
    make (.ofClass c) w = (.ok ⟨c⟩, w) := by
  rw [make, bind_run_of_ok (Act.classes_run w), Handle.class?, Option.filter_some, if_pos hc]
  rfl

/-- Whatever is no ordinary exception is refused. -/
theorem make_of_unfit (hb : ∀ c, b = .ofClass c → w.classes.isException c = false) :
    make b w = (Handle.refuse Fault.notBlocking b.shown : Act VerificationPolicy) w := by
  have hnone : b.class?.filter w.classes.isException = none := by
    cases b with
    | ofClass c => rw [Handle.class?, Option.filter_some, if_neg (by simp [hb c rfl])]
    | value shown => rfl
  rw [make, bind_run_of_ok (Act.classes_run w), hnone]
  rfl

/-- **The handles that policies are made of** are the classes of ordinary exceptions. -/
theorem make_eq_ok_iff : make b w = (.ok p, w') ↔
    (b = .ofClass p.blocking ∧ w.classes.isException p.blocking = true) ∧ w' = w := by
  constructor
  · intro hmake
    by_cases hb : ∀ c, b = .ofClass c → w.classes.isException c = false
    · rw [make_of_unfit hb] at hmake
      exact absurd (congrArg Prod.fst hmake) (Handle.refuse_ne_ok p)
    · push Not at hb
      obtain ⟨c, rfl, hc⟩ := hb
      rw [make_of_isException (by simpa using hc)] at hmake
      cases hmake
      exact ⟨⟨rfl, by simpa using hc⟩, rfl⟩
  · rintro ⟨⟨rfl, hp⟩, rfl⟩
    exact make_of_isException hp

theorem make_fst_eq_ok_iff : (make b w).1 = .ok p ↔
    b = .ofClass p.blocking ∧ w.classes.isException p.blocking = true := by
  refine ⟨fun hmake => (make_eq_ok_iff.1 (Prod.ext hmake rfl)).1, fun hb => ?_⟩
  rw [make_eq_ok_iff.2 ⟨hb, rfl⟩]

end VerificationPolicy

/-! ## Checkers -/

namespace Checker

variable {m : Machinery} {s blocking : Handle} {b c : ClassId}

theorem make_value (shown : Act String) (u : UseCase) :
    make (.value shown) u = Handle.refuse Fault.notAClass shown := Handle.require_value_bind _

/-- What is done with the checker of a subject is done for a policy and a class. -/
theorem forClass_bind (f : Checker → Act α) : (forClass m s blocking >>= f) = (do
    let policy ← VerificationPolicy.make blocking
    let c ← s.require .notAClass
    f ⟨c, ⟨Reflection.introspector m, policy⟩⟩) := by
  simp only [forClass, make, bind_assoc, pure_bind]

/-- With a policy, the subject is looked at. -/
theorem forClass_of_isException (hb : w.classes.isException b = true) :
    forClass m s (.ofClass b) w = make s ⟨Reflection.introspector m, ⟨b⟩⟩ w := by
  rw [forClass, bind_run_of_ok (VerificationPolicy.make_of_isException hb)]

/-- **The checker of a class.** -/
theorem forClass_run (hb : w.classes.isException b = true) :
    forClass m (.ofClass c) (.ofClass b) w =
      (.ok ⟨c, ⟨Reflection.introspector m, ⟨b⟩⟩⟩, w) :=
  forClass_of_isException hb

/-- Without a policy, the subject is not looked at. -/
theorem forClass_of_unfit (hb : ∀ c, blocking = .ofClass c → w.classes.isException c = false) :
    forClass m s blocking w = (Handle.refuse Fault.notBlocking blocking.shown : Act Checker) w := by
  rw [forClass, Act.bind_run, VerificationPolicy.make_of_unfit hb, ← Act.bind_run,
    Handle.refuse_bind]

end Checker

/-! ## Introspection and verification -/

namespace Reflection

variable (shown : Act String)

theorem describe_value : describe (.value shown) = Handle.refuse Fault.notIntrospectable shown :=
  Handle.require_value_bind _

theorem constructors_value :
    constructors (.value shown) = Handle.refuse Fault.notIntrospectable shown :=
  Handle.require_value_bind _

theorem invoke_value (m : Machinery) :
    invoke m (.value shown) = Handle.refuse Fault.notIntrospectable shown :=
  Handle.require_value_bind _

end Reflection

/-- Whatever introspector a verification has, it does nothing with a value but refuse it. -/
theorem UseCase.examine_value (u : UseCase) (shown : Act String) :
    u.examine (.value shown) = Handle.refuse Fault.notIntrospectable shown := by
  have hrequire : discard (Reflection.requireClass (.value shown)) =
      (Handle.refuse Fault.notIntrospectable shown : Act PUnit) := Handle.require_value_bind _
  rw [examine, hrequire, Handle.refuse_bind]

end UtilityClass
