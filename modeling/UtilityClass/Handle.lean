import UtilityClass.Class.Literal
import UtilityClass.World

/-!
# Handles

The verifier is handed classes, and it may be handed anything else in their place. Of a value that
is no class it asks one thing: to be shown in the complaint about it. Values show themselves, so
this is an act like any other: it may fail with an exception of its own, it may leave traces in the
world, and nothing is known of it beforehand.

## Main definitions

* `Handle`
* `Handle.shown` : a handle as it is shown
* `Handle.require` : the class that a handle is
* `Value.handle`, `Subject.handle` : values that are known as handles
-/

namespace UtilityClass

/-- What the verifier is handed: a class, or a value that is none. -/
inductive Handle where
  | ofClass (c : ClassId)
  /-- A value, known by how it shows itself. -/
  | value (shown : Act String)

namespace Handle

/-- The class, if it is one. -/
def class? : Handle → Option ClassId
  | .ofClass c => some c
  | .value _ => none

theorem eq_ofClass {s : Handle} {c : ClassId} (hs : s.class? = some c) : s = .ofClass c := by
  cases s with
  | ofClass c' => exact congrArg ofClass (Option.some.inj hs)
  | value shown => exact nomatch hs

theorem exists_eq_value {s : Handle} (hs : s.class? = none) : ∃ shown, s = .value shown := by
  cases s with
  | ofClass c => exact nomatch hs
  | value shown => exact ⟨shown, rfl⟩

/-- A handle as it is shown inside a message. -/
def shown : Handle → Act String
  | .ofClass c => do Act.ofExcept ((← Act.classes).literal c)
  | .value shown => shown

/-- The class that a handle is. Of a value is complained, and the complaint shows it. -/
def require (complaint : String → Fault) : Handle → Act ClassId
  | .ofClass c => return c
  | .value shown => do Act.fail (complaint (← shown))

end Handle

/-- A value of which is known what it is. -/
def Value.handle : Value → Handle
  | .ofClass c => .ofClass c
  | v => .value do Act.ofExcept (v.literal (← Act.classes))

/-- A subject as a handle. -/
def Subject.handle (s : Subject) : Handle := s.value.handle

instance : Coe Value Handle := ⟨Value.handle⟩

instance : Coe Subject Handle := ⟨Subject.handle⟩

end UtilityClass
