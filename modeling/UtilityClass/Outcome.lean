import UtilityClass.Handle
import UtilityClass.Subclass

/-!
# Outcomes of a construction

What became of the attempt to construct an object without arguments. The machinery's own refusal is
kept apart from an exception that a constructor raised, since the verifier judges only the latter.

## Main definitions

* `Outcome`
* `VerificationPolicy` : which exceptions a blocked constructor may raise
-/

namespace UtilityClass

/-- What became of a construction. -/
inductive Outcome where
  | constructed (made : Value)
  /-- A constructor raised an exception of the class, with a message unless it carried nothing. -/
  | failedWith (error : Subject) (message : Option String)
  /-- Construction without arguments is not provided for. -/
  | noDefaultConstructor
  /-- The machinery refused before or after the constructors ran. -/
  | accessRefused (error : Subject) (message : Option String)
  /-- Something that is no outcome. -/
  | unknown (value : Json)

/-- The exception that a blocked constructor has to raise: the class or one derived from it. -/
structure VerificationPolicy where
  blocking : ClassId

namespace VerificationPolicy

/-- The usual exception of a blocked constructor. -/
def standard : VerificationPolicy := ⟨LibraryClass.typeError⟩

/-- A policy for a class of exceptions that constructors can be caught with; signals that are no
ordinary exceptions are not configurable. -/
def make (blocking : Handle) : Act VerificationPolicy := do
  match blocking.class?.filter (← Act.classes).isException with
  | some c => return ⟨c⟩
  | none => Act.fail (.notBlocking (← blocking.shown))

/-- Whether exceptions of a subject are ones that a blocked constructor may raise: the question is
only put of classes. -/
def isBlocking (p : VerificationPolicy) (error : Subject) : Act Bool := do
  let h ← Act.classes
  match error, h.hook? p.blocking "__subclasscheck__" with
  | .ofClass c, _ => Act.isSubclass c p.blocking
  | .plain _, some hook =>
    Act.ofExcept (h.tryHook p.blocking hook 1)
    return false
  | .plain _, none => Act.fail .notAClassArgument

end VerificationPolicy

end UtilityClass
