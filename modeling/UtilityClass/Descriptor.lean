import UtilityClass.Fault

/-!
# Descriptors

What the verifier is told about a class and about each of its constructors. A descriptor is a
snapshot: it is taken once and says nothing about later states of the class.

## Main definitions

* `TypeDescriptor`, `Classification`
* `ConstructorDescriptor`, `Visibility`
-/

namespace UtilityClass

/-- What kind of class a class is. -/
inductive Classification where
  | ordinary
  | interfaceLike
  | enumLike
  deriving DecidableEq

namespace Classification

/-- All kinds, in their order. -/
def all : List Classification := [.ordinary, .interfaceLike, .enumLike]

/-- The word for a kind. -/
def word : Classification → String
  | .ordinary => "ORDINARY_CLASS"
  | .interfaceLike => "INTERFACE_LIKE"
  | .enumLike => "ENUM_LIKE"

/-- The place of a kind in their order, counted from one. -/
def ordinal : Classification → Nat
  | .ordinary => 1
  | .interfaceLike => 2
  | .enumLike => 3

/-- The kind that a word stands for. -/
def ofWord (text : String) : Except Fault Classification :=
  match all.find? fun c => c.word == text with
  | some c => .ok c
  | none => .error (.noSuchWord text)

end Classification

/-- Who may use a constructor. -/
inductive Visibility where
  | isPrivate
  | nonPrivate
  deriving DecidableEq

namespace Visibility

/-- Both visibilities, in their order. -/
def all : List Visibility := [.isPrivate, .nonPrivate]

/-- The word for a visibility. -/
def word : Visibility → String
  | .isPrivate => "PRIVATE"
  | .nonPrivate => "NON_PRIVATE"

/-- The place of a visibility in their order, counted from one. -/
def ordinal : Visibility → Nat
  | .isPrivate => 1
  | .nonPrivate => 2

/-- The visibility that a word stands for. -/
def ofWord (text : String) : Except Fault Visibility :=
  match all.find? fun v => v.word == text with
  | some v => .ok v
  | none => .error (.noSuchWord text)

end Visibility

/-- What is known of a class. -/
structure TypeDescriptor where
  name : QualifiedName
  classification : Classification
  isAbstract : Bool
  isFinal : Bool

/-- What is known of a constructor. The count is a number that is not negative. -/
structure ConstructorDescriptor where
  signature : String
  parameterCount : Json
  visibility : Visibility

namespace ConstructorDescriptor

/-- A descriptor, unless its count is negative or no number. -/
def make (signature : String) (parameterCount : Json) (visibility : Visibility) :
    Except Fault ConstructorDescriptor :=
  if ¬parameterCount.isNumber then .error (.countNotNumber parameterCount.kind)
  else if parameterCount.sign? = some .lt then .error (.negativeCount parameterCount.text)
  else .ok ⟨signature, parameterCount, visibility⟩

/-- Whether the constructor is marked as private. -/
def isPrivate (d : ConstructorDescriptor) : Bool := decide (d.visibility = .isPrivate)

/-- Whether the constructor takes arguments. -/
def takesArguments (d : ConstructorDescriptor) : Bool :=
  decide (d.parameterCount.sign? = some .gt)

end ConstructorDescriptor

end UtilityClass
