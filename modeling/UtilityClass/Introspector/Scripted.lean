import UtilityClass.Introspector.Basic

/-!
# Scripted introspectors

An introspector whose answers are fixed beforehand, whatever the subject. It can describe classes
that do not exist, such as an interface with constructors, and it counts how often each question is
put.

## Main definitions

* `Script`, `Script.make` : the fixed answers, with a conforming class where none is given
* `Script.introspector`
-/

namespace UtilityClass

/-- The answers of a scripted introspector. -/
structure Script where
  descriptor : TypeDescriptor
  constructors : List ConstructorDescriptor
  outcome : Outcome

namespace Script

/-- The class that is described if no other is given: ordinary, concrete and final. -/
def holder : TypeDescriptor where
  name := ⟨.str "fake", .str "Holder"⟩
  classification := .ordinary
  isAbstract := false
  isFinal := true

/-- The outcome if no other is given. -/
def blocked : Outcome := .failedWith (.ofClass LibraryClass.typeError) (some "blocked")

/-- The answers, from those that are given. An outcome that counts as false counts as not given. -/
def make (descriptor : Option TypeDescriptor) (constructors : List ConstructorDescriptor)
    (outcome : Outcome) : Script where
  descriptor := descriptor.getD holder
  constructors
  outcome := match outcome with
    | .unknown value => if value.truthy then outcome else blocked
    | _ => outcome

/-- Counts a question. -/
def count (change : Tally → Tally) : Act Unit :=
  modify fun w => { w with tally := change w.tally }

/-- The introspector that gives the answers. -/
def introspector (s : Script) : Introspector where
  describe _ := do
    count fun t => { t with describe := t.describe + 1 }
    return s.descriptor
  constructors _ := do
    count fun t => { t with constructors := t.constructors + 1 }
    return s.constructors
  invoke _ := do
    count fun t => { t with invoke := t.invoke + 1 }
    return s.outcome

end Script

end UtilityClass
