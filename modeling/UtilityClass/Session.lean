import UtilityClass.Introspector.Scripted
import UtilityClass.Verification

/-!
# Sessions

A session puts questions to one introspector and to the verification over it, one after the other in
the same world. Lists of constructors are handed out as copies: one may be extended without changing
later answers.

## Main definitions

* `Question`, `Answer`
* `UseCase.ask`
-/

namespace UtilityClass

/-- What can be asked in a session. -/
inductive Question where
  | describe (v : Value)
  | constructors (v : Value)
  | invoke (v : Value)
  | execute (v : Value)
  | check (v : Value)
  | verify (v : Value)
  /-- Binds a checker to the value. -/
  | bind (v : Value)
  /-- Extends the list of the constructors of the root by one entry. -/
  | extend

/-- What is answered. -/
inductive Answer where
  | descriptor (d : TypeDescriptor)
  | constructors (list : List ConstructorDescriptor)
  | outcome (o : Outcome)
  | report (r : Report)
  | valid
  | bound
  | length (n : Nat)

namespace UseCase

/-- Answers a question. -/
def ask (m : Machinery) (u : UseCase) : Question → Act Answer
  | .describe s => return .descriptor (← u.introspector.describe s)
  | .constructors s => return .constructors (← u.introspector.constructors s)
  | .invoke s => return .outcome (← u.introspector.invoke s)
  | .execute s => return .report (← u.execute m s)
  | .check s => do
    let checker ← Checker.make s u
    return .report (← checker.check m)
  | .verify s => do
    let checker ← Checker.make s u
    checker.verify m
    return .valid
  | .bind s => do
    discard (Checker.make s u)
    return .bound
  | .extend => do
    let list ← u.introspector.constructors (.ofClass LibraryClass.object)
    return .length (list.length + 1)

end UseCase

end UtilityClass
