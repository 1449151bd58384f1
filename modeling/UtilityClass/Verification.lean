import UtilityClass.Introspector.Reflection
import UtilityClass.Observation
import UtilityClass.Report

/-!
# Verifying utility classes

A utility class is never instantiated: it is a concrete final class whose constructors are private,
take no arguments and fail with the blocking exception. The verification checks this in a fixed
order. First the class has to be a class at all and concrete; only then are its constructors looked
at: each has to be private, each has to do without arguments, and the default construction has to be
blocked. A class that is not final is an issue, but does not end the verification.

## Main definitions

* `UseCase`, `UseCase.execute` : the observed verification, with an introspector and a policy
* `Checker` : a verification bound to one class
-/

namespace UtilityClass

/-! ## The issues -/

namespace Issue

/-- An interface in the place of a class. -/
def isInterface : String := "Expected [\x7b\x7d] to be a class, but it is an interface."

/-- An enumeration in the place of a class. -/
def isEnum : String := "Expected [\x7b\x7d] to be a class, but it is an enum."

/-- An abstract class. -/
def isAbstract : String := "Expected class [\x7b\x7d] to be concrete, but it is abstract."

/-- A class that may have subclasses. -/
def notFinal : String := "Expected class [\x7b\x7d] to be final."

/-- A constructor that is not private. -/
def notPrivate : String := "Constructor [\x7b\x7d] is not private."

/-- A constructor that takes arguments. -/
def hasArguments : String :=
  "Expected class [\x7b\x7d] to have only 1 non-argument constructor, but found [\x7b\x7d]."

/-- A class without a constructor that takes no arguments. -/
def noDefault : String := "Class [\x7b\x7d] does not have a default constructor."

/-- A construction that succeeds. -/
def notBlocked : String := "Expected \x7b\x7d when invoking class [\x7b\x7d] default constructor."

/-- A construction that fails with an exception of another kind. -/
def wrongException : String :=
  "Expected class [\x7b\x7d] default constructor to throw \x7b\x7d when invoked, but instead it " ++
    "threw [\x7b\x7d] with message [\x7b\x7d]."

/-- A construction that the machinery refuses. -/
def unexpectedFailure : String :=
  "Caught unexpected [\x7b\x7d] while invoking default constructor on class [\x7b\x7d]."

/-- What stands for the message of an exception that carries none. -/
def nullMessage : String := "null"

end Issue

namespace Run

/-- Checks that the class is a concrete class; the second part says whether to go on. -/
def checkConcrete (r : Run) : Except Fault (Run × Bool) :=
  let name := Template.Argument.name r.subject.name
  match r.subject.classification with
  | .interfaceLike => (r.addIssue Issue.isInterface [name]).map (·, false)
  | .enumLike => (r.addIssue Issue.isEnum [name]).map (·, false)
  | .ordinary =>
    if r.subject.isAbstract then (r.addIssue Issue.isAbstract [name]).map (·, false)
    else if ¬r.subject.isFinal then (r.addIssue Issue.notFinal [name]).map (·, true)
    else .ok (r, true)

/-- Checks that each constructor is private. -/
def checkPrivate : List ConstructorDescriptor → Run → Except Fault Run
  | [], r => .ok r
  | c :: rest, r => do
    let r ← if c.isPrivate then .ok r
      else r.addIssue Issue.notPrivate [.data (.str c.signature)]
    checkPrivate rest r

/-- Checks that each constructor does without arguments. -/
def checkArguments : List ConstructorDescriptor → Run → Except Fault Run
  | [], r => .ok r
  | c :: rest, r => do
    let r ← if c.takesArguments then
        r.addIssue Issue.hasArguments [.name r.subject.name, .data (.str c.signature)]
      else .ok r
    checkArguments rest r

/-- Checks that the construction has been blocked, given what became of it, and whether the
exception that it failed with is a blocking one. -/
def checkOutcome (h : Hierarchy) (blocking : QualifiedName) (outcome : Outcome) (isBlocking : Bool)
    (r : Run) : Except Fault Run :=
  let name := Template.Argument.name r.subject.name
  match outcome with
  | .noDefaultConstructor => r.addIssue Issue.noDefault [name]
  | .constructed _ => r.addIssue Issue.notBlocked [.name blocking, name]
  | .failedWith error message => do
    if isBlocking then return r
    else
      let kind ← error.name h
      r.addIssue Issue.wrongException
        [name, .name blocking, .name kind, .data (.str (message.getD Issue.nullMessage))]
  | .accessRefused error _ => do
    let kind ← error.name h
    r.addIssue Issue.unexpectedFailure [.name kind, name]
  | .unknown value => .error (.unknownOutcome value.literal)

end Run

/-! ## The verification -/

/-- What a verification works with. -/
structure UseCase where
  introspector : Introspector
  policy : VerificationPolicy

namespace UseCase

variable (u : UseCase)

/-- Whether an outcome is a failure with a blocking exception. -/
def isBlocked (outcome : Outcome) : Act Bool :=
  match outcome with
  | .failedWith error _ => u.policy.isBlocking error
  | _ => return false

/-- The checks of the constructors. -/
def checkConstructors (s : Handle) (r : Run) : Act Run := do
  let constructors ← u.introspector.constructors s
  let r ← Act.ofExcept (r.checkPrivate constructors)
  let r ← Act.ofExcept (r.checkArguments constructors)
  let blocking ← Act.ofExcept ((← Act.classes).nameOf u.policy.blocking)
  let outcome ← u.introspector.invoke s
  let isBlocking ← u.isBlocked outcome
  Act.ofExcept (r.checkOutcome (← Act.classes) blocking outcome isBlocking)

/-- All checks, with a remark before and after them. -/
def examine (s : Handle) : Act Report := do
  discard (Reflection.requireClass s)
  let descriptor ← u.introspector.describe s
  let name ← Act.ofName descriptor.name.text
  Act.record (.remark ("Verificando " ++ name ++ " (" ++ descriptor.classification.word ++ ")"))
  let (run, concrete) ← Act.ofExcept (Run.start descriptor).checkConcrete
  let run ← if concrete then u.checkConstructors s run else pure run
  let (report, run) := run.conclude
  let report ← Act.ofExcept report
  let subject ← Act.ofName report.subject.text
  Act.record (.remark
    ("Veredicto para " ++ subject ++ ": " ++ intText run.issues.length ++ " issue(s)"))
  return report

/-- The observed verification of a subject. -/
def execute (m : Machinery) (s : Handle) : Act Report :=
  Act.measured m "verify_utility_class" [s] (fun report => .data (.bool report.isValid))
    (u.examine s)

end UseCase

/-- The exception that says that a class is no utility class. It is a verdict, and no fault. -/
def Raised.violation (message : String) : Raised :=
  { Instance.bare LibraryClass.utilityClassViolation with
    arguments := [.str message] : Instance }.raised

/-- A verification of one class. -/
structure Checker where
  subject : ClassId
  useCase : UseCase

namespace Checker

/-- A checker of a subject, which has to be a class. -/
def make (s : Handle) (u : UseCase) : Act Checker := do
  return ⟨← s.require .notAClass, u⟩

/-- The checker of a subject that looks at the classes themselves. The blocking exception is looked
at before the subject. -/
def forClass (m : Machinery) (s blocking : Handle) : Act Checker := do
  let policy ← VerificationPolicy.make blocking
  make s ⟨Reflection.introspector m, policy⟩

/-- The report on the class. -/
def check (m : Machinery) (c : Checker) : Act Report := c.useCase.execute m (.ofClass c.subject)

/-- Ends normally if the report is good, and with its message otherwise. -/
def verify (m : Machinery) (c : Checker) : Act Unit := do
  match ← c.check m with
  | .ok _ => return ()
  | .failed _ _ message => throw (.violation message)

end Checker

end UtilityClass
