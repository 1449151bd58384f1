import UtilityClass.Descriptor
import UtilityClass.Template.Render

/-!
# Runs and reports

A run collects the issues that a verification finds, in the order in which it finds them, and is
concluded with a report. The report of a run without issues is good; any other lists the issues and
carries one message that names the class and gives each issue a line of its own.

A concluded run takes no more issues, and this is checked before anything else is looked at, so even
a template that could not be filled is refused for this reason.

## Main definitions

* `Report`
* `Run`, `Run.addIssue`, `Run.conclude`
* `Run.Operation`, `Run.perform` : the operations on a run as data
-/

namespace UtilityClass

/-- The verdict on a class. -/
inductive Report where
  | ok (subject : QualifiedName)
  | failed (subject : QualifiedName) (issues : List String) (message : String)

namespace Report

/-- The class that the report is about. -/
def subject : Report → QualifiedName
  | .ok subject | .failed subject _ _ => subject

/-- Whether the class is a utility class. -/
def isValid : Report → Bool
  | .ok _ => true
  | .failed _ _ _ => false

/-- The issues found. -/
def issues : Report → List String
  | .ok _ => []
  | .failed _ issues _ => issues

/-- The first line of a message. -/
def header (name : String) : String :=
  "Class [" ++ name ++ "] does not validate as a utility class:"

/-- What stands in front of each issue. -/
def issuePrefix : String := "\n- "

/-- The message of a report on the named class. -/
def message (name : String) (issues : List String) : String :=
  header name ++ String.join (issues.map fun issue => issuePrefix ++ issue)

end Report

/-- A verification under way. -/
structure Run where
  subject : TypeDescriptor
  issues : List String
  concluded : Bool

namespace Run

/-- A run that has found nothing yet. -/
def start (subject : TypeDescriptor) : Run := ⟨subject, [], false⟩

/-- The written name of the class under verification. -/
def subjectText (r : Run) : Except Fault String := r.subject.name.text.mapError .name

/-- Adds an issue, given by a template and what its fields are filled with. -/
def addIssue (r : Run) (template : String) (arguments : List Template.Argument) :
    Except Fault Run :=
  if r.concluded then do
    let name ← r.subjectText
    .error (.runConcluded name)
  else
    match Template.fill template arguments with
    | .ok issue => .ok { r with issues := r.issues ++ [issue] }
    | .error e => .error (.template e)

/-- The report on the issues found so far. -/
def report (r : Run) : Except Fault Report :=
  if r.issues.isEmpty then .ok (.ok r.subject.name)
  else r.subjectText.map fun name =>
    .failed r.subject.name r.issues (Report.message name r.issues)

/-- Closes the run and reports. -/
def conclude (r : Run) : Except Fault Report × Run := (r.report, { r with concluded := true })

/-- An operation on a run. -/
inductive Operation where
  | add (template : String) (arguments : List Template.Argument)
  | issues
  | conclude

/-- The answer to an operation. -/
inductive Answer where
  | issues (list : List String)
  | report (r : Report)

/-- Performs an operation. One that fails leaves the issues as they were. -/
def perform (op : Operation) (r : Run) : Except Fault Answer × Run :=
  match op with
  | .add template arguments =>
    match r.addIssue template arguments with
    | .ok after => (.ok (.issues after.issues), after)
    | .error e => (.error e, r)
  | .issues => (.ok (.issues r.issues), r)
  | .conclude => (r.conclude.1.map .report, r.conclude.2)

end Run

end UtilityClass
