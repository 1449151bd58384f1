import UtilityClass.Fault
import UtilityClass.Json.Printer
import UtilityClass.Value

/-!
# The world that constructors run in

Constructors can change classes, and an execution leaves a trace, so everything runs over a `World`:
the classes as they are now, the readings that clock and memory will give, and the journal of what
was logged. What happens in it is an `Act`, which ends with a value or with an exception; what was
done before an exception stays done.

An exception in flight knows how many bodies of functions it has left. One that has left none was
raised by native code alone.

## Main definitions

* `World`, `Record` : the state
* `Raised` : an exception in flight
* `Act` : what happens
* `Act.attempt` : an act whose exceptions are results
-/

namespace UtilityClass

/-- How much attention a logged event asks for. -/
inductive Severity where
  | info
  | error
  deriving DecidableEq

/-- An entry of the journal. -/
inductive Record where
  /-- A remark on the course of a verification. -/
  | remark (text : String)
  /-- An event, printed. -/
  | event (severity : Severity) (text : String)

/-- What measuring the memory gives. -/
inductive MemoryReading where
  | bytes (amount : Double)
  | refused

/-- The readings still to come. The last one of each kind repeats. -/
structure Readings where
  clock : List Double
  memory : List MemoryReading
  identifiers : List String

/-- How often each operation of a scripted introspector was called. -/
structure Tally where
  describe : Nat
  constructors : Nat
  invoke : Nat

/-- The state that acts work on. -/
structure World where
  classes : Hierarchy
  readings : Readings
  layout : Document.Layout
  journal : List Record
  /-- What the labels stand for that are in use, besides those of the library. -/
  labels : List (String × Value)
  /-- How often each statement that takes its bodies in turn has been run. -/
  turns : Nat → Nat
  tally : Tally

namespace World

/-- A world before anything happened. -/
def initial (classes : Hierarchy) : World where
  classes
  readings := ⟨[], [], []⟩
  layout := .compact
  journal := []
  labels := []
  turns := fun _ => 0
  tally := ⟨0, 0, 0⟩

end World

/-- An exception in flight. -/
structure Raised where
  error : Instance
  /-- The class that was raised, which may have made an exception of another class. -/
  raisedAs : ClassId
  /-- How many bodies of functions it has left. -/
  frames : Nat

/-- An exception that is raised. -/
def Instance.raised (i : Instance) : Raised := ⟨i, i.type, 0⟩

/-- What happens in a world, and ends with a value or an exception. -/
abbrev Act (α : Type) : Type := ExceptT Raised (StateM World) α

/-- The exception that a fault becomes. -/
def Fault.raised (f : Fault) : Raised :=
  { Instance.bare f.kind with arguments := [f.argument] : Instance }.raised

namespace Act

variable {α : Type}

/-- Ends with the exception of a fault. -/
def fail (f : Fault) : Act α := throw f.raised

/-- A result as an act. -/
def ofExcept : Except Fault α → Act α
  | .ok a => pure a
  | .error f => fail f

/-- A named result as an act. -/
def ofName : Except NameError α → Act α
  | .ok a => pure a
  | .error e => fail (.name e)

/-- Ends with the exception of a refusal. -/
def refuse (r : Refusal) : Act α := fail (.refusal r)

/-- The classes as they are now. -/
def classes : Act Hierarchy := return (← get).classes

/-- Changes the classes. -/
def setClasses (h : Hierarchy) : Act Unit := modify fun w => { w with classes := h }

/-- Takes the next class that has not been declared yet. -/
def takeClass : Act ClassId := do
  let h ← classes
  setClasses { h with declared := h.declared + 1 }
  return .declared h.declared

/-- Gives a label a meaning. -/
def setLabel (label : String) (meaning : Value) : Act Unit :=
  modify fun w => { w with labels := (label, meaning) :: w.labels }

/-- What a reference stands for. -/
def resolve (r : Reference) : Act Value := do
  match r with
  | .ofClass c => return .ofClass c
  | .plain value => return .data value
  | .label text =>
    match (← get).labels.lookup text, LibraryClass.ofLabel? text with
    | some meaning, _ => return meaning
    | none, some c => return .ofClass c
    | none, none => fail (.noSuchWord text)

/-- The act with its exception as a result. -/
def attempt (act : Act α) : Act (Except Raised α) := fun w =>
  match act w with
  | (result, w) => (.ok result, w)

/-- The act as the body of a function: exceptions leave it. -/
def inFrame (act : Act α) : Act α := fun w =>
  match act w with
  | (.error e, w) => (.error { e with frames := e.frames + 1 }, w)
  | done => done

/-- Puts an entry into the journal. -/
def record (r : Record) : Act Unit := modify fun w => { w with journal := w.journal ++ [r] }

/-- The first of the values to come, or a given one if there are none, and the values after it. -/
def next (absent : α) : List α → α × List α
  | [] => (absent, [])
  | [a] => (a, [a])
  | a :: rest => (a, rest)

/-- Reads the clock. -/
def readClock : Act Double := do
  let w ← get
  let (time, rest) := next (Double.ofInt 0) w.readings.clock
  set { w with readings := { w.readings with clock := rest } }
  return time

/-- Measures the memory in use. -/
def readMemory : Act MemoryReading := do
  let w ← get
  let (reading, rest) := next (.bytes (Double.ofInt 0)) w.readings.memory
  set { w with readings := { w.readings with memory := rest } }
  return reading

/-- Takes a new identifier. -/
def takeIdentifier : Act String := do
  let w ← get
  let (identifier, rest) :=
    next "00000000-0000-0000-0000-000000000000" w.readings.identifiers
  set { w with readings := { w.readings with identifiers := rest } }
  return identifier

/-! ## Running -/

@[simp] theorem attempt_run (act : Act α) (w : World) :
    attempt act w = (.ok (act w).1, (act w).2) := rfl

theorem bind_run {β : Type} (act : Act α) (f : α → Act β) (w : World) :
    (act >>= f) w = match act w with
      | (.ok a, w) => f a w
      | (.error e, w) => (.error e, w) := by
  simp only [bind, ExceptT.bind, ExceptT.mk, StateT.bind]
  cases act w with
  | mk r w => cases r <;> rfl

@[simp] theorem pure_run (a : α) (w : World) : (pure a : Act α) w = (.ok a, w) := rfl

@[simp] theorem fail_run (f : Fault) (w : World) : (fail f : Act α) w = (.error f.raised, w) := rfl

end Act

end UtilityClass
