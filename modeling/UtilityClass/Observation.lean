import UtilityClass.Catching
import UtilityClass.Handle

/-!
# Observing executions

An observed function leaves two events in the journal for each call: one when it starts and one when
it has ended. Events are objects with five fields in a fixed order, printed in the layout of the
world. The event of a call that returned is written before the call is taken to have succeeded, so
an event that cannot be printed makes the call fail. What an event says is a document: its texts may
hold surrogates, other than the texts of the verifier itself.

## Main definitions

* `Event`, `Event.document` : an event and its five fields
* `Act.log` : an event goes to the journal
* `Act.measured` : an observed call
* `Arguments`, `Act.observed` : an observed function
-/

namespace UtilityClass

/-- A value that is to be logged. -/
inductive Loggable where
  | data (value : Document)
  /-- Something of a type of the given name that cannot be printed. -/
  | unprintable (kind : String)

/-- What an event says beyond its name. -/
inductive Payload where
  | whole (value : Loggable)
  | fields (list : List (Text × Loggable))

namespace Payload

/-- The fields as data, or the type of the first one that cannot be printed. -/
def fieldDocuments : List (Text × Loggable) → Except String (List (Text × Document))
  | [] => .ok []
  | (name, .data value) :: rest => (fieldDocuments rest).map ((name, value) :: ·)
  | (_, .unprintable kind) :: _ => .error kind

/-- The payload as a document, or the type of what cannot be printed in it. -/
def document : Payload → Except String Document
  | .whole (.data value) => .ok value
  | .whole (.unprintable kind) => .error kind
  | .fields list => (fieldDocuments list).map .obj

end Payload

/-- Something worth logging. -/
structure Event where
  name : Document
  correlation : Document
  payload : Payload
  level : Document

namespace Event

/-- The level of failures. -/
def errorLevel : String := "ERROR"

/-- The level of all else. -/
def infoLevel : String := "INFO"

/-- The severity under which an event is sent: only one level is that of failures. -/
def severity (e : Event) : Severity :=
  match e.level with
  | .str level => if level = (errorLevel : Text) then .error else .info
  | _ => .info

/-- The event as a document, with the time at which it is sent. -/
def document (e : Event) (time : Double) : Except String Document :=
  e.payload.document.map fun data =>
    .obj [("timestamp", .float time), ("level", e.level), ("event", e.name),
      ("correlation_id", e.correlation), ("data", data)]

end Event

namespace Act

/-- Prints an event into the journal. -/
def log (e : Event) : Act Unit := do
  let time ← readClock
  match e.document time with
  | .ok value => record (.event e.severity (value.print (← get).layout))
  | .error kind => fail (.unprintable kind)

/-- The memory in use, in mebibytes with two places; zero if it cannot be measured. -/
def memoryInUse : Act Double := do
  match ← readMemory with
  | .bytes amount => return ((amount.divNat 1024).divNat 1024).roundTo 2
  | .refused => return Double.ofInt 0

/-- The name of the first class among the arguments. -/
def target (arguments : List Handle) : Act String := do
  match arguments.findSome? Handle.class? with
  | some c => ofExcept ((← classes).nameText c)
  | none => return "unknown"

variable {α : Type}

/-- The name that the class of an exception gives, as it is logged. -/
def errorName (e : Raised) : Act Loggable := do
  let a ← ofExcept ((← classes).read e.error.type "__name__")
  match a.member with
  | .data value => return .data value
  | .native _ => return .data (.str ((← classes).info e.error.type).name)
  | _ => return .unprintable a.kind

/-- An observed call: `arguments` are those given by position, and `verdict` is what is logged of
the result. -/
def measured (m : Machinery) (operation : String) (arguments : List Handle)
    (verdict : α → Loggable) (function : Act α) : Act α := do
  let started ← readClock
  let memory ← memoryInUse
  let correlation := Document.str (String.ofList ((← takeIdentifier).toList.take 8))
  let subject ← target arguments
  log ⟨.str ↑(operation ++ ".started"), correlation,
    .fields [("target", .data (.str subject)), ("start_ram_mb", .data (.float memory))],
    .str Event.infoLevel⟩
  let result ← catching m do
    let value ← function
    let ended ← readClock
    let memoryAfter ← memoryInUse
    log ⟨.str ↑(operation ++ ".completed"), correlation,
      .fields [("duration_sec", .data (.float ((ended.sub started).roundTo 3))),
        ("end_ram_mb", .data (.float memoryAfter)),
        ("ram_delta_mb", .data (.float ((memoryAfter.sub memory).roundTo 2))),
        ("target", .data (.str subject)), ("status", .data (.str "success")),
        ("is_valid", verdict value)],
      .str Event.infoLevel⟩
    return value
  match result with
  | .ok value => return value
  | .error e =>
    let h ← classes
    if h.isException e.error.type then
      let ended ← readClock
      let memoryAfter ← memoryInUse
      let name ← errorName e
      let text ← m.textOf e.error
      log ⟨.str ↑(operation ++ ".failed"), correlation,
        .fields [("duration_sec", .data (.float ((ended.sub started).roundTo 3))),
          ("crash_ram_mb", .data (.float memoryAfter)), ("target", .data (.str subject)),
          ("error_type", name),
          ("error_msg", .data (.str text))],
        .str Event.errorLevel⟩
    throw e

end Act

/-- The arguments of a call. -/
structure Arguments where
  /-- Those given by position. -/
  given : List Handle
  /-- Those given by name. -/
  named : List (String × Handle)

namespace Act

/-- A function as it is called where it is observed: it gets the arguments of the call. -/
def observed {α : Type} (m : Machinery) (operation : String) (verdict : α → Loggable)
    (function : Arguments → Act α) (a : Arguments) : Act α :=
  measured m operation a.given verdict (function a)

end Act

end UtilityClass
