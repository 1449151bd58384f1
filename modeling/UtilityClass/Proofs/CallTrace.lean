import Mathlib.Data.List.Chain
import UtilityClass.Construction.Declare
import UtilityClass.Construction.Level
import UtilityClass.Proofs.Observed

/-!
# The trace of observed calls

An observed call sends an event when it starts and one when it has ended, unless it is a signal that
ends it. Here the worlds are written down that a call passes through, with every reading that it
takes: four of the clock, two of the memory and one identifier, of which the first eight characters
tie its two events together. The function is run once, in the world that the start leaves behind,
and its result goes through: a value as it is, and an exception as whoever catches it finds it.

What the function does between the two events is left open. It may log by itself, take readings,
and call other observed functions; the second event comes behind all of this.

## Main definitions

* `Readings.time` and the others : what is read next
* `Notice` : what an event of a call says
* `World.started`, `World.completed`, `World.failed` : the worlds of a call
* `ObservedCall` : what becomes of a call
* `Act.callAll` : successive calls

## Main results

* `Act.observed_call` : one call
* `Act.observed_calls` : any number of successive calls
-/

namespace UtilityClass

/-! ## Readings -/

namespace Readings

/-- The next reading of the clock. -/
def time (r : Readings) : Double := (Act.next (Double.ofInt 0) r.clock).1

/-- The readings behind the next one of the clock. -/
def afterTime (r : Readings) : Readings :=
  { r with clock := (Act.next (Double.ofInt 0) r.clock).2 }

/-- The memory that is measured next. -/
def memoryInUse (r : Readings) : Double :=
  match (Act.next (.bytes (Double.ofInt 0)) r.memory).1 with
  | .bytes amount => ((amount.divNat 1024).divNat 1024).roundTo 2
  | .refused => Double.ofInt 0

/-- The readings behind the next one of the memory. -/
def afterMemory (r : Readings) : Readings :=
  { r with memory := (Act.next (.bytes (Double.ofInt 0)) r.memory).2 }

/-- The next identifier. -/
def identifier (r : Readings) : String :=
  (Act.next "00000000-0000-0000-0000-000000000000" r.identifiers).1

/-- The readings behind the next identifier. -/
def afterIdentifier (r : Readings) : Readings :=
  { r with
    identifiers := (Act.next "00000000-0000-0000-0000-000000000000" r.identifiers).2 }

end Readings

namespace Act

theorem readClock_run (w : World) :
    readClock w = (.ok w.readings.time, { w with readings := w.readings.afterTime }) := rfl

theorem takeIdentifier_run (w : World) :
    takeIdentifier w =
      (.ok w.readings.identifier, { w with readings := w.readings.afterIdentifier }) := rfl

theorem memoryInUse_run (w : World) :
    memoryInUse w =
      (.ok w.readings.memoryInUse, { w with readings := w.readings.afterMemory }) := by
  have hread : readMemory w = (.ok (next (.bytes (Double.ofInt 0)) w.readings.memory).1,
      { w with readings := w.readings.afterMemory }) := rfl
  rw [memoryInUse, bind_run_of_ok hread, Readings.memoryInUse]
  cases (next (.bytes (Double.ofInt 0)) w.readings.memory).1 <;> rfl

end Act

/-! ## Notices -/

/-- What an event of a call says. All of it can be printed. -/
structure Notice where
  name : String
  level : String
  data : List (Text × Document)

namespace Notice

open Act (Beginning)

variable (operation : String) (b : Beginning)

/-- A call has started. -/
def started : Notice where
  name := operation ++ ".started"
  level := Event.infoLevel
  data := [("target", .str b.target), ("start_ram_mb", .float b.memory)]

/-- A call has returned. -/
def completed (ended memory : Double) (isValid : Document) : Notice where
  name := operation ++ ".completed"
  level := Event.infoLevel
  data := [("duration_sec", .float ((ended.sub b.clock).roundTo 3)), ("end_ram_mb", .float memory),
    ("ram_delta_mb", .float ((memory.sub b.memory).roundTo 2)), ("target", .str b.target),
    ("status", .str "success"), ("is_valid", isValid)]

/-- A call has failed. -/
def failed (ended memory : Double) (errorType : Document) (text : String) : Notice where
  name := operation ++ ".failed"
  level := Event.errorLevel
  data := [("duration_sec", .float ((ended.sub b.clock).roundTo 3)),
    ("crash_ram_mb", .float memory), ("target", .str b.target), ("error_type", errorType),
    ("error_msg", .str text)]

variable (n : Notice)

/-- A notice as an event of the call with an identifier. -/
def event (correlation : Document) : Event :=
  ⟨.str n.name, correlation, .fields (n.data.map fun (name, value) => (name, .data value)),
    .str n.level⟩

/-- A notice as it is printed. -/
def record (correlation : Document) (time : Double) (layout : Document.Layout) : Record :=
  .event (if n.level = Event.errorLevel then .error else .info)
    (Document.print layout (.obj [("timestamp", .float time), ("level", .str n.level),
      ("event", .str n.name), ("correlation_id", correlation), ("data", .obj n.data)]))

end Notice

theorem Payload.fieldDocuments_data (fields : List (Text × Document)) :
    fieldDocuments (fields.map fun (name, value) => (name, .data value)) = .ok fields := by
  induction fields with
  | nil => rfl
  | cons field fields ih => simp [fieldDocuments, ih, Except.map]

/-! ## The worlds of a call -/

namespace World

open Act (Beginning)

/-- What a call about something of the given name keeps from its start. -/
def beginning (name : String) (w : World) : Beginning where
  clock := w.readings.time
  memory := w.readings.afterTime.memoryInUse
  correlation :=
    .str (String.ofList (w.readings.afterTime.afterMemory.identifier.toList.take 8))
  target := name

/-- The world in which an event has been sent. -/
def noting (n : Notice) (correlation : Document) (w : World) : World :=
  { w with
    readings := w.readings.afterTime
    journal := w.journal ++ [n.record correlation w.readings.time w.layout] }

/-- The world in which the clock and the memory have been read. -/
def gauged (w : World) : World := { w with readings := w.readings.afterTime.afterMemory }

/-- The world in which a call has started. -/
def started (operation name : String) (w : World) : World :=
  noting (.started operation (w.beginning name)) (w.beginning name).correlation
    { w with readings := w.readings.afterTime.afterMemory.afterIdentifier }

/-- The world in which a call has completed whose function leaves `w` behind. -/
def completed (operation : String) (b : Beginning) (isValid : Document) (w : World) : World :=
  w.gauged.noting
    (.completed operation b w.readings.time w.readings.afterTime.memoryInUse isValid) b.correlation

/-- The world in which a call has failed. The exception was found in `w`, and giving its text has
left `w'` behind. -/
def failed (operation : String) (b : Beginning) (errorType : Document) (text : String)
    (w w' : World) : World :=
  w'.noting (.failed operation b w.readings.time w.readings.afterTime.memoryInUse errorType text)
    b.correlation

end World

/-! ## The parts of a call -/

/-- The name of a class as it is logged when an exception of it is found. -/
def Hierarchy.loggedName (h : Hierarchy) (c : ClassId) : Except Fault Loggable :=
  (h.read c "__name__").map fun a => match a.member with
    | .data value => .data value
    | .native _ => .data (.str (h.info c).name)
    | _ => .unprintable a.kind

namespace Act

variable {α : Type} {m : Machinery} {operation name : String} {given : List Handle}
  {function : Act α} {b : Beginning} {e : Raised} {w w₁ w₂ : World}

theorem log_notice_run (n : Notice) (correlation : Document) (w : World) :
    log (n.event correlation) w = (.ok (), w.noting n correlation) := by
  have hjson : (n.event correlation).document w.readings.time = .ok (.obj
      [("timestamp", .float w.readings.time), ("level", .str n.level), ("event", .str n.name),
        ("correlation_id", correlation), ("data", .obj n.data)]) := by
    rw [Event.document, Notice.event, Payload.document, Payload.fieldDocuments_data]
    rfl
  have hseverity : (n.event correlation).severity =
      if n.level = Event.errorLevel then .error else .info := by
    simp only [Event.severity, Notice.event, Text.ofString_inj]
  rw [log, bind_run_of_ok (readClock_run w), hjson, World.noting, Notice.record, ← hseverity]
  rfl

theorem errorName_run (e : Raised) (w : World) :
    errorName e w = ofExcept (w.classes.loggedName e.error.type) w := by
  rw [errorName, bind_run_of_ok (classes_run w), Hierarchy.loggedName]
  rcases w.classes.read e.error.type "__name__" with f | ⟨member, isBound⟩
  · rfl
  · cases member <;> rfl

theorem begin_run (operation : String) (hn : w.classes.targetName given = .ok name) :
    begin operation given w = (.ok (w.beginning name), w.started operation name) := by
  rw [begin, bind_run_of_ok (readClock_run w), bind_run_of_ok (memoryInUse_run _),
    bind_run_of_ok (takeIdentifier_run _), bind_run, target_run]
  dsimp only
  rw [hn]
  exact bind_run_of_ok (log_notice_run (.started operation (w.beginning name)) _ _)

theorem begun_eq_started (hn : w.classes.targetName given = .ok name) :
    w.begun operation given = w.started operation name :=
  congrArg Prod.snd (begin_run operation hn)

theorem finish_run_of_printable (b : Beginning) {verdict : α → Loggable} {a : α}
    {isValid : Document} (hf : function w = (.ok a, w₁)) (hv : verdict a = .data isValid) :
    finish operation verdict function b w = (.ok a, w₁.completed operation b isValid) := by
  rw [finish, bind_run_of_ok hf, bind_run_of_ok (readClock_run w₁),
    bind_run_of_ok (memoryInUse_run _), hv]
  exact bind_run_of_ok (log_notice_run
    (.completed operation b w₁.readings.time w₁.readings.afterTime.memoryInUse isValid) _ _)

/-- What is done about an ordinary exception: the clock and the memory are read, and then the name
of its class and its text. -/
theorem giveUp_run (operation : String) (b : Beginning)
    (he : w.classes.isException e.error.type = true) :
    giveUp m operation b e w = (do
      let name ← ofExcept (w.classes.loggedName e.error.type)
      let text ← m.textOf e.error
      log ⟨.str ↑(operation ++ ".failed"), b.correlation,
        .fields [("duration_sec", .data (.float ((w.readings.time.sub b.clock).roundTo 3))),
          ("crash_ram_mb", .data (.float w.readings.afterTime.memoryInUse)),
          ("target", .data (.str b.target)), ("error_type", name),
          ("error_msg", .data (.str text))],
        .str Event.errorLevel⟩ : Act Unit) w.gauged := by
  rw [giveUp, bind_run_of_ok (classes_run w), he, if_pos rfl, bind_run_of_ok (readClock_run w),
    bind_run_of_ok (memoryInUse_run _), bind_run, errorName_run, bind_run]
  rfl

/-- A name that can be printed and a text are logged. -/
theorem giveUp_of_named (operation : String) (b : Beginning)
    (he : w.classes.isException e.error.type = true) {errorType : Document} {text : String}
    (hname : w.classes.loggedName e.error.type = .ok (.data errorType))
    (htext : m.textOf e.error w.gauged = (.ok text, w₂)) :
    giveUp m operation b e w = (.ok (), w.failed operation b errorType text w₂) := by
  rw [giveUp_run operation b he, hname, bind_run_of_ok (ofExcept_ok_run _ _), bind_run_of_ok htext]
  exact log_notice_run (.failed operation b _ _ errorType text) _ _

theorem catching_eq_error_iff :
    catching m function w = (.ok (.error e), w₂) ↔
      ∃ e₀ w₁, function w = (.error e₀, w₁) ∧ e₀.settle m w₁ = (.ok e, w₂) := by
  constructor
  · intro h
    rcases hf : function w with ⟨e₀ | a, w₁⟩
    · rw [catching_of_error m hf] at h
      obtain ⟨e', w', hs, hr⟩ := bind_eq_ok_iff.1 h
      cases hr
      exact ⟨e₀, w₁, rfl, hs⟩
    · rw [catching_of_ok m hf] at h
      cases h
  · rintro ⟨e₀, w₁, hf, hs⟩
    rw [catching_of_error m hf, bind_run_of_ok hs]
    rfl

/-- A function ends with a value, or with an exception that is found. -/
theorem returns_or_fails (m : Machinery) (function : Act α) (w : World) :
    (∃ a w₁, function w = (.ok a, w₁)) ∨
      ∃ e w₁, catching m function w = (.ok (.error e), w₁) := by
  rcases hf : function w with ⟨e₀ | a, w₁⟩
  · obtain ⟨e, w₂, hs⟩ := exists_settle m e₀ w₁
    exact .inr ⟨e, w₂, catching_eq_error_iff.2 ⟨e₀, w₁, hf, hs⟩⟩
  · exact .inl ⟨a, w₁, rfl⟩

/-- An exception whose class counts as the one that was raised is found as it is. -/
theorem catching_of_isSubclass (m : Machinery) (hf : function w = (.error e, w₁))
    (hs : isSubclass e.error.type e.raisedAs w₁ = (.ok true, w₂)) :
    catching m function w = (.ok (.error e.settled), w₂) :=
  catching_eq_error_iff.2 ⟨e, w₁, hf, settle_of_isSubclass m hs⟩

end Act

/-! ## One call -/

/-- What becomes of an observed call of a function, which is about something of the given name. The
function is run in the world in which the call has started. -/
structure ObservedCall {α : Type} (m : Machinery) (operation : String) (isValid : α → Document)
    (function : Act α) (name : String) (w : World) (result : Except Raised α) (w' : World) :
    Prop where
  /-- A value of the function is the value of the call, and is followed by one event. -/
  returned (a : α) (w₁ : World) :
    function (w.started operation name) = (.ok a, w₁) →
    result = .ok a ∧ w' = w₁.completed operation (w.beginning name) (isValid a)
  /-- An ordinary exception is the one of the call, as it is found, and is followed by one event, if
  it has a text and the name of its class can be printed. -/
  failed (e : Raised) (w₁ : World) (errorType : Document) (text : String) (w₂ : World) :
    Act.catching m function (w.started operation name) = (.ok (.error e), w₁) →
    w₁.classes.isException e.error.type = true →
    w₁.classes.loggedName e.error.type = .ok (.data errorType) →
    m.textOf e.error w₁.gauged = (.ok text, w₂) →
    result = .error e ∧ w' = w₁.failed operation (w.beginning name) errorType text w₂
  /-- Where that name cannot be printed, a complaint about this takes the place of the exception,
  and no event is sent. -/
  unprintable (e : Raised) (w₁ : World) (kind text : String) (w₂ : World) :
    Act.catching m function (w.started operation name) = (.ok (.error e), w₁) →
    w₁.classes.isException e.error.type = true →
    w₁.classes.loggedName e.error.type = .ok (.unprintable kind) →
    m.textOf e.error w₁.gauged = (.ok text, w₂) →
    result = .error (Fault.unprintable kind).raised ∧
      w' = { w₂ with readings := w₂.readings.afterTime }
  /-- So does what is complained of where the name cannot be read. -/
  unnamed (e : Raised) (w₁ : World) (f : Fault) :
    Act.catching m function (w.started operation name) = (.ok (.error e), w₁) →
    w₁.classes.isException e.error.type = true →
    w₁.classes.loggedName e.error.type = .error f →
    result = .error f.raised ∧ w' = w₁.gauged
  /-- And so does an exception that comes in place of a text. -/
  mute (e : Raised) (w₁ : World) (logged : Loggable) (e' : Raised) (w₂ : World) :
    Act.catching m function (w.started operation name) = (.ok (.error e), w₁) →
    w₁.classes.isException e.error.type = true →
    w₁.classes.loggedName e.error.type = .ok logged →
    m.textOf e.error w₁.gauged = (.error e', w₂) →
    result = .error e' ∧ w' = w₂
  /-- A signal that is no ordinary exception goes through, and nothing follows it. -/
  signalled (e : Raised) (w₁ : World) :
    Act.catching m function (w.started operation name) = (.ok (.error e), w₁) →
    w₁.classes.isException e.error.type = false →
    result = .error e ∧ w' = w₁
  /-- One of these is the case: the function returns, or an exception is found. -/
  ends : (∃ a w₁, function (w.started operation name) = (.ok a, w₁)) ∨
    ∃ e w₁, Act.catching m function (w.started operation name) = (.ok (.error e), w₁)

namespace Act

variable {α : Type} {m : Machinery} {operation name : String} {given : List Handle}
  {function : Act α} {w : World}

/-- A call whose function returns ends with its value, and with one event for it. -/
theorem measured_run_of_printable (m : Machinery) {verdict : α → Loggable} {a : α}
    {isValid : Document} {w₁ : World} (hn : w.classes.targetName given = .ok name)
    (hf : function (w.started operation name) = (.ok a, w₁)) (hv : verdict a = .data isValid) :
    measured m operation given verdict function w =
      (.ok a, w₁.completed operation (w.beginning name) isValid) := by
  rw [measured_eq, bind_run_of_ok (begin_run operation hn),
    bind_run_of_ok (catching_of_ok m (finish_run_of_printable _ hf hv))]
  rfl

/-- A call whose function fails does about the exception what is to be done, and ends with it. -/
theorem measured_of_found {verdict : α → Loggable} {e : Raised} {w₁ : World}
    (hn : w.classes.targetName given = .ok name)
    (hc : catching m function (w.started operation name) = (.ok (.error e), w₁)) :
    measured m operation given verdict function w = (do
      giveUp m operation (w.beginning name) e
      throw e : Act α) w₁ := by
  obtain ⟨e₀, w₀, hf, hs⟩ := catching_eq_error_iff.1 hc
  have hfails : finish operation verdict function (w.beginning name)
      (w.started operation name) = (.error e₀, w₀) := finish_of_error hf
  have hfinish := catching_eq_error_iff.2 ⟨e₀, w₀, hfails, hs⟩
  rw [measured_eq, bind_run_of_ok (begin_run operation hn), bind_run_of_ok hfinish]

/-- **An observed call** is transparent, and tells of its start and of its end. -/
theorem observed_call (m : Machinery) (operation : String) (isValid : α → Document)
    (hn : w.classes.targetName given = .ok name) :
    ObservedCall m operation isValid function name w
      (measured m operation given (fun a => .data (isValid a)) function w).1
      (measured m operation given (fun a => .data (isValid a)) function w).2 where
  returned a w₁ hf := by
    rw [measured_run_of_printable m hn hf rfl]
    exact ⟨rfl, rfl⟩
  failed e w₁ errorType text w₂ hc he hname htext := by
    rw [measured_of_found hn hc,
      bind_run_of_ok (giveUp_of_named operation (w.beginning name) he hname htext)]
    exact ⟨rfl, rfl⟩
  unprintable e w₁ kind text w₂ hc he hname htext := by
    have hgive : giveUp m operation (w.beginning name) e w₁ =
        (.error (Fault.unprintable kind).raised,
          { w₂ with readings := w₂.readings.afterTime }) := by
      rw [giveUp_run operation _ he, hname, bind_run_of_ok (ofExcept_ok_run _ _),
        bind_run_of_ok htext]
      rfl
    rw [measured_of_found hn hc, bind_run_of_error hgive]
    exact ⟨rfl, rfl⟩
  unnamed e w₁ f hc he hname := by
    have hgive : giveUp m operation (w.beginning name) e w₁ = (.error f.raised, w₁.gauged) := by
      rw [giveUp_run operation _ he, hname, bind_run_of_error (ofExcept_error_run _ _)]
    rw [measured_of_found hn hc, bind_run_of_error hgive]
    exact ⟨rfl, rfl⟩
  mute e w₁ logged e' w₂ hc he hname htext := by
    have hgive : giveUp m operation (w.beginning name) e w₁ = (.error e', w₂) := by
      rw [giveUp_run operation _ he, hname, bind_run_of_ok (ofExcept_ok_run _ _),
        bind_run_of_error htext]
    rw [measured_of_found hn hc, bind_run_of_error hgive]
    exact ⟨rfl, rfl⟩
  signalled e w₁ hc he := by
    rw [measured_of_found hn hc, bind_run_of_ok (giveUp_of_signal m operation _ he)]
    exact ⟨rfl, rfl⟩
  ends := returns_or_fails m function (w.started operation name)

end Act

/-! ## Successive calls -/

/-- A call that is observed. -/
structure Call (α : Type) where
  operation : String
  function : Arguments → Act α
  arguments : Arguments
  /-- What a result says of its validity, if it says anything. -/
  isValid? : α → Option Document

/-- What is logged of the validity of a result. -/
def Call.isValid {α : Type} (c : Call α) (a : α) : Document := (c.isValid? a).getD .null

/-- A call that has been made. -/
structure Called (α : Type) where
  call : Call α
  before : World
  result : Except Raised α
  after : World

namespace Act

variable {α : Type}

/-- Makes an observed call. -/
def call (m : Machinery) (c : Call α) : Act α :=
  observed m c.operation (fun a => .data (c.isValid a)) c.function c.arguments

/-- Makes calls one after the other, each in the world that the one before leaves behind. -/
def callAll (m : Machinery) : List (Call α) → World → List (Called α)
  | [], _ => []
  | c :: rest, w => ⟨c, w, (call m c w).1, (call m c w).2⟩ :: callAll m rest (call m c w).2

/-- **Successive calls** are observed one by one. Each is made of the function with just the
arguments that are given, in the world that the call before leaves behind. -/
theorem observed_calls (m : Machinery) (calls : List (Call α)) (w : World) :
    (callAll m calls w).map Called.call = calls ∧
      (∀ c ∈ (callAll m calls w).head?, c.before = w) ∧
      (callAll m calls w).IsChain (fun c next => next.before = c.after) ∧
      ∀ c ∈ callAll m calls w, ∀ name,
        c.before.classes.targetName c.call.arguments.given = .ok name →
          ObservedCall m c.call.operation c.call.isValid (c.call.function c.call.arguments) name
            c.before c.result c.after := by
  induction calls generalizing w with
  | nil => simp [callAll]
  | cons c rest ih =>
    obtain ⟨hcalls, hhead, hchain, hobserved⟩ := ih (call m c w).2
    simp only [callAll, List.map_cons, List.head?_cons, List.isChain_cons, List.forall_mem_cons,
      Option.mem_some_iff, forall_eq']
    exact ⟨by rw [hcalls], trivial, ⟨hhead, hchain⟩,
      fun name hn => observed_call m c.operation c.isValid hn, hobserved⟩

/-- A call that returns, one that fails and one that is interrupted, one after the other: what they
end with, and how many records there are behind each. -/
theorem observed_calls_successive :
    let raised (l : LibraryClass) : Raised := (Instance.bare l).raised
    let calls : List (Call Nat) := [
      ⟨"a", fun _ => pure 3, ⟨[.ofClass LibraryClass.int], []⟩, fun n => some (.int n)⟩,
      ⟨"b", fun _ => throw (raised .valueError), ⟨[], []⟩, fun _ => none⟩,
      ⟨"c", fun _ => throw (raised .keyboardInterrupt), ⟨[], []⟩, fun _ => none⟩]
    let made := callAll .standard calls (.initial .initial)
    made.map Called.result =
        [.ok 3, .error (raised .valueError), .error (raised .keyboardInterrupt)] ∧
      made.map (·.after.journal.length) = [2, 4, 5] := by
  intro raised calls made
  obtain ⟨-, -, -, hobserved⟩ := observed_calls .standard calls (.initial .initial)
  simp only [made, calls, callAll, List.forall_mem_cons, List.map_cons, List.map_nil]
    at hobserved ⊢
  obtain ⟨hreturns, hfails, hends, -⟩ := hobserved
  -- between the calls, the world is known by its journal
  obtain ⟨hresult₁, hworld₁⟩ := (hreturns "int" rfl).returned 3 _ rfl
  rw [hresult₁]
  generalize (call .standard _ (World.initial .initial)).2 = w₁ at *
  obtain ⟨r₁, j₁, rfl, hj₁⟩ : ∃ readings journal,
      w₁ = { World.initial .initial with readings, journal } ∧ journal.length = 2 :=
    ⟨_, _, hworld₁, rfl⟩
  clear hworld₁
  obtain ⟨hresult₂, hworld₂⟩ := (hfails "unknown" rfl).failed
    (raised .valueError) _ (.str "ValueError") "" _ (catching_of_isSubclass .standard rfl rfl) rfl
    rfl rfl
  rw [hresult₂]
  generalize (call .standard _ _).2 = w₂ at *
  obtain ⟨r₂, j₂, rfl, hj₂⟩ : ∃ readings journal,
      w₂ = { World.initial .initial with readings, journal } ∧ journal.length = j₁.length + 2 :=
    ⟨_, j₁ ++ [_] ++ [_], hworld₂, by simp⟩
  obtain ⟨hresult₃, hworld₃⟩ := (hends "unknown" rfl).signalled
    (raised .keyboardInterrupt) _ (catching_of_isSubclass .standard rfl rfl) rfl
  rw [hresult₃]
  generalize (call .standard _ _).2 = w₃ at *
  have hj₃ : w₃.journal.length = j₂.length + 1 := by
    rw [hworld₃]
    exact List.length_append
  rw [hj₃, hj₂, hj₁]
  exact ⟨rfl, rfl⟩

end Act

/-! ## An exception whose class has no name that can be printed -/

/-- The declaration of a class that has nothing of its own. -/
def Declaration.bare (name : String) : Declaration where
  name := .str name
  qualname := .str name
  module := .str "spec"
  bases := []
  metaclass := none
  isFinal := false
  attributes := []
  methods := []
  creator := none
  initialiser := none
  describer := none
  caller := none
  members := []

namespace Unprintable

/-- A metaclass whose classes have a method for a name. -/
def metaclass : Declaration :=
  { Declaration.bare "M" with
    bases := [.ofClass LibraryClass.type]
    methods := [("__name__", false)] }

/-- A class of ordinary exceptions with this metaclass. -/
def error : Declaration :=
  { Declaration.bare "E" with
    bases := [.ofClass LibraryClass.exception]
    metaclass := some (.ofClass (.declared 0)) }

/-- The world in which both classes are declared. -/
def world : World :=
  ((do discard (metaclass.declare .standard); error.declare .standard) (.initial .initial)).2

/-- An exception of the class. -/
def raised : Raised := (Instance.bare (.declared 1)).raised

/-- A function that fails with it. -/
def function (_ : Arguments) : Act Unit := throw raised

end Unprintable

open Unprintable in
/-- A call that fails with such an exception ends with another one, and tells of its start only. -/
theorem Act.observed_call_unprintable :
    world.classes.targetName [] = .ok "unknown" ∧
      world.classes.isException raised.error.type = true ∧
      (Machinery.standard.textOf raised.error world).1 = .ok "" ∧
      ∃ e w, Act.observed .standard "op" (fun _ => .data .null) function ⟨[], []⟩ world =
          (.error e, w) ∧
        e.error.type ≠ raised.error.type ∧
        w.journal = (world.started "op" "unknown").journal := by
  have htarget : world.classes.targetName [] = .ok "unknown" := rfl
  have hsubclass : Act.isSubclass raised.error.type raised.raisedAs
      (world.started "op" "unknown") = (.ok true, world.started "op" "unknown") := rfl
  have hcall : ObservedCall .standard "op" (fun _ => .null) (function ⟨[], []⟩) "unknown" world
      _ _ := Act.observed_call .standard "op" _ htarget
  obtain ⟨hresult, hworld⟩ := hcall.unprintable raised.settled _ "method" "" _
    (Act.catching_of_isSubclass .standard rfl hsubclass) rfl rfl rfl
  exact ⟨htarget, rfl, rfl, _, _, Prod.ext hresult hworld, nofun, rfl⟩

end UtilityClass
