import UtilityClass.Observation
import UtilityClass.Proofs.Acting

/-!
# Observed calls

What an observed call gives is what the observed function gives, apart from what the journal makes
of it. The call is cut in two for this: its start, which reads the clock and the memory, finds out
what the call is about and logs this, and the rest, in which the function runs. Nothing but readings
and the journal is touched at the start, so the function finds the classes that the call found.

The start fails only where the class that the call is about does not give a name. Behind it, a
function that fails makes the call fail, and one that returns makes it return, if the event for this
can be printed.

## Main definitions

* `Act.begin`, `Act.finish` : the start of an observed call, and the rest
* `World.begun` : the world that the start leaves behind

## Main results

* `Act.measured_fst_eq_ok_iff` : when an observed call returns
* `Act.measured_of_target_error` : a call about something without a name
* `Act.measured_of_settled`, `Act.measured_of_signal` : what becomes of an exception
-/

namespace UtilityClass

namespace Act

variable {α : Type}

/-! ## The two parts of a call -/

/-- What is kept from the start of an observed call. -/
structure Beginning where
  clock : Double
  memory : Double
  correlation : Document
  target : String

/-- The event for the start of a call. -/
def startEvent (operation : String) (correlation : Document) (memory : Double) (name : String) :
    Event :=
  ⟨.str ↑(operation ++ ".started"), correlation,
    .fields [("target", .data (.str name)), ("start_ram_mb", .data (.float memory))],
    .str Event.infoLevel⟩

/-- The start of an observed call. -/
def begin (operation : String) (arguments : List Handle) : Act Beginning := do
  let clock ← readClock
  let memory ← memoryInUse
  let correlation := Document.str (String.ofList ((← takeIdentifier).toList.take 8))
  let name ← target arguments
  log (startEvent operation correlation memory name)
  return ⟨clock, memory, correlation, name⟩

/-- The function of an observed call, and the event for its return. -/
def finish (operation : String) (verdict : α → Loggable) (function : Act α) (b : Beginning) :
    Act α := do
  let value ← function
  let ended ← readClock
  let memory ← memoryInUse
  log ⟨.str ↑(operation ++ ".completed"), b.correlation,
    .fields [("duration_sec", .data (.float ((ended.sub b.clock).roundTo 3))),
      ("end_ram_mb", .data (.float memory)),
      ("ram_delta_mb", .data (.float ((memory.sub b.memory).roundTo 2))),
      ("target", .data (.str b.target)), ("status", .data (.str "success")),
      ("is_valid", verdict value)],
    .str Event.infoLevel⟩
  return value

/-- What an observed call does about an exception of its function: it logs an ordinary one. -/
def giveUp (m : Machinery) (operation : String) (b : Beginning) (e : Raised) : Act Unit := do
  let h ← classes
  if h.isException e.error.type then
    let ended ← readClock
    let memory ← memoryInUse
    let name ← errorName e
    let text ← m.textOf e.error
    log ⟨.str ↑(operation ++ ".failed"), b.correlation,
      .fields [("duration_sec", .data (.float ((ended.sub b.clock).roundTo 3))),
        ("crash_ram_mb", .data (.float memory)), ("target", .data (.str b.target)),
        ("error_type", name),
        ("error_msg", .data (.str text))],
      .str Event.errorLevel⟩

theorem measured_eq (m : Machinery) (operation : String) (arguments : List Handle)
    (verdict : α → Loggable) (function : Act α) :
    measured m operation arguments verdict function = (do
      let b ← begin operation arguments
      match ← catching m (finish operation verdict function b) with
      | .ok value => return value
      | .error e =>
        giveUp m operation b e
        throw e) := by
  simp only [measured, begin, startEvent, finish, bind_assoc, pure_bind]
  refine bind_congr fun clock => bind_congr fun memory => bind_congr fun identifier =>
    bind_congr fun subject => bind_congr fun _ => bind_congr fun result => ?_
  cases result with
  | ok value => rfl
  | error e =>
    simp only [giveUp, bind_assoc]
    refine bind_congr fun h => ?_
    split
    · simp only [bind_assoc]
    · rw [pure_bind]

/-- The memory can always be measured. -/
theorem exists_memoryInUse (w : World) : ∃ amount, (memoryInUse w).1 = .ok amount := by
  rw [memoryInUse, bind_run]
  cases hr : readMemory w with
  | mk r w' =>
    cases r with
    | ok reading => cases reading <;> exact ⟨_, rfl⟩
    | error e => cases hr

/-! ## Taking notes -/

/-- An act does no more than to take readings and to write into the journal. -/
def OnlyNotes (act : Act α) : Prop :=
  ∀ w, ∃ readings journal, (act w).2 = { w with readings, journal }

namespace OnlyNotes

variable {β : Type}

/-- Where such an act returns, this is all that it does. -/
theorem run {act : Act α} (hact : OnlyNotes act) (w : World) (ha : ∃ a, (act w).1 = .ok a) :
    ∃ a readings journal, act w = (.ok a, { w with readings, journal }) := by
  obtain ⟨a, ha⟩ := ha
  obtain ⟨readings, journal, hw⟩ := hact w
  exact ⟨a, readings, journal, Prod.ext ha hw⟩

theorem bind {act : Act α} {f : α → Act β} (hact : OnlyNotes act) (hf : ∀ a, OnlyNotes (f a)) :
    OnlyNotes (act >>= f) := by
  intro w
  obtain ⟨readings, journal, hw⟩ := hact w
  rcases ha : act w with ⟨_ | a, w'⟩
  · rw [bind_run_of_error ha]
    exact ⟨readings, journal, by rw [← hw, ha]⟩
  · obtain ⟨readings', journal', hw'⟩ := hf a w'
    rw [bind_run_of_ok ha, hw']
    obtain rfl : w' = { w with readings, journal } := by rw [← hw, ha]
    exact ⟨readings', journal', rfl⟩

theorem pure (a : α) : OnlyNotes (pure a : Act α) := fun w => ⟨w.readings, w.journal, rfl⟩

theorem readClock : OnlyNotes readClock := fun w => ⟨_, w.journal, rfl⟩

theorem readMemory : OnlyNotes readMemory := fun w => ⟨_, w.journal, rfl⟩

theorem takeIdentifier : OnlyNotes takeIdentifier := fun w => ⟨_, w.journal, rfl⟩

theorem ofExcept (x : Except Fault α) : OnlyNotes (ofExcept x) := by
  intro w
  rw [ofExcept_run]
  exact ⟨w.readings, w.journal, rfl⟩

theorem record (r : Record) : OnlyNotes (record r) := fun w => ⟨w.readings, _, rfl⟩

theorem memoryInUse : OnlyNotes memoryInUse := by
  refine readMemory.bind fun reading => ?_
  cases reading with
  | bytes amount => exact .pure _
  | refused => exact .pure _

theorem log (e : Event) : OnlyNotes (log e) := by
  refine readClock.bind fun time => ?_
  split
  · refine OnlyNotes.bind (fun w => ⟨w.readings, w.journal, rfl⟩) fun w => .record _
  · exact .ofExcept (.error _)

theorem target (arguments : List Handle) : OnlyNotes (target arguments) := by
  unfold Act.target
  split
  · exact OnlyNotes.bind (fun w => ⟨w.readings, w.journal, rfl⟩) fun h => .ofExcept _
  · exact .pure _

theorem begin (operation : String) (arguments : List Handle) :
    OnlyNotes (begin operation arguments) :=
  readClock.bind fun _ => memoryInUse.bind fun _ => takeIdentifier.bind fun _ =>
    (target arguments).bind fun _ => (log _).bind fun _ => .pure _

end OnlyNotes

end Act

/-- Whether a class is one of ordinary exceptions is no matter of the answers that classes keep. -/
theorem Hierarchy.isException_withoutAnswers (h : Hierarchy) (c : ClassId) :
    h.withoutAnswers.isException c = h.isException c := rfl

/-- The name that a call is logged under, which is that of the first class among its arguments. -/
def Hierarchy.targetName (h : Hierarchy) (arguments : List Handle) : Except Fault String :=
  match arguments.findSome? Handle.class? with
  | some c => h.nameText c
  | none => .ok "unknown"

namespace World

/-- The world that the start of an observed call leaves behind. -/
def begun (operation : String) (arguments : List Handle) (w : World) : World :=
  (Act.begin operation arguments w).2

variable (operation : String) (arguments : List Handle) (w : World)

theorem begun_eq : ∃ readings journal, w.begun operation arguments = { w with readings, journal } :=
  Act.OnlyNotes.begin operation arguments w

@[simp] theorem begun_classes : (w.begun operation arguments).classes = w.classes := by
  obtain ⟨readings, journal, hw⟩ := w.begun_eq operation arguments
  rw [hw]

end World

namespace Act

variable {α : Type} {m : Machinery} {operation : String} {arguments : List Handle}
  {verdict : α → Loggable} {function : Act α} {w : World}

theorem target_run (w : World) :
    target arguments w = ofExcept (w.classes.targetName arguments) w := by
  unfold target Hierarchy.targetName
  cases arguments.findSome? Handle.class? <;> rfl

/-- Up to the point where it asks for the name, the start of a call succeeds. -/
theorem exists_begin_run (operation : String) (arguments : List Handle) (w : World) :
    ∃ clock memory correlation readings journal,
      begin operation arguments w = (do
        let name ← target arguments
        log (startEvent operation correlation memory name)
        return ⟨clock, memory, correlation, name⟩ : Act Beginning)
          { w with readings, journal } := by
  obtain ⟨clock, r₁, j₁, hclock⟩ := OnlyNotes.readClock.run w ⟨_, rfl⟩
  obtain ⟨memory, r₂, j₂, hmemory⟩ := OnlyNotes.memoryInUse.run
    { w with readings := r₁, journal := j₁ } (exists_memoryInUse _)
  obtain ⟨identifier, r₃, j₃, hidentifier⟩ := OnlyNotes.takeIdentifier.run
    { w with readings := r₂, journal := j₂ } ⟨_, rfl⟩
  refine ⟨clock, memory, .str (String.ofList (identifier.toList.take 8)), r₃, j₃, ?_⟩
  rw [begin, bind_run_of_ok hclock, bind_run_of_ok hmemory, bind_run_of_ok hidentifier]

theorem begin_of_ok (operation : String) {name : String}
    (hn : w.classes.targetName arguments = .ok name) :
    ∃ b, begin operation arguments w = (.ok b, w.begun operation arguments) := by
  have hb : ∃ b, (begin operation arguments w).1 = .ok b := by
    obtain ⟨clock, memory, correlation, readings, journal, hw⟩ :=
      exists_begin_run operation arguments w
    rw [hw, bind_run, target_run, hn]
    exact ⟨_, rfl⟩
  obtain ⟨b, hb⟩ := hb
  exact ⟨b, Prod.ext hb rfl⟩

theorem begin_of_error {f : Fault} (hn : w.classes.targetName arguments = .error f) :
    (begin operation arguments w).1 = .error f.raised := by
  obtain ⟨clock, memory, correlation, readings, journal, hw⟩ :=
    exists_begin_run operation arguments w
  rw [hw, bind_run, target_run, hn]
  rfl

/-! ## The result of a call -/

theorem finish_of_ok (operation : String) (b : Beginning) {a : α} {w' : World} {value : Document}
    (hf : function w = (.ok a, w')) (hv : verdict a = .data value) :
    ∃ w'', finish operation verdict function b w = (.ok a, w'') := by
  obtain ⟨ended, r₁, j₁, hended⟩ := OnlyNotes.readClock.run w' ⟨_, rfl⟩
  obtain ⟨memory, r₂, j₂, hmemory⟩ := OnlyNotes.memoryInUse.run
    { w' with readings := r₁, journal := j₁ } (exists_memoryInUse _)
  rw [finish, bind_run_of_ok hf, bind_run_of_ok hended, bind_run_of_ok hmemory, hv]
  exact ⟨_, rfl⟩

theorem finish_of_error {b : Beginning} {e : Raised} {w' : World}
    (hf : function w = (.error e, w')) :
    finish operation verdict function b w = (.error e, w') := by
  rw [finish, bind_run_of_error hf]

/-- A call about something that does not give a name fails before the function runs. -/
theorem measured_of_target_error {f : Fault} (hn : w.classes.targetName arguments = .error f) :
    (measured m operation arguments verdict function w).1 = .error f.raised := by
  rw [measured_eq, bind_run_of_error (Prod.ext (begin_of_error hn) rfl)]

theorem measured_of_ok (m : Machinery) {name : String} {a : α} {w' : World} {value : Document}
    (hn : w.classes.targetName arguments = .ok name)
    (hf : function (w.begun operation arguments) = (.ok a, w')) (hv : verdict a = .data value) :
    (measured m operation arguments verdict function w).1 = .ok a := by
  obtain ⟨b, hb⟩ := begin_of_ok operation hn
  obtain ⟨w'', hw⟩ := finish_of_ok operation b hf hv
  rw [measured_eq, bind_run_of_ok hb, bind_run_of_ok (catching_of_ok m hw)]
  rfl

theorem measured_of_error (m : Machinery) (verdict : α → Loggable) {name : String} {e : Raised}
    {w' : World} (hn : w.classes.targetName arguments = .ok name)
    (hf : function (w.begun operation arguments) = (.error e, w')) :
    ∃ e', (measured m operation arguments verdict function w).1 = .error e' := by
  obtain ⟨b, hb⟩ := begin_of_ok operation hn
  obtain ⟨e', w₂, he⟩ := exists_settle m e w'
  rw [measured_eq, bind_run_of_ok hb, bind_run, catching_of_error m (finish_of_error hf),
    bind_run_of_ok he]
  rcases hg : giveUp m operation b e' w₂ with ⟨e'' | _, w₃⟩
  · exact ⟨e'', by simp [bind_run, hg]⟩
  · exact ⟨e', by simp [bind_run, hg]⟩

/-- **An observed call returns** just what the observed function returns, and just if what it is
about gives a name. -/
theorem measured_fst_eq_ok_iff {a : α} (hv : ∀ a, ∃ value, verdict a = .data value) :
    (measured m operation arguments verdict function w).1 = .ok a ↔
      (∃ name, w.classes.targetName arguments = .ok name) ∧
        (function (w.begun operation arguments)).1 = .ok a := by
  rcases hn : w.classes.targetName arguments with f | name
  · simp [measured_of_target_error hn]
  rcases hf : function (w.begun operation arguments) with ⟨e | b, w'⟩
  · obtain ⟨e', he⟩ := measured_of_error m verdict hn hf
    simp [he]
  · obtain ⟨value, hb⟩ := hv b
    simp [measured_of_ok m hn hf hb]

end Act

/-! ## Exceptions that come out as they are -/

/-- An exception as it is found where its class counts as one of the class that was raised. -/
def Raised.settled (e : Raised) : Raised := { e with raisedAs := e.error.type }

namespace Act

variable {α : Type} {m : Machinery} {operation : String} {arguments : List Handle}
  {verdict : α → Loggable} {function : Act α} {e : Raised} {w w₁ w₂ : World}

/-- The class of an exception that counts as one of the class that was raised leaves it as it is. -/
theorem settle_of_isSubclass (m : Machinery)
    (hs : isSubclass e.error.type e.raisedAs w = (.ok true, w₁)) :
    e.settle m w = (.ok e.settled, w₁) := by
  rw [Raised.settle, Raised.settleWithin, bind_run_of_ok (attempt_run _ _), hs]
  rfl

/-- An observed call whose function fails with such an exception logs it and ends with it. -/
theorem measured_of_settled (m : Machinery) (verdict : α → Loggable) {b : Beginning}
    (hb : begin operation arguments w = (.ok b, w.begun operation arguments))
    (hf : function (w.begun operation arguments) = (.error e, w₁))
    (hs : isSubclass e.error.type e.raisedAs w₁ = (.ok true, w₂)) :
    measured m operation arguments verdict function w =
      (do
        giveUp m operation b e.settled
        throw e.settled : Act α) w₂ := by
  have hcatch : catching m (finish operation verdict function b) (w.begun operation arguments) =
      (.ok (.error e.settled), w₂) := by
    rw [catching_of_error m (finish_of_error hf), bind_run_of_ok (settle_of_isSubclass m hs)]
    rfl
  rw [measured_eq, bind_run_of_ok hb, bind_run_of_ok hcatch]

/-- A signal that is no ordinary exception is not logged. -/
theorem giveUp_of_signal (m : Machinery) (operation : String) (b : Beginning)
    (he : w.classes.isException e.error.type = false) :
    giveUp m operation b e w = (.ok (), w) := by
  rw [giveUp, bind_run_of_ok (classes_run w), he]
  rfl

/-- An observed call lets a signal through that is no ordinary exception. -/
theorem measured_of_signal (m : Machinery) (verdict : α → Loggable) {name : String}
    (hn : w.classes.targetName arguments = .ok name)
    (hf : function (w.begun operation arguments) = (.error e, w₁))
    (he : w₁.classes.isException e.error.type = false)
    (hs : (isSubclass e.error.type e.raisedAs w₁).1 = .ok true) :
    (measured m operation arguments verdict function w).1 = .error e.settled := by
  obtain ⟨b, hb⟩ := begin_of_ok operation hn
  have hkeeps : (isSubclass e.error.type e.raisedAs w₁).2.classes.isException e.error.type =
      false := by
    rw [(isSubclass_onlyAsks _ _).run w₁, ← Hierarchy.isException_withoutAnswers,
      (isSubclass_onlyAsks _ _).keeps, Hierarchy.isException_withoutAnswers]
    exact he
  rw [measured_of_settled m verdict hb hf (Prod.ext hs rfl),
    bind_run_of_ok (giveUp_of_signal (e := e.settled) m operation b hkeeps)]
  rfl

end Act

end UtilityClass
