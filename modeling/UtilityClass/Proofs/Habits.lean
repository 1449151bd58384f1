import UtilityClass.Proofs.Diagnosis
import UtilityClass.Proofs.Handed
import UtilityClass.Session

/-!
# Habits of verifications

Apart from what it asks its introspector and the blocking class, a verification only reads results
and puts remarks into the journal, one after the other, and all of this within one observed call. So
it takes over each property of acts that these acts have and that sequences keep, if the answers
have it that it asks for. This is shown here once, for whatever property.

## Main definitions

* `Act.IsHabit`, `Act.IsObservedHabit` : the properties that verifications take over
* `Introspector.Acts`, `UseCase.Acts` : all that is asked has a property

## Main results

* `UseCase.examine_habit`, `UseCase.execute_habit`, `Checker.verify_habit`, `UseCase.ask_habit`
-/

namespace UtilityClass

/-- A property that the acts have of which a verification consists besides asking, and that
sequences keep. -/
structure Act.IsHabit (P : ∀ {α : Type}, Act α → Prop) : Prop where
  ofExcept {α : Type} (x : Except Fault α) : P (ofExcept x)
  classes : P classes
  record (r : Record) : P (record r)
  bind {α β : Type} {act : Act α} {f : α → Act β} : P act → (∀ a, P (f a)) → P (act >>= f)

/-- Such a property, if observed calls keep it as well. -/
structure Act.IsObservedHabit (m : Machinery) (P : ∀ {α : Type}, Act α → Prop) : Prop
    extends IsHabit P where
  measured {α : Type} {act : Act α} (operation : String) (arguments : List Handle)
    (verdict : α → Loggable) : P act → P (measured m operation arguments verdict act)

/-- The answers of an introspector have a property, if showing what it is asked about has it. -/
structure Introspector.Acts (P : ∀ {α : Type}, Act α → Prop) (i : Introspector) : Prop where
  describe {s : Handle} : P s.shown → P (i.describe s)
  constructors {s : Handle} : P s.shown → P (i.constructors s)
  invoke {s : Handle} : P s.shown → P (i.invoke s)

/-- All that a verification asks has a property. -/
structure UseCase.Acts (P : ∀ {α : Type}, Act α → Prop) (u : UseCase) : Prop
    extends u.introspector.Acts P where
  isSubclass (c : ClassId) : P (Act.isSubclass c u.policy.blocking)

variable {P : ∀ {α : Type}, Act α → Prop}

namespace Act.IsHabit

variable (hP : Act.IsHabit P) {α : Type}
include hP

theorem pure (a : α) : P (pure a : Act α) := hP.ofExcept (.ok a)

theorem fail (f : Fault) : P (fail f : Act α) := hP.ofExcept (.error f)

theorem ofName (x : Except NameError α) : P (ofName x) := by
  cases x with
  | ok a => exact hP.pure a
  | error e => exact hP.fail _

theorem shown_ofClass (c : ClassId) : P (Handle.ofClass c).shown :=
  hP.bind hP.classes fun _ => hP.ofExcept _

/-- Values of which is known what they are only ask for the classes. -/
theorem shown (v : Value) : P v.handle.shown := by
  cases v <;> exact hP.bind hP.classes fun _ => hP.ofExcept _

theorem refuse (complaint : String → Fault) {shown : Act String} (hs : P shown) :
    P (Handle.refuse complaint shown : Act α) :=
  hP.bind hs fun _ => hP.fail _

theorem require (complaint : String → Fault) {s : Handle} (hs : P s.shown) :
    P (s.require complaint) := by
  cases s with
  | ofClass c => exact hP.pure c
  | value shown => exact hP.refuse complaint hs

end Act.IsHabit

namespace UseCase

section Examine

variable (hP : Act.IsHabit P) {u : UseCase} (hu : u.Acts P)
include hP hu

theorem isBlocked_habit (outcome : Outcome) : P (u.isBlocked outcome) := by
  cases outcome with
  | failedWith error message =>
    refine hP.bind hP.classes fun h => ?_
    split
    · exact hu.isSubclass _
    · exact hP.bind (hP.ofExcept _) fun _ => hP.pure false
    · exact hP.fail _
  | _ => exact hP.pure false

theorem checkConstructors_habit {s : Handle} (hs : P s.shown) (r : Run) :
    P (u.checkConstructors s r) := by
  refine hP.bind (hu.constructors hs) fun list => hP.bind (hP.ofExcept _) fun r =>
    hP.bind (hP.ofExcept _) fun r => hP.bind hP.classes fun h => hP.bind (hP.ofExcept _) fun q =>
    hP.bind (hu.invoke hs) fun outcome => hP.bind (isBlocked_habit hP hu outcome) fun _ => ?_
  exact hP.bind hP.classes fun _ => hP.ofExcept _

omit hu in
theorem close_habit (run : Run) : P (close run) :=
  hP.bind (hP.ofExcept _) fun _ => hP.bind (hP.ofName _) fun _ =>
    hP.bind (hP.record _) fun _ => hP.pure _

theorem examine_habit {s : Handle} (hs : P s.shown) : P (u.examine s) := by
  cases s with
  | value shown =>
    rw [examine_value]
    exact hP.refuse _ hs
  | ofClass c =>
    show P (u.introspector.describe (.ofClass c) >>= _)
    refine hP.bind (hu.describe hs) fun d => hP.bind (hP.ofName _) fun name =>
      hP.bind (hP.record _) fun _ => hP.bind (hP.ofExcept _) fun (run, concrete) => ?_
    cases concrete with
    | true => exact hP.bind (checkConstructors_habit hP hu hs run) (close_habit hP)
    | false => exact hP.bind (hP.pure run) (close_habit hP)

end Examine

theorem execute_habit {m : Machinery} (hP : Act.IsObservedHabit m P) {u : UseCase}
    (hu : u.Acts P) {s : Handle} (hs : P s.shown) : P (u.execute m s) :=
  hP.measured _ _ _ (examine_habit hP.toIsHabit hu hs)

end UseCase

theorem VerificationPolicy.make_habit (hP : Act.IsHabit P) {b : Handle} (hb : P b.shown) :
    P (make b) := by
  refine hP.bind hP.classes fun h => ?_
  split
  · exact hP.pure _
  · exact hP.refuse _ hb

namespace Checker

variable {m : Machinery}

theorem verify_habit (hP : Act.IsHabit P) {c : Checker} (hcheck : P (c.check m))
    (hviolation : ∀ message, P (throw (.violation message) : Act Unit)) : P (c.verify m) := by
  refine hP.bind hcheck fun report => ?_
  cases report with
  | ok subject => exact hP.pure ()
  | failed subject issues message => exact hviolation message

end Checker

/-! ## Sessions -/

namespace UseCase

variable (m : Machinery) (u : UseCase) (v : Value)

/-- A checker is made of a class, and its report is that of an execution. -/
theorem ask_check : u.ask m (.check v) =
    (do return .report (← u.execute m (.ofClass (← v.handle.require .notAClass)))) := by
  simp only [ask, Checker.make, bind_assoc, pure_bind]
  rfl

theorem ask_verify : u.ask m (.verify v) = (do
    (Checker.mk (← v.handle.require .notAClass) u).verify m
    return .valid) := by
  simp only [ask, Checker.make, bind_assoc, pure_bind]

theorem ask_bind : u.ask m (.bind v) =
    v.handle.require .notAClass >>= fun _ => pure .bound := by
  simp only [ask, Checker.make, discard, Functor.discard, map_const, Function.comp_apply,
    map_eq_pure_bind, bind_assoc, pure_bind]

variable {m u}

theorem ask_habit (hP : Act.IsHabit P) (hu : u.introspector.Acts P)
    (hexecutes : ∀ v : Value, P (u.execute m v))
    (hviolation : ∀ message, P (throw (.violation message) : Act Unit)) (q : Question) :
    P (u.ask m q) := by
  cases q with
  | describe v => exact hP.bind (hu.describe (hP.shown v)) fun _ => hP.pure _
  | constructors v => exact hP.bind (hu.constructors (hP.shown v)) fun _ => hP.pure _
  | invoke v => exact hP.bind (hu.invoke (hP.shown v)) fun _ => hP.pure _
  | execute v => exact hP.bind (hexecutes v) fun _ => hP.pure _
  | check v =>
    rw [ask_check]
    exact hP.bind (hP.require _ (hP.shown v)) fun c =>
      hP.bind (hexecutes (.ofClass c)) fun _ => hP.pure _
  | verify v =>
    rw [ask_verify]
    refine hP.bind (hP.require _ (hP.shown v)) fun c => ?_
    exact hP.bind (Checker.verify_habit hP (hexecutes (.ofClass c)) hviolation) fun _ =>
      hP.pure _
  | bind v =>
    rw [ask_bind]
    exact hP.bind (hP.require _ (hP.shown v)) fun _ => hP.pure _
  | extend => exact hP.bind (hu.constructors (hP.shown_ofClass _)) fun _ => hP.pure _

end UseCase

end UtilityClass
