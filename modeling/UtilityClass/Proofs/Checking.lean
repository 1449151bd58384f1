import UtilityClass.Proofs.VerificationTrace

/-!
# Three ways to a verdict

A class is verified by executing the verification, by asking a checker for the report, or by having
a checker verify it. All three execute the verification once and do nothing else, so they leave the
same world behind, with the same records. They differ in how they put the verdict: a report that
lists issues is an exception for whoever verifies, and this exception is raised when the observed
call is over, which has then been logged as completed.

An exception of the verification itself comes out of all three as it is. Over fixed answers it is
never the exception that stands for a verdict, but code of classes may raise this one as well, by
verifying a class.

## Main definitions

* `Checker.Agreement` : what verifying, checking and executing have in common

## Main results

* `Checker.verify_run` : verifying, from executing
* `Checker.agreement` : the three ways agree, and how a checker is made
-/

namespace UtilityClass

/-- What whoever verifies gets, from what the verification ends with. -/
def Report.verdict : Except Raised Report → Except Raised Unit
  | .ok (.ok _) => .ok ()
  | .ok (.failed _ _ message) => .error (.violation message)
  | .error e => .error e

namespace Checker

variable {m : Machinery} {c : Checker} {w : World}

/-! ## The verdict -/

/-- Verifying is executing, apart from how the verdict is put. -/
theorem verify_run (m : Machinery) (c : Checker) (w : World) :
    c.verify m w = (Report.verdict (c.useCase.execute m (.ofClass c.subject) w).1,
      (c.useCase.execute m (.ofClass c.subject) w).2) := by
  rcases hr : c.useCase.execute m (.ofClass c.subject) w with ⟨e | report, w'⟩
  · exact Act.bind_run_of_error hr
  · rw [verify, check, Act.bind_run_of_ok hr]
    cases report <;> rfl

/-- The exception for a verdict has the message of the report for its text. -/
theorem textOf_violation (m : Machinery) (hlibrary : w.classes.KeepsLibrary) (message : String) :
    m.above.textOf (Raised.violation message).error w = (.ok message, w) :=
  hlibrary.textOf_run (l := .utilityClassViolation) List.mem_cons_self m rfl
    (k := .baseException) rfl

/-- Over fixed answers, no exception stands for a verdict that ends the verification itself. -/
theorem ne_violation_of_script {script : Script} {u : UseCase}
    (hu : u.introspector = script.introspector) (hlibrary : w.classes.KeepsLibrary)
    {d : ClassId} {e : Raised} (he : (u.execute m.above (.ofClass d) w).1 = .error e) :
    e.error.type ≠ LibraryClass.utilityClassViolation := by
  have hhabit := Act.isObservedHabit_onlyComplains w.classes.withoutAnswers_of_setting
    (fun v hv => Hierarchy.KeepsLibrary.of_withoutAnswers hv hlibrary) m
  have hcomplains := UseCase.execute_habit hhabit (UseCase.acts_onlyComplains hu w.classes)
    (hhabit.shown_ofClass d)
  exact (hcomplains.fails w e rfl he).ne_violation

/-- What verifying, checking and executing have in common. -/
structure Agreement (m : Machinery) (c : Checker) (w : World) : Prop where
  /-- To check is to execute. -/
  checks : c.check m w = c.useCase.execute m (.ofClass c.subject) w
  /-- To verify leaves the same world behind, and so the same records. -/
  leaves : (c.verify m w).2 = (c.check m w).2
  /-- Verifying ends normally just if the report is good. -/
  returns : (c.verify m w).1 = .ok () ↔ ∃ subject, (c.check m w).1 = .ok (.ok subject)
  /-- A report that lists issues becomes an exception with its message. -/
  violates (subject : QualifiedName) (issues : List String) (message : String) :
    (c.check m w).1 = .ok (.failed subject issues message) →
      (c.verify m w).1 = .error (.violation message)
  /-- This message is the text of the exception. -/
  tells (message : String) : (c.verify m w).2.classes.KeepsLibrary →
    m.textOf (Raised.violation message).error (c.verify m w).2 = (.ok message, (c.verify m w).2)
  /-- An exception of the verification itself comes out as it is. -/
  raises (e : Raised) : (c.check m w).1 = .error e → (c.verify m w).1 = .error e
  /-- There are no other exceptions. -/
  fails (e : Raised) : (c.verify m w).1 = .error e → (c.check m w).1 = .error e ∨
    ∃ subject issues message, (c.check m w).1 = .ok (.failed subject issues message) ∧
      e = .violation message
  /-- Over fixed answers, an exception of the verification itself does not stand for a verdict. -/
  distinct (script : Script) : c.useCase.introspector = script.introspector →
    w.classes.KeepsLibrary → ∀ e, (c.check m w).1 = .error e →
      e.error.type ≠ LibraryClass.utilityClassViolation
  /-- Where there is a report, the last record is that of a call that has completed, whether the
  report is good or not. -/
  logs (report : Report) : (c.check m w).1 = .ok report → ∃ own w₁,
    w.classes.nameText c.subject = .ok own ∧
      c.useCase.examine (.ofClass c.subject) (w.started verification own) = (.ok report, w₁) ∧
      (c.verify m w).2 =
        w₁.completed verification (w.beginning own) (.bool report.isValid)

/-- A report is returned when the call has completed. -/
theorem completed_of_report {u : UseCase} {d : ClassId} {report : Report}
    (hr : (u.execute m (.ofClass d) w).1 = .ok report) : ∃ own w₁,
      w.classes.nameText d = .ok own ∧
      u.examine (.ofClass d) (w.started verification own) = (.ok report, w₁) ∧
      (u.execute m (.ofClass d) w).2 =
        w₁.completed verification (w.beginning own) (.bool report.isValid) := by
  obtain ⟨⟨own, hown⟩, hexamine⟩ := (Act.measured_fst_eq_ok_iff fun _ => ⟨_, rfl⟩).1 hr
  have htarget : w.classes.targetName [.ofClass d] = .ok own := hown
  have hexamine : (u.examine (.ofClass d) (w.started verification own)).1 = .ok report := by
    rw [← Act.begun_eq_started htarget]
    exact hexamine
  have hcall : ObservedCall m verification (fun report => .bool (Report.isValid report))
      (u.examine (.ofClass d)) own w (u.execute m (.ofClass d) w).1
      (u.execute m (.ofClass d) w).2 := Act.observed_call m verification _ htarget
  have hrun : u.examine (.ofClass d) (w.started verification own) = (.ok report, _) :=
    Prod.ext hexamine rfl
  exact ⟨own, _, hown, hrun, (hcall.returned report _ hrun).2⟩

theorem agrees (m : Machinery) (c : Checker) (w : World) : Agreement m.above c w where
  checks := rfl
  leaves := by
    rw [verify_run]
    rfl
  returns := by
    rw [verify_run, check]
    rcases (c.useCase.execute m.above (.ofClass c.subject) w).1 with e | report
    · simp [Report.verdict]
    · cases report <;> simp [Report.verdict]
  violates subject issues message hr := by
    rw [check] at hr
    rw [verify_run, hr]
    rfl
  tells message hlibrary := textOf_violation m hlibrary message
  raises e hr := by
    rw [check] at hr
    rw [verify_run, hr]
    rfl
  fails e he := by
    rw [verify_run] at he
    rw [check]
    rcases hr : (c.useCase.execute m.above (.ofClass c.subject) w).1 with e' | report <;>
      rw [hr] at he
    · cases he
      exact .inl rfl
    · cases report with
      | ok subject => cases he
      | failed subject issues message =>
        cases he
        exact .inr ⟨subject, issues, message, rfl, rfl⟩
  distinct script hu hlibrary e he := ne_violation_of_script hu hlibrary he
  logs report hr := by
    rw [verify_run]
    exact completed_of_report hr

/-! ## Making a checker -/

/-- What is made of a subject and of a blocking exception. The latter is looked at first. -/
structure Making (m : Machinery) (w : World) (s blocking : Handle) : Prop where
  /-- A blocking exception that is no class of ordinary exceptions is refused as a value, -/
  unfit (text : String) (w' : World) :
    (∀ b, blocking = .ofClass b → w.classes.isException b = false) →
      blocking.shown w = (.ok text, w') →
        forClass m s blocking w = (.error (Fault.notBlocking text).raised, w') ∧
          (Fault.notBlocking text).raised.error.type = LibraryClass.valueError
  /-- unless it cannot be shown. -/
  unfitUnshown (e : Raised) (w' : World) :
    (∀ b, blocking = .ofClass b → w.classes.isException b = false) →
      blocking.shown w = (.error e, w') → forClass m s blocking w = (.error e, w')
  /-- If only the subject is no class, its type is wrong, -/
  notClass (b : ClassId) (shown : Act String) (text : String) (w' : World) :
    blocking = .ofClass b → w.classes.isException b = true → s = .value shown →
      shown w = (.ok text, w') →
        forClass m s blocking w = (.error (Fault.notAClass text).raised, w') ∧
          (Fault.notAClass text).raised.error.type = LibraryClass.typeError
  /-- unless it cannot be shown. -/
  notClassUnshown (b : ClassId) (shown : Act String) (e : Raised) (w' : World) :
    blocking = .ofClass b → w.classes.isException b = true → s = .value shown →
      shown w = (.error e, w') → forClass m s blocking w = (.error e, w')
  /-- Otherwise the checker looks at the classes themselves. -/
  makes (b d : ClassId) : blocking = .ofClass b → w.classes.isException b = true →
    s = .ofClass d →
      forClass m s blocking w = (.ok ⟨d, ⟨Reflection.introspector m, ⟨b⟩⟩⟩, w)

theorem making (m : Machinery) (w : World) (s blocking : Handle) : Making m w s blocking where
  unfit text w' hb ht := by
    rw [forClass_of_unfit hb, Handle.refuse_of_ok ht]
    exact ⟨rfl, rfl⟩
  unfitUnshown e w' hb he := by
    rw [forClass_of_unfit hb, Handle.refuse_of_error he]
  notClass b shown text w' hblocking hb hs ht := by
    rw [hblocking, hs, forClass_of_isException hb, make_value, Handle.refuse_of_ok ht]
    exact ⟨rfl, rfl⟩
  notClassUnshown b shown e w' hblocking hb hs he := by
    rw [hblocking, hs, forClass_of_isException hb, make_value, Handle.refuse_of_error he]
  makes b d hblocking hb hs := by
    rw [hblocking, hs, forClass_run hb]

/-- Plain data is a subject that is no class. If it cannot be shown, it is not complained of. -/
theorem forClass_of_unshown {value : Json} {f : Fault} (hf : value.shown = .error f) {b : ClassId}
    {w : World} (hb : w.classes.isException b = true) :
    forClass m (Value.data value) (.ofClass b) w = (.error f.raised, w) := by
  have hshown : Act.ofExcept value.shown w = (.error f.raised, w) := by
    rw [hf, Act.ofExcept_error_run]
  exact (making m w _ _).notClassUnshown b _ _ _ rfl hb (Value.handle_data value) hshown

/-- **The three ways to a verdict agree**, for each class, introspector and policy; and a checker is
made just of a class and a class of ordinary exceptions. -/
theorem agreement (n : Nat) :
    (∀ (c : Checker) (w : World), Agreement (.level (n + 1)) c w) ∧
      ∀ (w : World) (s blocking : Handle), Making (.level (n + 1)) w s blocking :=
  ⟨agrees (.level n), making (.level (n + 1))⟩

/-- A checker over fixed answers, which construct the root class with the given outcome. -/
def ofOutcome (outcome : Outcome) : Checker :=
  ⟨LibraryClass.object, ⟨(Script.make none [] outcome).introspector, .standard⟩⟩

/-- A good report and one with an issue, over fixed answers; and checkers asked for with a value in
each place, and with classes in both. -/
theorem agreement_ofOutcome :
    let m := Machinery.level 1
    let w := World.initial .initial
    ((ofOutcome Script.blocked).verify m w).1 = .ok () ∧
      (∃ message, ((ofOutcome .noDefaultConstructor).verify m w).1 =
          .error (.violation message) ∧
        (m.textOf (Raised.violation message).error
          ((ofOutcome .noDefaultConstructor).verify m w).2).1 = .ok message) ∧
      forClass m (Value.data .null) (Value.data (.int 3)) w =
        (.error (Fault.notBlocking "3").raised, w) ∧
      forClass m (Value.data .null) (.ofClass LibraryClass.typeError) w =
        (.error (Fault.notAClass "None").raised, w) ∧
      forClass m (.ofClass LibraryClass.int) (.ofClass LibraryClass.typeError) w =
        (.ok ⟨LibraryClass.int, ⟨Reflection.introspector m, .standard⟩⟩, w) := by
  intro m w
  obtain ⟨hagrees, hmaking⟩ := agreement 0
  have hgood : ((ofOutcome Script.blocked).check m w).1 = .ok (.ok ⟨.str "fake", .str "Holder"⟩) :=
    rfl
  have hbad : ∃ subject issues message, ((ofOutcome .noDefaultConstructor).check m w).1 =
      .ok (.failed subject issues message) := ⟨_, _, _, rfl⟩
  have hlibrary : ((ofOutcome .noDefaultConstructor).verify m w).2.classes.KeepsLibrary :=
    Hierarchy.keepsLibrary_initial
  have hexception : w.classes.isException LibraryClass.typeError = true := rfl
  obtain ⟨subject, issues, message, hbad⟩ := hbad
  refine ⟨(hagrees _ w).returns.2 ⟨_, hgood⟩, ⟨message, ?_, ?_⟩, ?_, ?_, ?_⟩
  · exact (hagrees _ w).violates subject issues message hbad
  · rw [(hagrees _ w).tells message hlibrary]
  · exact ((hmaking w _ _).unfit "3" w (by rintro b ⟨⟩) rfl).1
  · exact ((hmaking w _ _).notClass _ _ "None" w rfl hexception rfl rfl).1
  · exact (hmaking w _ _).makes _ _ rfl hexception rfl

end Checker

/-! ## Code of classes that has a say -/

namespace Outspoken

/-- A metaclass whose classes are shown by a method that gives no text. -/
def metaclass : Declaration :=
  { Declaration.bare "M" with
    bases := [.ofClass LibraryClass.type]
    methods := [("__repr__", false)] }

/-- A class that cannot be shown. -/
def silent : Declaration :=
  { Declaration.bare "B" with metaclass := some (.ofClass (.declared 0)) }

/-- A class of exceptions whose text is given by verifying a class that is no utility class. -/
def error : Declaration :=
  { Declaration.bare "E" with
    bases := [.ofClass LibraryClass.exception]
    describer := some [.verify (.ofClass LibraryClass.int)] }

/-- The initialising function of a utility class, which fails with such an exception. -/
def initialiser : FunctionDraft where
  form := .plain
  outer := {
    parameters := [.bare .plain "self"]
    result := none
    marker := some (.bool true)
    signatureValue := none }
  inner := []
  marksWrapper := false
  body := [.raise (.ofClass (.declared 2)) (some [.str "x"])]

/-- A utility class with this function. -/
def utility : Declaration :=
  { Declaration.bare "A" with
    isFinal := true
    initialiser := some (.function initialiser) }

/-- The world in which all of these are declared. -/
def world : World :=
  ((do
    discard (metaclass.declare .standard)
    discard (silent.declare .standard)
    discard (error.declare .standard)
    utility.declare .standard) (.initial .initial)).2

/-- An integer with more digits than are shown. -/
def long : Json := .int (Nat.pow 10 Json.digitLimit)

theorem long_unshown :
    ∃ f, long.shown = .error f ∧ f.raised.error.type = LibraryClass.valueError := by
  have hlong : long.isShowable = false := by decide +kernel
  rw [Json.shown, hlong]
  exact ⟨_, rfl, rfl⟩

/-- The checker of the utility class. -/
def checker : Checker := ⟨.declared 3, ⟨Reflection.introspector .standard, .standard⟩⟩

end Outspoken

open Outspoken in
/-- A class that cannot be shown is refused with a complaint about this, and so is a subject that is
too long an integer. A verification may end with the exception that stands for a verdict, if the
text of another exception is given by verifying another class. -/
theorem Checker.agreement_outspoken :
    (world.classes.isException (.declared 1) = false ∧
      ∃ e, (forClass .standard (.ofClass LibraryClass.int) (.ofClass (.declared 1)) world).1 =
        .error e ∧ e.error.type = LibraryClass.typeError) ∧
      (world.classes.isException LibraryClass.typeError = true ∧
        ∃ e, (forClass .standard (Value.data long) (.ofClass LibraryClass.typeError) world).1 =
            .error e ∧
          e.error.type = LibraryClass.valueError) ∧
      ∃ e, (checker.check .standard world).1 = .error e ∧
        (checker.verify .standard world).1 = .error e ∧
        e.error.type = LibraryClass.utilityClassViolation := by
  have hunfit : world.classes.isException (.declared 1) = false := by decide +kernel
  have hmute : (match (Handle.ofClass (.declared 1)).shown world with
      | (.error e, _) => some e.error.type
      | (.ok _, _) => none) = some (.library .typeError) := by decide +kernel
  have hexception : world.classes.isException LibraryClass.typeError = true := by decide +kernel
  have htype : (match (checker.check .standard world).1 with
      | .error e => some e.error.type
      | .ok _ => none) = some (.library .utilityClassViolation) := by decide +kernel
  refine ⟨⟨hunfit, ?_⟩, ⟨hexception, ?_⟩, ?_⟩
  · rcases hs : (Handle.ofClass (.declared 1)).shown world with ⟨e | text, w⟩ <;> rw [hs] at hmute
    · have hmade := (making .standard world (.ofClass LibraryClass.int) _).unfitUnshown e w
        (by rintro b ⟨⟩; exact hunfit) hs
      exact ⟨e, congrArg Prod.fst hmade, Option.some.inj hmute⟩
    · cases hmute
  · obtain ⟨f, hf, hvalue⟩ := long_unshown
    exact ⟨f.raised, congrArg Prod.fst (forClass_of_unshown hf hexception), hvalue⟩
  · rcases hr : (checker.check .standard world).1 with e | report
    · rw [hr] at htype
      exact ⟨e, rfl, (agrees _ checker world).raises e hr, Option.some.inj htype⟩
    · rw [hr] at htype
      cases htype

end UtilityClass
