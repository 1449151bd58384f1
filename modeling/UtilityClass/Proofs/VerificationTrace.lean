import UtilityClass.Proofs.CallTrace
import UtilityClass.Proofs.DiscreetMachinery
import UtilityClass.Proofs.LibraryErrors
import UtilityClass.Proofs.Verdict

/-!
# The trace of a verification

A verification puts remarks into the journal, and is observed: there is an event for its start, a
remark when the class has been described, one on the verdict, and an event for its return. Where an
exception ends it, an event for this is the last record, and there is no verdict.

Code of classes may run in between, and it may verify classes itself, so its records stand between
those of the verification. It is run in three places only: when the class is constructed, when the
exception is found that has been raised, and when the text of this exception is read. Where the
answers about the class are fixed, and nobody has changed the library, no such code is run, and the
records of the verification are all that there are.

## Main definitions

* `Introspector.LogsConstructing` : code of classes is run for constructing them only
* `UseCase.remarks` : what is logged before the verdict
* `VerificationTrace` : the ways in which a verification ends, with what it adds to the journal
* `ScriptedTrace` : the same over fixed answers

## Main results

* `UseCase.execute_traced` : the trace over any introspector of this kind
* `UseCase.execute_trace` : the trace over the classes themselves, and over fixed answers
-/

namespace UtilityClass

/-! ## Records -/

namespace World

/-- Between two worlds, records have been added to the journal. -/
structure Adds (w : World) (records : List Record) (w' : World) : Prop where
  journal : w'.journal = w.journal ++ records
  layout : w'.layout = w.layout

variable {w w' w'' : World}

theorem Adds.trans {records more : List Record} (h : w.Adds records w') (h' : w'.Adds more w'') :
    w.Adds (records ++ more) w'' :=
  ⟨by rw [h'.journal, h.journal, List.append_assoc], h'.layout.trans h.layout⟩

theorem Adds.refl (w : World) : w.Adds [] w := ⟨(List.append_nil _).symm, rfl⟩

end World

namespace Act

variable {α β : Type}

/-- What an act adds to the journal of a world. -/
def noted (act : Act α) (w : World) : List Record := (act w).2.journal.drop w.journal.length

/-- An act that leaves the world as it is adds nothing. -/
theorem noted_of_run {act : Act α} {w : World} {result : Except Raised α}
    (hact : act w = (result, w)) : noted act w = [] := by
  rw [noted, hact, List.drop_length]

theorem OnlyAdds.adds {act : Act α} (hact : OnlyAdds act) (w : World) :
    w.Adds (noted act w) (act w).2 := by
  obtain ⟨more, hmore⟩ := (hact w).journal
  refine ⟨?_, (hact w).layout⟩
  rw [noted, hmore, List.drop_left]

theorem OnlyAsks.adds {act : Act α} (hact : OnlyAsks act) (w : World) : w.Adds [] (act w).2 := by
  rw [hact.run w]
  exact ⟨(List.append_nil _).symm, rfl⟩

end Act

/-! ## Remarks -/

/-- The remark with which the verification of a class begins. -/
def openingRemark (d : TypeDescriptor) (name : String) : Record :=
  .remark ("Verificando " ++ name ++ " (" ++ d.classification.word ++ ")")

/-- The remark on the verdict. -/
def verdictRemark (name : String) (count : Nat) : Record :=
  .remark ("Veredicto para " ++ name ++ ": " ++ intText count ++ " issue(s)")

/-- Whatever an introspector answers, it is only for constructing the class that code of classes is
run, and so only then that something is logged. -/
structure Introspector.LogsConstructing (i : Introspector) : Prop where
  describe (c : ClassId) (w : World) : w.Adds [] (i.describe (.ofClass c) w).2
  constructors (c : ClassId) (w : World) : w.Adds [] (i.constructors (.ofClass c) w).2
  invoke (c : ClassId) (w : World) :
    w.Adds (Act.noted (i.invoke (.ofClass c)) w) (i.invoke (.ofClass c) w).2

theorem Reflection.introspector_logsConstructing {m : Machinery} (hm : m.IsDiscreet) :
    (introspector m).LogsConstructing where
  describe c w := (describe_onlyAsks c).adds w
  constructors c w := (constructors_onlyAsks c).adds w
  invoke c w := (invoke_isDiscreet hm (Act.isHabit_isDiscreet.shown_ofClass c)).adds.adds w

theorem Script.introspector_logsConstructing (script : Script) :
    script.introspector.LogsConstructing where
  describe _ w := ⟨(List.append_nil _).symm, rfl⟩
  constructors _ w := ⟨(List.append_nil _).symm, rfl⟩
  invoke _ w := ⟨by
    show w.journal = w.journal ++ w.journal.drop w.journal.length
    rw [List.drop_length, List.append_nil], rfl⟩

namespace UseCase

open Act (bind_run_of_ok bind_run_of_error)

variable (u : UseCase) (s : Handle)

/-- What is logged by code of the class when its constructors are checked: this is done in the order
of listing them, asking for the name of the blocking class, and constructing the class. -/
def constructing (w : World) : List Record :=
  match u.introspector.constructors s w with
  | (.ok _, listed) =>
    match listed.classes.nameOf u.policy.blocking with
    | .ok _ => Act.noted (u.introspector.invoke s) listed
    | .error _ => []
  | (.error _, _) => []

/-- What is logged in a verification before its verdict. -/
def remarks (w : World) : List Record :=
  match u.introspector.describe s w with
  | (.ok d, described) =>
    match d.name.text with
    | .ok name => openingRemark d name ::
      if d.isConcrete then u.constructing s (remarked d name described) else []
    | .error _ => []
  | (.error _, _) => []

variable {u} (hu : u.introspector.LogsConstructing) {c : ClassId} {d : TypeDescriptor}
  {name : String} {w w' : World}
include hu

theorem checkConstructors_adds {r : Run} (hn : r.subject.name.text = .ok name)
    (hr : r.concluded = false) (w : World) :
    w.Adds (u.constructing (.ofClass c) w) (u.checkConstructors (.ofClass c) r w).2 := by
  have hlist := hu.constructors c w
  rcases hcs : u.introspector.constructors (.ofClass c) w with ⟨f | cs, w₁⟩ <;>
    rw [hcs] at hlist <;> simp only [constructing, hcs]
  · rw [checkConstructors, bind_run_of_error hcs]
    exact hlist
  rcases hq : w₁.classes.nameOf u.policy.blocking with f | q
  · have harguments := Run.checkArguments_eq (r := r.adding (privacyIssues cs)) hn hr cs
    rw [checkConstructors, bind_run_of_ok hcs, Run.checkPrivate_eq hr,
      bind_run_of_ok (Act.ofExcept_ok_run _ _), harguments,
      bind_run_of_ok (Act.ofExcept_ok_run _ _), bind_run_of_ok (Act.classes_run _), hq,
      bind_run_of_error (Act.ofExcept_error_run _ _)]
    exact hlist
  · have hinvoke := hlist.trans (hu.invoke c w₁)
    rw [checkConstructors_of_listed hn hr hcs hq]
    rcases hinv : u.introspector.invoke (.ofClass c) w₁ with ⟨e | outcome, w₂⟩ <;>
      rw [hinv] at hinvoke
    · rw [bind_run_of_error hinv]
      exact hinvoke
    · rw [bind_run_of_ok hinv, ← List.append_nil (Act.noted _ _)]
      exact hinvoke.trans ((u.judge_onlyAsks q outcome _).adds w₂)

theorem checkFurther_adds (hn : d.name.text = .ok name) (w : World) :
    w.Adds (if d.isConcrete then u.constructing (.ofClass c) w else [])
      (u.checkFurther (.ofClass c) d name w).2 := by
  unfold checkFurther
  split
  · exact checkConstructors_adds hu hn rfl w
  · exact .refl w

/-- A verification of a class that returns a report. -/
theorem examine_of_report {report : Report}
    (he : u.examine (.ofClass c) w = (.ok report, w')) :
    ∃ d described name, u.introspector.describe (.ofClass c) w = (.ok d, described) ∧
      d.name.text = .ok name ∧
      (report.isValid = true ↔ report.issues.length = 0) ∧
      w.Adds (u.remarks (.ofClass c) w ++ [verdictRemark name report.issues.length]) w' := by
  obtain ⟨d, w₁, name, hd, hn⟩ := exists_descriptor_of_examine rfl (congrArg Prod.fst he)
  have hdescribe := hu.describe c w
  rw [hd] at hdescribe
  have hfurther := checkFurther_adds hu (c := c) hn (remarked d name w₁)
  rw [examine_run rfl hd hn] at he
  obtain ⟨r, w₂, hr, hclose⟩ := Act.bind_eq_ok_iff.1 he
  obtain ⟨issues, rfl⟩ := exists_adding_of_checkFurther hn hr
  rw [hr] at hfurther
  rw [close_eq hn issues w₂] at hclose
  cases hclose
  have hissues := Run.issues_verdict d name issues
  refine ⟨d, w₁, name, hd, hn, ?_, ?_⟩
  · rw [isValid_verdict_iff, hissues, List.length_eq_zero_iff]
  · simp only [remarks, hd, hn, hissues]
    have hopening : w₁.Adds [openingRemark d name] (remarked d name w₁) := ⟨rfl, rfl⟩
    have hverdict : w₂.Adds [verdictRemark name issues.length] { w₂ with
        journal := w₂.journal ++ [verdictRemark name issues.length] } := ⟨rfl, rfl⟩
    exact ((hdescribe.trans hopening).trans hfurther).trans hverdict

/-- A verification of a class that fails. -/
theorem examine_of_failure {e : Raised} (he : u.examine (.ofClass c) w = (.error e, w')) :
    w.Adds (u.remarks (.ofClass c) w) w' := by
  have hdescribe := hu.describe c w
  rcases hd : u.introspector.describe (.ofClass c) w with ⟨f | d, w₁⟩ <;> rw [hd] at hdescribe <;>
    simp only [remarks, hd]
  · change (u.introspector.describe (.ofClass c) >>= _) w = _ at he
    obtain ⟨-, rfl⟩ := Prod.mk.inj ((bind_run_of_error hd).symm.trans he)
    exact hdescribe
  rcases hn : d.name.text with f | name
  · have hname : Act.ofName d.name.text w₁ = (.error (Fault.name f).raised, w₁) := by rw [hn]; rfl
    change (u.introspector.describe (.ofClass c) >>= _) w = _ at he
    obtain ⟨-, rfl⟩ := Prod.mk.inj
      (((bind_run_of_ok hd).trans (bind_run_of_error hname)).symm.trans he)
    exact hdescribe
  · have hopening : w₁.Adds [openingRemark d name] (remarked d name w₁) := ⟨rfl, rfl⟩
    have hfurther := (hdescribe.trans hopening).trans (checkFurther_adds hu (c := c) hn _)
    rw [examine_run rfl hd hn] at he
    rcases hr : u.checkFurther (.ofClass c) d name (remarked d name w₁) with ⟨f | r, w₂⟩ <;>
      rw [hr] at hfurther
    · obtain ⟨-, rfl⟩ := Prod.mk.inj ((bind_run_of_error hr).symm.trans he)
      exact hfurther
    · obtain ⟨issues, rfl⟩ := exists_adding_of_checkFurther hn hr
      rw [bind_run_of_ok hr, close_eq hn issues w₂] at he
      cases he

end UseCase

/-! ## The trace -/

/-- The operation under which verifications are observed. -/
def verification : String := "verify_utility_class"

/-- The event for the start of a verification. -/
def startRecord (own : String) (w : World) : Record :=
  (Notice.started verification (w.beginning own)).record (w.beginning own).correlation
    w.readings.afterTime.afterMemory.afterIdentifier.time w.layout

/-- The ways in which the verification of a class ends that names itself `own`, and what it adds to
the journal. The events share the identifier and the target that the start has found. Besides the
records of the verification there are those of code of classes that it runs: to construct the class,
to find the exception that has been raised, and to read its text. -/
inductive VerificationTrace (m : Machinery) (u : UseCase) (c : ClassId) (own : String)
    (w : World) : Except Raised Report → List Record → Prop
  /-- A report is returned. -/
  | reported {d : TypeDescriptor} {described w₁ : World} {name : String} {report : Report}
      (returns : u.examine (.ofClass c) (w.started verification own) = (.ok report, w₁))
      (describes : u.introspector.describe (.ofClass c) (w.started verification own) =
        (.ok d, described))
      (names : d.name.text = .ok name)
      (counts : report.isValid = true ↔ report.issues.length = 0) :
      VerificationTrace m u c own w (.ok report)
        ([startRecord own w, openingRemark d name] ++
          (if d.isConcrete then
            u.constructing (.ofClass c) (UseCase.remarked d name described) else []) ++
          [verdictRemark name report.issues.length,
            (Notice.completed verification (w.beginning own) w₁.readings.time
              w₁.readings.afterTime.memoryInUse (.bool report.isValid)).record
              (w.beginning own).correlation w₁.gauged.readings.time w.layout])
  /-- An ordinary exception is found, the name of its class can be printed, and it has a text. -/
  | failed {raised e : Raised} {w₁ w₂ w₃ : World} {errorType : Document} {text : String}
      (fails : u.examine (.ofClass c) (w.started verification own) = (.error raised, w₁))
      (finds : raised.settle m w₁ = (.ok e, w₂))
      (ordinary : w₂.classes.isException e.error.type = true)
      (names : w₂.classes.loggedName e.error.type = .ok (.data errorType))
      (tells : m.textOf e.error w₂.gauged = (.ok text, w₃)) :
      VerificationTrace m u c own w (.error e)
        (startRecord own w :: u.remarks (.ofClass c) (w.started verification own) ++
          (raised.settle m).noted w₁ ++ (m.textOf e.error).noted w₂.gauged ++
          [(Notice.failed verification (w.beginning own) w₂.readings.time
            w₂.readings.afterTime.memoryInUse errorType text).record
            (w.beginning own).correlation w₃.readings.time w.layout])
  /-- A signal is found that is no ordinary exception. -/
  | signalled {raised e : Raised} {w₁ w₂ : World}
      (fails : u.examine (.ofClass c) (w.started verification own) = (.error raised, w₁))
      (finds : raised.settle m w₁ = (.ok e, w₂))
      (signal : w₂.classes.isException e.error.type = false) :
      VerificationTrace m u c own w (.error e)
        (startRecord own w :: u.remarks (.ofClass c) (w.started verification own) ++
          (raised.settle m).noted w₁)
  /-- An ordinary exception is found about which cannot be told, and what is complained of then
  comes out in its place. -/
  | untold {raised e e' : Raised} {w₁ w₂ : World} {rest : List Record}
      (fails : u.examine (.ofClass c) (w.started verification own) = (.error raised, w₁))
      (finds : raised.settle m w₁ = (.ok e, w₂))
      (ordinary : w₂.classes.isException e.error.type = true)
      (untold : (∀ errorType, w₂.classes.loggedName e.error.type ≠ .ok (.data errorType)) ∨
        ∀ text, (m.textOf e.error w₂.gauged).1 ≠ .ok text)
      (tells : rest = [] ∨ rest = (m.textOf e.error).noted w₂.gauged) :
      VerificationTrace m u c own w (.error e')
        (startRecord own w :: u.remarks (.ofClass c) (w.started verification own) ++
          (raised.settle m).noted w₁ ++ rest)

namespace UseCase

variable {m : Machinery} {u : UseCase} {c : ClassId} {own : String} {w w₁ w₂ w' : World}
  {raised e : Raised} {result : Except Raised Report}

theorem adds_started (own : String) (w : World) :
    w.Adds [startRecord own w] (w.started verification own) := ⟨rfl, rfl⟩

/-- What has been added to the journal when an exception is found that ends a verification. -/
theorem found_adds (hm : m.IsDiscreet) (hu : u.introspector.LogsConstructing)
    (fails : u.examine (.ofClass c) (w.started verification own) = (.error raised, w₁))
    (finds : raised.settle m w₁ = (.ok e, w₂)) :
    w.Adds (startRecord own w :: u.remarks (.ofClass c) (w.started verification own) ++
      (raised.settle m).noted w₁) w₂ := by
  have hsettle := (Act.settle_isDiscreet hm raised).adds.adds w₁
  rw [finds] at hsettle
  exact ((adds_started own w).trans (examine_of_failure hu fails)).trans hsettle

/-- The trace of a verification that returns. -/
theorem traced_of_report (hu : u.introspector.LogsConstructing) {report : Report}
    (hcall : ObservedCall m verification (fun report => .bool (Report.isValid report))
      (u.examine (.ofClass c)) own w result w')
    (returns : u.examine (.ofClass c) (w.started verification own) = (.ok report, w₁)) :
    ∃ records, w.Adds records w' ∧ VerificationTrace m u c own w result records := by
  obtain ⟨rfl, rfl⟩ := hcall.returned report w₁ returns
  obtain ⟨d, described, name, hd, hn, hcounts, hexamine⟩ := examine_of_report hu returns
  have hverdict := (adds_started own w).trans hexamine
  have hcompleted : w₁.Adds [_] (w₁.completed verification (w.beginning own)
    (.bool report.isValid)) := ⟨rfl, rfl⟩
  rw [show w₁.gauged.layout = w.layout from hverdict.layout] at hcompleted
  have htotal := hverdict.trans hcompleted
  simp only [remarks, hd, hn] at htotal
  refine ⟨_, ?_, .reported returns hd hn hcounts⟩
  simpa using htotal

/-- The trace of a verification that an exception ends. What is told of the exception depends on
whether it is an ordinary one, and on what can be said about it. -/
theorem traced_of_found (hm : m.IsDiscreet) (hu : u.introspector.LogsConstructing)
    (hcall : ObservedCall m verification (fun report => .bool (Report.isValid report))
      (u.examine (.ofClass c)) own w result w')
    (fails : u.examine (.ofClass c) (w.started verification own) = (.error raised, w₁))
    (finds : raised.settle m w₁ = (.ok e, w₂)) :
    ∃ records, w.Adds records w' ∧ VerificationTrace m u c own w result records := by
  have hfound := found_adds hm hu fails finds
  have hcaught := Act.catching_eq_error_iff.2 ⟨raised, w₁, fails, finds⟩
  cases hordinary : w₂.classes.isException e.error.type with
  | false =>
    obtain ⟨rfl, rfl⟩ := hcall.signalled e w₂ hcaught hordinary
    exact ⟨_, hfound, .signalled fails finds hordinary⟩
  | true =>
    have hgauged : w₂.Adds [] w₂.gauged := ⟨(List.append_nil _).symm, rfl⟩
    have htext := (hm.textOf e.error).adds.adds w₂.gauged
    cases hname : w₂.classes.loggedName e.error.type with
    | error f =>
      obtain ⟨rfl, rfl⟩ := hcall.unnamed e w₂ f hcaught hordinary hname
      exact ⟨_, hfound.trans hgauged,
        .untold fails finds hordinary (.inl (by simp [hname])) (.inl rfl)⟩
    | ok logged =>
      rcases htells : m.textOf e.error w₂.gauged with ⟨e' | text, w₃⟩ <;> rw [htells] at htext
      · obtain ⟨rfl, rfl⟩ := hcall.mute e w₂ logged e' w₃ hcaught hordinary hname htells
        exact ⟨_, hfound.trans (hgauged.trans htext),
          .untold fails finds hordinary (.inr (by simp [htells])) (.inr rfl)⟩
      · cases logged with
        | unprintable kind =>
          obtain ⟨rfl, rfl⟩ :=
            hcall.unprintable e w₂ kind text w₃ hcaught hordinary hname htells
          have hread : w₃.Adds [] { w₃ with readings := w₃.readings.afterTime } :=
            ⟨(List.append_nil _).symm, rfl⟩
          have htotal := hfound.trans (hgauged.trans (htext.trans hread))
          rw [List.append_nil] at htotal
          exact ⟨_, htotal, .untold fails finds hordinary (.inl (by simp [hname])) (.inr rfl)⟩
        | data errorType =>
          obtain ⟨rfl, rfl⟩ := hcall.failed e w₂ errorType text w₃ hcaught hordinary hname htells
          have htold := hfound.trans (hgauged.trans htext)
          have hfailed : w₃.Adds [_]
              (w₂.failed verification (w.beginning own) errorType text w₃) := ⟨rfl, rfl⟩
          rw [htold.layout] at hfailed
          exact ⟨_, htold.trans hfailed, .failed fails finds hordinary hname htells⟩

/-- **The trace of a verification**, for an introspector that lets code of classes run only for
constructing the class. -/
theorem execute_traced (hm : m.IsDiscreet) (hu : u.introspector.LogsConstructing)
    (hown : w.classes.nameText c = .ok own) :
    ∃ records, w.Adds records (u.execute m (.ofClass c) w).2 ∧
      VerificationTrace m u c own w (u.execute m (.ofClass c) w).1 records := by
  have hcall : ObservedCall m verification (fun report => .bool (Report.isValid report))
      (u.examine (.ofClass c)) own w (u.execute m (.ofClass c) w).1
      (u.execute m (.ofClass c) w).2 := Act.observed_call m verification _ hown
  rcases hf : u.examine (.ofClass c) (w.started verification own) with ⟨raised | report, w₁⟩
  · obtain ⟨e, w₂, finds⟩ := Act.exists_settle m raised w₁
    exact traced_of_found hm hu hcall hf finds
  · exact traced_of_report hu hcall hf

end UseCase

/-! ## Fixed answers -/

/-- The ways in which a verification over fixed answers ends, as long as nobody has changed the
library. No code of classes runs then, and the journal has the records of the verification alone. -/
inductive ScriptedTrace (m : Machinery) (script : Script) (own name : String) (w : World) :
    Except Raised Report → List Record → Prop
  | reported {report : Report} (ended memory sent : Double)
      (counts : report.isValid = true ↔ report.issues.length = 0) :
      ScriptedTrace m script own name w (.ok report)
        [startRecord own w, openingRemark script.descriptor name,
          verdictRemark name report.issues.length,
          (Notice.completed verification (w.beginning own) ended memory
            (.bool report.isValid)).record (w.beginning own).correlation sent w.layout]
  | failed {e : Raised} {text : String} (ended memory sent : Double)
      (ordinary : w.classes.isException e.error.type = true)
      (tells : m.textOf e.error w = (.ok text, w)) :
      ScriptedTrace m script own name w (.error e)
        [startRecord own w, openingRemark script.descriptor name,
          (Notice.failed verification (w.beginning own) ended memory
            (.str (w.classes.info e.error.type).name) text).record
            (w.beginning own).correlation sent w.layout]

namespace UseCase

variable {m : Machinery} {u : UseCase} {script : Script} {c : ClassId} {own name : String}
  {w : World} {result : Except Raised Report} {records : List Record}

theorem constructing_of_script (hu : u.introspector = script.introspector) (s : Handle)
    (w : World) : u.constructing s w = [] := by
  simp only [constructing, hu]
  split
  · split
    · exact List.drop_length
    · rfl
  · rfl

theorem remarks_of_script (hu : u.introspector = script.introspector)
    (hn : script.descriptor.name.text = .ok name) (s : Handle) (w : World) :
    u.remarks s w = [openingRemark script.descriptor name] := by
  have hdescribe : u.introspector.describe s w = (.ok script.descriptor,
      { w with tally := { w.tally with describe := w.tally.describe + 1 } }) := by
    rw [hu]
    rfl
  simp only [remarks, hdescribe, hn, constructing_of_script hu, ite_self]

/-- What is known of a verification over fixed answers when an exception ends it: it is found as it
is, and it is known what is told of it. -/
theorem found_of_script (hu : u.introspector = script.introspector)
    (hlibrary : w.classes.KeepsLibrary) {raised e : Raised} {w₁ w₂ : World}
    (fails : u.examine (.ofClass c) (w.started verification own) = (.error raised, w₁))
    (finds : raised.settle m w₁ = (.ok e, w₂)) :
    e.IsOfFault ∧ e = raised ∧ w₂ = w₁ ∧ w₁.classes.KeepsLibrary ∧
      w₁.classes.withoutAnswers = w.classes.withoutAnswers := by
  have hhabit := Act.isHabit_onlyComplains w.classes.withoutAnswers_of_setting
  have hcomplains := examine_habit hhabit (acts_onlyComplains hu w.classes)
    (hhabit.shown_ofClass c)
  have hfault := hcomplains.fails (w.started verification own) raised rfl (by rw [fails])
  have hkeeps : w₁.classes.withoutAnswers = w.classes.withoutAnswers := by
    have h := hcomplains.keeps (w.started verification own) rfl
    rwa [fails] at h
  have hlibrary₁ := Hierarchy.KeepsLibrary.of_withoutAnswers hkeeps hlibrary
  rw [hfault.settle_run hlibrary₁] at finds
  cases finds
  exact ⟨hfault, rfl, rfl, hlibrary₁, hkeeps⟩

/-- The trace of a verification over fixed answers. -/
theorem scriptedTrace_of_trace (hu : u.introspector = script.introspector)
    (hn : script.descriptor.name.text = .ok name) (hlibrary : w.classes.KeepsLibrary)
    (ht : VerificationTrace m.above u c own w result records) :
    ScriptedTrace m.above script own name w result records := by
  cases ht with
  | reported returns describes names counts =>
    rw [hu] at describes
    cases describes
    obtain rfl := Except.ok.inj (hn.symm.trans names)
    simp only [constructing_of_script hu, ite_self]
    exact .reported _ _ _ counts
  | failed fails finds ordinary names tells =>
    obtain ⟨hfault, rfl, rfl, hlibrary₁, hkeeps⟩ := found_of_script hu hlibrary fails finds
    obtain ⟨text, htext⟩ := hfault.exists_textOf_run m
    have hgauged : m.above.textOf _ _ = _ := htext (World.gauged _) hlibrary₁
    have hname := hfault.loggedName_eq hlibrary₁
    rw [Hierarchy.name_of_withoutAnswers hkeeps] at hname
    cases hname.symm.trans names
    cases hgauged.symm.trans tells
    rw [remarks_of_script hu hn, Act.noted_of_run finds, Act.noted_of_run hgauged]
    exact .failed _ _ _ (hfault.isException_eq hlibrary) (htext w hlibrary)
  | signalled fails finds signal =>
    obtain ⟨hfault, rfl, rfl, hlibrary₁, -⟩ := found_of_script hu hlibrary fails finds
    rw [hfault.isException_eq hlibrary₁] at signal
    cases signal
  | untold fails finds ordinary untold tells =>
    obtain ⟨hfault, rfl, rfl, hlibrary₁, -⟩ := found_of_script hu hlibrary fails finds
    obtain ⟨text, htext⟩ := hfault.exists_textOf_run m
    obtain hname | hmute := untold
    · exact absurd (hfault.loggedName_eq hlibrary₁) (hname _)
    · exact absurd (congrArg Prod.fst (htext (World.gauged _) hlibrary₁)) (hmute text)

end UseCase

/-! ## Verifications -/

/-- **The trace of a verification** of a class that gives a name. The verification looks at the
classes themselves, and then the remarks are about the name that the events have for a target, or it
takes fixed answers. -/
theorem UseCase.execute_trace (n : Nat) {u : UseCase}
    (hu : u.introspector = Reflection.introspector (.level (n + 1)) ∨
      ∃ script : Script, u.introspector = script.introspector)
    {c : ClassId} {own : String} {w : World} (hown : w.classes.nameText c = .ok own) :
    ∃ records,
      (u.execute (.level (n + 1)) (.ofClass c) w).2.journal = w.journal ++ records ∧
      VerificationTrace (.level (n + 1)) u c own w
        (u.execute (.level (n + 1)) (.ofClass c) w).1 records ∧
      (u.introspector = Reflection.introspector (.level (n + 1)) → ∀ d described,
        u.introspector.describe (.ofClass c) (w.started verification own) = (.ok d, described) →
          d.name.text = .ok own) ∧
      ∀ (script : Script) (name : String), u.introspector = script.introspector →
        script.descriptor.name.text = .ok name → w.classes.KeepsLibrary →
          ScriptedTrace (.level (n + 1)) script own name w
            (u.execute (.level (n + 1)) (.ofClass c) w).1 records := by
  have hm := Machinery.level_isDiscreet (n + 1)
  have hlogs : u.introspector.LogsConstructing := by
    obtain hu | ⟨script, hu⟩ := hu <;> rw [hu]
    · exact Reflection.introspector_logsConstructing hm
    · exact script.introspector_logsConstructing
  obtain ⟨records, hadds, htrace⟩ := execute_traced hm hlogs hown
  refine ⟨records, hadds.journal, htrace, fun hreflects d described hd => ?_,
    fun script name hscript hn hlibrary => scriptedTrace_of_trace hscript hn hlibrary htrace⟩
  rw [hreflects] at hd
  obtain ⟨hdescription, -⟩ := Act.ofExcept_eq_ok_iff.1 hd
  exact (Hierarchy.text_name_of_description hdescription).2 hown

/-- Once with the classes themselves, and once with the answers that are fixed if none are given. -/
theorem UseCase.execute_trace_object :
    (∃ records, VerificationTrace (.level 1)
      ⟨Reflection.introspector (.level 1), ⟨LibraryClass.typeError⟩⟩
      LibraryClass.object "object" (.initial .initial)
      ((UseCase.mk (Reflection.introspector (.level 1)) ⟨LibraryClass.typeError⟩).execute
        (.level 1) (.ofClass LibraryClass.object) (.initial .initial)).1 records) ∧
      ∃ records, ScriptedTrace (.level 1) (.make none [] Script.blocked)
        "object" "fake.Holder" (.initial .initial)
        ((UseCase.mk (Script.make none [] Script.blocked).introspector
          ⟨LibraryClass.typeError⟩).execute (.level 1)
            (.ofClass LibraryClass.object) (.initial .initial)).1 records := by
  have hown : (World.initial .initial).classes.nameText LibraryClass.object =
      .ok "object" := rfl
  obtain ⟨reflected, -, htrace, -⟩ := execute_trace 0
    (u := ⟨Reflection.introspector (.level 1), ⟨LibraryClass.typeError⟩⟩) (.inl rfl) hown
  obtain ⟨scripted, -, -, -, hscripted⟩ := execute_trace 0
    (u := ⟨(Script.make none [] Script.blocked).introspector, ⟨LibraryClass.typeError⟩⟩)
    (.inr ⟨_, rfl⟩) hown
  exact ⟨⟨reflected, htrace⟩, scripted, hscripted _ _ rfl rfl Hierarchy.keepsLibrary_initial⟩

/-! ## A class whose constructor verifies another one -/

namespace Nested

/-- The initialising function of a utility class, which verifies another one before it raises an
exception. -/
def initialiser : FunctionDraft where
  form := .plain
  outer := {
    parameters := [.bare .plain "self"]
    result := none
    marker := some (.bool true)
    signatureValue := none }
  inner := []
  marksWrapper := false
  body := [.verify (.ofClass LibraryClass.utilClassVerifier),
    .raise (.ofClass LibraryClass.typeError) none]

/-- A utility class with this function. -/
def utility : Declaration :=
  { Declaration.bare "A" with
    isFinal := true
    initialiser := some (.function initialiser) }

/-- The world in which it is declared. -/
def world : World := (utility.declare .standard (.initial .initial)).2

end Nested

open Nested in
/-- The verification returns a good report, and there are more records than the four that it puts
into the journal itself. -/
theorem UseCase.execute_trace_nested :
    world.classes.nameText (.declared 0) = .ok "spec.A" ∧ world.journal = [] ∧
      ∃ report w, (UseCase.mk (Reflection.introspector .standard)
          ⟨LibraryClass.typeError⟩).execute .standard (.ofClass (.declared 0)) world =
            (.ok report, w) ∧
        report.isValid = true ∧ w.journal.length = 8 := by
  have hvalid : ((UseCase.mk (Reflection.introspector .standard)
      ⟨LibraryClass.typeError⟩).execute .standard (.ofClass (.declared 0)) world).1.toOption.map
        Report.isValid = some true := by decide +kernel
  have hlength : ((UseCase.mk (Reflection.introspector .standard)
      ⟨LibraryClass.typeError⟩).execute .standard (.ofClass (.declared 0)) world).2.journal.length =
        8 := by decide +kernel
  refine ⟨rfl, rfl, ?_⟩
  rcases hr : (UseCase.mk (Reflection.introspector .standard)
    ⟨LibraryClass.typeError⟩).execute .standard (.ofClass (.declared 0)) world with ⟨e | report, w⟩
  · rw [hr] at hvalid
    cases hvalid
  · rw [hr] at hvalid hlength
    exact ⟨report, w, rfl, Option.some.inj hvalid, hlength⟩

end UtilityClass
