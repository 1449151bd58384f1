import UtilityClass.Proofs.Diagnosis

/-!
# Verifications that return

A verification returns a report just if each of its steps does: the class gives itself a name, the
introspector describes it, and if it is a concrete class, the introspector lists its constructors
and constructs it, the question about the exception is answered, and each name that goes into an
issue has a text. No other name is needed: a failure with a blocking exception is no issue, so the
name of its class does not matter.

The steps are read off the runs of the verification in both directions, so that nothing is lost: the
condition is exact.

## Main definitions

* `Outcome.IsReportable` : the names that the judgement of an outcome needs have texts

## Main results

* `Run.exists_checkOutcome_iff` : when the check of the construction succeeds
* `UseCase.checkFurther_eq_ok_iff` : what the checks of the constructors have seen
* `UseCase.exists_execute_iff` : when a verification returns a report
-/

namespace UtilityClass

open Result

/-! ## Issues that can be written -/

/-- A subject has a name, and the name has a text. -/
def Subject.IsNameable (h : Hierarchy) (s : Subject) : Prop :=
  ∃ q text, s.name h = .ok q ∧ q.text = .ok text

/-- Each name that the judgement of an outcome puts into an issue has a text. -/
def Outcome.IsReportable (h : Hierarchy) (blocking : QualifiedName) (isBlocking : Bool) :
    Outcome → Prop
  | .noDefaultConstructor => True
  | .constructed _ => ∃ text, blocking.text = .ok text
  | .failedWith error _ =>
    isBlocking = true ∨ (∃ text, blocking.text = .ok text) ∧ error.IsNameable h
  | .accessRefused error _ => error.IsNameable h
  | .unknown _ => False

theorem Outcome.isReportable_withoutAnswers {h : Hierarchy} {blocking : QualifiedName}
    {isBlocking : Bool} {outcome : Outcome} :
    outcome.IsReportable h.withoutAnswers blocking isBlocking ↔
      outcome.IsReportable h blocking isBlocking := by
  cases outcome <;> simp only [IsReportable, Subject.IsNameable, Subject.name_withoutAnswers]

namespace Run

open Template (Argument counting)

variable {r : Run} {name : String}

theorem exists_text_name_iff {q : QualifiedName} :
    (∃ shown, (Argument.name q).text = .ok shown) ↔ ∃ text, q.text = .ok text := by
  simp only [Argument.text, mapError_eq_ok_iff]

/-- An open run takes an issue just if each argument of its template has a text. -/
theorem exists_addIssue_iff (hr : r.concluded = false) {template lead : String}
    {texts : List String} (ht : template = counting lead texts) {held : List Argument}
    (hl : held.length = texts.length) :
    (∃ next, r.addIssue template held = .ok next) ↔
      ∀ a ∈ held, ∃ shown, a.text = .ok shown := by
  rw [← Template.exists_fill_counting_iff hl, ← ht]
  constructor
  · rintro ⟨next, hadd⟩
    obtain ⟨-, text, hfill, -⟩ := addIssue_eq_ok hadd
    exact ⟨text, hfill⟩
  · rintro ⟨text, hfill⟩
    exact ⟨_, addIssue_of_filled hr hfill⟩

/-- The check of the construction succeeds just if what it reports can be written. -/
theorem exists_checkOutcome_iff (hn : r.subject.name.text = .ok name) (hr : r.concluded = false)
    {h : Hierarchy} {blocking : QualifiedName} {outcome : Outcome} {isBlocking : Bool} :
    (∃ next, r.checkOutcome h blocking outcome isBlocking = .ok next) ↔
      outcome.IsReportable h blocking isBlocking := by
  have hname : ∃ shown, (Argument.name r.subject.name).text = .ok shown :=
    exists_text_name_iff.2 ⟨name, hn⟩
  cases outcome with
  | noDefaultConstructor =>
    rw [checkOutcome, exists_addIssue_iff hr Issue.noDefault_eq rfl]
    simpa [Outcome.IsReportable] using hname
  | constructed made =>
    rw [checkOutcome, exists_addIssue_iff hr Issue.notBlocked_eq rfl]
    simp [Outcome.IsReportable, hname, exists_text_name_iff]
  | failedWith error message =>
    cases isBlocking with
    | true => exact ⟨fun _ => .inl rfl, fun _ => ⟨r, rfl⟩⟩
    | false =>
      have hadd (kind : QualifiedName) (text : String) :
          (∃ next, r.addIssue Issue.wrongException [.name r.subject.name, .name blocking,
            .name kind, .data (.str text)] = .ok next) ↔
              (∃ text, blocking.text = .ok text) ∧ ∃ text, kind.text = .ok text := by
        rw [exists_addIssue_iff hr Issue.wrongException_eq rfl]
        have hmessage : ∃ shown, (Argument.data (.str text)).text = .ok shown := ⟨text, rfl⟩
        simp [hname, hmessage, exists_text_name_iff]
      have hcheck : (∃ next, r.checkOutcome h blocking (.failedWith error message) false =
          .ok next) ↔ ∃ kind, error.name h = .ok kind ∧ ∃ next, r.addIssue Issue.wrongException
            [.name r.subject.name, .name blocking, .name kind,
              .data (.str (message.getD Issue.nullMessage))] = .ok next := exists_bind_iff
      simp only [hcheck, hadd, Outcome.IsReportable, Subject.IsNameable, Bool.false_eq_true,
        false_or]
      constructor
      · rintro ⟨kind, hk, hb, text, ht⟩
        exact ⟨hb, kind, text, hk, ht⟩
      · rintro ⟨hb, kind, text, hk, ht⟩
        exact ⟨kind, hk, hb, text, ht⟩
  | accessRefused error message =>
    have hadd (kind : QualifiedName) :
        (∃ next, r.addIssue Issue.unexpectedFailure [.name kind, .name r.subject.name] =
          .ok next) ↔ ∃ text, kind.text = .ok text := by
      rw [exists_addIssue_iff hr Issue.unexpectedFailure_eq rfl]
      simp [hname, exists_text_name_iff]
    have hcheck : (∃ next, r.checkOutcome h blocking (.accessRefused error message) isBlocking =
        .ok next) ↔ ∃ kind, error.name h = .ok kind ∧ ∃ next, r.addIssue Issue.unexpectedFailure
          [.name kind, .name r.subject.name] = .ok next := exists_bind_iff
    simp only [hcheck, hadd, Outcome.IsReportable, Subject.IsNameable, exists_and_left]
  | unknown value =>
    constructor
    · rintro ⟨next, hc⟩
      cases hc
    · exact False.elim

/-- A check of the construction that succeeds finds a failure with a blocking exception, or adds an
issue. -/
theorem checkOutcome_eq_ok {r next : Run} {h : Hierarchy} {blocking : QualifiedName}
    {outcome : Outcome} {isBlocking : Bool}
    (hc : r.checkOutcome h blocking outcome isBlocking = .ok next) :
    (next = r ∧ isBlocking = true ∧ ∃ error message, outcome = .failedWith error message) ∨
      ∃ text, next = r.adding [text] := by
  have hadd {template : String} {arguments : List Template.Argument}
      (ha : r.addIssue template arguments = .ok next) : ∃ text, next = r.adding [text] := by
    obtain ⟨-, text, -, rfl⟩ := addIssue_eq_ok ha
    exact ⟨text, rfl⟩
  cases outcome with
  | constructed made => exact .inr (hadd hc)
  | noDefaultConstructor => exact .inr (hadd hc)
  | failedWith error message =>
    cases isBlocking with
    | true =>
      cases hc
      exact .inl ⟨rfl, rfl, error, message, rfl⟩
    | false =>
      obtain ⟨kind, -, ha⟩ := bind_eq_ok_iff.1 hc
      exact .inr (hadd ha)
  | accessRefused error message =>
    obtain ⟨kind, -, ha⟩ := bind_eq_ok_iff.1 hc
    exact .inr (hadd ha)
  | unknown value => cases hc

/-- What a check of the construction adds that succeeds is the same for every run on the class. -/
theorem exists_checkOutcome_eq (hn : r.subject.name.text = .ok name) (hr : r.concluded = false)
    {next : Run} {h : Hierarchy} {q : QualifiedName} {outcome : Outcome} {isBlocking : Bool}
    (hc : r.checkOutcome h q outcome isBlocking = .ok next) :
    ∃ blocking kind, ∀ r' : Run, r'.subject = r.subject → r'.concluded = false →
      r'.checkOutcome h q outcome isBlocking =
        .ok (r'.adding (outcomeIssues name blocking kind isBlocking outcome)) := by
  have hreport := (exists_checkOutcome_iff hn hr).1 ⟨next, hc⟩
  have hname {r' : Run} (hs : r'.subject = r.subject) : r'.subject.name.text = .ok name := by
    rw [hs]
    exact hn
  cases outcome with
  | noDefaultConstructor =>
    exact ⟨"", "", fun r' hs hr' => addIssue_name (hname hs) hr' Issue.noDefault_eq⟩
  | constructed made =>
    obtain ⟨blocking, hb⟩ := hreport
    exact ⟨blocking, "", fun r' hs hr' => checkOutcome_eq (hname hs) hr' hb nofun rfl⟩
  | failedWith error message =>
    obtain rfl | ⟨⟨blocking, hb⟩, k, kind, hk, hkind⟩ := hreport
    · refine ⟨"", "", fun r' hs hr' => ?_⟩
      simp [checkOutcome, outcomeIssues]
      rfl
    · refine ⟨blocking, kind, fun r' hs hr' => checkOutcome_eq (hname hs) hr' hb ?_ rfl⟩
      rintro error' he
      cases he
      exact ⟨k, hk, hkind⟩
  | accessRefused error message =>
    obtain ⟨k, kind, hk, hkind⟩ := hreport
    refine ⟨"", kind, fun r' hs hr' => ?_⟩
    have hadd := addIssue_counting hr' Issue.unexpectedFailure_eq
      [.ofName hkind "] while invoking default constructor on class [", .ofName (hname hs) "]."]
      rfl
    simpa [Template.Slot.ofName, String.append_assoc, outcomeIssues, checkOutcome, hk, bind,
      Except.bind] using hadd
  | unknown value => exact hreport.elim

end Run

/-! ## Verifications -/

/-- Of the class of an exception it is asked whether it derives from the blocking one. -/
theorem VerificationPolicy.isBlocking_ofClass (p : VerificationPolicy) (c : ClassId) (w : World) :
    p.isBlocking (.ofClass c) w = Act.isSubclass c p.blocking w := by
  rw [isBlocking, Act.bind_run_of_ok (Act.classes_run w)]

namespace UseCase

open Act (bind_run_of_ok bind_run_of_error bind_fst_eq_ok_iff)

variable {u : UseCase} {m : Machinery} {c : ClassId} {s : Handle} {d : TypeDescriptor}
  {name : String} {w w' : World}

/-- The steps of the checks behind the one of the class if they succeed on a concrete class, each
in the world that the one before leaves behind. -/
theorem checkFurther_eq_ok_iff (hn : d.name.text = .ok name) (hconcrete : d.isConcrete = true)
    {next : Run} :
    u.checkFurther s d name w = (.ok next, w') ↔
      ∃ cs w₁ q outcome w₂ isBlocking,
        u.introspector.constructors s w = (.ok cs, w₁) ∧
        w₁.classes.nameOf u.policy.blocking = .ok q ∧
        u.introspector.invoke s w₁ = (.ok outcome, w₂) ∧
        u.isBlocked outcome w₂ = (.ok isBlocking, w') ∧
        ((Run.start d).adding (classIssues d name ++ (privacyIssues cs ++
          argumentIssues name cs))).checkOutcome w'.classes q outcome isBlocking = .ok next := by
  rw [checkFurther_of_concrete hconcrete]
  constructor
  · intro hr
    simp only [checkConstructors, Act.bind_eq_ok_iff, Act.ofExcept_eq_ok_iff] at hr
    obtain ⟨cs, w₁, hcs, r₁, _, ⟨hprivate, rfl⟩, r₂, _, ⟨harguments, rfl⟩, h, _, hh, q, _,
      ⟨hq, rfl⟩, outcome, w₂, hinv, isBlocking, w₃, hb, h', _, hh', ho, rfl⟩ := hr
    cases hh
    cases hh'
    rw [Run.checkPrivate_eq rfl] at hprivate
    cases hprivate
    rw [Run.checkArguments_eq hn rfl, Run.adding_adding, Run.adding_adding] at harguments
    cases harguments
    exact ⟨cs, _, q, outcome, w₂, isBlocking, hcs, hq, hinv, hb, ho⟩
  · rintro ⟨cs, w₁, q, outcome, w₂, isBlocking, hcs, hq, hinv, hb, ho⟩
    rw [checkConstructors_run hn rfl hcs hq hinv, judge, bind_run_of_ok hb,
      bind_run_of_ok (Act.classes_run _), Run.adding_adding, ho, Act.ofExcept_ok_run]

/-- The checks add issues to the run that they begin with. -/
theorem exists_adding_of_checkFurther (hn : d.name.text = .ok name) {r : Run}
    (hr : u.checkFurther s d name w = (.ok r, w')) : ∃ issues, r = (Run.start d).adding issues := by
  cases hconcrete : d.isConcrete with
  | false =>
    rw [checkFurther_of_barred hconcrete] at hr
    cases hr
    exact ⟨_, rfl⟩
  | true =>
    obtain ⟨cs, w₁, q, outcome, w₂, isBlocking, -, -, -, -, ho⟩ :=
      (checkFurther_eq_ok_iff hn hconcrete).1 hr
    obtain ⟨rfl, -⟩ | ⟨text, rfl⟩ := Run.checkOutcome_eq_ok ho
    · exact ⟨_, rfl⟩
    · exact ⟨_, Run.adding_adding _ _ _⟩

/-- A verification that returns has described the class, and the description has a name. -/
theorem exists_descriptor_of_examine (hs : s.class? = some c) {report : Report}
    (he : (u.examine s w).1 = .ok report) :
    ∃ d w₁ name, u.introspector.describe s w = (.ok d, w₁) ∧ d.name.text = .ok name := by
  obtain rfl := Handle.eq_ofClass hs
  obtain ⟨_, w', hclass, he⟩ := bind_fst_eq_ok_iff.1 he
  cases hclass
  obtain ⟨d, w₁, hd, he⟩ := bind_fst_eq_ok_iff.1 he
  obtain ⟨name, w₂, hname, -⟩ := bind_fst_eq_ok_iff.1 he
  refine ⟨d, w₁, name, hd, ?_⟩
  cases hn : d.name.text with
  | error e => rw [hn] at hname; cases hname
  | ok text => rw [hn] at hname; cases hname; rfl

/-- The verification of a class returns just if the class is described by a name with a text, and
the checks behind the one of the class succeed. -/
theorem exists_examine_iff (hs : s.class? = some c) :
    (∃ report, (u.examine s w).1 = .ok report) ↔
      ∃ d w₁ name, u.introspector.describe s w = (.ok d, w₁) ∧ d.name.text = .ok name ∧
        ∃ r w₂, u.checkFurther s d name (remarked d name w₁) = (.ok r, w₂) := by
  constructor
  · rintro ⟨report, he⟩
    obtain ⟨d, w₁, name, hd, hn⟩ := exists_descriptor_of_examine hs he
    rw [examine_run hs hd hn] at he
    obtain ⟨r, w₂, hr, -⟩ := bind_fst_eq_ok_iff.1 he
    exact ⟨d, w₁, name, hd, hn, r, w₂, hr⟩
  · rintro ⟨d, w₁, name, hd, hn, r, w₂, hr⟩
    obtain ⟨issues, rfl⟩ := exists_adding_of_checkFurther hn hr
    obtain ⟨w₃, he⟩ := examine_of_ok hs hd hn hr
    exact ⟨_, by rw [he]⟩

/-- The answers of an introspector on a concrete class, with which its verification returns: it
lists the constructors, constructs the class, and what it reports on that can be written. -/
def Proceeds (u : UseCase) (s : Handle) (w : World) : Prop :=
  ∃ cs w₁ q outcome w₂ isBlocking,
    u.introspector.constructors s w = (.ok cs, w₁) ∧
    w₁.classes.nameOf u.policy.blocking = .ok q ∧
    u.introspector.invoke s w₁ = (.ok outcome, w₂) ∧
    (u.isBlocked outcome w₂).1 = .ok isBlocking ∧
    outcome.IsReportable w₂.classes q isBlocking

/-- Whoever is asked about an exception keeps answers at most, and names are none. -/
theorem isReportable_of_isBlocked {outcome : Outcome} {isBlocking : Bool}
    (hb : u.isBlocked outcome w = (.ok isBlocking, w')) {q : QualifiedName} :
    outcome.IsReportable w'.classes q isBlocking ↔ outcome.IsReportable w.classes q isBlocking := by
  have hkeeps : w'.classes.withoutAnswers = w.classes.withoutAnswers := by
    have hrun := (u.isBlocked_onlyAsks outcome).run w
    rw [hb] at hrun
    have hw : w' = { w with classes := (u.isBlocked outcome (.initial w.classes)).2.classes } :=
      congrArg Prod.snd hrun
    rw [hw]
    exact (u.isBlocked_onlyAsks outcome).keeps w.classes
  rw [← Outcome.isReportable_withoutAnswers, hkeeps, Outcome.isReportable_withoutAnswers]

theorem exists_checkFurther_iff (hn : d.name.text = .ok name) :
    (∃ r w', u.checkFurther s d name w = (.ok r, w')) ↔
      (d.isConcrete = true → u.Proceeds s w) := by
  cases hconcrete : d.isConcrete with
  | false =>
    rw [checkFurther_of_barred hconcrete]
    exact ⟨fun _ hconcrete => absurd hconcrete Bool.false_ne_true, fun _ => ⟨_, w, rfl⟩⟩
  | true =>
    simp only [checkFurther_eq_ok_iff hn hconcrete, forall_const]
    constructor
    · rintro ⟨r, w', cs, w₁, q, outcome, w₂, isBlocking, hcs, hq, hinv, hb, ho⟩
      have hreport := (Run.exists_checkOutcome_iff (r := (Run.start d).adding _) hn rfl).1 ⟨r, ho⟩
      exact ⟨cs, w₁, q, outcome, w₂, isBlocking, hcs, hq, hinv, by rw [hb],
        (isReportable_of_isBlocked hb).1 hreport⟩
    · rintro ⟨cs, w₁, q, outcome, w₂, isBlocking, hcs, hq, hinv, hb, ho⟩
      have hb' : u.isBlocked outcome w₂ = (.ok isBlocking, (u.isBlocked outcome w₂).2) :=
        Prod.ext hb rfl
      obtain ⟨next, hnext⟩ := (Run.exists_checkOutcome_iff (r := (Run.start d).adding _) hn rfl).2
        ((isReportable_of_isBlocked hb').2 ho)
      exact ⟨next, _, cs, w₁, q, outcome, w₂, isBlocking, hcs, hq, hinv, hb', hnext⟩

/-- **A verification returns a report** just if the class gives itself a name, is described by a
name with a text, and, where it is concrete, all that is asked of the introspector is answered. -/
theorem exists_execute_iff :
    (∃ report, (u.execute m (.ofClass c) w).1 = .ok report) ↔
      (∃ own, w.classes.nameText c = .ok own) ∧
        ∃ d w₁ name, u.introspector.describe (.ofClass c)
            (w.begun "verify_utility_class" [.ofClass c]) = (.ok d, w₁) ∧
          d.name.text = .ok name ∧
          (d.isConcrete = true → u.Proceeds (.ofClass c) (remarked d name w₁)) := by
  have hmeasured (report : Report) : (u.execute m (.ofClass c) w).1 = .ok report ↔
      (∃ own, w.classes.nameText c = .ok own) ∧
        (u.examine (.ofClass c) (w.begun "verify_utility_class" [.ofClass c])).1 = .ok report :=
    Act.measured_fst_eq_ok_iff fun _ => ⟨_, rfl⟩
  simp only [hmeasured]
  rw [exists_and_left, exists_examine_iff rfl]
  refine and_congr_right fun _ => exists_congr fun d => exists_congr fun w₁ =>
    exists_congr fun name => and_congr_right fun _ => and_congr_right fun hn => ?_
  rw [exists_checkFurther_iff hn]

end UseCase

end UtilityClass
