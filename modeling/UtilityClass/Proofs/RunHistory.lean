import UtilityClass.Report

/-!
# Whole runs

A run is worked on by adding issues, asking for them and concluding, in any order and as often as
one likes. What can be said of all such runs is said of their histories: each operation with the
answer that it got.

Everything an operation depends on can be read off the history in front of it. The issues of the run
are the texts of those additions that were answered, in their order, and the run is concluded if
some operation was a conclusion. This is the invariant; one operation preserves it, whatever its
answer, and the rest is induction along the history.

That a conclusion freezes the issues is not a rule of its own. A concluded run answers no addition,
so there is no further text in its history, and every conclusion sees the texts of the whole run.

## Main definitions

* `Run.history` : the operations on a run with their answers
* `Run.addedTexts` : the texts of the additions that were answered
* `Run.after` : the run that operations leave behind
* `Run.verdict` : the report that a list of issues leads to

## Main results

* `Run.Follows.step`, `Run.Follows.after` : the invariant, for one operation and for many
* `Run.history_answers` : what every operation of every run is answered
-/

namespace UtilityClass

namespace Run

/-! ## Histories -/

/-- An operation with its answer. -/
abbrev Entry := Operation × Except Fault Answer

/-- Whether an operation closes the run. -/
def Operation.isConclusion : Operation → Bool
  | .conclude => true
  | _ => false

/-- The operations on a run, one after the other, each with its answer. -/
def history (r : Run) : List Operation → List Entry
  | [] => []
  | op :: ops => (op, (perform op r).1) :: history (perform op r).2 ops

/-- The run that operations leave behind. -/
def after (r : Run) (ops : List Operation) : Run := ops.foldl (fun r op => (perform op r).2) r

/-- The text that an operation has added, if it is an addition that was answered. -/
def Entry.added? : Entry → Option String
  | (.add template arguments, .ok _) => (Template.fill template arguments).toOption
  | _ => none

/-- The texts that were added, in their order. -/
def addedTexts (log : List Entry) : List String := log.filterMap Entry.added?

/-- Whether a conclusion stands in a history. -/
def isConcludedBy (log : List Entry) : Bool := log.any fun entry => entry.1.isConclusion

/-- The report on a class of the given written name with the given issues. -/
def verdict (subject : TypeDescriptor) (name : String) (issues : List String) : Report :=
  if issues = [] then .ok subject.name
  else .failed subject.name issues
    ("Class [" ++ name ++ "] does not validate as a utility class:" ++
      String.join (issues.map fun issue => "\n- " ++ issue))

@[simp] theorem issues_verdict (subject : TypeDescriptor) (name : String) (issues : List String) :
    (verdict subject name issues).issues = issues := by
  unfold verdict
  split
  · next h => rw [h]; rfl
  · rfl

@[simp] theorem addedTexts_append (log more : List Entry) :
    addedTexts (log ++ more) = addedTexts log ++ addedTexts more :=
  List.filterMap_append

theorem after_cons (r : Run) (op : Operation) (ops : List Operation) :
    r.after (op :: ops) = (perform op r).2.after ops := rfl

theorem after_concat (r : Run) (ops : List Operation) (op : Operation) :
    r.after (ops ++ [op]) = (perform op (r.after ops)).2 := by
  simp [after]

theorem map_history (r : Run) (ops : List Operation) : (r.history ops).map Prod.fst = ops := by
  induction ops generalizing r with
  | nil => rfl
  | cons op ops ih => rw [history, List.map_cons, ih]

/-- A history is split where its operations are. -/
theorem history_append (r : Run) (ops more : List Operation) :
    r.history (ops ++ more) = r.history ops ++ (r.after ops).history more := by
  induction ops generalizing r with
  | nil => rfl
  | cons op ops ih => rw [List.cons_append, history, ih, history, after_cons, List.cons_append]

/-! ## One operation -/

section Step

variable {r : Run}

theorem addIssue_of_concluded {name : String} (hn : r.subject.name.text = .ok name)
    (hr : r.concluded = true) (template : String) (arguments : List Template.Argument) :
    r.addIssue template arguments = .error (.runConcluded name) := by
  rw [addIssue, if_pos hr, subjectText, hn]
  rfl

/-- Nothing is added behind a conclusion, whether or not the class has a name for the complaint. -/
theorem exists_addIssue_of_concluded (hr : r.concluded = true) (template : String)
    (arguments : List Template.Argument) : ∃ f, r.addIssue template arguments = .error f := by
  rw [addIssue, if_pos hr]
  cases r.subjectText <;> exact ⟨_, rfl⟩

theorem addIssue_of_filled {template text : String} {arguments : List Template.Argument}
    (hr : r.concluded = false) (ht : Template.fill template arguments = .ok text) :
    r.addIssue template arguments = .ok { r with issues := r.issues ++ [text] } := by
  rw [addIssue, if_neg (by simp [hr]), ht]

theorem addIssue_of_unfilled {template : String} {arguments : List Template.Argument}
    {e : Template.Error} (hr : r.concluded = false)
    (ht : Template.fill template arguments = .error e) :
    r.addIssue template arguments = .error (.template e) := by
  rw [addIssue, if_neg (by simp [hr]), ht]

/-- Only an open run takes an issue, and only if its template can be filled. -/
theorem addIssue_eq_ok {template : String} {arguments : List Template.Argument} {next : Run}
    (h : r.addIssue template arguments = .ok next) :
    r.concluded = false ∧ ∃ text, Template.fill template arguments = .ok text ∧
      next = { r with issues := r.issues ++ [text] } := by
  cases hr : r.concluded with
  | true =>
    rw [addIssue, if_pos hr] at h
    cases hn : r.subjectText <;> simp [hn, bind, Except.bind] at h
  | false =>
    cases ht : Template.fill template arguments with
    | error e => rw [addIssue_of_unfilled hr ht] at h; cases h
    | ok text =>
      rw [addIssue_of_filled hr ht] at h
      cases h
      exact ⟨rfl, text, rfl, by rw [hr]⟩

/-- An addition is answered just if the run is open and the template can be filled. -/
theorem perform_add_isOk_iff {template : String} {arguments : List Template.Argument} :
    (∃ a, (perform (.add template arguments) r).1 = .ok a) ↔
      r.concluded = false ∧ ∃ text, Template.fill template arguments = .ok text := by
  constructor
  · rintro ⟨a, h⟩
    cases ha : r.addIssue template arguments with
    | error e => simp [perform, ha] at h
    | ok next =>
      obtain ⟨hr, text, ht, -⟩ := addIssue_eq_ok ha
      exact ⟨hr, text, ht⟩
  · rintro ⟨hr, text, ht⟩
    exact ⟨_, by rw [perform, addIssue_of_filled hr ht]⟩

/-- A run reports on its issues, whether it has been concluded or not. -/
theorem report_eq_verdict {name : String} (hn : r.subject.name.text = .ok name) :
    r.report = .ok (verdict r.subject name r.issues) := by
  cases hi : r.issues with
  | nil => simp [report, verdict, hi]
  | cons issue rest =>
    have hs : r.subjectText = .ok name := by rw [subjectText, hn]; rfl
    simp [report, verdict, hi, hs, Except.map, Report.message, Report.header, Report.issuePrefix]

end Step

/-! ## The invariant -/

/-- A run follows a history: it is about the subject, its issues are the texts that were added, and
it is concluded if a conclusion was among the operations. -/
structure Follows (subject : TypeDescriptor) (log : List Entry) (r : Run) : Prop where
  subject : r.subject = subject
  issues : r.issues = addedTexts log
  concluded : r.concluded = isConcludedBy log

variable {subject : TypeDescriptor} {name : String}

theorem Follows.start (subject : TypeDescriptor) : Follows subject [] (Run.start subject) :=
  ⟨rfl, rfl, rfl⟩

/-- Whatever an operation is answered, the run follows the history with it. -/
theorem Follows.step {log : List Entry} {r : Run} (hr : Follows subject log r) (op : Operation) :
    Follows subject (log ++ [(op, (perform op r).1)]) (perform op r).2 := by
  obtain ⟨hs, hi, hc⟩ := hr
  cases op with
  | add template arguments =>
    cases ha : r.addIssue template arguments with
    | error e =>
      refine ⟨?_, ?_, ?_⟩ <;>
        simp [perform, ha, hs, hi, hc, addedTexts, isConcludedBy, Entry.added?,
          Operation.isConclusion]
    | ok next =>
      obtain ⟨hopen, text, ht, rfl⟩ := addIssue_eq_ok ha
      refine ⟨?_, ?_, ?_⟩ <;>
        simp [perform, ha, hs, hi, hc, addedTexts, isConcludedBy, Entry.added?,
          Operation.isConclusion, ht, Except.toOption]
  | issues =>
    refine ⟨?_, ?_, ?_⟩ <;>
      simp [perform, hs, hi, hc, addedTexts, isConcludedBy, Entry.added?, Operation.isConclusion]
  | conclude =>
    refine ⟨?_, ?_, ?_⟩ <;>
      simp [perform, conclude, hs, hi, addedTexts, isConcludedBy, Entry.added?,
        Operation.isConclusion]

/-- A run follows its own history, whatever it has followed before. -/
theorem Follows.after {log : List Entry} {r : Run} (hr : Follows subject log r)
    (ops : List Operation) : Follows subject (log ++ r.history ops) (r.after ops) := by
  induction ops generalizing log r with
  | nil => simpa [history, Run.after] using hr
  | cons op ops ih =>
    rw [history, after_cons, List.append_cons]
    exact ih (hr.step op)

/-! ## After a conclusion -/

/-- No operation changes a concluded run. -/
theorem perform_of_concluded {r : Run} (hr : r.concluded = true) (op : Operation) :
    (perform op r).2 = r := by
  cases op with
  | add template arguments =>
    obtain ⟨f, hf⟩ := exists_addIssue_of_concluded hr template arguments
    rw [perform, hf]
  | issues => rfl
  | conclude => simp [perform, conclude, ← hr]

/-- Nothing is added to a concluded run. -/
theorem addedTexts_history_of_concluded {r : Run} (hr : r.concluded = true)
    (ops : List Operation) : addedTexts (r.history ops) = [] := by
  induction ops with
  | nil => rfl
  | cons op ops ih =>
    have hnone : Entry.added? (op, (perform op r).1) = none := by
      cases op with
      | add template arguments =>
        obtain ⟨f, hf⟩ := exists_addIssue_of_concluded hr template arguments
        rw [perform, hf]
        rfl
      | issues => rfl
      | conclude => rfl
    rw [history, perform_of_concluded hr, addedTexts, List.filterMap_cons_none hnone]
    exact ih

/-! ## Answers -/

/-- Where an operation stands in a history, the operations before it have led to the run that it
was performed on. -/
theorem exists_of_history_eq {r : Run} {ops : List Operation} {past future : List Entry}
    {op : Operation} {answer : Except Fault Answer}
    (h : r.history ops = past ++ (op, answer) :: future) :
    ∃ before rest, ops = before ++ op :: rest ∧ past = r.history before ∧
      answer = (perform op (r.after before)).1 := by
  induction past generalizing r ops with
  | nil =>
    cases ops with
    | nil => simp [history] at h
    | cons first ops =>
      simp only [history, List.nil_append, List.cons.injEq, Prod.mk.injEq] at h
      obtain ⟨⟨rfl, rfl⟩, -⟩ := h
      exact ⟨[], ops, rfl, rfl, rfl⟩
  | cons entry past ih =>
    cases ops with
    | nil => simp [history] at h
    | cons first ops =>
      simp only [history, List.cons_append, List.cons.injEq] at h
      obtain ⟨rfl, h⟩ := h
      obtain ⟨before, rest, rfl, rfl, rfl⟩ := ih h
      exact ⟨first :: before, rest, rfl, rfl, rfl⟩

/-- An operation that fails leaves the run as it was. -/
theorem perform_of_error {r : Run} {name : String} (hn : r.subject.name.text = .ok name)
    {op : Operation} {f : Fault} (h : (perform op r).1 = .error f) : (perform op r).2 = r := by
  cases op with
  | add template arguments =>
    cases ha : r.addIssue template arguments with
    | error e => simp [perform, ha]
    | ok next => simp [perform, ha] at h
  | issues => rfl
  | conclude => simp [perform, conclude, report_eq_verdict hn, Except.map] at h

/-- **What every operation of every run is answered.** The run starts on a class whose name has a
text, and `past` is what has happened before the operation.

An addition is answered just if nothing has been concluded and its template can be filled; after a
conclusion it is refused for this reason, whatever its template is. Asked for its issues, the run
gives the texts added so far. Every conclusion reports on the texts of the whole run, since none is
added behind one, so that all conclusions of a run agree. An operation that fails leaves the run as
it was. -/
theorem history_answers (hn : subject.name.text = .ok name) (ops : List Operation)
    {past future : List Entry} {op : Operation} {answer : Except Fault Answer}
    (hlog : (Run.start subject).history ops = past ++ (op, answer) :: future) :
    (∀ template arguments, op = .add template arguments →
      ((∃ a, answer = .ok a) ↔
        isConcludedBy past = false ∧ ∃ text, Template.fill template arguments = .ok text) ∧
      (isConcludedBy past = true → ∃ f, answer = .error f ∧ f = .runConcluded name ∧
        f.kind = .verificationError) ∧
      ∀ e, isConcludedBy past = false → Template.fill template arguments = .error e →
        answer = .error (.template e)) ∧
    (op = .issues → answer = .ok (.issues (addedTexts past))) ∧
    (op = .conclude → answer = .ok (.report (verdict subject name
      (addedTexts ((Run.start subject).history ops))))) ∧
    (isConcludedBy past = true →
      addedTexts ((Run.start subject).history ops) = addedTexts past) ∧
    ∀ f, answer = .error f → (Run.start subject).after ((past ++ [(op, answer)]).map Prod.fst) =
      (Run.start subject).after (past.map Prod.fst) := by
  obtain ⟨before, rest, rfl, rfl, rfl⟩ := exists_of_history_eq hlog
  have hr := (Follows.start subject).after before
  rw [List.nil_append] at hr
  have hname : ((Run.start subject).after before).subject.name.text = .ok name := by
    rw [hr.subject, hn]
  have hreport := report_eq_verdict hname
  rw [hr.subject] at hreport
  have hfull : (Run.start subject).history (before ++ op :: rest) =
      (Run.start subject).history before ++
        ((Run.start subject).after before).history (op :: rest) := history_append ..
  rw [← hr.concluded, ← hr.issues]
  refine ⟨?_, ?_, ?_, ?_, ?_⟩
  · rintro template arguments rfl
    refine ⟨perform_add_isOk_iff, fun hc => ⟨_, ?_, rfl, rfl⟩, fun e ho ht => ?_⟩
    · rw [perform, addIssue_of_concluded hname hc]
    · rw [perform, addIssue_of_unfilled ho ht]
  · rintro rfl
    rfl
  · rintro rfl
    -- nothing is added behind the conclusion
    have hrest := addedTexts_history_of_concluded
      (r := (perform .conclude ((Run.start subject).after before)).2) rfl rest
    have htexts : addedTexts ((Run.start subject).history (before ++ .conclude :: rest)) =
        ((Run.start subject).after before).issues := by
      rw [hfull, addedTexts_append, ← hr.issues, history, addedTexts,
        List.filterMap_cons_none rfl, ← addedTexts, hrest, List.append_nil]
    rw [htexts, perform, conclude, hreport]
    rfl
  · intro hc
    rw [hfull, addedTexts_append, addedTexts_history_of_concluded hc, List.append_nil, ← hr.issues]
  · intro f hf
    rw [List.map_append, map_history, List.map_singleton, after_concat,
      perform_of_error hname hf]

/-- A run on which an addition succeeds, one fails in its template, and one comes too late. -/
theorem history_answers_late_addition :
    let subject : TypeDescriptor := ⟨⟨.str "fake", .str "Holder"⟩, .ordinary, false, true⟩
    let ops : List Operation :=
      [.add "[\x7b\x7d]" [.data (.str "\x7b0\x7d")], .add "\x7b" [], .conclude, .add "\x7d" [],
        .conclude]
    let log := (Run.start subject).history ops
    addedTexts log = ["[\x7b0\x7d]"] ∧
      (log.map Prod.snd)[3]? = some (.error (.runConcluded "fake.Holder")) ∧
      (log.map Prod.snd)[2]? = (log.map Prod.snd)[4]? := by
  intro subject ops log
  have hlog : log = log.take 3 ++ (.add "\x7d" [], .error (.runConcluded "fake.Holder")) ::
      log.drop 4 := rfl
  have hlate := (history_answers (show subject.name.text = .ok "fake.Holder" from rfl) ops
    hlog).1 "\x7d" [] rfl
  obtain ⟨f, hf, rfl, -⟩ := hlate.2.1 rfl
  refine ⟨rfl, ?_, rfl⟩
  rw [← hf]
  rfl

end Run

end UtilityClass
