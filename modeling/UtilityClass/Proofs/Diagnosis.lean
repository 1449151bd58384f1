import UtilityClass.Construction.Level
import UtilityClass.Introspector.Scripted
import UtilityClass.Proofs.Filling
import UtilityClass.Proofs.Observed
import UtilityClass.Proofs.Reflected
import UtilityClass.Proofs.RunHistory
import UtilityClass.Verification

/-!
# The issues of a verification

Which issues a verification reports depends on the answers of the introspector alone. Here they are
written down as one list of plain texts, without templates and without the order of the checks, and
the verification is shown to report this list, for every introspector.

The checks thread a run through two loops over the constructors, so each of them is stated as what
it adds to an arbitrary open run. Names, signatures and messages go through templates on their way
into an issue; since all templates of the issues have counted fields only, every text arrives as it
is.

Answers may take effect on the world. Only for the classes does this matter: describing a class and
its constructors must leave them alone, and constructing it may change them.

## Main definitions

* `diagnosis` : the issues, from the answers
* `Introspector.Answers` : what an introspector answers on a class

## Main results

* `Run.checkConcrete_eq`, `Run.checkPrivate_eq`, `Run.checkArguments_eq`, `Run.checkOutcome_eq` :
  what each check adds
* `UseCase.execute_reports` : the report of a verification
-/

namespace UtilityClass

/-! ## The list of issues -/

namespace TypeDescriptor

/-- Whether the class is a class, and concrete. -/
def isConcrete (d : TypeDescriptor) : Bool :=
  match d.classification with
  | .ordinary => !d.isAbstract
  | _ => false

end TypeDescriptor

namespace Outcome

/-- The class of the exception that an outcome is about. -/
def error? : Outcome → Option Subject
  | .failedWith error _ | .accessRefused error _ => some error
  | _ => none

/-- Whether an outcome is one of those that there are. -/
def isKnown : Outcome → Bool
  | .unknown _ => false
  | _ => true

end Outcome

/-- What is wrong with the class before its constructors are looked at. -/
def classIssues (d : TypeDescriptor) (name : String) : List String :=
  match d.classification with
  | .interfaceLike => ["Expected [" ++ name ++ "] to be a class, but it is an interface."]
  | .enumLike => ["Expected [" ++ name ++ "] to be a class, but it is an enum."]
  | .ordinary =>
    if d.isAbstract then ["Expected class [" ++ name ++ "] to be concrete, but it is abstract."]
    else if d.isFinal then []
    else ["Expected class [" ++ name ++ "] to be final."]

/-- The constructors that are not private. -/
def privacyIssues (constructors : List ConstructorDescriptor) : List String :=
  (constructors.filter fun c => !c.isPrivate).map fun c =>
    "Constructor [" ++ c.signature ++ "] is not private."

/-- The constructors that take arguments. -/
def argumentIssues (name : String) (constructors : List ConstructorDescriptor) : List String :=
  (constructors.filter fun c => c.takesArguments).map fun c =>
    "Expected class [" ++ name ++ "] to have only 1 non-argument constructor, but found [" ++
      c.signature ++ "]."

/-- What is wrong with the construction. `blocking` and `kind` name the blocking exception and the
one that was raised. -/
def outcomeIssues (name blocking kind : String) (isBlocking : Bool) : Outcome → List String
  | .noDefaultConstructor => ["Class [" ++ name ++ "] does not have a default constructor."]
  | .constructed _ =>
    ["Expected " ++ blocking ++ " when invoking class [" ++ name ++ "] default constructor."]
  | .failedWith _ message =>
    if isBlocking then []
    else ["Expected class [" ++ name ++ "] default constructor to throw " ++ blocking ++
      " when invoked, but instead it threw [" ++ kind ++ "] with message [" ++
      message.getD "null" ++ "]."]
  | .accessRefused _ _ =>
    ["Caught unexpected [" ++ kind ++ "] while invoking default constructor on class [" ++ name ++
      "]."]
  | .unknown _ => []

/-- All issues of a verification. -/
def diagnosis (d : TypeDescriptor) (constructors : List ConstructorDescriptor) (outcome : Outcome)
    (name blocking kind : String) (isBlocking : Bool) : List String :=
  classIssues d name ++
    if d.isConcrete then
      privacyIssues constructors ++ argumentIssues name constructors ++
        outcomeIssues name blocking kind isBlocking outcome
    else []

/-! ## The templates -/

namespace Issue

open Template (counting)

theorem isInterface_eq : isInterface = counting "Expected ["
    ["] to be a class, but it is an interface."] := by
  rfl

theorem isEnum_eq : isEnum = counting "Expected [" ["] to be a class, but it is an enum."] := by
  rfl

theorem isAbstract_eq : isAbstract = counting "Expected class ["
    ["] to be concrete, but it is abstract."] := by
  rfl

theorem notFinal_eq : notFinal = counting "Expected class [" ["] to be final."] := by
  rfl

theorem notPrivate_eq : notPrivate = counting "Constructor [" ["] is not private."] := by
  rfl

theorem hasArguments_eq : hasArguments = counting "Expected class ["
    ["] to have only 1 non-argument constructor, but found [", "]."] := by
  rfl

theorem noDefault_eq : noDefault = counting "Class ["
    ["] does not have a default constructor."] := by
  rfl

theorem notBlocked_eq : notBlocked = counting "Expected "
    [" when invoking class [", "] default constructor."] := by
  rfl

theorem wrongException_eq : wrongException = counting "Expected class ["
    ["] default constructor to throw ", " when invoked, but instead it threw [",
      "] with message [", "]."] := by
  rfl

theorem unexpectedFailure_eq : unexpectedFailure = counting "Caught unexpected ["
    ["] while invoking default constructor on class [", "]."] := by
  rfl

end Issue

/-! ## What the checks add -/

namespace Template.Slot

/-- A field that shows a name. -/
def ofName {q : QualifiedName} {name : String} (hn : q.text = .ok name) (text : String) : Slot :=
  ⟨.name q, name, text, by rw [Argument.text, hn]; rfl⟩

/-- A field that shows a text. -/
def ofText (shown text : String) : Slot := ⟨.data (.str shown), shown, text, rfl⟩

end Template.Slot

namespace Run

open Template (Slot counting)

/-- The run with further issues. -/
def adding (r : Run) (issues : List String) : Run := { r with issues := r.issues ++ issues }

@[simp] theorem adding_nil (r : Run) : r.adding [] = r := by simp [adding]

@[simp] theorem adding_adding (r : Run) (issues more : List String) :
    (r.adding issues).adding more = r.adding (issues ++ more) := by
  simp [adding]

section Checks

variable {r : Run} {name : String}

theorem addIssue_counting (hr : r.concluded = false) {template lead : String}
    {texts : List String} (ht : template = counting lead texts) (slots : List Slot)
    (hs : slots.map Slot.text = texts) :
    r.addIssue template (slots.map Slot.argument) =
      .ok (r.adding [lead ++ String.join (slots.map fun s => s.shown ++ s.text)]) := by
  have hfill := Template.fill_counting lead slots []
  rw [List.append_nil, hs, ← ht] at hfill
  exact addIssue_of_filled hr hfill

/-- An issue with one field, which shows the name of the class. -/
theorem addIssue_name (hn : r.subject.name.text = .ok name) (hr : r.concluded = false)
    {template lead text : String} (ht : template = counting lead [text]) :
    r.addIssue template [.name r.subject.name] = .ok (r.adding [lead ++ name ++ text]) := by
  have hadd := addIssue_counting hr ht [.ofName hn text] rfl
  rw [String.append_assoc]
  simpa [Slot.ofName] using hadd

/-- The check of the class adds its issues, and goes on with a concrete one. -/
theorem checkConcrete_eq (hn : r.subject.name.text = .ok name) (hr : r.concluded = false) :
    r.checkConcrete = .ok (r.adding (classIssues r.subject name), r.subject.isConcrete) := by
  unfold checkConcrete classIssues TypeDescriptor.isConcrete
  cases r.subject.classification with
  | interfaceLike =>
    simp only [addIssue_name hn hr Issue.isInterface_eq]
    rfl
  | enumLike =>
    simp only [addIssue_name hn hr Issue.isEnum_eq]
    rfl
  | ordinary =>
    simp only [addIssue_name hn hr Issue.isAbstract_eq, addIssue_name hn hr Issue.notFinal_eq]
    cases r.subject.isAbstract <;> cases r.subject.isFinal <;> simp [Except.map]

theorem addIssue_notPrivate (hr : r.concluded = false) (signature : String) :
    r.addIssue Issue.notPrivate [.data (.str signature)] =
      .ok (r.adding ["Constructor [" ++ signature ++ "] is not private."]) := by
  have hadd := addIssue_counting hr Issue.notPrivate_eq [.ofText signature "] is not private."] rfl
  rw [String.append_assoc]
  simpa [Slot.ofText] using hadd

theorem addIssue_hasArguments (hn : r.subject.name.text = .ok name) (hr : r.concluded = false)
    (signature : String) :
    r.addIssue Issue.hasArguments [.name r.subject.name, .data (.str signature)] =
      .ok (r.adding ["Expected class [" ++ name ++
        "] to have only 1 non-argument constructor, but found [" ++ signature ++ "]."]) := by
  have hadd := addIssue_counting hr Issue.hasArguments_eq
    [.ofName hn "] to have only 1 non-argument constructor, but found [", .ofText signature "]."]
    rfl
  simpa [Slot.ofName, Slot.ofText, String.append_assoc] using hadd

/-- The first pass over the constructors adds an issue for each one that is not private. -/
theorem checkPrivate_eq (hr : r.concluded = false) (constructors : List ConstructorDescriptor) :
    checkPrivate constructors r = .ok (r.adding (privacyIssues constructors)) := by
  induction constructors generalizing r with
  | nil => simp [checkPrivate, privacyIssues]
  | cons c rest ih =>
    rw [checkPrivate]
    cases hc : c.isPrivate with
    | true => simp [privacyIssues, hc, bind, Except.bind, ih hr]
    | false =>
      have hrest := ih (r := r.adding ["Constructor [" ++ c.signature ++ "] is not private."]) hr
      simp [privacyIssues, hc, bind, Except.bind, addIssue_notPrivate hr, hrest]

/-- The second pass adds an issue for each constructor that takes arguments. -/
theorem checkArguments_eq (hn : r.subject.name.text = .ok name) (hr : r.concluded = false)
    (constructors : List ConstructorDescriptor) :
    checkArguments constructors r = .ok (r.adding (argumentIssues name constructors)) := by
  induction constructors generalizing r with
  | nil => simp [checkArguments, argumentIssues]
  | cons c rest ih =>
    rw [checkArguments]
    cases hc : c.takesArguments with
    | true =>
      have hrest := ih (r := r.adding ["Expected class [" ++ name ++
        "] to have only 1 non-argument constructor, but found [" ++ c.signature ++ "]."]) hn hr
      simp [argumentIssues, hc, bind, Except.bind, addIssue_hasArguments hn hr, hrest]
    | false => simp [argumentIssues, hc, bind, Except.bind, ih hn hr]

/-- The check of the construction adds at most one issue, whatever has become of it. -/
theorem checkOutcome_eq (hn : r.subject.name.text = .ok name) (hr : r.concluded = false)
    {h : Hierarchy} {blocking : QualifiedName} {blockingName kind : String} {outcome : Outcome}
    {isBlocking : Bool} (hb : blocking.text = .ok blockingName)
    (hk : ∀ error, outcome.error? = some error → ∃ q, error.name h = .ok q ∧ q.text = .ok kind)
    (ho : outcome.isKnown = true) :
    r.checkOutcome h blocking outcome isBlocking =
      .ok (r.adding (outcomeIssues name blockingName kind isBlocking outcome)) := by
  cases outcome with
  | constructed made =>
    have hadd := addIssue_counting hr Issue.notBlocked_eq
      [.ofName hb " when invoking class [", .ofName hn "] default constructor."] rfl
    simpa [Slot.ofName, String.append_assoc, outcomeIssues, checkOutcome] using hadd
  | failedWith error message =>
    obtain ⟨q, hq, hkind⟩ := hk error rfl
    have hadd := addIssue_counting hr Issue.wrongException_eq
      [.ofName hn "] default constructor to throw ",
        .ofName hb " when invoked, but instead it threw [", .ofName hkind "] with message [",
        .ofText (message.getD "null") "]."] rfl
    cases isBlocking with
    | true => simp [checkOutcome, outcomeIssues]; rfl
    | false =>
      simpa [Slot.ofName, Slot.ofText, String.append_assoc, outcomeIssues, checkOutcome,
        Issue.nullMessage, hq, bind, Except.bind] using hadd
  | noDefaultConstructor =>
    exact addIssue_name hn hr Issue.noDefault_eq
  | accessRefused error message =>
    obtain ⟨q, hq, hkind⟩ := hk error rfl
    have hadd := addIssue_counting hr Issue.unexpectedFailure_eq
      [.ofName hkind "] while invoking default constructor on class [", .ofName hn "]."] rfl
    simpa [Slot.ofName, String.append_assoc, outcomeIssues, checkOutcome, hq, bind,
      Except.bind] using hadd
  | unknown value => cases ho

end Checks

end Run

/-! ## The verification -/

theorem Subject.name_withoutAnswers (h : Hierarchy) (s : Subject) :
    s.name h.withoutAnswers = s.name h := by
  cases s <;> rfl

/-- What an introspector answers on a subject while the classes are `h`. Only the construction of
the class may change them. -/
structure Introspector.Answers (i : Introspector) (s : Handle) (h h' : Hierarchy)
    (d : TypeDescriptor) (constructors : List ConstructorDescriptor) (outcome : Outcome) :
    Prop where
  describe : ∀ w, w.classes = h → ∃ w', i.describe s w = (.ok d, w') ∧ w'.classes = h
  constructors : ∀ w, w.classes = h →
    ∃ w', i.constructors s w = (.ok constructors, w') ∧ w'.classes = h
  invoke : ∀ w, w.classes = h → ∃ w', i.invoke s w = (.ok outcome, w') ∧ w'.classes = h'

/-- A scripted introspector gives its answers on every subject. -/
theorem Script.introspector_answers (script : Script) (s : Handle) (h : Hierarchy) :
    script.introspector.Answers s h h script.descriptor script.constructors script.outcome where
  describe _ hw := ⟨_, rfl, hw⟩
  constructors _ hw := ⟨_, rfl, hw⟩
  invoke _ hw := ⟨_, rfl, hw⟩

namespace UseCase

open Act (OnlyAsks bind_run_of_ok bind_run_of_error)

theorem isBlocked_onlyAsks (u : UseCase) (outcome : Outcome) : OnlyAsks (u.isBlocked outcome) := by
  cases outcome with
  | failedWith error message =>
    refine OnlyAsks.classes.bind fun h => ?_
    split
    · exact Act.isSubclass_onlyAsks _ _
    · exact (OnlyAsks.ofExcept _).bind fun _ => .pure false
    · exact .ofExcept (.error _)
  | constructed _ => exact .pure false
  | noDefaultConstructor => exact .pure false
  | accessRefused _ _ => exact .pure false
  | unknown _ => exact .pure false

variable {u : UseCase} {m : Machinery} {c : ClassId} {s : Handle} {d : TypeDescriptor}
  {cs : List ConstructorDescriptor} {outcome : Outcome} {name blocking kind : String}

/-- The last check of the constructors, which judges the outcome of the construction. -/
def judge (u : UseCase) (q : QualifiedName) (outcome : Outcome) (r : Run) : Act Run := do
  let isBlocking ← u.isBlocked outcome
  Act.ofExcept (r.checkOutcome (← Act.classes) q outcome isBlocking)

theorem judge_onlyAsks (u : UseCase) (q : QualifiedName) (outcome : Outcome) (r : Run) :
    OnlyAsks (u.judge q outcome r) :=
  (u.isBlocked_onlyAsks outcome).bind fun _ => OnlyAsks.classes.bind fun _ => .ofExcept _

/-- The checks of the constructors up to the construction: both passes are done, and the blocking
class has a name. -/
theorem checkConstructors_of_listed {r : Run} (hn : r.subject.name.text = .ok name)
    (hr : r.concluded = false) {w w₁ : World} {q : QualifiedName}
    (hcs : u.introspector.constructors s w = (.ok cs, w₁))
    (hb : w₁.classes.nameOf u.policy.blocking = .ok q) :
    u.checkConstructors s r w = (do
      let outcome ← u.introspector.invoke s
      u.judge q outcome (r.adding (privacyIssues cs ++ argumentIssues name cs))) w₁ := by
  have hargs := Run.checkArguments_eq (r := r.adding (privacyIssues cs)) hn hr cs
  rw [Run.adding_adding] at hargs
  rw [checkConstructors, bind_run_of_ok hcs, Run.checkPrivate_eq hr,
    bind_run_of_ok (Act.ofExcept_ok_run _ _), hargs, bind_run_of_ok (Act.ofExcept_ok_run _ _),
    bind_run_of_ok (Act.classes_run _), hb, bind_run_of_ok (Act.ofExcept_ok_run _ _)]
  rfl

/-- The checks of the constructors put off to the last one: the class has been constructed, and it
is left to judge the outcome. -/
theorem checkConstructors_run {r : Run} (hn : r.subject.name.text = .ok name)
    (hr : r.concluded = false) {w w₁ w₂ : World} {q : QualifiedName}
    (hcs : u.introspector.constructors s w = (.ok cs, w₁))
    (hb : w₁.classes.nameOf u.policy.blocking = .ok q)
    (hinv : u.introspector.invoke s w₁ = (.ok outcome, w₂)) :
    u.checkConstructors s r w =
      u.judge q outcome (r.adding (privacyIssues cs ++ argumentIssues name cs)) w₂ := by
  rw [checkConstructors_of_listed hn hr hcs hb, bind_run_of_ok hinv]

/-- A known outcome adds its issues, if it can be judged. -/
theorem judge_of_ok {r : Run} (hn : r.subject.name.text = .ok name) (hr : r.concluded = false)
    {w : World} {q : QualifiedName} (hq : q.text = .ok blocking) (ho : outcome.isKnown = true)
    (hk : ∀ error, outcome.error? = some error →
      ∃ q, error.name w.classes = .ok q ∧ q.text = .ok kind) {isBlocking : Bool}
    (hj : (u.isBlocked outcome (.initial w.classes)).1 = .ok isBlocking) :
    ∃ w', u.judge q outcome r w =
      (.ok (r.adding (outcomeIssues name blocking kind isBlocking outcome)), w') := by
  have hrun := (u.isBlocked_onlyAsks outcome).run w
  have hkeeps := (u.isBlocked_onlyAsks outcome).keeps w.classes
  rw [hj] at hrun
  have hnames (error : Subject) (he : outcome.error? = some error) :
      ∃ q, error.name (u.isBlocked outcome (.initial w.classes)).2.classes = .ok q ∧
        q.text = .ok kind := by
    rw [← Subject.name_withoutAnswers, hkeeps, Subject.name_withoutAnswers]
    exact hk error he
  exact ⟨_, by rw [judge, bind_run_of_ok hrun, bind_run_of_ok (Act.classes_run _),
    Run.checkOutcome_eq hn hr hq hnames ho, Act.ofExcept_ok_run]⟩

theorem judge_of_error {r : Run} {w : World} {q : QualifiedName} {e : Raised}
    (hj : (u.isBlocked outcome (.initial w.classes)).1 = .error e) :
    (u.judge q outcome r w).1 = .error e := by
  have hrun := (u.isBlocked_onlyAsks outcome).run w
  rw [hj] at hrun
  rw [judge, bind_run_of_error hrun]

/-- The world in which the checks of the constructors begin: a remark names the class. -/
def remarked (d : TypeDescriptor) (name : String) (w : World) : World :=
  { w with journal := w.journal ++
      [.remark ("Verificando " ++ name ++ " (" ++ d.classification.word ++ ")")] }

/-- The checks behind the one of the class, if they are made. -/
def checkFurther (u : UseCase) (s : Handle) (d : TypeDescriptor) (name : String) : Act Run :=
  let r := (Run.start d).adding (classIssues d name)
  if d.isConcrete then u.checkConstructors s r else pure r

/-- The end of a verification: the verdict on a run, with a remark. -/
def close (r : Run) : Act Report := do
  let (report, run) := r.conclude
  let report ← Act.ofExcept report
  let subject ← Act.ofName report.subject.text
  Act.record (.remark
    ("Veredicto para " ++ subject ++ ": " ++ intText run.issues.length ++ " issue(s)"))
  return report

/-- The verdict on a run is remarked on, with the number of its issues. -/
theorem close_eq (hn : d.name.text = .ok name) (issues : List String) (w : World) :
    close ((Run.start d).adding issues) w = (.ok (Run.verdict d name issues), { w with
      journal := w.journal ++ [.remark
        ("Veredicto para " ++ name ++ ": " ++ intText issues.length ++ " issue(s)")] }) := by
  have hreport : ((Run.start d).adding issues).report = .ok (Run.verdict d name issues) :=
    Run.report_eq_verdict hn
  have hsubject : (Run.verdict d name issues).subject = d.name := by
    unfold Run.verdict
    split <;> rfl
  have hname : Act.ofName (Run.verdict d name issues).subject.text w = (.ok name, w) := by
    rw [hsubject, hn]
    rfl
  rw [close]
  simp only [Run.conclude, hreport]
  rw [bind_run_of_ok (Act.ofExcept_ok_run _ _), bind_run_of_ok hname,
    bind_run_of_ok (Act.record_run _ _), Act.pure_run]
  rfl

theorem close_run (hn : d.name.text = .ok name) (issues : List String) (w : World) :
    ∃ w', close ((Run.start d).adding issues) w = (.ok (Run.verdict d name issues), w') :=
  ⟨_, close_eq hn issues w⟩

section Examine

variable {w w₁ w₂ : World}

/-- Of a class that is not concrete nothing further is asked. -/
theorem checkFurther_of_barred (hb : d.isConcrete = false) :
    u.checkFurther s d name w = (.ok ((Run.start d).adding (classIssues d name)), w) := by
  rw [checkFurther, if_neg (by simp [hb])]
  rfl

theorem checkFurther_of_concrete (hc : d.isConcrete = true) :
    u.checkFurther s d name = u.checkConstructors s ((Run.start d).adding (classIssues d name)) :=
  if_pos hc

/-- A verification that has a description of the class, with the name of the class. -/
theorem examine_run (hs : s.class? = some c) (hd : u.introspector.describe s w = (.ok d, w₁))
    (hn : d.name.text = .ok name) :
    u.examine s w = (u.checkFurther s d name >>= close) (remarked d name w₁) := by
  obtain rfl := Handle.eq_ofClass hs
  have hconcrete : (Run.start d).checkConcrete =
      .ok ((Run.start d).adding (classIssues d name), d.isConcrete) := Run.checkConcrete_eq hn rfl
  have hname : Act.ofName d.name.text w₁ = (.ok name, w₁) := by rw [hn]; rfl
  show (u.introspector.describe (.ofClass c) >>= _) w = _
  rw [bind_run_of_ok hd, bind_run_of_ok hname, bind_run_of_ok (Act.record_run _ _), hconcrete,
    bind_run_of_ok (Act.ofExcept_ok_run _ _)]
  unfold checkFurther
  cases d.isConcrete <;> rfl

theorem examine_of_ok (hs : s.class? = some c) (hd : u.introspector.describe s w = (.ok d, w₁))
    (hn : d.name.text = .ok name) {issues : List String}
    (hr : u.checkFurther s d name (remarked d name w₁) = (.ok ((Run.start d).adding issues), w₂)) :
    ∃ w₃, u.examine s w = (.ok (Run.verdict d name issues), w₃) := by
  rw [examine_run hs hd hn, bind_run_of_ok hr]
  exact close_run hn issues w₂

theorem examine_of_error (hs : s.class? = some c) (hd : u.introspector.describe s w = (.ok d, w₁))
    (hn : d.name.text = .ok name) {e : Raised}
    (hr : u.checkFurther s d name (remarked d name w₁) = (.error e, w₂)) :
    u.examine s w = (.error e, w₂) := by
  rw [examine_run hs hd hn, bind_run_of_error hr]

end Examine

section Execute

variable {w : World} {h' : Hierarchy} {own : String} (hown : w.classes.nameText c = .ok own)
  (hblocking : w.classes.nameText u.policy.blocking = .ok blocking)
  (hanswers : u.introspector.Answers (.ofClass c) w.classes h' d cs outcome)
  (hname : d.name.text = .ok name)

include hblocking hanswers hname in
/-- The worlds along a verification: `w₁` in which the class has been described, and `w₂` in which
it has been constructed, and the outcome is judged. -/
theorem exists_checkFurther_run : ∃ q w₁ w₂, q.text = .ok blocking ∧
    u.introspector.describe (.ofClass c) (w.begun "verify_utility_class" [.ofClass c]) =
      (.ok d, w₁) ∧
    w₂.classes = h' ∧ (d.isConcrete = true →
      u.checkFurther (.ofClass c) d name (remarked d name w₁) =
        u.judge q outcome ((Run.start d).adding (classIssues d name ++ (privacyIssues cs ++
          argumentIssues name cs))) w₂) := by
  obtain ⟨q, hq, hqtext⟩ := Hierarchy.nameText_eq_ok_iff.1 hblocking
  obtain ⟨w₁, hd, hw₁⟩ := hanswers.describe (w.begun "verify_utility_class" [.ofClass c]) (by simp)
  obtain ⟨w₂, hcs, hw₂⟩ := hanswers.constructors (remarked d name w₁) hw₁
  obtain ⟨w₃, hinv, hw₃⟩ := hanswers.invoke w₂ hw₂
  refine ⟨q, w₁, w₃, hqtext, hd, hw₃, fun hconcrete => ?_⟩
  rw [checkFurther, if_pos hconcrete, ← Run.adding_adding]
  exact checkConstructors_run hname rfl hcs (by rw [hw₂]; exact hq) hinv

include hown hblocking hanswers hname

/-- The report, where the question is answered whether the outcome is a blocking one. -/
theorem execute_eq_verdict (hknown : outcome.isKnown = true)
    (hkind : ∀ error, outcome.error? = some error →
      ∃ q, error.name h' = .ok q ∧ q.text = .ok kind) {isBlocking : Bool}
    (hj : d.isConcrete = true → (u.isBlocked outcome (.initial h')).1 = .ok isBlocking) :
    (u.execute m (.ofClass c) w).1 = .ok (Run.verdict d name
      (diagnosis d cs outcome name blocking kind isBlocking)) := by
  have htarget : w.classes.targetName [.ofClass c] = .ok own := hown
  obtain ⟨q, w₁, w₂, hqtext, hd, rfl, hcheck⟩ := exists_checkFurther_run hblocking hanswers hname
  have hissues : ∃ w₃, u.checkFurther (.ofClass c) d name (remarked d name w₁) =
      (.ok ((Run.start d).adding (diagnosis d cs outcome name blocking kind isBlocking)), w₃) := by
    cases hconcrete : d.isConcrete with
    | true =>
      obtain ⟨w₃, hjudge⟩ := judge_of_ok (r := (Run.start d).adding (classIssues d name ++
        (privacyIssues cs ++ argumentIssues name cs))) hname rfl hqtext hknown hkind
        (hj hconcrete)
      refine ⟨w₃, ?_⟩
      rw [hcheck hconcrete, hjudge]
      simp [diagnosis, hconcrete]
    | false => exact ⟨_, by simp [checkFurther, diagnosis, hconcrete]; rfl⟩
  obtain ⟨w₃, hissues⟩ := hissues
  obtain ⟨w₄, hexamine⟩ := examine_of_ok rfl hd hname hissues
  exact Act.measured_of_ok m htarget hexamine rfl

/-- There is no report where the question is answered by an exception. -/
theorem exists_execute_eq_error (hconcrete : d.isConcrete = true) {e : Raised}
    (hj : (u.isBlocked outcome (.initial h')).1 = .error e) :
    ∃ e', (u.execute m (.ofClass c) w).1 = .error e' := by
  have htarget : w.classes.targetName [.ofClass c] = .ok own := hown
  obtain ⟨q, w₁, w₂, -, hd, rfl, hcheck⟩ := exists_checkFurther_run hblocking hanswers hname
  have hjudge := judge_of_error (r := (Run.start d).adding (classIssues d name ++
    (privacyIssues cs ++ argumentIssues name cs))) (q := q) hj
  rw [← hcheck hconcrete] at hjudge
  exact Act.measured_of_error m _ htarget (examine_of_error rfl hd hname (Prod.ext hjudge rfl))

end Execute

/-- **The report of a verification.** The class gives itself a name, the answers of the introspector
are arbitrary, and so are all names, signatures and messages in them; `h'` are the classes behind
the construction, in which the class of the exception gives a name as well.

The report lists the issues of `diagnosis`, and it is good just if there are none. Whether an
exception is a blocking one is asked of the blocking class, and only if the class under verification
is concrete. Where this question is answered by an exception, the verification fails. -/
theorem execute_reports {w : World} {h' : Hierarchy} {own : String}
    (hown : w.classes.nameText c = .ok own)
    (hblocking : w.classes.nameText u.policy.blocking = .ok blocking)
    (hanswers : u.introspector.Answers (.ofClass c) w.classes h' d cs outcome)
    (hname : d.name.text = .ok name) (hknown : outcome.isKnown = true)
    (hkind : ∀ error, outcome.error? = some error →
      ∃ q, error.name h' = .ok q ∧ q.text = .ok kind) :
    (∀ isBlocking, (d.isConcrete = true →
        (u.isBlocked outcome (.initial h')).1 = .ok isBlocking) →
      (u.execute m (.ofClass c) w).1 = .ok (Run.verdict d name
        (diagnosis d cs outcome name blocking kind isBlocking))) ∧
    (d.isConcrete = true → ∀ e, (u.isBlocked outcome (.initial h')).1 = .error e →
      ∃ e', (u.execute m (.ofClass c) w).1 = .error e') :=
  ⟨fun _ => execute_eq_verdict hown hblocking hanswers hname hknown hkind,
    fun hconcrete _ => exists_execute_eq_error hown hblocking hanswers hname hconcrete⟩

/-- A class with two constructors, and braces in its name and in their signatures, which arrive as
they are. Its construction has failed with an exception that the usual policy has not in view, but
the widest one has. -/
theorem execute_reports_braces :
    let d : TypeDescriptor := ⟨⟨.str "m", .str "A\x7b0\x7d"⟩, .ordinary, false, false⟩
    let script := Script.make (some d)
      [⟨"\x7b\x7d", .int 1, .nonPrivate⟩, ⟨"\x7b1\x7d", .int 2, .nonPrivate⟩]
      (.failedWith (.ofClass LibraryClass.valueError) none)
    let report (blocking : LibraryClass) := (UseCase.execute ⟨script.introspector, ⟨blocking⟩⟩
      .standard (.ofClass LibraryClass.object) (.initial .initial)).1
    let issues := ["Expected class [m.A\x7b0\x7d] to be final.",
      "Constructor [\x7b\x7d] is not private.", "Constructor [\x7b1\x7d] is not private.",
      "Expected class [m.A\x7b0\x7d] to have only 1 non-argument constructor, but found " ++
        "[\x7b\x7d].",
      "Expected class [m.A\x7b0\x7d] to have only 1 non-argument constructor, but found " ++
        "[\x7b1\x7d]."]
    report .typeError = .ok (Run.verdict d "m.A\x7b0\x7d" (issues ++
        ["Expected class [m.A\x7b0\x7d] default constructor to throw TypeError when invoked, " ++
          "but instead it threw [ValueError] with message [null]."])) ∧
      report .exception = .ok (Run.verdict d "m.A\x7b0\x7d" issues) := by
  intro d script report issues
  have hown : Hierarchy.initial.nameText LibraryClass.object = .ok "object" := rfl
  have hname : d.name.text = .ok "m.A\x7b0\x7d" := rfl
  have hkind (error : Subject) (he : script.outcome.error? = some error) :
      ∃ q, error.name .initial = .ok q ∧ q.text = .ok "ValueError" := by
    cases he
    exact ⟨_, rfl, rfl⟩
  have hanswers := script.introspector_answers (.ofClass LibraryClass.object) .initial
  have hreports {l : LibraryClass} {blocking : String}
      (hblocking : Hierarchy.initial.nameText l = .ok blocking) :=
    execute_reports (m := .standard) (u := ⟨script.introspector, ⟨l⟩⟩) (w := .initial .initial)
      hown hblocking hanswers hname rfl hkind
  exact ⟨(hreports (l := .typeError) rfl).1 false fun _ => rfl,
    (hreports (l := .exception) rfl).1 true fun _ => rfl⟩

end UseCase

end UtilityClass
