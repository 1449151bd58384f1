import UtilityClass.Construction.Declare
import UtilityClass.Construction.Level
import UtilityClass.Proofs.Handed
import UtilityClass.Proofs.Invoked
import UtilityClass.Proofs.LibraryErrors
import UtilityClass.Proofs.PlainReading
import UtilityClass.Proofs.Returning

/-!
# What comes out of the verifier

With reflection as its introspector, a verification asks a class about itself, and a class may
answer with an exception. Here it is stated which exceptions come out, and when none does.

A value that is no class is refused, and this is the one case in which something is said to be not
introspectable. Nothing is constructed for it. Of a class, on the other hand, every fault in reading
comes out as it is: no operation turns it into another exception. A class without a name is the
plainest such case, since nothing unusual takes part in it but two empty texts, and describing it,
listing its constructors and verifying it all end with an error about values.

## Main definitions

* `Reflection.IsJudged` : the ways in which a construction is judged
* `Reflection.IsVerifiable` : all can be read that a verification rests on
* `Reflection.ErrorContract`

## Main results

* `Reflection.exists_execute_iff` : which classes a report is returned on
* `Reflection.execute_of_signal`, `Reflection.execute_value`, `Reflection.execute_nameless`
* `Reflection.errorContract`
-/

namespace UtilityClass

open Result

namespace Reflection

variable {m : Machinery} {c blocking : ClassId} {q : QualifiedName} {e : Raised}
  {message : Option String} {w w' : World}

/-! ## Constructions that are judged -/

/-- The construction of a class fails with an ordinary exception that gives its message, if it
carries anything. -/
structure FailsWith (m : Machinery) (c : ClassId) (w : World) (e : Raised)
    (message : Option String) (w' : World) : Prop where
  accepts : w.classes.acceptsNoArguments c = .ok true
  caught : ∃ w₁, Act.catching m (m.construct c) w = (.ok (.error e), w₁) ∧
    w₁.classes.isException e.error.type = true ∧ messageOf m e w₁ = (.ok message, w')

/-- The ways in which the construction of a class is judged. `q` names the blocking exception. -/
inductive IsJudged (m : Machinery) (c blocking : ClassId) (q : QualifiedName) (w : World) : Prop
  /-- The class needs arguments. -/
  | unprovided (ha : w.classes.acceptsNoArguments c = .ok false)
  /-- The class is constructed. -/
  | constructed {made : Value} {w' : World} (ha : w.classes.acceptsNoArguments c = .ok true)
      (hc : Act.catching m (m.construct c) w = (.ok (.ok made), w'))
      (hq : ∃ text, q.text = .ok text)
  /-- The constructor fails with a blocking exception, whose name does not matter. -/
  | blocked {e : Raised} {message : Option String} {w' : World}
      (hf : FailsWith m c w e message w') (hl : leftBody w'.classes e = .ok true)
      (hb : (Act.isSubclass e.error.type blocking w').1 = .ok true)
  /-- The constructor fails with another exception. -/
  | unblocked {e : Raised} {message : Option String} {w' : World}
      (hf : FailsWith m c w e message w') (hl : leftBody w'.classes e = .ok true)
      (hb : (Act.isSubclass e.error.type blocking w').1 = .ok false)
      (hq : ∃ text, q.text = .ok text) (hk : ∃ kind, w'.classes.nameText e.error.type = .ok kind)
  /-- Native code does not do without arguments. -/
  | refused {e : Raised} {message : Option String} {w' : World}
      (hf : FailsWith m c w e message w') (hl : leftBody w'.classes e = .ok false)
      (hr : refusesArguments w'.classes c e = .ok true)
  /-- Something else fails that is no body of a function. -/
  | inaccessible {e : Raised} {message : Option String} {w' : World}
      (hf : FailsWith m c w e message w') (hl : leftBody w'.classes e = .ok false)
      (hr : refusesArguments w'.classes c e = .ok false)
      (hk : ∃ kind, w'.classes.nameText e.error.type = .ok kind)

theorem isNameable_ofClass {h : Hierarchy} {c : ClassId} :
    (Subject.ofClass c).IsNameable h ↔ ∃ text, h.nameText c = .ok text := by
  simp only [Subject.IsNameable, Hierarchy.nameText_eq_ok_iff]
  exact exists_comm

theorem FailsWith.invoke (hf : FailsWith m c w e message w') {o : Outcome}
    (ho : judgement w'.classes c e message = .ok o) : invoke m (.ofClass c) w = (.ok o, w') := by
  obtain ⟨ha, w₁, hcatch, he, hm⟩ := hf
  exact invoke_eq_ok_iff.2
    (.inr ⟨ha, .inr ⟨e, w₁, hcatch, outcomeOf_eq_ok_iff.2 ⟨he, message, hm, ho⟩⟩⟩)

/-- A construction is judged just if there is an outcome on which can be reported. -/
theorem isJudged_iff {u : UseCase} (hu : u.policy.blocking = blocking) :
    IsJudged m c blocking q w ↔ ∃ o w', invoke m (.ofClass c) w = (.ok o, w') ∧
      ∃ isBlocking, (u.isBlocked o w').1 = .ok isBlocking ∧
        o.IsReportable w'.classes q isBlocking := by
  have hask (e : Raised) (message : Option String) (w' : World) :
      u.isBlocked (.failedWith (.ofClass e.error.type) message) w' =
        Act.isSubclass e.error.type blocking w' := by
    rw [UseCase.isBlocked, VerificationPolicy.isBlocking_ofClass, hu]
  constructor
  · rintro (ha | ⟨ha, hc, hq⟩ | ⟨hf, hl, hb⟩ | ⟨hf, hl, hb, hq, hk⟩ | ⟨hf, hl, hr⟩ |
      ⟨hf, hl, hr, hk⟩)
    · exact ⟨_, _, invoke_of_refused ha, false, rfl, trivial⟩
    · exact ⟨_, _, invoke_eq_ok_iff.2 (.inr ⟨ha, .inl ⟨_, hc, rfl⟩⟩), false, rfl, hq⟩
    · exact ⟨_, _, hf.invoke (judgement_eq_ok_iff.2 (.inl ⟨hl, rfl⟩)), true, by rw [hask, hb],
        .inl rfl⟩
    · exact ⟨_, _, hf.invoke (judgement_eq_ok_iff.2 (.inl ⟨hl, rfl⟩)), false, by rw [hask, hb],
        .inr ⟨hq, isNameable_ofClass.2 hk⟩⟩
    · exact ⟨_, _, hf.invoke (judgement_eq_ok_iff.2 (.inr ⟨hl, .inl ⟨hr, rfl⟩⟩)), false, rfl,
        trivial⟩
    · exact ⟨_, _, hf.invoke (judgement_eq_ok_iff.2 (.inr ⟨hl, .inr ⟨hr, rfl⟩⟩)), false, rfl,
        isNameable_ofClass.2 hk⟩
  · rintro ⟨o, w', hinvoke, isBlocking, hb, ho⟩
    obtain ⟨ha, rfl, rfl⟩ | ⟨ha, ⟨made, hc, rfl⟩ | ⟨e, w₁, hc, he⟩⟩ := invoke_eq_ok_iff.1 hinvoke
    · exact .unprovided ha
    · exact .constructed ha hc ho
    · obtain ⟨he, message, hm, hj⟩ := outcomeOf_eq_ok_iff.1 he
      have hf : FailsWith m c w e message w' := ⟨ha, w₁, hc, he, hm⟩
      obtain ⟨hl, rfl⟩ | ⟨hl, ⟨hr, rfl⟩ | ⟨hr, rfl⟩⟩ := judgement_eq_ok_iff.1 hj
      · rw [hask] at hb
        cases isBlocking with
        | true => exact .blocked hf hl hb
        | false =>
          obtain ⟨hq, hk⟩ := ho.resolve_left Bool.false_ne_true
          exact .unblocked hf hl hb hq (isNameable_ofClass.1 hk)
      · exact .refused hf hl hr
      · exact .inaccessible hf hl hr (isNameable_ofClass.1 ho)

/-- With reflection as the introspector, a verification proceeds on a concrete class just if the
constructors are listed, the blocking class has a name, and the construction is judged. -/
theorem proceeds_iff {u : UseCase} (hi : u.introspector = introspector m)
    (hu : u.policy.blocking = blocking) :
    u.Proceeds (.ofClass c) w ↔ (∃ list, w.classes.listing c = .ok list) ∧
      ∃ q, w.classes.nameOf blocking = .ok q ∧ IsJudged m c blocking q w := by
  have hlists (list : List ConstructorDescriptor) (w₁ : World) :
      u.introspector.constructors (.ofClass c) w = (.ok list, w₁) ↔
        w.classes.listing c = .ok list ∧ w₁ = w := by
    rw [hi]
    exact Act.ofExcept_eq_ok_iff
  constructor
  · rintro ⟨list, w₁, q, o, w₂, isBlocking, hl, hq, hinvoke, hb, ho⟩
    obtain ⟨hl, rfl⟩ := (hlists list w₁).1 hl
    rw [hu] at hq
    rw [hi] at hinvoke
    exact ⟨⟨list, hl⟩, q, hq, (isJudged_iff hu).2 ⟨o, w₂, hinvoke, isBlocking, hb, ho⟩⟩
  · rintro ⟨⟨list, hl⟩, q, hq, hj⟩
    obtain ⟨o, w₂, hinvoke, isBlocking, hb, ho⟩ := (isJudged_iff hu).1 hj
    refine ⟨list, w, q, o, w₂, isBlocking, (hlists list w).2 ⟨hl, rfl⟩, ?_, ?_, hb, ho⟩
    · rw [hu]
      exact hq
    · rw [hi]
      exact hinvoke

/-- The verification that looks at the classes themselves. -/
def useCase (m : Machinery) (blocking : ClassId) : UseCase := ⟨introspector m, ⟨blocking⟩⟩

/-- The world in which a class is constructed that is verified. -/
def arrived (d : TypeDescriptor) (own : String) (c : ClassId) (w : World) : World :=
  UseCase.remarked d own (w.begun "verify_utility_class" [.ofClass c])

@[simp] theorem arrived_classes (d : TypeDescriptor) (own : String) (c : ClassId) (w : World) :
    (arrived d own c w).classes = w.classes := w.begun_classes _ _

/-- A class is described at the beginning of its verification as it is at other times. -/
theorem describe_begun_eq_ok_iff {d : TypeDescriptor} {w₁ : World} :
    (useCase m blocking).introspector.describe (.ofClass c)
        (w.begun "verify_utility_class" [.ofClass c]) = (.ok d, w₁) ↔
      w.classes.description c = .ok d ∧ w₁ = w.begun "verify_utility_class" [.ofClass c] := by
  rw [← w.begun_classes "verify_utility_class" [.ofClass c]]
  exact Act.ofExcept_eq_ok_iff

/-- And so are its constructors listed, which is the next question. -/
theorem constructors_arrived_eq_ok_iff {d : TypeDescriptor} {own : String}
    {list : List ConstructorDescriptor} {w₁ : World} :
    (useCase m blocking).introspector.constructors (.ofClass c) (arrived d own c w) =
        (.ok list, w₁) ↔
      w.classes.listing c = .ok list ∧ w₁ = arrived d own c w := by
  rw [← arrived_classes d own c w]
  exact Act.ofExcept_eq_ok_iff

/-- All that the verification of a class rests on can be read: the description and the written name
of the class, and where it is concrete, the list of its constructors, the name of the blocking
class, and what constructing it shows. -/
def IsVerifiable (m : Machinery) (c blocking : ClassId) (w : World) : Prop :=
  ∃ d own, w.classes.description c = .ok d ∧ w.classes.nameText c = .ok own ∧
    (d.isConcrete = true → (∃ list, w.classes.listing c = .ok list) ∧
      ∃ q, w.classes.nameOf blocking = .ok q ∧ IsJudged m c blocking q (arrived d own c w))

/-- A verification by reflection returns a report just if the class is verifiable. -/
theorem exists_execute_iff :
    (∃ report, ((useCase m blocking).execute m (.ofClass c) w).1 = .ok report) ↔
      IsVerifiable m c blocking w := by
  have hproceeds (d : TypeDescriptor) (own : String) :
      (useCase m blocking).Proceeds (.ofClass c) (arrived d own c w) ↔
        (∃ list, w.classes.listing c = .ok list) ∧ ∃ q, w.classes.nameOf blocking = .ok q ∧
          IsJudged m c blocking q (arrived d own c w) := by
    have hp := proceeds_iff (m := m) (c := c) (w := arrived d own c w) (u := useCase m blocking)
      rfl rfl
    rwa [arrived_classes] at hp
  rw [UseCase.exists_execute_iff]
  constructor
  · rintro ⟨-, d, w₁, name, hdescribes, hn, hp⟩
    obtain ⟨hd, rfl⟩ := describe_begun_eq_ok_iff.1 hdescribes
    rw [Hierarchy.text_name_of_description hd] at hn
    exact ⟨d, name, hd, hn, fun hconcrete => (hproceeds d name).1 (hp hconcrete)⟩
  · rintro ⟨d, own, hd, hown, hp⟩
    exact ⟨⟨own, hown⟩, d, _, own, describe_begun_eq_ok_iff.2 ⟨hd, rfl⟩,
      (Hierarchy.text_name_of_description hd).2 hown,
      fun hconcrete => (hproceeds d own).2 (hp hconcrete)⟩

/-! ## Signals -/

/-- A class is reached: it is concrete, nothing keeps it from being constructed without arguments,
and all that is looked at before can be read. -/
structure IsReached (h : Hierarchy) (c blocking : ClassId) (d : TypeDescriptor) (own : String) :
    Prop where
  describes : h.description c = .ok d
  names : h.nameText c = .ok own
  isConcrete : d.isConcrete = true
  lists : ∃ list, h.listing c = .ok list
  namesBlocking : ∃ q, h.nameOf blocking = .ok q
  accepts : h.acceptsNoArguments c = .ok true

section Reached

variable {d : TypeDescriptor} {own : String} (hr : IsReached w.classes c blocking d own)
include hr

/-- A class that is reached has been described. -/
theorem IsReached.describe_begun :
    (useCase m blocking).introspector.describe (.ofClass c)
        (w.begun "verify_utility_class" [.ofClass c]) =
      (.ok d, w.begun "verify_utility_class" [.ofClass c]) :=
  describe_begun_eq_ok_iff.2 ⟨hr.describes, rfl⟩

theorem IsReached.name_text : d.name.text = .ok own :=
  (Hierarchy.text_name_of_description hr.describes).2 hr.names

/-- The constructors of a class that is reached have been listed. -/
theorem IsReached.exists_constructors_arrived : ∃ list, w.classes.listing c = .ok list ∧
    (useCase m blocking).introspector.constructors (.ofClass c) (arrived d own c w) =
      (.ok list, arrived d own c w) := by
  obtain ⟨list, hl⟩ := hr.lists
  exact ⟨list, hl, constructors_arrived_eq_ok_iff.2 ⟨hl, rfl⟩⟩

/-- A signal of the constructor that is no ordinary exception ends the verification as it is. -/
theorem execute_of_signal
    (hc : Act.catching m (m.construct c) (arrived d own c w) = (.ok (.error e), w'))
    (he : w'.classes.isException e.error.type = false)
    (hs : (Act.isSubclass e.error.type e.raisedAs w').1 = .ok true) :
    ((useCase m blocking).execute m (.ofClass c) w).1 = .error e.settled := by
  obtain ⟨list, -, hlists⟩ := hr.exists_constructors_arrived (m := m)
  obtain ⟨q, hq⟩ := hr.namesBlocking
  have hinvoke : (useCase m blocking).introspector.invoke (.ofClass c) (arrived d own c w) =
      (.error e, w') := by
    show invoke m (.ofClass c) _ = _
    rw [invoke_of_accepted (by rw [arrived_classes, hr.accepts]), Act.bind_run_of_ok hc]
    exact outcomeOf_of_signal he
  have hfurther : (useCase m blocking).checkFurther (.ofClass c) d own (arrived d own c w) =
      (.error e, w') := by
    rw [UseCase.checkFurther_of_concrete hr.isConcrete,
      UseCase.checkConstructors_of_listed hr.name_text rfl hlists
        (by rw [arrived_classes]; exact hq),
      Act.bind_run_of_error hinvoke]
  have hexamine := UseCase.examine_of_error (s := .ofClass c) rfl hr.describe_begun hr.name_text
    hfurther
  exact Act.measured_of_signal m _ hr.names hexamine he hs

/-- A failure with a blocking exception adds nothing to the report. -/
theorem execute_of_blocked
    (hf : FailsWith m c (arrived d own c w) e message w') (hl : leftBody w'.classes e = .ok true)
    (hb : (Act.isSubclass e.error.type blocking w').1 = .ok true) :
    ∃ list, w.classes.listing c = .ok list ∧
      ((useCase m blocking).execute m (.ofClass c) w).1 =
        .ok (Run.verdict d own
          (classIssues d own ++ (privacyIssues list ++ argumentIssues own list))) := by
  obtain ⟨list, hlisting, hlists⟩ := hr.exists_constructors_arrived (m := m)
  obtain ⟨q, hq⟩ := hr.namesBlocking
  have hinvoke : (useCase m blocking).introspector.invoke (.ofClass c) (arrived d own c w) =
      (.ok (.failedWith (.ofClass e.error.type) message), w') :=
    hf.invoke (judgement_eq_ok_iff.2 (.inl ⟨hl, rfl⟩))
  have hblocked : (useCase m blocking).isBlocked (.failedWith (.ofClass e.error.type) message) w' =
      (.ok true, (Act.isSubclass e.error.type blocking w').2) := by
    rw [UseCase.isBlocked, VerificationPolicy.isBlocking_ofClass]
    exact Prod.ext hb rfl
  have hfurther := (UseCase.checkFurther_eq_ok_iff (u := useCase m blocking) (s := .ofClass c)
    hr.name_text hr.isConcrete).2 ⟨list, _, q, _, w', true, hlists,
      by rw [arrived_classes]; exact hq, hinvoke, hblocked, rfl⟩
  obtain ⟨w'', hexamine⟩ := UseCase.examine_of_ok rfl hr.describe_begun hr.name_text hfurther
  exact ⟨list, hlisting, Act.measured_of_ok m hr.names hexamine rfl⟩

end Reached

/-! ## Values that are no classes -/

/-- The world in which a value is shown that is to be verified. -/
def presented (shown : Act String) (w : World) : World :=
  w.begun "verify_utility_class" [.value shown]

section Value

variable {shown : Act String} {text : String}

/-- There is no report on a value. -/
theorem execute_value_ne_ok (m : Machinery) (blocking : ClassId) (report : Report) :
    ((useCase m blocking).execute m (.value shown) w).1 ≠ .ok report := by
  intro hreport
  obtain ⟨-, hexamine⟩ := (Act.measured_fst_eq_ok_iff fun _ => ⟨_, rfl⟩).1 hreport
  rw [UseCase.examine_value] at hexamine
  exact Handle.refuse_ne_ok report hexamine

section Refused

variable {w₁ w₂ : World} (m : Machinery) (blocking : ClassId)
  (hrefuse : (Handle.refuse Fault.notIntrospectable shown : Act Report) (presented shown w) =
    (.error e, w₁))
  (hs : Act.isSubclass e.error.type e.raisedAs w₁ = (.ok true, w₂))
include hrefuse hs

/-- The verification of a value does about its refusal what is done about any exception. -/
theorem execute_value_run :
    (useCase m blocking).execute m (.value shown) w = (do
      Act.giveUp m "verify_utility_class" (w.beginning "unknown") e.settled
      throw e.settled : Act Report) w₂ := by
  have htarget : w.classes.targetName [.value shown] = .ok "unknown" := rfl
  have hexamine : (useCase m blocking).examine (.value shown)
      (w.started "verify_utility_class" "unknown") = (.error e, w₁) := by
    rw [UseCase.examine_value, ← Act.begun_eq_started htarget]
    exact hrefuse
  rw [UseCase.execute, Act.measured_of_found htarget (Act.catching_of_isSubclass m hexamine hs)]

theorem execute_value_of_signal (he : w₂.classes.isException e.error.type = false) :
    (useCase m blocking).execute m (.value shown) w = (.error e.settled, w₂) := by
  rw [execute_value_run m blocking hrefuse hs,
    Act.bind_run_of_ok (Act.giveUp_of_signal (e := e.settled) m _ _ he)]
  rfl

theorem execute_value_of_logged (he : w₂.classes.isException e.error.type = true) {name : Document}
    {text : String} {w₃ : World} (hname : w₂.classes.loggedName e.error.type = .ok (.data name))
    (htext : m.textOf e.error w₂.gauged = (.ok text, w₃)) :
    (useCase m blocking).execute m (.value shown) w = (.error e.settled,
      w₂.failed "verify_utility_class" (w.beginning "unknown") name text w₃) := by
  rw [execute_value_run m blocking hrefuse hs,
    Act.bind_run_of_ok (Act.giveUp_of_named (e := e.settled) _ _ he hname htext)]
  rfl

end Refused

/-- A complaint is logged and comes out. Nothing is constructed, whatever constructing would do. -/
theorem execute_value (m : Machinery) (blocking : ClassId)
    (hrefuse : (Handle.refuse Fault.notIntrospectable shown : Act Report) (presented shown w) =
      (.error e, w')) (he : e.IsOfFault) (hlibrary : w'.classes.KeepsLibrary) :
    ∃ readings journal, ∀ construct : ClassId → Act Value,
      (useCase { m.above with construct } blocking).execute { m.above with construct }
        (.value shown) w = (.error e, { w' with readings, journal }) := by
  obtain ⟨text, htext⟩ := he.exists_textOf_run m
  have hexecute (construct : ClassId → Act Value) :=
    execute_value_of_logged { m.above with construct } blocking hrefuse
      (he.isSubclass_run hlibrary) (he.isException_eq hlibrary) (he.loggedName_eq hlibrary)
      (htext w'.gauged hlibrary)
  rw [he.settled_eq] at hexecute
  exact ⟨_, _, hexecute⟩

end Value

/-! ## Classes -/

theorem exists_constructors_iff :
    (∃ list, (constructors (.ofClass c) w).1 = .ok list) ↔
      ∃ list, w.classes.listing c = .ok list := by
  simp only [constructors_run, Act.ofExcept_fst_eq_ok_iff]

theorem exists_describe_iff :
    (∃ d, (describe (.ofClass c) w).1 = .ok d) ↔ ∃ d, w.classes.description c = .ok d := by
  simp only [describe_run, Act.ofExcept_fst_eq_ok_iff]

/-- The exception that says that a class has no name. -/
def nameless : Raised := (Fault.name .empty).raised

section Nameless

variable (hplain : w.classes.ReadsPlainly c) (hn : ¬w.classes.IsNamed c)
include hplain hn

theorem describe_nameless : describe (.ofClass c) w = (.error nameless, w) := by
  rw [describe_run, Hierarchy.description, hplain.nameOf_of_unnamed hn]
  rfl

theorem constructors_nameless : constructors (.ofClass c) w = (.error nameless, w) := by
  have hname : w.classes.nameText c = .error (.name .empty) := by
    rw [Hierarchy.nameText, hplain.nameOf_of_unnamed hn]
    rfl
  obtain ⟨reported, hr⟩ := hplain.exists_reportedConstructors
  obtain ⟨⟨name, k⟩, rest, rfl⟩ :=
    List.exists_cons_of_ne_nil (Hierarchy.ne_nil_of_reportedConstructors hr)
  have hlisting : w.classes.listing c = .error (.name .empty) := by
    rw [Hierarchy.listing, hr, ok_bind, List.mapM_cons]
    dsimp only
    rw [Hierarchy.describeConstructor_of_error hname]
    rfl
  rw [constructors_run, hlisting]
  rfl

theorem execute_nameless (m : Machinery) (blocking : ClassId) :
    ((useCase m blocking).execute m (.ofClass c) w).1 = .error nameless := by
  have htarget : w.classes.targetName [.ofClass c] = .error (.name .empty) := by
    show w.classes.nameText c = _
    rw [Hierarchy.nameText, hplain.nameOf_of_unnamed hn]
    rfl
  exact Act.measured_of_target_error htarget

end Nameless

/-! ## Classes on which no report is returned -/

namespace Specimens

/-- The initialising function of a utility class, which raises an exception. -/
def raising (error : LibraryClass) : FunctionDraft where
  form := .plain
  outer := {
    parameters := [.bare .plain "self"]
    result := none
    marker := some (.bool true)
    signatureValue := none }
  inner := []
  marksWrapper := false
  body := [.raise (.ofClass error) none]

/-- A utility class with this function. -/
def named (name : String) (error : LibraryClass) : Declaration where
  name := .str name
  qualname := .str name
  module := .str "spec"
  bases := []
  metaclass := none
  isFinal := true
  attributes := []
  methods := []
  creator := none
  initialiser := some (.function (raising error))
  describer := none
  caller := none
  members := []

/-- The world in which a class without a name is declared, and one whose construction is
interrupted. -/
def world : World :=
  ((do
    discard ((named "" .typeError).declare .standard)
    (named "A" .keyboardInterrupt).declare .standard) (.initial .initial)).2

def anonymous : ClassId := .declared 0

def interrupted : ClassId := .declared 1

/-- What showing an object does whose method for this gives no text. -/
def mute : Act String := Act.fail (.refusal (.nonText "__repr__" "NoneType"))

theorem keepsLibrary : world.classes.KeepsLibrary := ⟨fun _ => rfl, fun _ => rfl, fun _ => rfl⟩

theorem readsPlainly_anonymous : world.classes.ReadsPlainly anonymous :=
  keepsLibrary.readsPlainly (l := .type) List.mem_cons_self rfl nofun
    (List.forall_mem_singleton.2 ⟨.type, rfl⟩) (List.mem_cons_of_mem _ List.mem_cons_self)

theorem readsPlainly_interrupted : world.classes.ReadsPlainly interrupted :=
  keepsLibrary.readsPlainly (l := .type) List.mem_cons_self rfl nofun
    (List.forall_mem_singleton.2 ⟨.type, rfl⟩) (List.mem_cons_of_mem _ List.mem_cons_self)

theorem not_isNamed_anonymous : ¬world.classes.IsNamed anonymous := by
  rintro (h | h) <;> exact h rfl

theorem writesConstructors_interrupted : world.classes.WritesConstructors interrupted := by
  have hreported : world.classes.reportedConstructors interrupted = .ok [("__init__",
      .raw (.function ((raising .keyboardInterrupt).function interrupted "A" "__init__")))] := rfl
  intro reported hr k hk
  obtain rfl := Except.ok.inj (hreported.symm.trans hr)
  obtain rfl := List.mem_singleton.1 hk
  rintro s ⟨⟩ a ha
  cases ha

theorem isVerifiable_object :
    IsVerifiable .standard LibraryClass.object LibraryClass.typeError world := by
  obtain ⟨readings, journal, hbegun⟩ :=
    world.begun_eq "verify_utility_class" [.ofClass LibraryClass.object]
  refine ⟨_, _, rfl, rfl, fun _ => ⟨⟨_, rfl⟩, _, rfl, ?_⟩⟩
  rw [arrived, hbegun]
  exact .constructed rfl rfl ⟨_, rfl⟩

/-- The signal that interrupts a construction. -/
def interruption : Raised where
  error := .bare LibraryClass.keyboardInterrupt
  raisedAs := LibraryClass.keyboardInterrupt
  frames := 1

theorem catching_interrupted (d : TypeDescriptor) (name : String) :
    Act.catching .standard (Machinery.standard.construct interrupted)
        (arrived d name interrupted world) =
      (.ok (.error interruption), arrived d name interrupted world) := by
  obtain ⟨readings, journal, hbegun⟩ :=
    world.begun_eq "verify_utility_class" [.ofClass interrupted]
  rw [arrived, hbegun]
  rfl

end Specimens

/-! ## The contract -/

/-- Which exceptions come out of the verifier, with reflection as its introspector. -/
structure ErrorContract (m : Machinery) (blocking : ClassId) (w : World) : Prop where
  /-- A class is described just if its name, its kind and both modifiers can be read. -/
  describes (c : ClassId) : (∃ d, (describe (.ofClass c) w).1 = .ok d) ↔
    (∃ name, w.classes.nameOf c = .ok name) ∧ (∃ kind, w.classes.classify c = .ok kind) ∧
      (∃ isAbstract, w.classes.isAbstract c = .ok isAbstract) ∧
      ∃ isFinal, w.classes.isFinal c = .ok isFinal
  /-- Its constructors are listed just if its name can be written, and so can they. -/
  lists (c : ClassId) : (∃ list, (constructors (.ofClass c) w).1 = .ok list) ↔
    (∃ name, w.classes.nameText c = .ok name) ∧
      ∃ reported, w.classes.reportedConstructors c = .ok reported ∧
        ∀ k ∈ reported, k.2.IsWritable w.classes
  /-- A report is returned on it just if all can be read that the verification rests on. -/
  reports (c : ClassId) :
    (∃ report, ((useCase m blocking).execute m (.ofClass c) w).1 = .ok report) ↔
      IsVerifiable m c blocking w
  /-- A signal of its constructor that is no ordinary exception is let through. -/
  signals (c : ClassId) (d : TypeDescriptor) (name : String) (e : Raised) (w' : World) :
    IsReached w.classes c blocking d name →
    Act.catching m (m.construct c) (arrived d name c w) = (.ok (.error e), w') →
    w'.classes.isException e.error.type = false →
    (Act.isSubclass e.error.type e.raisedAs w').1 = .ok true →
    ((useCase m blocking).execute m (.ofClass c) w).1 = .error e.settled
  /-- Of a class that is read plainly all can be read but the name, and all be written but the
  annotations of its constructors. -/
  plain (c : ClassId) : w.classes.ReadsPlainly c →
    ((∃ d, (describe (.ofClass c) w).1 = .ok d) ↔ w.classes.IsNamed c) ∧
      ((∃ list, (constructors (.ofClass c) w).1 = .ok list) ↔
        w.classes.IsNamed c ∧ w.classes.WritesConstructors c)
  /-- Without a name it is a complaint about a value that comes out, of every operation. -/
  unnamed (c : ClassId) : w.classes.ReadsPlainly c → ¬w.classes.IsNamed c →
    ∃ e, e.error.type = .library .valueError ∧ describe (.ofClass c) w = (.error e, w) ∧
      constructors (.ofClass c) w = (.error e, w) ∧
      ((useCase m blocking).execute m (.ofClass c) w).1 = .error e
  /-- A value that is no class and shows itself cannot be introspected, and there is no checker of
  it. Showing it is all that is done. -/
  values (shown : Act String) (text : String) (w' : World) : shown w = (.ok text, w') →
    (∃ e, e.error.type = .library .introspectionError ∧
      e = (Fault.notIntrospectable text).raised ∧
      describe (.value shown) w = (.error e, w') ∧
      constructors (.value shown) w = (.error e, w') ∧
      invoke m (.value shown) w = (.error e, w')) ∧
    ∃ e, e.error.type = .library .typeError ∧ e = (Fault.notAClass text).raised ∧
      Checker.forClass m (.value shown) (.ofClass blocking) w = (.error e, w')
  /-- If it does not, what comes out is what showing it has raised. -/
  unshown (shown : Act String) (e : Raised) (w' : World) : shown w = (.error e, w') →
    describe (.value shown) w = (.error e, w') ∧ constructors (.value shown) w = (.error e, w') ∧
      invoke m (.value shown) w = (.error e, w') ∧
      Checker.forClass m (.value shown) (.ofClass blocking) w = (.error e, w')
  /-- There is no report on a value. As long as nobody changes the library, the refusal comes out of
  its verification. Nothing is constructed: all that the verification adds to showing the value is
  in the log, whatever constructing would do. -/
  refuses (shown : Act String) :
    (∀ report, ((useCase m blocking).execute m (.value shown) w).1 ≠ .ok report) ∧
      ∀ text w', shown (presented shown w) = (.ok text, w') → w'.classes.KeepsLibrary →
        ∃ e readings journal, e.error.type = .library .introspectionError ∧
          e = (Fault.notIntrospectable text).raised ∧ ∀ construct : ClassId → Act Value,
            (useCase { m with construct } blocking).execute { m with construct } (.value shown) w =
              (.error e, { w' with readings, journal })
  /-- If the value does not show itself, its exception comes out of the verification as well: a
  signal at once, and an ordinary exception behind the event that tells of it. -/
  complains (shown : Act String) (e : Raised) (w₁ w₂ : World) :
    shown (presented shown w) = (.error e, w₁) →
    Act.isSubclass e.error.type e.raisedAs w₁ = (.ok true, w₂) →
    (w₂.classes.isException e.error.type = false → ∀ construct : ClassId → Act Value,
      (useCase { m with construct } blocking).execute { m with construct } (.value shown) w =
        (.error e.settled, w₂)) ∧
    ∀ name text w₃, w₂.classes.isException e.error.type = true →
      w₂.classes.loggedName e.error.type = .ok (.data name) →
      m.textOf e.error w₂.gauged = (.ok text, w₃) →
        ∃ readings journal, ∀ construct : ClassId → Act Value,
          (useCase { m with construct } blocking).execute { m with construct } (.value shown) w =
            (.error e.settled, { w₃ with readings, journal })

/-- **The error contract**, for every class and every value, with a blocking class of ordinary
exceptions. -/
theorem errorContract (m : Machinery) (hblocking : w.classes.isException blocking = true) :
    ErrorContract m.above blocking w where
  describes _ := exists_describe_iff.trans Hierarchy.exists_description_iff
  lists _ := exists_constructors_iff.trans Hierarchy.exists_listing_ok_iff
  reports _ := exists_execute_iff
  signals _ _ _ _ _ := execute_of_signal
  plain _ hplain := ⟨exists_describe_iff.trans hplain.exists_description_iff,
    exists_constructors_iff.trans hplain.exists_listing_iff⟩
  unnamed _ hplain hn :=
    ⟨nameless, rfl, describe_nameless hplain hn, constructors_nameless hplain hn,
      execute_nameless hplain hn m.above blocking⟩
  values shown text w' ht := by
    rw [describe_value, constructors_value, invoke_value,
      Checker.forClass_of_isException hblocking, Checker.make_value, Handle.refuse_of_ok ht,
      Handle.refuse_of_ok ht, Handle.refuse_of_ok ht, Handle.refuse_of_ok ht]
    exact ⟨⟨_, rfl, rfl, rfl, rfl, rfl⟩, _, rfl, rfl, rfl⟩
  unshown shown e w' he := by
    rw [describe_value, constructors_value, invoke_value,
      Checker.forClass_of_isException hblocking, Checker.make_value, Handle.refuse_of_error he,
      Handle.refuse_of_error he, Handle.refuse_of_error he, Handle.refuse_of_error he]
    exact ⟨rfl, rfl, rfl, rfl⟩
  refuses shown := by
    refine ⟨execute_value_ne_ok m.above blocking, fun text w' ht hlibrary => ?_⟩
    obtain ⟨readings, journal, hexecute⟩ := execute_value m blocking (Handle.refuse_of_ok ht)
      (Raised.isOfFault_raised _) hlibrary
    exact ⟨_, readings, journal, rfl, rfl, hexecute⟩
  complains shown e w₁ w₂ he hs :=
    ⟨fun hsignal construct => execute_value_of_signal _ blocking (Handle.refuse_of_error he) hs
      hsignal, fun name text w₃ hexception hname htext => ⟨_, _, fun construct =>
        execute_value_of_logged { m.above with construct } blocking (Handle.refuse_of_error he) hs
          hexception hname htext⟩⟩

open Specimens in
/-- A class is verified, another one is listed although its construction is interrupted, a third one
has no name; `null` is no class, and neither is an object that cannot be shown. -/
theorem errorContract_specimens :
    world.classes.isException LibraryClass.typeError = true ∧
      (∃ report, ((useCase .standard LibraryClass.typeError).execute .standard
        (.ofClass LibraryClass.object) world).1 = .ok report) ∧
      (∃ list, (constructors (.ofClass interrupted) world).1 = .ok list) ∧
      ((useCase .standard LibraryClass.typeError).execute .standard
        (.ofClass interrupted) world).1 = .error interruption ∧
      (∃ e, e.error.type = .library .valueError ∧
        describe (.ofClass anonymous) world = (.error e, world)) ∧
      (∃ e, e.error.type = .library .introspectionError ∧
        invoke .standard (Value.data .null) world = (.error e, world) ∧
        ∃ readings journal, (useCase .standard LibraryClass.typeError).execute .standard
          (Value.data .null) world = (.error e, { world with readings, journal })) ∧
      ∃ e, e.error.type = .library .typeError ∧
        invoke .standard (.value mute) world = (.error e, world) ∧
        ∃ readings journal, (useCase .standard LibraryClass.typeError).execute .standard
          (.value mute) world = (.error e, { world with readings, journal }) := by
  have hcontract : ErrorContract .standard LibraryClass.typeError world :=
    errorContract (.level 999) rfl
  refine ⟨rfl, (hcontract.reports _).2 isVerifiable_object, ?_, ?_, ?_, ?_, ?_⟩
  · have hnamed : world.classes.IsNamed interrupted := .inl (by decide)
    exact (hcontract.plain _ readsPlainly_interrupted).2.2 ⟨hnamed, writesConstructors_interrupted⟩
  · obtain ⟨d, name, hreached⟩ :
        ∃ d name, IsReached world.classes interrupted LibraryClass.typeError d name :=
      ⟨_, _, rfl, rfl, rfl, ⟨_, rfl⟩, ⟨_, rfl⟩, rfl⟩
    exact hcontract.signals _ d name _ _ hreached (catching_interrupted d name) rfl rfl
  · obtain ⟨e, he, hdescribe, -⟩ :=
      hcontract.unnamed _ readsPlainly_anonymous not_isNamed_anonymous
    exact ⟨e, he, hdescribe⟩
  · have hshown (w : World) : Act.ofExcept Json.null.shown w = (.ok "None", w) := rfl
    rw [Value.handle_data]
    obtain ⟨⟨e, he, rfl, -, -, hinvoke⟩, -⟩ := hcontract.values _ "None" world (hshown world)
    obtain ⟨r₀, j₀, hbegun⟩ := world.begun_eq "verify_utility_class"
      [.value (Act.ofExcept Json.null.shown)]
    obtain ⟨e, readings, journal, -, rfl, hexecute⟩ := (hcontract.refuses _).2 "None"
      { world with readings := r₀, journal := j₀ } (by rw [presented, hbegun, hshown]) keepsLibrary
    exact ⟨_, he, hinvoke, readings, journal, hexecute _⟩
  · have hmute (w : World) : mute w =
        (.error (Fault.refusal (.nonText "__repr__" "NoneType")).raised, w) := rfl
    obtain ⟨-, -, hinvoke, -⟩ := hcontract.unshown mute _ world (hmute world)
    obtain ⟨r₀, j₀, hbegun⟩ := world.begun_eq "verify_utility_class" [.value mute]
    have hfault := Raised.isOfFault_raised (.refusal (.nonText "__repr__" "NoneType"))
    obtain ⟨readings, journal, hexecute⟩ := (hcontract.complains mute _ _
      { world with readings := r₀, journal := j₀ } (by rw [presented, hbegun, hmute])
      (hfault.isSubclass_run keepsLibrary)).2 _ _ _ rfl (hfault.loggedName_eq keepsLibrary) rfl
    exact ⟨_, rfl, hinvoke, readings, journal, hexecute _⟩

open Specimens in
/-- What comes out for a class without a name is an ordinary exception, and it does not say that
something cannot be introspected. -/
theorem execute_anonymous :
    ∃ e, world.classes.isException e.error.type = true ∧
      world.classes.derives e.error.type LibraryClass.introspectionError = false ∧
      describe (.ofClass anonymous) world = (.error e, world) ∧
      constructors (.ofClass anonymous) world = (.error e, world) ∧
      ((useCase .standard LibraryClass.typeError).execute .standard
        (.ofClass anonymous) world).1 = .error e :=
  ⟨nameless, rfl, rfl, describe_nameless readsPlainly_anonymous not_isNamed_anonymous,
    constructors_nameless readsPlainly_anonymous not_isNamed_anonymous,
    execute_nameless readsPlainly_anonymous not_isNamed_anonymous _ _⟩

end Reflection

end UtilityClass
