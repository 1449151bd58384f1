import UtilityClass.Proofs.DiscreetMachinery
import UtilityClass.Proofs.LibraryErrors

/-!
# Sessions over fixed answers

In a session, questions are put to one introspector with fixed answers and to the verification over
it, one after the other. Each answer is the one that a new introspector and a new verification would
give at that time: how often questions were put, what was logged, and which readings were taken does
not matter, and none of these is handed on from one question to the next. The introspector has
counted each question just as often as it was put, whether verifications have succeeded or not.

## Main definitions

* `UseCase.askAll` : a session
* `Question.counted` : what a question does to the tally

## Main results

* `UseCase.ask_alike` : a question does not depend on what belongs to observers
* `UseCase.ask_tally` : one question is counted
* `UseCase.session_answers` : the answers and the tally of a whole session
-/

namespace UtilityClass

open Act (bind_run_of_ok bind_run_of_error)

/-! ## Questions and tallies -/

namespace Question

/-- Whether the introspector is asked directly for a description. -/
def isDescription : Question → Bool
  | .describe _ => true
  | _ => false

/-- Whether the introspector is asked directly for constructors. -/
def isListing : Question → Bool
  | .constructors _ | .extend => true
  | _ => false

/-- Whether the introspector is asked directly to construct. -/
def isInvocation : Question → Bool
  | .invoke _ => true
  | _ => false

/-- The class that is verified for the answer, if one is. -/
def executed? : Question → Option ClassId
  | .execute v | .check v | .verify v => v.handle.class?
  | _ => none

/-- Whether a class is verified for the answer. -/
def isExecution (q : Question) : Bool := q.executed?.isSome

/-- The tally after a question, if a class of the given kind is described. -/
def counted (q : Question) (isConcrete : Bool) (t : Tally) : Tally where
  describe := t.describe + q.isDescription.toNat + q.isExecution.toNat
  constructors := t.constructors + q.isListing.toNat + (isConcrete && q.isExecution).toNat
  invoke := t.invoke + q.isInvocation.toNat + (isConcrete && q.isExecution).toNat

/-- A question for which no class is verified. -/
theorem counted_of_none {q : Question} (hq : q.executed? = none) (isConcrete : Bool) (t : Tally) :
    q.counted isConcrete t =
      { describe := t.describe + q.isDescription.toNat
        constructors := t.constructors + q.isListing.toNat
        invoke := t.invoke + q.isInvocation.toNat } := by
  simp [counted, isExecution, hq]

/-- A question for which a class is verified is none that is put directly. -/
theorem counted_of_some {q : Question} {c : ClassId} (hq : q.executed? = some c)
    (isConcrete : Bool) (t : Tally) :
    q.counted isConcrete t =
      { describe := t.describe + 1
        constructors := t.constructors + isConcrete.toNat
        invoke := t.invoke + isConcrete.toNat } := by
  cases q <;> simp_all [counted, isExecution, executed?, isDescription, isListing, isInvocation]

end Question

namespace Act

variable {α β : Type} {m : Machinery} {operation name : String} {given : List Handle}
  {function : Act α} {w : World}

/-- From worlds that have a property, an act leads to such worlds. -/
def Keeps (S : World → Prop) (act : Act α) : Prop := ∀ w, S w → S (act w).2

theorem isHabit_keeps {S : World → Prop}
    (hS : ∀ w w' : World, w.setting = w'.setting → S w → S w') : IsHabit (Keeps S) where
  ofExcept x := (OnlyComplains.ofExcept x).keeps
  classes := OnlyComplains.classes.keeps
  record r := (OnlyComplains.record hS r).keeps
  bind {α β act f} hact hf w hw := by
    have h := hact w hw
    rcases hr : act w with ⟨e | a, w'⟩ <;> rw [hr] at h
    · rw [bind_run_of_error hr]
      exact h
    · rw [bind_run_of_ok hr]
      exact hf a w' h

/-- An introspector with fixed answers counts only. -/
theorem introspector_keeps (script : Script) {S : World → Prop}
    (hS : ∀ w w' : World, w.setting = w'.setting → S w → S w') :
    script.introspector.Acts (Keeps S) where
  describe _ w hw := hS w _ rfl hw
  constructors _ w hw := hS w _ rfl hw
  invoke _ w hw := hS w _ rfl hw

/-- What follows an act and leaves the tally alone may be forgotten for the tally. -/
theorem bind_tally (act : Act α) {f : α → Act β} (hf : ∀ a, OnlyAdds (f a)) (w : World) :
    ((act >>= f) w).2.tally = (act w).2.tally := by
  rcases hr : act w with ⟨e | a, w'⟩
  · rw [bind_run_of_error hr]
  · rw [bind_run_of_ok hr, (hf a w').tally]

/-- Observing a call is not counted. -/
theorem measured_tally (hm : m.IsDiscreet) (isValid : α → Document)
    (hn : w.classes.targetName given = .ok name) :
    (measured m operation given (fun a => .data (isValid a)) function w).2.tally =
      (function (w.started operation name)).2.tally := by
  have hcall : ObservedCall m operation isValid function name w _ _ :=
    observed_call m operation isValid hn
  obtain ⟨a, w₁, hf⟩ | ⟨e, w₁, hc⟩ := hcall.ends
  · rw [(hcall.returned a w₁ hf).2, hf]
    rfl
  · obtain ⟨e₀, w₀, hf, hs⟩ := catching_eq_error_iff.1 hc
    have hfinds := ((settle_isDiscreet hm e₀).adds w₀).tally
    rw [hs] at hfinds
    have hgives : OnlyAdds (giveUp m operation (w.beginning name) e) := OnlyAdds.giveUp hm _ e
    have hends : OnlyAdds (do giveUp m operation (w.beginning name) e; throw e : Act α) :=
      hgives.bind fun _ => (IsDiscreet.throw e).adds
    rw [measured_of_found hn hc, (hends w₁).tally, hfinds, hf]

end Act

namespace UseCase

variable {m : Machinery} {u : UseCase} {script : Script} {c : ClassId} {name : String} {w : World}

/-! ## One question -/

theorem acts_alike (hu : u.introspector = script.introspector) :
    u.Acts fun act => Act.Alike act act where
  toActs := by
    rw [hu]
    exact ⟨fun _ _ _ hw => ⟨rfl, hw⟩, fun _ _ _ hw => ⟨rfl, hw⟩, fun _ _ _ hw => ⟨rfl, hw⟩⟩
  isSubclass c := (Act.isSubclass_onlyAsks c _).isDiscreet.alike

/-- The answer to a question is the same in all worlds that differ only in what belongs to
observers, and so is what it does to the rest of the world. -/
theorem ask_alike (hm : m.IsDiscreet) (hu : u.introspector = script.introspector) (q : Question) :
    Act.Alike (u.ask m q) (u.ask m q) :=
  have hhabit := Act.isObservedHabit_alike hm
  ask_habit hhabit.toIsHabit (acts_alike hu).toActs
    (fun v => execute_habit hhabit (acts_alike hu) (hhabit.shown v))
    (fun _ => (Act.IsDiscreet.throw _).alike) q

theorem checkConstructors_tally (hu : u.introspector = script.introspector) (s : Handle) {r : Run}
    (hn : r.subject.name.text = .ok name) (hr : r.concluded = false)
    (hb : ∃ q, w.classes.nameOf u.policy.blocking = .ok q) :
    (u.checkConstructors s r w).2.tally =
      { w.tally with
        constructors := w.tally.constructors + 1
        invoke := w.tally.invoke + 1 } := by
  obtain ⟨q, hq⟩ := hb
  have hcs : u.introspector.constructors s w = (.ok script.constructors,
      { w with tally := { w.tally with constructors := w.tally.constructors + 1 } }) := by
    rw [hu]
    rfl
  have hinvoke (v : World) : u.introspector.invoke s v = (.ok script.outcome,
      { v with tally := { v.tally with invoke := v.tally.invoke + 1 } }) := by
    rw [hu]
    rfl
  rw [checkConstructors_run hn hr hcs hq (hinvoke _),
    ((u.judge_onlyAsks q script.outcome _).isDiscreet.adds _).tally]

/-- What the verification of a class asks of the introspector is counted, whatever comes of it. -/
theorem examine_tally (hu : u.introspector = script.introspector)
    (hn : script.descriptor.name.text = .ok name)
    (hb : ∃ q, w.classes.nameOf u.policy.blocking = .ok q) (c : ClassId) :
    (u.examine (.ofClass c) w).2.tally =
      { describe := w.tally.describe + 1
        constructors := w.tally.constructors + script.descriptor.isConcrete.toNat
        invoke := w.tally.invoke + script.descriptor.isConcrete.toNat } := by
  have hd : u.introspector.describe (.ofClass c) w = (.ok script.descriptor,
      { w with tally := { w.tally with describe := w.tally.describe + 1 } }) := by
    rw [hu]
    rfl
  rw [examine_run rfl hd hn,
    Act.bind_tally _ fun run => (close_habit Act.isHabit_isDiscreet run).adds]
  unfold checkFurther
  cases hconcrete : script.descriptor.isConcrete with
  | false => rfl
  | true =>
    rw [if_pos rfl]
    exact checkConstructors_tally hu _ hn rfl hb

/-- A verification of a class counts as such, whatever comes of it. -/
theorem execute_tally (hm : m.IsDiscreet) (hu : u.introspector = script.introspector)
    (hn : script.descriptor.name.text = .ok name)
    (hb : ∃ q, w.classes.nameOf u.policy.blocking = .ok q)
    (hown : ∃ own, w.classes.nameText c = .ok own) :
    (u.execute m (.ofClass c) w).2.tally =
      { describe := w.tally.describe + 1
        constructors := w.tally.constructors + script.descriptor.isConcrete.toNat
        invoke := w.tally.invoke + script.descriptor.isConcrete.toNat } := by
  obtain ⟨own, hown⟩ := hown
  have htarget : w.classes.targetName [.ofClass c] = .ok own := hown
  exact (Act.measured_tally hm (fun report => .bool (Report.isValid report)) htarget).trans
    (examine_tally (w := w.started _ own) hu hn hb c)

/-- Refusing a value is not counted. -/
theorem refuse_tally {α : Type} {v : Value} {shown : Act String} (hv : v.handle = .value shown)
    {complaint : String → Fault} :
    ((Handle.refuse complaint shown : Act α) w).2.tally = w.tally := by
  have hshown : Act.IsDiscreet v.handle.shown := Act.isHabit_isDiscreet.shown v
  rw [hv, Handle.shown] at hshown
  exact ((Act.isHabit_isDiscreet.refuse complaint hshown).adds w).tally

/-- A value that is no class is not verified, and nothing is counted for it. -/
theorem execute_value_tally (hm : m.IsDiscreet) {v : Value} {shown : Act String}
    (hv : v.handle = .value shown) : (u.execute m (.value shown) w).2.tally = w.tally := by
  have htarget : w.classes.targetName [.value shown] = .ok "unknown" := rfl
  have hexamine (w : World) : (u.examine (.value shown) w).2.tally = w.tally := by
    rw [examine_value]
    exact refuse_tally hv
  exact (Act.measured_tally hm (fun report => .bool (Report.isValid report)) htarget).trans
    (hexamine _)

/-- **A question** is counted just as often as it is put to the introspector. -/
theorem ask_tally (hm : m.IsDiscreet) (hu : u.introspector = script.introspector)
    (hn : script.descriptor.name.text = .ok name) (q : Question)
    (hq : ∀ c, q.executed? = some c → (∃ own, w.classes.nameText c = .ok own) ∧
      ∃ blocking, w.classes.nameOf u.policy.blocking = .ok blocking) :
    (u.ask m q w).2.tally = q.counted script.descriptor.isConcrete w.tally := by
  cases hc : q.executed? with
  | some c =>
    obtain ⟨hown, hb⟩ := hq c hc
    have hexecute := execute_tally hm hu hn hb hown
    rw [Question.counted_of_some hc, ← hexecute]
    cases q with
    | execute v =>
      rw [ask, Handle.eq_ofClass hc]
      exact Act.bind_tally _ (fun _ => (Act.IsDiscreet.pure _).adds) w
    | check v =>
      rw [ask_check, Handle.eq_ofClass hc]
      exact Act.bind_tally _ (fun _ => (Act.IsDiscreet.pure _).adds) w
    | verify v =>
      rw [ask_verify, Handle.eq_ofClass hc, Handle.require_ofClass, pure_bind,
        Act.bind_tally _ fun _ => (Act.IsDiscreet.pure _).adds]
      refine Act.bind_tally _ (fun report => ?_) w
      cases report with
      | ok subject => exact (Act.IsDiscreet.pure ()).adds
      | failed subject issues message => exact (Act.IsDiscreet.throw (.violation message)).adds
    | _ => cases hc
  | none =>
    rw [Question.counted_of_none hc]
    cases q with
    | describe _ | constructors _ | invoke _ | extend =>
      rw [ask, hu]
      rfl
    | execute v =>
      obtain ⟨shown, hv⟩ := Handle.exists_eq_value hc
      rw [ask, hv, Act.bind_tally _ fun _ => (Act.IsDiscreet.pure _).adds,
        execute_value_tally hm hv]
      rfl
    | check v =>
      obtain ⟨shown, hv⟩ := Handle.exists_eq_value hc
      rw [ask_check, hv, Handle.require_value_bind]
      exact refuse_tally hv
    | verify v =>
      obtain ⟨shown, hv⟩ := Handle.exists_eq_value hc
      rw [ask_verify, hv, Handle.require_value_bind]
      exact refuse_tally hv
    | bind v =>
      rw [ask_bind, Act.bind_tally _ fun _ => (Act.IsDiscreet.pure _).adds]
      exact ((Act.isHabit_isDiscreet.require _ (Act.isHabit_isDiscreet.shown v)).adds w).tally

/-! ## Sessions -/

/-- A question that has been answered. -/
structure Asked where
  question : Question
  before : World
  answer : Except Raised Answer
  after : World

/-- The class that is verified for an answer has a name at that time, and so has the blocking
class. -/
def Asked.IsNamed (a : Asked) (blocking : ClassId) : Prop :=
  ∀ c, a.question.executed? = some c → (∃ own, a.before.classes.nameText c = .ok own) ∧
    ∃ name, a.before.classes.nameOf blocking = .ok name

/-- Puts questions one after the other, each in the world that the answer before leaves behind. -/
def askAll (m : Machinery) (u : UseCase) : List Question → World → List Asked
  | [], _ => []
  | q :: rest, w =>
    ⟨q, w, (u.ask m q w).1, (u.ask m q w).2⟩ :: askAll m u rest (u.ask m q w).2

/-- The world after the questions. -/
def askedWorld (m : Machinery) (u : UseCase) (questions : List Question) (w : World) : World :=
  questions.foldl (fun w q => (u.ask m q w).2) w

theorem answer_of_mem_askAll {questions : List Question} {a : Asked}
    (ha : a ∈ u.askAll m questions w) : a.answer = (u.ask m a.question a.before).1 := by
  induction questions generalizing w with
  | nil => cases ha
  | cons q rest ih =>
    obtain rfl | ha := List.mem_cons.1 ha
    · rfl
    · exact ih ha

/-- Where the blocking class leaves it to the order of classes what derives from it, nothing is kept
of a question but what belongs to observers. -/
theorem ask_keeps (hu : u.introspector = script.introspector) {σ : Setting}
    (hlibrary : σ.classes.KeepsLibrary)
    (hb : ∃ member, σ.classes.resolve? (σ.classes.info u.policy.blocking).metaclass
      "__subclasscheck__" = some (.library .type, member)) (q : Question) :
    Act.Keeps (fun w => w.setting = σ) (u.ask m.above q) := by
  have hS (v v' : World) (hv : v.setting = v'.setting) (h : v.setting = σ) : v'.setting = σ :=
    hv.symm.trans h
  have hclasses (v : World) (hv : v.setting = σ) : v.classes = σ.classes :=
    congrArg Setting.classes hv
  have hlibrary' (v : World) (hv : v.setting = σ) : v.classes.KeepsLibrary := by
    rw [hclasses v hv]
    exact hlibrary
  obtain ⟨member, hb⟩ := hb
  have hacts : u.Acts (Act.OnlyComplains fun w => w.setting = σ) := {
    toActs := by rw [hu]; exact script.introspector_onlyComplains hS
    isSubclass := fun c => .of_ok fun v hv =>
      ⟨_, v, Act.isSubclass_run (by rw [hclasses v hv]; exact hb), hv⟩ }
  have hhabit := Act.isObservedHabit_onlyComplains hS hlibrary' m
  refine ask_habit (Act.isHabit_keeps hS) ?_
    (fun v => (execute_habit hhabit hacts (hhabit.shown v)).keeps) (fun _ _ hv => hv) q
  rw [hu]
  exact Act.introspector_keeps script hS

theorem setting_of_mem_askAll {S : World → Prop}
    (hask : ∀ q, Act.Keeps S (u.ask m q)) {questions : List Question} {a : Asked}
    (ha : a ∈ u.askAll m questions w) (hw : S w) : S a.before := by
  induction questions generalizing w with
  | nil => cases ha
  | cons q rest ih =>
    obtain rfl | ha := List.mem_cons.1 ha
    · exact hw
    · exact ih ha (hask q w hw)

theorem askedWorld_tally (hm : m.IsDiscreet) (hu : u.introspector = script.introspector)
    (hn : script.descriptor.name.text = .ok name) (questions : List Question) (w : World)
    (hnamed : ∀ a ∈ u.askAll m questions w, a.IsNamed u.policy.blocking) :
    (u.askedWorld m questions w).tally =
      { describe := w.tally.describe + questions.countP Question.isDescription +
          questions.countP Question.isExecution
        constructors := w.tally.constructors + questions.countP Question.isListing +
          if script.descriptor.isConcrete then questions.countP Question.isExecution else 0
        invoke := w.tally.invoke + questions.countP Question.isInvocation +
          if script.descriptor.isConcrete then questions.countP Question.isExecution else 0 } := by
  induction questions generalizing w with
  | nil => simp [askedWorld]
  | cons q rest ih =>
    obtain ⟨hq, hrest⟩ := List.forall_mem_cons.1 hnamed
    have hrest := ih _ hrest
    have htally := ask_tally hm hu hn q hq
    have hafter : u.askedWorld m (q :: rest) w = u.askedWorld m rest (u.ask m q w).2 := rfl
    rw [hafter, hrest, htally]
    have hcount (p : Question → Bool) : (q :: rest).countP p = rest.countP p + (p q).toNat := by
      rw [List.countP_cons]
      cases p q <;> rfl
    simp only [Question.counted, hcount, Tally.mk.injEq]
    cases script.descriptor.isConcrete <;> simp <;> omega

/-- **A session over fixed answers.** Whatever has been asked before, a question is answered as by a
new introspector and a new verification, for which only the classes are the same at that time. If
the blocking class leaves it to the order of classes what derives from it, and nobody has changed
the library, the classes are what they were at the start.

If what is verified has a name, the questions have been counted: each direct one, and for each
verification one description, and one list of constructors and one construction where the class that
is described is a concrete one. -/
theorem session_answers (n : Nat) (script : Script) (policy : VerificationPolicy) {name : String}
    (hn : script.descriptor.name.text = .ok name) (questions : List Question) (w : World) :
    let m := Machinery.level (n + 1)
    let u : UseCase := ⟨script.introspector, policy⟩
    let executions := questions.countP Question.isExecution
    let constructions := if script.descriptor.isConcrete then executions else 0
    (∀ a ∈ u.askAll m questions w, ∀ fresh : World, fresh.setting = a.before.setting →
      a.answer = (u.ask m a.question fresh).1) ∧
    (w.classes.KeepsLibrary →
      (∃ member, w.classes.resolve? (w.classes.info policy.blocking).metaclass
        "__subclasscheck__" = some (.library .type, member)) →
      ∀ a ∈ u.askAll m questions w, a.before.setting = w.setting ∧
        a.answer = (u.ask m a.question w).1) ∧
    ((∀ a ∈ u.askAll m questions w, a.IsNamed policy.blocking) →
      (u.askedWorld m questions w).tally =
        { describe := w.tally.describe + questions.countP Question.isDescription + executions
          constructors :=
            w.tally.constructors + questions.countP Question.isListing + constructions
          invoke := w.tally.invoke + questions.countP Question.isInvocation + constructions }) := by
  intro m u executions constructions
  have hm : m.IsDiscreet := Machinery.level_isDiscreet (n + 1)
  have hfixed : u.introspector = script.introspector := rfl
  have hanswer (a : Asked) (ha : a ∈ u.askAll m questions w) (fresh : World)
      (hfresh : fresh.setting = a.before.setting) : a.answer = (u.ask m a.question fresh).1 := by
    rw [answer_of_mem_askAll ha]
    exact (ask_alike hm hfixed a.question hfresh.symm).1
  refine ⟨hanswer, fun hlibrary hb a ha => ?_, askedWorld_tally hm hfixed hn questions w⟩
  have hkeeps (q : Question) : Act.Keeps (fun v => v.setting = w.setting) (u.ask m q) :=
    ask_keeps hfixed hlibrary hb q
  have hsetting := setting_of_mem_askAll hkeeps ha rfl
  exact ⟨hsetting, hanswer a ha w hsetting.symm⟩

/-- Verifications that fail are counted as well. -/
theorem session_answers_unknown :
    let m := Machinery.level 1
    let script := Script.make none [] (.unknown (.str "?"))
    let u : UseCase := ⟨script.introspector, .standard⟩
    let questions : List Question := [.execute (.ofClass LibraryClass.object), .extend,
      .verify (.ofClass LibraryClass.object), .check (.data .null)]
    (∀ a ∈ u.askAll m questions (.initial .initial),
      a.answer = (u.ask m a.question (.initial .initial)).1) ∧
    (u.askedWorld m questions (.initial .initial)).tally = ⟨2, 3, 2⟩ := by
  intro m script u questions
  have hn : script.descriptor.name.text = .ok "fake.Holder" := rfl
  obtain ⟨-, hfresh, htally⟩ := session_answers 0 script .standard hn questions (.initial .initial)
  have hstart := hfresh Hierarchy.keepsLibrary_initial ⟨_, rfl⟩
  refine ⟨fun a ha => (hstart a ha).2, htally fun a ha c hc => ?_⟩
  have hclasses : a.before.classes = .initial := World.classes_eq_of_setting (hstart a ha).1
  have hobject : c = LibraryClass.object := by
    simp only [askAll, questions, List.mem_cons, List.not_mem_nil, or_false] at ha
    obtain rfl | rfl | rfl | rfl := ha <;> cases hc <;> rfl
  rw [hclasses, hobject]
  exact ⟨⟨_, rfl⟩, _, rfl⟩

end UseCase

end UtilityClass
