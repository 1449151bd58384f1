import UtilityClass.Construction.Declare
import UtilityClass.Construction.Level
import UtilityClass.Proofs.CallTrace
import UtilityClass.Proofs.Verdict

/-!
# Outcomes of a construction

What is answered on the construction of a class is decided by the class before it is constructed,
and afterwards by what the construction has done.

A class one of whose constructors would not do with its receiver alone is not constructed. Any other
class is, once: the answer is a function of how that construction has ended. An object is given back
as it is, and a signal goes on as it is. An ordinary exception has left the body of a function or
not, as its traces tell, and if it has not, it matters whether it complains about types and whether
some constructor is no function.

For the last step the exception has to be read. It may have no text, and then the complaint about
this comes out.

## Main definitions

* `Hierarchy.LacksDefault`, `Hierarchy.HasDefault` : what is decided by the class
* `Reflection.Tells` : an exception tells its message
* `Reflection.Judgement` : what is decided by the exception
* `Reflection.Classified`

## Main results

* `Reflection.invoke_classified` : all answers, and when they are given
-/

namespace UtilityClass

open Result

namespace Hierarchy

variable {h : Hierarchy} {c : ClassId}

/-- Some effective constructor has a signature by which its receiver alone would not do. -/
def LacksDefault (h : Hierarchy) (c : ClassId) : Prop :=
  ∃ effective, h.effectiveConstructors c = .ok effective ∧
    ∃ k ∈ effective, ∃ s, (Constructor.looked k.2).signature? = some s ∧ s.accepts 1 = false

/-- By each signature that can be read of an effective constructor its receiver alone would do. -/
def HasDefault (h : Hierarchy) (c : ClassId) : Prop :=
  ∃ effective, h.effectiveConstructors c = .ok effective ∧
    ∀ k ∈ effective, ∀ s, (Constructor.looked k.2).signature? = some s → s.accepts 1 = true

theorem hasDefault_iff : h.HasDefault c ↔ h.acceptsNoArguments c = .ok true :=
  acceptsNoArguments_eq_true_iff.symm

theorem lacksDefault_iff : h.LacksDefault c ↔ h.acceptsNoArguments c = .ok false := by
  rw [acceptsNoArguments, bind_eq_ok_iff]
  refine exists_congr fun effective => and_congr_right fun _ => ?_
  simp only [pure, Except.pure, Except.ok.injEq, List.all_eq_false]
  refine exists_congr fun k => and_congr_right fun _ => ?_
  cases (Constructor.looked k.2).signature? <;> simp

theorem acceptsNoArguments_of_unreadable {f : Fault} (hf : h.effectiveConstructors c = .error f) :
    h.acceptsNoArguments c = .error f := by
  rw [acceptsNoArguments, hf]
  rfl

end Hierarchy

namespace Reflection

open Act (bind_run_of_ok bind_run_of_error)

variable {m : Machinery} {c : ClassId} {e : Raised} {w w' : World}

/-! ## Exceptions -/

/-- An exception tells its message: nothing if it carries nothing, and its text otherwise. -/
inductive Tells (m : Machinery) (e : Raised) (w : World) : Option String → World → Prop
  | nothing (hc : carries w.classes e.error = .ok false) : Tells m e w none w
  | text {t : String} {w' : World} (hc : carries w.classes e.error = .ok true)
      (ht : m.textOf e.error w = (.ok t, w')) : Tells m e w (some t) w'

theorem messageOf_eq_ok_iff {message : Option String} :
    messageOf m e w = (.ok message, w') ↔ Tells m e w message w' := by
  have hrun : messageOf m e w = (do
      if ← Act.ofExcept (carries w.classes e.error) then return some (← m.textOf e.error)
      else return none : Act (Option String)) w := rfl
  rw [hrun]
  cases hc : carries w.classes e.error with
  | error f => exact ⟨fun h => (nomatch h), fun h => by cases h <;> simp_all⟩
  | ok carried =>
    rw [bind_run_of_ok (Act.ofExcept_ok_run carried w)]
    cases carried with
    | false =>
      constructor
      · intro h
        cases h
        exact .nothing hc
      · intro h
        cases h with
        | nothing _ => rfl
        | text hc' _ => simp [hc] at hc'
    | true =>
      rw [if_pos rfl, Act.bind_eq_ok_iff]
      constructor
      · rintro ⟨t, w₁, ht, h⟩
        cases h
        exact .text hc ht
      · intro h
        cases h with
        | nothing hc' => simp [hc] at hc'
        | text _ ht => exact ⟨_, _, ht, rfl⟩

/-- The class of an exception leaves the attribute alone in which the traces are kept. -/
def ShowsTraces (h : Hierarchy) (i : Instance) : Prop :=
  ∃ (l : LibraryClass) (m : Member),
    h.readOn? (.object i) "__traceback__" = .ok (some (.library l, m))

theorem leftBody_of_showsTraces {h : Hierarchy} (hs : ShowsTraces h e.error) :
    leftBody h e = .ok (decide (0 < e.frames)) := by
  obtain ⟨l, k, hread⟩ := hs
  rw [leftBody, hread]
  rfl

/-- An exception complains about types, and some effective constructor is no function. -/
def IsNativeComplaint (h : Hierarchy) (effective : List (String × Member)) (e : Raised) : Prop :=
  h.derives e.error.type LibraryClass.typeError = true ∧ ∃ k ∈ effective, k.2.isFunction = false

/-- What an exception makes of the construction of a class with the given effective constructors. -/
structure Judgement (h : Hierarchy) (effective : List (String × Member)) (e : Raised)
    (message : Option String) (o : Outcome) : Prop where
  failed_iff : o = .failedWith (.ofClass e.error.type) message ↔ 0 < e.frames
  lacking_iff : o = .noDefaultConstructor ↔ e.frames = 0 ∧ IsNativeComplaint h effective e
  inaccessible_iff : o = .accessRefused (.ofClass e.error.type) message ↔
    e.frames = 0 ∧ ¬IsNativeComplaint h effective e

/-- The effective constructors are only looked at for a complaint about types. -/
theorem exists_refusesArguments {h : Hierarchy} {effective : List (String × Member)}
    (he : h.derives e.error.type LibraryClass.typeError = true →
      h.effectiveConstructors c = .ok effective) :
    ∃ refuses, refusesArguments h c e = .ok refuses ∧
      (refuses = true ↔ IsNativeComplaint h effective e) := by
  rw [refusesArguments, IsNativeComplaint]
  cases hd : h.derives e.error.type LibraryClass.typeError with
  | false => exact ⟨_, rfl, by simp⟩
  | true =>
    have hnative : h.hasNativeConstructor c = .ok (effective.any fun k => !k.2.isFunction) := by
      rw [Hierarchy.hasNativeConstructor, he hd]
      rfl
    exact ⟨_, hnative, by simp⟩

/-- An exception that shows its traces is judged by them, and only one without traces by its
class. -/
theorem exists_judgement {h : Hierarchy} {effective : List (String × Member)}
    {message : Option String} (hs : ShowsTraces h e.error)
    (he : e.frames = 0 → h.derives e.error.type LibraryClass.typeError = true →
      h.effectiveConstructors c = .ok effective) :
    ∃ o, judgement h c e message = .ok o ∧ Judgement h effective e message o := by
  rw [judgement, leftBody_of_showsTraces hs, ok_bind]
  by_cases hframes : 0 < e.frames
  · refine ⟨_, by rw [decide_eq_true hframes]; rfl, ?_, ?_, ?_⟩ <;> simp [hframes, hframes.ne']
  · have hzero : e.frames = 0 := Nat.eq_zero_of_not_pos hframes
    obtain ⟨refuses, hrefuses, hiff⟩ := exists_refusesArguments (he hzero)
    rw [decide_eq_false hframes, hrefuses]
    cases refuses with
    | true =>
      have hnative := hiff.1 rfl
      refine ⟨_, rfl, ?_, ?_, ?_⟩ <;> simp [hzero, hnative]
    | false =>
      have hnative : ¬IsNativeComplaint h effective e := fun hn =>
        Bool.false_ne_true (hiff.2 hn)
      refine ⟨_, rfl, ?_, ?_, ?_⟩ <;> simp [hzero, hnative]

/-! ## Answers -/

/-- The answer that a construction makes which has ended. -/
def answer (m : Machinery) (c : ClassId) : Except Raised Value → Act Outcome
  | .ok made => return .constructed made
  | .error e => do outcomeOf m c (← e.settle m)

/-- Nothing is constructed for an answer. -/
theorem answer_construct (construct : ClassId → Act Value) :
    answer { m with construct } c = answer m c := by
  have hsettle (fuel : Nat) (e : Raised) :
      Raised.settleWithin { m with construct } fuel e = Raised.settleWithin m fuel e := by
    induction fuel generalizing e with
    | zero => rfl
    | succ fuel ih =>
      have hremake : Machinery.remake { m with construct } = m.remake := rfl
      simp only [Raised.settleWithin, ih, hremake]
  have houtcome : outcomeOf { m with construct } c = outcomeOf m c := rfl
  funext result
  cases result with
  | ok made => rfl
  | error e =>
    show (Raised.settleWithin { m with construct } 32 e >>= outcomeOf { m with construct } c) = _
    rw [hsettle, houtcome]
    rfl

/-- A class that does without arguments is constructed once, and the rest follows from how that has
ended. -/
theorem invoke_of_hasDefault (hd : w.classes.HasDefault c) :
    invoke m (.ofClass c) w = (Act.attempt (m.construct c) >>= answer m c) w := by
  rw [invoke_of_accepted (Hierarchy.hasDefault_iff.1 hd)]
  rcases hr : m.construct c w with ⟨e | made, w₁⟩
  · obtain ⟨e', w₂, hs⟩ := Act.exists_settle m e w₁
    have hcatch : Act.catching m (m.construct c) w = (.ok (.error e'), w₂) :=
      Act.catching_eq_error_iff.2 ⟨e, w₁, hr, hs⟩
    rw [bind_run_of_ok hcatch, bind_run_of_ok (Act.attempt_run _ w), hr]
    show outcomeOf m c e' w₂ = (e.settle m >>= outcomeOf m c) w₁
    rw [bind_run_of_ok hs]
  · rw [bind_run_of_ok (Act.catching_of_ok m hr), bind_run_of_ok (Act.attempt_run _ w), hr]
    rfl

/-- All answers on the construction of a class, and when they are given. Exceptions are meant as
they are found by whoever catches them. -/
structure Classified (m : Machinery) (c : ClassId) (w : World) : Prop where
  /-- Where the effective constructors cannot be read, the exception that says so comes out. -/
  unreadable (f : Fault) : w.classes.effectiveConstructors c = .error f →
    invoke m (.ofClass c) w = (.error f.raised, w)
  /-- A class that lacks a constructor without arguments is not constructed, and nothing else
  happens, whatever the machinery does. -/
  lacking : w.classes.LacksDefault c →
    ∀ m' : Machinery, invoke m' (.ofClass c) w = (.ok .noDefaultConstructor, w)
  /-- Any other one is constructed once, and what follows depends only on how that has ended. -/
  once : w.classes.HasDefault c → ∃ answer : Except Raised Value → Act Outcome,
    ∀ construct : ClassId → Act Value, invoke { m with construct } (.ofClass c) w =
      (Act.attempt (construct c) >>= answer) w
  /-- It ends with a value, or an exception is found. -/
  ends : (∃ made w₁, m.construct c w = (.ok made, w₁)) ∨
    ∃ e w₁, Act.catching m (m.construct c) w = (.ok (.error e), w₁)
  /-- The value is the one of the answer. -/
  constructed (made : Value) (w₁ : World) : w.classes.HasDefault c →
    m.construct c w = (.ok made, w₁) → invoke m (.ofClass c) w = (.ok (.constructed made), w₁)
  /-- The exception is the one that the construction has ended with, if its class counts as the one
  that was raised. -/
  found (e : Raised) (w₁ w₂ : World) : m.construct c w = (.error e, w₁) →
    Act.isSubclass e.error.type e.raisedAs w₁ = (.ok true, w₂) →
      Act.catching m (m.construct c) w = (.ok (.error e.settled), w₂)
  /-- A signal that is no ordinary exception goes on. -/
  signalled (e : Raised) (w₁ : World) : w.classes.HasDefault c →
    Act.catching m (m.construct c) w = (.ok (.error e), w₁) →
    w₁.classes.isException e.error.type = false → invoke m (.ofClass c) w = (.error e, w₁)
  /-- An ordinary exception is judged, if it tells its message and shows its traces, and if the
  effective constructors can be read again where a complaint about types has left no body. -/
  judged (e : Raised) (w₁ : World) (message : Option String) (w₂ : World)
    (effective : List (String × Member)) : w.classes.HasDefault c →
    Act.catching m (m.construct c) w = (.ok (.error e), w₁) →
    w₁.classes.isException e.error.type = true → Tells m e w₁ message w₂ →
    ShowsTraces w₂.classes e.error →
    (e.frames = 0 → w₂.classes.derives e.error.type LibraryClass.typeError = true →
      w₂.classes.effectiveConstructors c = .ok effective) →
      ∃ o, invoke m (.ofClass c) w = (.ok o, w₂) ∧ Judgement w₂.classes effective e message o
  /-- Of an exception that does not tell its message nothing is answered. -/
  mute (e : Raised) (w₁ : World) : w.classes.HasDefault c →
    Act.catching m (m.construct c) w = (.ok (.error e), w₁) →
    w₁.classes.isException e.error.type = true → (¬∃ message w₂, Tells m e w₁ message w₂) →
      ∃ e' w₂, invoke m (.ofClass c) w = (.error e', w₂)

/-- **The outcome of a construction**, for every class. -/
theorem invoke_classified (m : Machinery) (c : ClassId) (w : World) : Classified m c w where
  unreadable f hf := invoke_of_unknown (Hierarchy.acceptsNoArguments_of_unreadable hf)
  lacking hl m' := invoke_of_refused (Hierarchy.lacksDefault_iff.1 hl)
  once hd := ⟨answer m c, fun construct => by
    rw [invoke_of_hasDefault hd, answer_construct construct]⟩
  ends := Act.returns_or_fails m (m.construct c) w
  constructed made w₁ hd hc := invoke_eq_ok_iff.2 (.inr ⟨Hierarchy.hasDefault_iff.1 hd,
    .inl ⟨made, Act.catching_of_ok m hc, rfl⟩⟩)
  found e w₁ w₂ hc hs := Act.catching_of_isSubclass m hc hs
  signalled e w₁ hd hc he := by
    rw [invoke_of_accepted (Hierarchy.hasDefault_iff.1 hd), bind_run_of_ok hc]
    exact outcomeOf_of_signal he
  judged e w₁ message w₂ effective hd hc he ht hs heffective := by
    obtain ⟨o, ho, hjudged⟩ : ∃ o, judgement w₂.classes c e message = .ok o ∧
      Judgement w₂.classes effective e message o := exists_judgement hs heffective
    refine ⟨o, invoke_eq_ok_iff.2 (.inr ⟨Hierarchy.hasDefault_iff.1 hd, .inr ⟨e, w₁, hc, ?_⟩⟩),
      hjudged⟩
    exact outcomeOf_eq_ok_iff.2 ⟨he, message, messageOf_eq_ok_iff.2 ht, ho⟩
  mute e w₁ hd hc he hmute := by
    rcases hr : invoke m (.ofClass c) w with ⟨e' | o, w₂⟩
    · exact ⟨e', w₂, rfl⟩
    · obtain ⟨ha, -, -⟩ | ⟨-, ⟨made, hmade, -⟩ | ⟨e', w₁', hc', ho⟩⟩ := invoke_eq_ok_iff.1 hr
      · exact nomatch (Hierarchy.hasDefault_iff.1 hd).symm.trans ha
      · exact nomatch hc.symm.trans hmade
      · cases hc.symm.trans hc'
        obtain ⟨-, message, hm, -⟩ := outcomeOf_eq_ok_iff.1 ho
        exact absurd ⟨message, w₂, messageOf_eq_ok_iff.1 hm⟩ hmute

/-! ## Each ending -/

namespace Endings

/-- An initialising function. -/
def draft (parameters : List Parameter) (body : List Statement) : FunctionDraft where
  form := .plain
  outer := { parameters, result := none, marker := none, signatureValue := none }
  inner := []
  marksWrapper := false
  body

/-- The world in which a class with this function is declared. -/
def world (parameters : List Parameter) (body : List Statement) : World :=
  let declaration : Declaration :=
    { Declaration.bare "A" with initialiser := some (.function (draft parameters body)) }
  (declaration.declare .standard (.initial .initial)).2

def receiver : Parameter := .bare .plain "self"

/-- The function needs an argument. -/
def lacking : World := world [receiver, .bare .plain "x"] []

/-- The function does nothing. -/
def idle : World := world [receiver] []

/-- The function raises an exception. -/
def failing : World := world [receiver] [.raise (.ofClass LibraryClass.valueError) none]

/-- The function is interrupted by a signal. -/
def interrupted : World :=
  world [receiver] [.raise (.ofClass LibraryClass.keyboardInterrupt) none]

/-- The function gives something back. -/
def giving : World := world [receiver] [.give (.int 1)]

/-- The class in each of these worlds. -/
def declared : ClassId := .declared 0

/-- A complaint about types that has left no body. -/
def complaint (message : String) : Raised where
  error := { Instance.bare LibraryClass.typeError with arguments := [.str message] }
  raisedAs := LibraryClass.typeError
  frames := 0

def givingMessage : String := "__init__() should return None, not 'int'"

def nativeMessage : String := "type() takes 1 or 3 arguments"

theorem catching_giving : Act.catching .standard (Machinery.standard.construct declared) giving =
    (.ok (.error (complaint givingMessage)), giving) := rfl

theorem catching_native :
    Act.catching .standard (Machinery.standard.construct LibraryClass.type) (.initial .initial) =
      (.ok (.error (complaint nativeMessage)), .initial .initial) := rfl

theorem textOf_giving : Machinery.standard.textOf (complaint givingMessage).error giving =
    (.ok givingMessage, giving) := rfl

theorem textOf_native :
    Machinery.standard.textOf (complaint nativeMessage).error (.initial .initial) =
      (.ok nativeMessage, .initial .initial) := rfl

end Endings

open Endings in
/-- All endings: an argument is lacking, an object is made, a body is left by an exception or by a
signal, a value is given back where none should be, and native code refuses to do without
arguments. -/
theorem invoke_classified_endings :
    invoke .standard (.ofClass declared) lacking = (.ok .noDefaultConstructor, lacking) ∧
      invoke .standard (.ofClass declared) idle =
        (.ok (.constructed (.object (.bare declared))), idle) ∧
      invoke .standard (.ofClass declared) failing =
        (.ok (.failedWith (.ofClass LibraryClass.valueError) none), failing) ∧
      (∃ e, invoke .standard (.ofClass declared) interrupted = (.error e, interrupted) ∧
        e.error.type = LibraryClass.keyboardInterrupt) ∧
      invoke .standard (.ofClass declared) giving =
        (.ok (.accessRefused (.ofClass LibraryClass.typeError) (some givingMessage)), giving) ∧
      invoke .standard (.ofClass LibraryClass.type) (.initial .initial) =
        (.ok .noDefaultConstructor, .initial .initial) := by
  have hclassified := invoke_classified .standard
  refine ⟨?_, ?_, ?_, ?_, ?_, ?_⟩
  · exact (hclassified _ _).lacking (Hierarchy.lacksDefault_iff.2 rfl) _
  · exact (hclassified _ _).constructed _ _ (Hierarchy.hasDefault_iff.2 rfl) rfl
  · obtain ⟨o, ho, hjudged⟩ := (hclassified declared failing).judged
      ⟨.bare LibraryClass.valueError, LibraryClass.valueError, 1⟩ failing none failing []
      (Hierarchy.hasDefault_iff.2 rfl) rfl rfl (.nothing rfl) ⟨_, _, rfl⟩ nofun
    obtain rfl := hjudged.failed_iff.2 Nat.one_pos
    exact ho
  · exact ⟨_, (hclassified declared interrupted).signalled
      ⟨.bare LibraryClass.keyboardInterrupt, LibraryClass.keyboardInterrupt, 1⟩ interrupted
      (Hierarchy.hasDefault_iff.2 rfl) rfl rfl, rfl⟩
  · have heffective : giving.classes.effectiveConstructors declared = .ok [("__init__",
        .function ((draft [receiver] [.give (.int 1)]).function declared "A" "__init__"))] := rfl
    obtain ⟨o, ho, hjudged⟩ := (hclassified declared giving).judged (complaint givingMessage)
      giving (some givingMessage) giving _ (Hierarchy.hasDefault_iff.2 rfl) catching_giving rfl
      (.text rfl textOf_giving) ⟨_, _, rfl⟩ fun _ _ => heffective
    obtain rfl := hjudged.inaccessible_iff.2 ⟨rfl, by
      rintro ⟨-, k, hk, hnative⟩
      obtain rfl := List.mem_singleton.1 hk
      cases hnative⟩
    exact ho
  · have heffective : Hierarchy.initial.effectiveConstructors LibraryClass.type = .ok
        [("__new__", LibraryClass.type.nativeEntry "__new__"),
          ("__init__", LibraryClass.type.nativeEntry "__init__")] := rfl
    obtain ⟨o, ho, hjudged⟩ := (hclassified LibraryClass.type (.initial .initial)).judged
      (complaint nativeMessage) (.initial .initial) (some nativeMessage) (.initial .initial) _
      (Hierarchy.hasDefault_iff.2 rfl) catching_native rfl (.text rfl textOf_native) ⟨_, _, rfl⟩
      fun _ _ => heffective
    obtain rfl := hjudged.lacking_iff.2 ⟨rfl, rfl, _, List.mem_cons_self, rfl⟩
    exact ho

/-! ## An exception without a text -/

namespace Textless

/-- A class of exceptions whose text is a number. -/
def error : Declaration :=
  { Declaration.bare "E" with
    bases := [.ofClass LibraryClass.typeError]
    describer := some [.give (.int 5)] }

/-- An initialising function that is private and raises such an exception. -/
def draft : FunctionDraft where
  form := .plain
  outer := {
    parameters := [.bare .plain "self"]
    result := none
    marker := some (.bool true)
    signatureValue := none }
  inner := []
  marksWrapper := false
  body := [.raise (.ofClass (.declared 0)) (some [.str "x"])]

/-- A final class with this function. -/
def declaration : Declaration :=
  { Declaration.bare "A" with
    isFinal := true
    initialiser := some (.function draft) }

/-- The world in which both classes are declared. -/
def world : World :=
  ((do discard (error.declare .standard); declaration.declare .standard) (.initial .initial)).2

def textless : ClassId := .declared 1

/-- The exception of the constructor, which has left its body. -/
def raised : Raised where
  error := { Instance.bare (.declared 0) with arguments := [.str "x"] }
  raisedAs := .declared 0
  frames := 1

/-- What comes out in the place of its text. -/
def complaint : Raised := (Fault.refusal (.nonText "__str__" "int")).raised

end Textless

open Textless in
/-- A constructor fails with an ordinary exception that leaves its body, and still there is no
outcome. -/
theorem invoke_classified_textless :
    world.classes.HasDefault textless ∧
      Act.catching .standard (Machinery.standard.construct textless) world =
        (.ok (.error raised), world) ∧
      world.classes.isException raised.error.type = true ∧
      leftBody world.classes raised = .ok true ∧
      invoke .standard (.ofClass textless) world = (.error complaint, world) :=
  ⟨Hierarchy.hasDefault_iff.2 rfl, rfl, rfl, rfl, rfl⟩

end Reflection

end UtilityClass
