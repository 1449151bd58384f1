import UtilityClass.Proofs.Blindness
import UtilityClass.Proofs.Unprinted
import UtilityClass.Proofs.DiscreetMachinery
import UtilityClass.Proofs.UnmarkedReflection

/-!
# Bodies of functions are blind to marks

The body of a declared function is a list of statements, each of which is blind to marks if the
machinery is that it asks. A statement that verifies a class is the one that goes beyond what is
compared: the verification reads the marks, but before it does so it notes in the journal that it
has started, and nothing takes the note back.

## Main definitions

* `Act.Grows` : acts that do not take back what is in the journal, and no class
* `Ending.unmarked`, `Frame.unmarked` : running bodies without marks

## Main results

* `Reflection.invoke_blind` : constructing a class and telling what became of it
* `Construction.verify_blind` : verifying a class
* `Construction.runStatements_blind` : bodies
-/

namespace UtilityClass

open HasMarks (IsFinished)
open Act (BlindAt)

variable {m : Machinery}

/-! ## Verifications -/

namespace Act

variable {α β : Type}

/-- An act never makes the journal shrink, nor the classes. -/
def Grows (act : Act α) : Prop := ∀ w : World, w.Grows (act w).2

namespace Grows

/-- Behind a first step, too. -/
theorem behind {f : α → Act β} (hf : ∀ a, Grows (f a)) (act : Act α) (w : World) :
    (act w).2.Grows ((act >>= f) w).2 := by
  rcases hr : act w with ⟨e | a, w'⟩
  · rw [bind_run_of_error hr]
    exact .refl w'
  · rw [bind_run_of_ok hr]
    exact hf a w'

theorem bind {act : Act α} {f : α → Act β} (hact : Grows act) (hf : ∀ a, Grows (f a)) :
    Grows (act >>= f) :=
  fun w => (hact w).trans (behind hf act w)

theorem pure (a : α) : Grows (pure a : Act α) := fun w => .refl w

protected theorem throw (e : Raised) : Grows (throw e : Act α) := fun w => .refl w

theorem ofExcept (x : Except Fault α) : Grows (ofExcept x) := fun w => by
  rw [ofExcept_run]
  exact .refl w

theorem classes : Grows Act.classes := fun w => .refl w

theorem record (r : Record) : Grows (record r) := fun w => ⟨by simp, Nat.le_refl _⟩

theorem of_blind [HasMarks α] {act act' : Act α} (h : ∀ w, BlindAt none w act act') : Grows act :=
  fun w => (h w).grows

/-- What only notes leaves the classes alone. -/
theorem of_onlyNotes {act : Act α} (hn : OnlyNotes act) (ha : OnlyAdds act) : Grows act := by
  intro w
  obtain ⟨noted, hj⟩ := (ha w).journal
  obtain ⟨readings, journal, hw⟩ := hn w
  refine ⟨by simp [hj], ?_⟩
  rw [hw]

theorem log (e : Event) : Grows (log e) := of_onlyNotes (.log e) (.log e)

/-- How a verdict is put. -/
theorem verdict (report : Report) : Grows (match report with
    | .ok _ => return ()
    | .failed _ _ message => throw (.violation message) : Act Unit) := by
  cases report with
  | ok subject => exact pure ()
  | failed subject issues message => exact Grows.throw _

theorem errorName (e : Raised) : Grows (errorName e) := by
  refine classes.bind fun h => (ofExcept _).bind fun a => ?_
  split
  · exact pure _
  · exact classes.bind fun _ => pure _
  · exact pure _

variable (hm : m.IsBlind)
include hm

theorem catching {act : Act α} (ha : Grows act) : Grows (catching m act) := by
  have hattempt : Grows (attempt act) := fun w => ha w
  refine hattempt.bind fun result => ?_
  cases result with
  | ok a => exact pure _
  | error e => exact bind (of_blind fun w => BlindAt.settle hm e) fun _ => pure _

variable {operation : String} {verdict : α → Loggable} {function : Act α} (hf : Grows function)
include hf

/-- What follows the start of an observed call. -/
theorem followUp (b : Beginning) : Grows (do
    match ← Act.catching m (finish operation verdict function b) with
    | .ok value => return value
    | .error e =>
      giveUp m operation b e
      throw e : Act α) := by
  have hclock : Grows readClock := of_onlyNotes .readClock .readClock
  have hmemory : Grows memoryInUse := of_onlyNotes .memoryInUse .memoryInUse
  refine bind (catching hm (bind hf fun value => hclock.bind fun _ => hmemory.bind fun _ =>
    (log _).bind fun _ => pure value)) fun result => ?_
  cases result with
  | ok value => exact pure value
  | error e =>
    refine bind (classes.bind fun h => ?_) fun _ => Grows.throw e
    split
    · exact hclock.bind fun _ => hmemory.bind fun _ => (errorName e).bind fun _ =>
        bind (of_blind fun w => hm.textOf none w e.error) fun _ => log _
    · exact pure _

theorem measured (arguments : List Handle) :
    Grows (measured m operation arguments verdict function) := by
  rw [measured_eq]
  exact bind (of_onlyNotes (.begin _ _) .begin) (followUp hm hf)

end Grows

end Act

/-! ## Handles -/

/-- Marks do not show. -/
theorem Value.handle_unmarked (v : Value) : v.unmarked.handle = v.handle := by
  have hshown (v : Value) : (do Act.ofExcept (v.unmarked.literal (← Act.classes)) : Act String) =
      (do Act.ofExcept (v.literal (← Act.classes))) := by
    simp only [Value.literal_unmarked]
  cases v with
  | ofClass c => rfl
  | data _ | object _ | tuple _ | blueprint _ => exact congrArg Handle.value (hshown _)

namespace Handle

variable {x : Option Flag} {w : World} {complaint : String → Fault}

theorem shown_ofClass_blind (c : ClassId) :
    BlindAt x w (Handle.ofClass c).shown (Handle.ofClass c).shown :=
  .classes_bind (.same (Hierarchy.literal_unmarked _))

theorem shown_blind (v : Value) : BlindAt x w v.handle.shown v.handle.shown := by
  cases v with
  | ofClass c => exact shown_ofClass_blind c
  | _ => exact .classes_bind (.same (Value.literal_unmarkedClasses _ _ _))

theorem refuse_blind {α : Type} [HasMarks α] {shown : Act String}
    (hs : BlindAt x w shown shown) :
    BlindAt x w (refuse complaint shown : Act α) (refuse complaint shown) :=
  hs.bind fun _ _ _ _ => .fail _

theorem require_blind {s : Handle} (hs : BlindAt x w s.shown s.shown) :
    BlindAt x w (s.require complaint) (s.require complaint) := by
  cases s with
  | ofClass c => exact .pure rfl fun _ => trivial
  | value shown => exact refuse_blind hs

end Handle

/-! ## Reflection -/

/-- The outcome, without marks on what was constructed. -/
def Outcome.unmarked : Outcome → Outcome
  | .constructed made => .constructed made.unmarked
  | outcome => outcome

instance : HasMarks Outcome := ⟨Outcome.unmarked, fun _ => True⟩

namespace Reflection

variable {x : Option Flag} {w : World} (hm : m.IsBlind)
include hm

theorem messageOf_blind (e : Raised) : BlindAt x w (messageOf m e) (messageOf m e) := by
  refine .classes_bind (.same_bind (carries_unmarked _ _) fun carries _ => ?_)
  split
  · exact (hm.textOf x w e.error).bind fun text _ _ _ => .pure rfl fun _ => trivial
  · exact .pure rfl fun _ => trivial

theorem outcomeOf_blind (c : ClassId) (e : Raised) :
    BlindAt x w (outcomeOf m c e) (outcomeOf m c e) := by
  refine .classes_bind ?_
  rw [Hierarchy.isException_unmarked]
  split
  · exact .throw e
  · refine (messageOf_blind hm e).bind fun message w' x' _ =>
      .classes_bind (.same_bind (leftBody_unmarked _ _) fun left _ => ?_)
    split
    · exact .pure rfl fun _ => trivial
    · refine BlindAt.bind ?_ fun refuses w'' x'' _ => ?_
      · rw [Hierarchy.derives_unmarked, Hierarchy.hasNativeConstructor_unmarked]
        cases w'.classes.derives e.error.type LibraryClass.typeError with
        | false => exact .pure rfl fun _ => trivial
        | true =>
          refine .ofExcept ?_ fun _ _ _ => trivial
          cases w'.classes.hasNativeConstructor c <;> rfl
      · cases refuses <;> exact .pure rfl fun _ => trivial

theorem invoke_blind {s : Handle} (hs : BlindAt x w s.shown s.shown) :
    BlindAt x w (invoke m s) (invoke m s) := by
  refine (Handle.require_blind hs).bind fun c w x _ =>
    .classes_bind (.same_bind (Hierarchy.acceptsNoArguments_unmarked _) fun accepts _ => ?_)
  split
  · exact .pure rfl fun _ => trivial
  · refine (BlindAt.catching hm (hm.construct x w c)).bind fun result w' x' _ => ?_
    cases result with
    | ok made => exact .pure rfl fun _ => trivial
    | error e => exact outcomeOf_blind hm c e

end Reflection

/-! ## Verifying -/

namespace Construction

variable {x : Option Flag} {w : World} (hm : m.IsBlind)
include hm

theorem examine_grows (c : Checker) (hc : c.useCase.introspector = Reflection.introspector m) :
    Act.Grows (c.useCase.examine (.ofClass c.subject)) := by
  have hhabit : Act.IsHabit Act.Grows :=
    ⟨Act.Grows.ofExcept, Act.Grows.classes, Act.Grows.record, Act.Grows.bind⟩
  have hacts : c.useCase.Acts Act.Grows := {
    toActs := by
      rw [hc]
      exact {
        describe := Reflection.describe_habit hhabit
        constructors := Reflection.constructors_habit hhabit
        invoke := fun {s} hs => by
          cases s with
          | ofClass c =>
            exact .of_blind fun w => Reflection.invoke_blind hm (Handle.shown_ofClass_blind c)
          | value shown =>
            have hinvoke : (Reflection.introspector m).invoke (.value shown) =
                Handle.refuse .notIntrospectable shown := Reflection.invoke_value shown m
            rw [hinvoke]
            exact hhabit.refuse _ hs }
    isSubclass := fun d => .of_blind fun w => BlindAt.isSubclass d _ }
  exact UseCase.examine_habit hhabit hacts (hhabit.shown_ofClass _)

/-- A verification leaves a trace, unless the class that it is about gives no name. -/
theorem verifier_blind (c : Checker) (hc : c.useCase.introspector = Reflection.introspector m) :
    BlindAt x w (c.verify m) (c.verify m) := by
  have hexamine : Act.Grows (c.useCase.examine (.ofClass c.subject)) := examine_grows hm c hc
  refine ⟨(Act.Grows.measured hm hexamine _).bind .verdict w, fun hw => ?_⟩
  rcases hn : w.classes.targetName [.ofClass c.subject] with f | name
  · have hn' : (w.unmarked x).classes.targetName [.ofClass c.subject] = .error f :=
      (w.classes.nameText_unmarked).trans hn
    have hrun {w : World} (hn : w.classes.targetName [.ofClass c.subject] = .error f) :
        c.verify m w = (.error f.raised, w.unstarted) :=
      Act.bind_run_of_error (Act.measured_run_of_nameless m _ _ hn)
    rw [hrun hn, hrun hn']
    exact .inr ⟨x, rfl, rfl, rfl, ⟨hw.classes, hw.labels, hw.flag⟩, nofun⟩
  · have hstarted : w.journal.length < (w.started "verify_utility_class" name).journal.length := by
      simp [World.started, World.noting]
    have hcheck : (w.started "verify_utility_class" name).Grows (c.check m w).2 := by
      rw [Checker.check, UseCase.execute, Act.measured_eq,
        Act.bind_run_of_ok (Act.begin_run _ hn)]
      exact Act.Grows.followUp hm hexamine _ _
    have hverify := hcheck.trans (Act.Grows.behind .verdict (c.check m) w)
    exact .inl (.inl (Nat.lt_of_lt_of_le hstarted hverify.journal))

omit hm in
theorem make_blind {b : Handle} (hb : BlindAt x w b.shown b.shown) :
    BlindAt x w (VerificationPolicy.make b) (VerificationPolicy.make b) := by
  refine .classes_bind ?_
  have hexceptions : (w.classes.unmarked x).isException = w.classes.isException := by
    funext c
    rw [Hierarchy.isException_unmarked]
  rw [hexceptions]
  split
  · exact .pure rfl fun _ => trivial
  · exact Handle.refuse_blind hb

theorem verify_blind (r : Reference) : BlindAt x w (verify m r) (verify m r) := by
  refine (BlindAt.resolve r).bind fun v w x _ => ?_
  rw [HasMarks.unmarked_value, Value.handle_unmarked, Checker.forClass_bind]
  refine (make_blind (Handle.shown_ofClass_blind _)).bind fun policy w x _ => ?_
  refine (Handle.require_blind (Handle.shown_blind v)).bind fun c w x _ => ?_
  exact verifier_blind hm ⟨c, ⟨Reflection.introspector m, policy⟩⟩ rfl

end Construction

/-! ## Statements -/

/-- An ending without marks. -/
def Ending.unmarked : Ending → Ending
  | .goesOn => .goesOn
  | .gives value => .gives value.unmarked

/-- A running body without marks. -/
def Frame.unmarked (f : Frame) : Frame :=
  ⟨f.function.unmarked, f.receiver.unmarked, f.kept.unmarked⟩

instance : HasMarks Ending := ⟨Ending.unmarked, fun e => match e with
  | .goesOn => True
  | .gives value => value.IsFinished⟩

/-- What a body works on and what it keeps are no namespaces of classes under way. -/
structure Frame.IsFinished (f : Frame) : Prop where
  receiver : f.receiver.IsFinished
  kept : f.kept.IsFinished

instance : HasMarks Frame := ⟨Frame.unmarked, Frame.IsFinished⟩

namespace Construction

variable {x : Option Flag} {w : World}

theorem madeException_blind (c : ClassId) (made : Value) :
    BlindAt x w (madeException c made) (madeException c made.unmarked) := by
  refine .classes_bind ?_
  have hrefused : BlindAt x w
      (do
        let literal ← Act.ofExcept (w.classes.literal c)
        Act.refuse (.notMadeException literal
          (← Act.ofExcept (w.classes.literal (made.type w.classes)))) : Act Instance)
      (do
        let literal ← Act.ofExcept ((w.classes.unmarked x).literal c)
        Act.refuse (.notMadeException literal
          (← Act.ofExcept ((w.classes.unmarked x).literal
            (made.unmarked.type (w.classes.unmarked x)))))) := by
    simp only [Value.type_unmarked, Value.type_unmarkedClasses]
    exact .same_bind w.classes.literal_unmarked fun _ _ =>
      .same_bind w.classes.literal_unmarked fun _ _ => .refuse _
  cases made with
  | object i =>
    show BlindAt x w (if w.classes.derives i.type LibraryClass.baseException then _ else _)
      (if w.classes.derives i.type LibraryClass.baseException then _ else _)
    split
    · exact .pure rfl fun _ => trivial
    · exact hrefused
  | _ => exact hrefused

section Body

variable (hm : m.IsBlind)
include hm

theorem raiseValue_blind (v : Value) (hv : x.isSome → v.IsFinished) :
    BlindAt x w (raiseValue m v) (raiseValue m v.unmarked) := by
  refine .classes_bind ?_
  cases v with
  | object i =>
    show BlindAt x w (if w.classes.derives i.type LibraryClass.baseException then _ else _)
      (if w.classes.derives i.type LibraryClass.baseException then _ else _)
    split
    · exact .throw _
    · exact .refuse _
  | ofClass c =>
    have hmade (w : World) (x : Option Flag) : BlindAt x w
        (do throw { (← madeException c (← m.call (.ofClass c) [] [])).raised with raisedAs := c })
        (do throw { (← madeException c (← m.call (.ofClass c) [] [])).raised with
          raisedAs := c } : Act Unit) :=
      (hm.call x w (.ofClass c) [] [] fun _ => ⟨trivial, .nil⟩).bind fun made w x _ =>
        (madeException_blind c made).bind fun i w x _ => .throw _
    exact .ite_then (by rw [Hierarchy.derives_unmarked]) (fun _ => .refuse _) fun w x _ => hmade w x
  | _ => exact .refuse _

theorem call_data_blind (v : Value) (hv : x.isSome → v.IsFinished) (arguments : List Json) :
    BlindAt x w (m.call v (arguments.map .data) [])
      (m.call v.unmarked (arguments.map .data) []) := by
  have hcall := hm.call x w v (arguments.map .data) [] fun hx => ⟨hv hx, .data arguments []⟩
  rwa [unmarked_data] at hcall

theorem raise_blind (exception : Reference) (arguments : Option (List Json)) :
    BlindAt x w (raise m exception arguments) (raise m exception arguments) := by
  refine (BlindAt.resolve exception).bind fun v w x hv => ?_
  cases arguments with
  | none => exact raiseValue_blind hm v hv
  | some arguments =>
    exact (call_data_blind hm v hv arguments).bind fun made w x hmade =>
      raiseValue_blind hm made hmade

omit hm

theorem takeTurn_blind (label : Nat) : BlindAt x w (takeTurn label) (takeTurn label) where
  grows := ⟨Nat.le_refl _, Nat.le_refl _⟩
  agree hw := .inr ⟨x, rfl, rfl, rfl, ⟨hw.classes, hw.labels, hw.flag⟩, fun _ _ _ => trivial⟩

theorem callNextOnNothing_blind (f : Function) (given : List Json) (named : List (String × Json)) :
    BlindAt x w (callNextOnNothing f given named) (callNextOnNothing f.unmarked given named) := by
  show BlindAt x w (callNextOnNothing f given named) (callNextOnNothing f given named)
  unfold callNextOnNothing
  dsimp only
  split
  · exact .refuse _
  · split
    · exact .fail _
    · split <;> exact .refuse _

include hm

theorem callNext_blind (frame : Frame) (hf : x.isSome → frame.IsFinished) (arguments : List Json)
    (named : List (String × Json)) :
    BlindAt x w (callNext m frame arguments named) (callNext m frame.unmarked arguments named) := by
  obtain ⟨f, receiver, kept⟩ := frame
  let given := arguments.map Value.data
  let named' := named.map fun entry => (entry.1, Value.data entry.2)
  have hgiven : given.map Value.unmarked = given := unmarked_data arguments
  have hnamed : unmarkedNamed named' = named' := unmarkedNamed_data named
  have hfinished (hx : x.isSome) : AreFinished given named' := .data _ _
  have hname : x.isSome → (if f.creates then "__new__" else "__init__") ≠ "__final__" := by
    split <;> simp
  unfold callNext
  refine .ite_same receiver.isNull_unmarked (callNextOnNothing_blind f _ _) (.classes_bind ?_)
  have hnext := w.classes.next?_unmarked receiver f.owner _ hname
  refine .ofExcept_bind _ hnext fun found hfound => ?_
  cases found with
  | none => exact .pure rfl fun hx => ⟨trivial, hf hx⟩
  | some found =>
    have hfront (hx : x.isSome) := Hierarchy.isFinished_next (hf hx).receiver hfound
    refine .ite_same (b := f.creates) rfl ?_ ?_
    · have happly := hm.apply x w found.member (found.front ++ receiver :: given) named' fun hx =>
        ((hfinished hx).cons (hf hx).receiver).append (hfront hx)
      rw [List.map_append, List.map_cons, hgiven, hnamed] at happly
      exact happly.bind_of_flag fun made w' x' hx' hmade =>
        .pure rfl fun hx => ⟨(hmade hx).1, hf (hx' hx)⟩
    · have happly := hm.apply x w found.member (found.front ++ given) named' fun hx =>
        (hfinished hx).append (hfront hx)
      rw [List.map_append, hgiven, hnamed] at happly
      refine happly.bind_of_flag fun made w' x' hx' hmade => .pure ?_ fun hx => ⟨trivial, ?_⟩
      · show (_, if found.takesReceiver then _ else _) = (_, Frame.unmarked (if _ then _ else _))
        cases found.takesReceiver <;> rfl
      · cases found.takesReceiver
        · exact hf (hx' hx)
        · exact ⟨(hmade hx).2, (hf (hx' hx)).kept⟩

end Body

section Statements

/-- Two runs of a body, one of them without marks. -/
abbrev BlindRun (x : Option Flag) (w : World) (frame : Frame) (run : Frame → Act (Ending × Frame)) :
    Prop :=
  (x.isSome → frame.IsFinished) → BlindAt x w (run frame) (run frame.unmarked)

mutual

theorem runStatement_blind (hm : m.IsBlind) (x : Option Flag) (w : World) (frame : Frame)
    (s : Statement) : BlindRun x w frame (runStatement m · s) := by
  intro hf
  have hgoes {x' : Option Flag} {w' : World} (hx : x'.isSome → x.isSome) :
      BlindAt x' w' (pure (.goesOn, frame) : Act (Ending × Frame))
        (pure (.goesOn, frame.unmarked)) :=
    .pure rfl fun h => ⟨trivial, hf (hx h)⟩
  cases s with
  | raise exception arguments =>
    simp only [runStatement]
    exact (raise_blind hm exception arguments).bind_of_flag fun _ _ _ hx _ => hgoes hx
  | give value =>
    simp only [runStatement]
    exact .pure rfl fun hx => ⟨trivial, hf hx⟩
  | callNext arguments named =>
    simp only [runStatement]
    exact callNext_blind hm frame hf arguments named
  | allocate of =>
    simp only [runStatement]
    have happly {x' : Option Flag} {w' : World} (hx : x'.isSome → x.isSome) (v : Value)
        (hv : x'.isSome → v.IsFinished) : BlindAt x' w'
        (do
          let (made, _) ← m.apply (.native (.create .object)) [v] []
          return (.gives made, frame))
        (do
          let (made, _) ← m.apply (.native (.create .object)) [v.unmarked] []
          return (.gives made, frame.unmarked) : Act (Ending × Frame)) :=
      (hm.apply x' w' (.native (.create .object)) [v] [] fun h => AreFinished.nil.cons (hv h))
        |>.bind_of_flag fun made _ _ hx' hmade => .pure rfl fun h => ⟨(hmade h).1, hf (hx (hx' h))⟩
    cases of with
    | some r => exact (BlindAt.resolve r).bind_of_flag fun v _ _ hx hv => happly hx v hv
    | none => exact happly id frame.receiver fun hx => (hf hx).receiver
  | callClass r arguments =>
    simp only [runStatement]
    exact (BlindAt.resolve r).bind_of_flag fun v _ _ hx hv =>
      (call_data_blind hm v hv arguments).bind_of_flag fun made _ _ hx' hmade =>
        .pure rfl fun h => ⟨trivial, (hf (hx (hx' h))).receiver, hmade h⟩
  | giveKept =>
    simp only [runStatement]
    exact .pure rfl fun hx => ⟨(hf hx).kept, hf hx⟩
  | verify r =>
    simp only [runStatement]
    exact (verify_blind hm r).bind_of_flag fun _ _ _ hx _ => hgoes hx
  | assign name value =>
    simp only [runStatement]
    exact .classes_bind (.assign_bind (fun _ _ hx => hgoes hx) frame.function.owner name
      (Member.unmarked_data value).symm (Member.fits_data value))
  | inTurn label bodies =>
    simp only [runStatement]
    refine (takeTurn_blind label).bind_of_flag fun count w' x' hx _ =>
      (runNth_blind hm x' w' frame _ bodies fun h => hf (hx h)).bind_of_flag
        fun (ending, frame') w'' x'' hx' hended => ?_
    cases ending with
    | gives value => exact .pure rfl hended
    | goesOn => exact .pure rfl fun h => ⟨trivial, (hended h).2⟩

theorem runStatements_blind (hm : m.IsBlind) (x : Option Flag) (w : World) (frame : Frame)
    (list : List Statement) : BlindRun x w frame (runStatements m · list) := by
  intro hf
  cases list with
  | nil =>
    simp only [runStatements]
    exact .pure rfl fun hx => ⟨trivial, hf hx⟩
  | cons s rest =>
    simp only [runStatements]
    refine (runStatement_blind hm x w frame s hf).bind fun (ending, frame') w' x' hended => ?_
    cases ending with
    | gives value => exact .pure rfl hended
    | goesOn => exact runStatements_blind hm x' w' frame' rest fun h => (hended h).2

theorem runNth_blind (hm : m.IsBlind) (x : Option Flag) (w : World) (frame : Frame) (n : Nat)
    (bodies : List (List Statement)) : BlindRun x w frame (runNth m · n bodies) := by
  intro hf
  cases bodies with
  | nil =>
    cases n <;> simp only [runNth] <;> exact .pure rfl fun hx => ⟨trivial, hf hx⟩
  | cons body rest =>
    cases n with
    | zero =>
      simp only [runNth]
      exact runStatements_blind hm x w frame body hf
    | succ n =>
      simp only [runNth]
      exact runNth_blind hm x w frame n rest hf

end

end Statements

end Construction

end UtilityClass
