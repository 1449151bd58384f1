import UtilityClass.Construction.Level
import UtilityClass.Proofs.DiscreetEnumerations
import UtilityClass.Proofs.Habits

/-!
# The machinery is discreet

Whatever code of classes runs when a class is constructed, called or shown, it finds the classes and
not the journal, and it can add to the journal and not take away from it. Code adds to it in one way
only, by verifying a class, and a verification is as discreet as the answers of its introspector.

A level of the machinery runs bodies, and these use the level below. So discretion is shown for one
level over a discreet one, one lemma for each act, in the order in which they call each other, and
then by induction on the number of levels. At the bottom everything fails.

## Main results

* `Reflection.introspector_isDiscreet`
* `Machinery.level_isDiscreet` : the machinery is discreet, however many levels it has
-/

namespace UtilityClass

open Act (IsDiscreet)

variable {m : Machinery}

/-! ## Verifications -/

theorem Act.isObservedHabit_alike (hm : m.IsDiscreet) :
    Act.IsObservedHabit m fun act => Act.Alike act act where
  ofExcept x := (IsDiscreet.ofExcept x).alike
  classes := IsDiscreet.classes.alike
  record r := (IsDiscreet.record r).alike
  bind h hf := h.bind hf
  measured _ _ _ h := h.measured hm

theorem Act.isHabit_isDiscreet : Act.IsHabit IsDiscreet where
  ofExcept := .ofExcept
  classes := .classes
  record := .record
  bind h hf := h.bind hf

theorem Act.isObservedHabit_isDiscreet (hm : m.IsDiscreet) :
    Act.IsObservedHabit m IsDiscreet where
  toIsHabit := isHabit_isDiscreet
  measured _ _ _ h := h.measured hm

/-! ## Reflection -/

namespace Reflection

theorem describe_habit {P : ∀ {α : Type}, Act α → Prop} (hP : Act.IsHabit P) {s : Handle}
    (hs : P s.shown) : P (describe s) :=
  hP.bind (hP.require _ hs) fun _ => hP.bind hP.classes fun _ => hP.ofExcept _

theorem constructors_habit {P : ∀ {α : Type}, Act α → Prop} (hP : Act.IsHabit P) {s : Handle}
    (hs : P s.shown) : P (constructors s) :=
  hP.bind (hP.require _ hs) fun _ => hP.bind hP.classes fun _ => hP.ofExcept _

theorem describe_onlyAsks (c : ClassId) : Act.OnlyAsks (describe (.ofClass c)) :=
  (Act.OnlyAsks.pure c).bind fun _ => Act.OnlyAsks.classes.bind fun _ => .ofExcept _

theorem constructors_onlyAsks (c : ClassId) : Act.OnlyAsks (constructors (.ofClass c)) :=
  (Act.OnlyAsks.pure c).bind fun _ => Act.OnlyAsks.classes.bind fun _ => .ofExcept _

variable (hm : m.IsDiscreet)
include hm

theorem messageOf_isDiscreet (e : Raised) : IsDiscreet (messageOf m e) := by
  refine IsDiscreet.classes.bind fun h => (IsDiscreet.ofExcept _).bind fun carries => ?_
  split
  · exact (hm.textOf _).bind fun _ => .pure _
  · exact .pure _

theorem outcomeOf_isDiscreet (c : ClassId) (e : Raised) : IsDiscreet (outcomeOf m c e) := by
  refine IsDiscreet.classes.bind fun h => ?_
  split
  · exact .throw e
  · refine (messageOf_isDiscreet hm e).bind fun message => IsDiscreet.classes.bind fun h =>
      (IsDiscreet.ofExcept _).bind fun left => ?_
    split
    · exact .pure _
    · refine ((IsDiscreet.pure _).bind fun derives => ?_).bind fun refuses => ?_
      · split
        · exact .ofExcept _
        · exact .pure _
      · split <;> exact .pure _

theorem invoke_isDiscreet {s : Handle} (hs : IsDiscreet s.shown) : IsDiscreet (invoke m s) := by
  refine (Act.isHabit_isDiscreet.require _ hs).bind fun c => IsDiscreet.classes.bind fun h =>
    (IsDiscreet.ofExcept _).bind fun accepts => ?_
  split
  · exact .pure _
  · refine ((hm.construct c).catching hm).bind fun result => ?_
    cases result with
    | ok made => exact .pure _
    | error e => exact outcomeOf_isDiscreet hm c e

theorem introspector_isDiscreet : (introspector m).Acts IsDiscreet where
  describe := describe_habit Act.isHabit_isDiscreet
  constructors := constructors_habit Act.isHabit_isDiscreet
  invoke := invoke_isDiscreet hm

end Reflection

/-! ## Bodies of functions -/

namespace Construction

section Body

theorem madeException_isDiscreet (c : ClassId) (made : Value) :
    IsDiscreet (madeException c made) := by
  refine IsDiscreet.classes.bind fun h => ?_
  have hrefused : IsDiscreet (do
      let literal ← Act.ofExcept (h.literal c)
      Act.refuse (.notMadeException literal (← Act.ofExcept (h.literal (made.type h)))) :
        Act Instance) :=
    (IsDiscreet.ofExcept _).bind fun _ => (IsDiscreet.ofExcept _).bind fun _ => .refuse _
  dsimp only
  split
  · split
    · exact .pure _
    · exact hrefused
  · exact hrefused

variable (hm : m.IsDiscreet)
include hm

theorem raiseValue_isDiscreet (v : Value) : IsDiscreet (raiseValue m v) := by
  refine IsDiscreet.classes.bind fun h => ?_
  split
  · split
    · exact .throw _
    · exact .refuse _
  · split
    · exact (IsDiscreet.refuse _).bind fun _ => (hm.call _ _ _).bind fun made =>
        (madeException_isDiscreet _ made).bind fun _ => .throw _
    · exact (hm.call _ _ _).bind fun made =>
        (madeException_isDiscreet _ made).bind fun _ => .throw _
  · exact .refuse _

theorem raise_isDiscreet (exception : Reference) (arguments : Option (List Json)) :
    IsDiscreet (raise m exception arguments) := by
  refine (IsDiscreet.resolve _).bind fun v => ?_
  cases arguments with
  | none => exact raiseValue_isDiscreet hm v
  | some arguments => exact (hm.call _ _ _).bind fun made => raiseValue_isDiscreet hm made

theorem verify_isDiscreet (r : Reference) : IsDiscreet (verify m r) := by
  refine (IsDiscreet.resolve _).bind fun v => ?_
  rw [Checker.forClass_bind]
  refine (VerificationPolicy.make_habit Act.isHabit_isDiscreet
    (Act.isHabit_isDiscreet.shown_ofClass _)).bind fun policy => ?_
  refine (Act.isHabit_isDiscreet.require _ (Act.isHabit_isDiscreet.shown v)).bind fun c => ?_
  have hacts : (UseCase.mk (Reflection.introspector m) policy).Acts IsDiscreet :=
    { Reflection.introspector_isDiscreet hm with
      isSubclass := fun c => (Act.isSubclass_onlyAsks c _).isDiscreet }
  exact Checker.verify_habit Act.isHabit_isDiscreet
    (UseCase.execute_habit (Act.isObservedHabit_isDiscreet hm) hacts
      (Act.isHabit_isDiscreet.shown_ofClass c)) fun _ => .throw _

omit hm

theorem takeTurn_isDiscreet (label : Nat) : IsDiscreet (takeTurn label) where
  alike w w' hw := by
    have hrun (w : World) : takeTurn label w = (.ok (w.turns label), { w with
      turns := fun l => if l = label then w.turns l + 1 else w.turns l }) := rfl
    have hturns : w.turns = w'.turns := congrArg Setting.turns hw
    refine ⟨by rw [hrun, hrun, hturns], ?_⟩
    show Setting.mk w.setting.classes w.setting.labels
      (fun l => if l = label then w.turns l + 1 else w.turns l) = _
    rw [hw, hturns]
    rfl
  adds w := ⟨rfl, rfl, [], (List.append_nil _).symm⟩

theorem callNextOnNothing_isDiscreet (f : Function) (given : List Json)
    (named : List (String × Json)) : IsDiscreet (callNextOnNothing f given named) := by
  unfold callNextOnNothing
  dsimp only
  split
  · exact .refuse _
  · split
    · exact .fail _
    · split <;> exact .refuse _

include hm

theorem callNext_isDiscreet (frame : Frame) (arguments : List Json)
    (named : List (String × Json)) : IsDiscreet (callNext m frame arguments named) := by
  unfold callNext
  dsimp only
  split
  · exact callNextOnNothing_isDiscreet _ _ _
  · refine IsDiscreet.classes.bind fun h => (IsDiscreet.ofExcept _).bind fun found => ?_
    cases found with
    | none => exact .pure _
    | some found =>
      dsimp only
      split <;> exact (hm.apply _ _ _).bind fun _ => .pure _

end Body

section Statements

mutual

theorem runStatement_isDiscreet (hm : m.IsDiscreet) (frame : Frame) (s : Statement) :
    IsDiscreet (runStatement m frame s) := by
  cases s with
  | raise exception arguments =>
    rw [runStatement]
    exact (raise_isDiscreet hm _ _).bind fun _ => .pure _
  | give value =>
    rw [runStatement]
    exact .pure _
  | callNext arguments named =>
    rw [runStatement]
    exact callNext_isDiscreet hm _ _ _
  | allocate of =>
    unfold runStatement
    cases of with
    | some r => exact (IsDiscreet.resolve r).bind fun _ => (hm.apply _ _ _).bind fun _ => .pure _
    | none => exact (IsDiscreet.pure _).bind fun _ => (hm.apply _ _ _).bind fun _ => .pure _
  | callClass r arguments =>
    rw [runStatement]
    exact (IsDiscreet.resolve r).bind fun _ => (hm.call _ _ _).bind fun _ => .pure _
  | giveKept =>
    rw [runStatement]
    exact .pure _
  | verify r =>
    rw [runStatement]
    exact (verify_isDiscreet hm r).bind fun _ => .pure _
  | assign name value =>
    rw [runStatement]
    exact IsDiscreet.classes.bind fun _ => (IsDiscreet.ofExcept _).bind fun _ =>
      (IsDiscreet.setClasses _).bind fun _ => .pure _
  | inTurn label bodies =>
    unfold runStatement
    refine (takeTurn_isDiscreet label).bind fun count =>
      (runNth_isDiscreet hm frame _ bodies).bind fun (ending, frame) => ?_
    cases ending <;> exact .pure _

theorem runStatements_isDiscreet (hm : m.IsDiscreet) (frame : Frame) (list : List Statement) :
    IsDiscreet (runStatements m frame list) := by
  cases list with
  | nil =>
    rw [runStatements]
    exact .pure _
  | cons s rest =>
    rw [runStatements]
    refine (runStatement_isDiscreet hm frame s).bind fun (ending, frame) => ?_
    cases ending with
    | gives value => exact .pure _
    | goesOn => exact runStatements_isDiscreet hm frame rest

theorem runNth_isDiscreet (hm : m.IsDiscreet) (frame : Frame) (n : Nat)
    (bodies : List (List Statement)) : IsDiscreet (runNth m frame n bodies) := by
  cases bodies with
  | nil =>
    cases n <;> rw [runNth] <;> exact .pure _
  | cons body rest =>
    cases n with
    | zero =>
      rw [runNth]
      exact runStatements_isDiscreet hm frame body
    | succ n =>
      rw [runNth]
      exact runNth_isDiscreet hm frame n rest

end

end Statements

end Construction

/-! ## Services of the library -/

namespace Construction

section Services

variable (hm : m.IsDiscreet)
include hm

theorem guardProtocol_isDiscreet (self : Value) (arguments : List Value)
    (named : List (String × Value)) : IsDiscreet (guardProtocol m self arguments named) := by
  refine IsDiscreet.classes.bind fun h => (IsDiscreet.ofExcept _).bind fun a =>
    .ite_then (.refuse _) fun _ => (IsDiscreet.ofExcept _).bind fun a => ?_
  split
  · split
    · exact .pure _
    · refine (IsDiscreet.ofExcept _).bind fun h => (IsDiscreet.setClasses _).bind fun _ =>
        (IsDiscreet.ofExcept _).bind fun a => (hm.apply _ _ _).bind fun _ => ?_
      split
      exact .pure _
  · exact .pure _

theorem createNext_isDiscreet (after : ClassId) (metaclass : Value) (arguments : List Value)
    (named : List (String × Value)) :
    IsDiscreet (createNext m after metaclass arguments named) := by
  refine IsDiscreet.classes.bind fun h => (IsDiscreet.ofExcept _).bind fun found => ?_
  cases found with
  | some found => exact (hm.apply _ _ _).bind fun _ => .pure _
  | none => exact .pure _

theorem createAbstract_isDiscreet (metaclass : Value) (arguments : List Value)
    (named : List (String × Value)) : IsDiscreet (createAbstract m metaclass arguments named) := by
  refine (createNext_isDiscreet hm _ _ _ _).bind fun made => IsDiscreet.classes.bind fun h => ?_
  split
  · exact (IsDiscreet.ofExcept _).bind fun _ => (IsDiscreet.setClasses _).bind fun _ => .pure _
  · exact .fail _

theorem createEnumeration_isDiscreet (metaclass name bases namespace' : Value)
    (named : List (String × Value)) :
    IsDiscreet (createEnumeration m metaclass name bases namespace' named) := by
  refine IsDiscreet.classes.bind fun h => ?_
  split
  · refine .ite_then (.fail _) fun _ => (IsDiscreet.ofExcept _).bind fun b =>
      (createNext_isDiscreet hm _ _ _ _).bind fun made => ?_
    split
    · exact (Enumeration.complete_isDiscreet _ _ _).bind fun _ => .pure _
    · exact IsDiscreet.classes.bind fun _ => .fail _
  · split <;> exact .fail _

theorem createFraction_isDiscreet (receiver numerator denominator : Value) :
    IsDiscreet (createFraction m receiver numerator denominator) := by
  refine (createNext_isDiscreet hm _ _ _ _).bind fun made => (IsDiscreet.ofExcept _).bind fun _ =>
    IsDiscreet.classes.bind fun h => (IsDiscreet.ofExcept _).bind fun _ => ?_
  split <;> exact .pure _

omit hm in
theorem keysOf_isDiscreet (given : Value) : IsDiscreet (keysOf given) := by
  unfold keysOf
  split
  · exact .pure _
  · exact .ofExcept _
  · exact IsDiscreet.classes.bind fun _ => .refuse _

theorem putItems_isDiscreet (self given : Value) : IsDiscreet (putItems m self given) := by
  refine IsDiscreet.classes.bind fun h => ?_
  split
  · exact (IsDiscreet.ofExcept _).bind fun _ => (hm.apply _ _ _).discard
  · refine (keysOf_isDiscreet given).bind fun keys =>
      IsDiscreet.bind (.forIn (fun key _ => ?_) _ _) fun _ => .pure _
    split
    · exact (IsDiscreet.ofExcept _).bind fun _ => (hm.apply _ _ _).discard.bind fun _ => .pure _
    · split
      · exact (IsDiscreet.fail _).bind fun _ => .pure _
      · exact .pure _

theorem fillDictionary_isDiscreet (self given : Value) (named : List (String × Value)) :
    IsDiscreet (fillDictionary m self given named) := by
  refine IsDiscreet.classes.bind fun h => (IsDiscreet.ofExcept _).bind fun _ =>
    .ite_then (putItems_isDiscreet hm _ _) fun _ => ?_
  split
  · exact putItems_isDiscreet hm _ _
  · exact .pure _

end Services

/-! ## Calls -/

section Call

variable (hm : m.IsDiscreet)
include hm

theorem runService_isDiscreet (f : Function) (s : Service) (given : List Value)
    (named : List (String × Value)) : IsDiscreet (runService m f s given named) := by
  unfold runService
  dsimp only
  split
  · exact .pure _
  · exact (guardProtocol_isDiscreet hm _ _ _).bind fun _ => .pure _
  · exact (Enumeration.find_isDiscreet hm _ _).bind fun _ => .pure _
  · exact (Enumeration.answer_isDiscreet hm _ _ _).bind fun _ => .pure _
  · exact (createAbstract_isDiscreet hm _ _ _).bind fun _ => .pure _
  · exact (createEnumeration_isDiscreet hm _ _ _ _ _).bind fun _ => .pure _
  · exact (createFraction_isDiscreet hm _ _ _).bind fun _ => .pure _
  · exact (fillDictionary_isDiscreet hm _ _ _).bind fun _ => .pure _

theorem runBody_isDiscreet (f : Function) (lead : Nat) (given : List Value)
    (named : List (String × Value)) : IsDiscreet (runBody m f lead given named) := by
  unfold runBody
  split
  · exact runService_isDiscreet hm _ _ _ _
  · refine (runStatements_isDiscreet hm _ _).bind fun (ending, frame) => ?_
    cases ending <;> exact .pure _

theorem callFunction_isDiscreet (f : Function) (lead : Nat) (given : List Value)
    (named : List (String × Value)) : IsDiscreet (callFunction m f lead given named) := by
  unfold callFunction
  split
  · exact .fail _
  · exact (runBody_isDiscreet hm _ _ _ _).inFrame

theorem createClass_isDiscreet (metaclass : ClassId) (given : List Value) :
    IsDiscreet (createClass m metaclass given) := by
  refine IsDiscreet.classes.bind fun h => ?_
  split
  · refine (IsDiscreet.ofExcept _).bind fun _ => (IsDiscreet.setClasses _).bind fun _ => ?_
    extract_lets tell
    have htell (u : Unit) : IsDiscreet (tell u) :=
      IsDiscreet.classes.bind fun _ => (IsDiscreet.ofExcept _).bind fun _ =>
        (IsDiscreet.setClasses _).bind fun _ => .pure _
    split
    · exact (Enumeration.makeMembers_isDiscreet hm _ _).bind htell
    · exact htell ()
  · exact .fail _

theorem createNatively_isDiscreet (l : LibraryClass) (c : ClassId) (given : List Value)
    (named : List (String × Value)) : IsDiscreet (createNatively m l c given named) := by
  unfold createNatively
  split
  · exact createClass_isDiscreet hm _ _
  · exact IsDiscreet.classes.bind fun _ => .ofExcept _

theorem lengthOf_isDiscreet (given : List Value) (named : List (String × Value)) :
    IsDiscreet (lengthOf m given named) := by
  refine IsDiscreet.classes.bind fun h => ?_
  split
  · exact .refuse _
  · split
    · exact .pure _
    · exact .refuse _
  · split
    · exact (IsDiscreet.ofExcept _).bind fun _ => (hm.apply _ _ _).bind fun _ => .fail _
    · exact .pure _
    · exact .refuse _
  · exact .fail _

theorem iterate_isDiscreet (given : List Value) (named : List (String × Value)) :
    IsDiscreet (iterate m given named) := by
  refine IsDiscreet.classes.bind fun h => ?_
  split
  · exact .refuse _
  · exact (IsDiscreet.ofExcept _).discard.bind fun _ => .pure _
  · split
    · exact (IsDiscreet.ofExcept _).bind fun _ => (hm.apply _ _ _).bind fun _ => .fail _
    · exact .pure _
    · exact .refuse _
  · exact .pure _
  · exact .fail _
  · exact (IsDiscreet.ofExcept _).bind fun _ => .pure _

omit hm in
theorem applyMethod_isDiscreet (n : Native) (self : Value) (given : List Value)
    (named : List (String × Value)) : IsDiscreet (applyMethod n self given named) := by
  refine IsDiscreet.classes.bind fun h => ?_
  split
  · split
    · exact .refuse _
    · exact .ofExcept _
  · dsimp only
    split
    · exact .refuse _
    · split
      · exact .pure _
      · exact .fail _
  · exact (IsDiscreet.ofExcept _).discard.bind fun _ => .pure _

theorem applyNative_isDiscreet (n : Native) (given : List Value) (named : List (String × Value)) :
    IsDiscreet (applyNative m n given named) := by
  refine IsDiscreet.classes.bind fun h => ?_
  extract_lets first
  split
  · exact (IsDiscreet.fail _).bind fun _ => .pure _
  · exact (IsDiscreet.ofExcept _).bind fun _ => (createNatively_isDiscreet hm _ _ _ _).bind
      fun _ => .pure _
  · exact .refuse _
  · exact .refuse _
  · exact .ite_then (.refuse _) fun _ => (IsDiscreet.ofExcept _).bind fun _ => .pure _
  · exact .refuse _
  · refine .ite_then (.refuse _) fun _ => .ite_then (IsDiscreet.fail _).discard fun _ => ?_
    split <;> exact .pure _
  · exact (lengthOf_isDiscreet hm _ _).bind fun _ => .pure _
  · exact (iterate_isDiscreet hm _ _).bind fun _ => .pure _
  · exact .pure _
  · exact (IsDiscreet.fail _).bind fun _ => .pure _
  · exact (IsDiscreet.ofExcept _).bind fun _ => (applyMethod_isDiscreet _ _ _ _).bind fun _ =>
      .pure _

theorem apply_isDiscreet (member : Member) (given : List Value) (named : List (String × Value)) :
    IsDiscreet (apply m member given named) := by
  cases member with
  | function f => exact callFunction_isDiscreet hm _ _ _ _
  | static f marker => exact callFunction_isDiscreet hm _ _ _ _
  | callable f => exact (callFunction_isDiscreet hm _ _ _ _).bind fun _ => .pure _
  | classwise f marker => exact .refuse _
  | data value => exact .refuse _
  | native n => exact applyNative_isDiscreet hm _ _ _
  | part isBound => exact .pure _
  | place name =>
    unfold apply
    dsimp only
    split
    · exact IsDiscreet.classes.bind fun _ => .fail _
    · exact .refuse _
  | enumerated truthy => exact .refuse _

theorem applyOn_isDiscreet (member : Member) (v : Value) (given : List Value)
    (named : List (String × Value)) : IsDiscreet (applyOn m member v given named) :=
  IsDiscreet.classes.bind fun _ => (apply_isDiscreet hm _ _ _).bind fun _ => .pure _

theorem create_isDiscreet (c : ClassId) (given : List Value) (named : List (String × Value)) :
    IsDiscreet (create m c given named) := by
  refine IsDiscreet.classes.bind fun h => ?_
  split
  · exact createNatively_isDiscreet hm _ _ _ _
  · exact (IsDiscreet.ofExcept _).bind fun _ => (apply_isDiscreet hm _ _ _).bind fun _ => .pure _

theorem initialise_isDiscreet (v : Value) (given : List Value) (named : List (String × Value)) :
    IsDiscreet (initialise m v given named) := by
  refine IsDiscreet.classes.bind fun h => ?_
  split
  · refine (apply_isDiscreet hm _ _ _).bind fun (value, first) => ?_
    dsimp only
    split
    · exact IsDiscreet.classes.bind fun _ => (IsDiscreet.refuse _).bind fun _ => by
        split <;> exact .pure _
    · split <;> exact .pure _
  · exact .pure _

theorem constructWith_isDiscreet (c : ClassId) (given : List Value)
    (named : List (String × Value)) : IsDiscreet (constructWith m c given named) := by
  unfold constructWith
  extract_lets build
  have hbuild (u : Unit) : IsDiscreet (build u) := by
    refine (create_isDiscreet hm _ _ _).bind fun made => IsDiscreet.classes.bind fun h => ?_
    split
    · exact initialise_isDiscreet hm _ _ _
    · exact .pure _
  split
  · split
    · exact IsDiscreet.classes.bind fun _ => .pure _
    · exact hbuild ()
    · exact (IsDiscreet.fail _).discard.bind hbuild
  · exact hbuild ()

theorem call_isDiscreet (v : Value) (given : List Value) (named : List (String × Value)) :
    IsDiscreet (call m v given named) := by
  refine IsDiscreet.classes.bind fun h => ?_
  split
  · split
    · exact constructWith_isDiscreet hm _ _ _
    · exact constructWith_isDiscreet hm _ _ _
    · exact applyOn_isDiscreet hm _ _ _ _
  · split
    · exact applyOn_isDiscreet hm _ _ _ _
    · exact .refuse _

theorem textOf_isDiscreet (i : Instance) : IsDiscreet (textOf m i) := by
  refine IsDiscreet.classes.bind fun h => ?_
  split
  · exact .pure _
  · exact .pure _
  · refine (applyOn_isDiscreet hm _ _ _ _).bind fun v => ?_
    split
    · exact .pure _
    · exact IsDiscreet.classes.bind fun _ => .refuse _

end Call

end Construction

/-! ## Levels of machinery -/

namespace Machinery

theorem exhausted_isDiscreet : exhausted.IsDiscreet where
  construct _ := .fail _
  call _ _ _ := .fail _
  textOf _ := .fail _
  apply _ _ _ := .fail _

theorem IsDiscreet.above (hm : m.IsDiscreet) : m.above.IsDiscreet where
  construct c := Construction.constructWith_isDiscreet hm c [] []
  call := Construction.call_isDiscreet hm
  textOf := Construction.textOf_isDiscreet hm
  apply := Construction.apply_isDiscreet hm

/-- **The machinery is discreet**, however many levels it has. -/
theorem level_isDiscreet (n : Nat) : (level n).IsDiscreet := by
  induction n with
  | zero => exact exhausted_isDiscreet
  | succ n ih => exact ih.above

end Machinery

end UtilityClass
