import UtilityClass.Proofs.Blindness
import UtilityClass.Proofs.UnmarkedEnumerations

/-!
# Enumerations are made blindly

An enumeration is made of a namespace that is filled, planned and completed, and its members are
made one by one with the functions that its classes have for this. None of these steps reads a
private mark. Each of them changes the new class, which is there only after classes have been made,
so of the making nothing has to be compared where a flag is exchanged.

Finding a member makes no class. It reads what the enumeration has kept, and it may ask functions of
declared classes, so here flags are exchanged as well.

## Main results

* `Enumeration.makeMembers_blind`, `Enumeration.complete_blind` : making an enumeration
* `Enumeration.find_blind` : finding a member
* `Enumeration.answer_blind` : calling an enumeration
-/

namespace UtilityClass

open HasMarks (IsFinished)
open Act (BlindAt)

instance : HasMarks Blueprint := ⟨Blueprint.unmarked, fun _ => True⟩

variable {m : Machinery} {x : Option Flag} {w : World}

namespace Enumeration

/-! ## Making enumerations -/

theorem put_blind (c : ClassId) {name : String} (hname : name ≠ "__final__") (member : Member) :
    BlindAt none w (put c name member) (put c name member.unmarked) := by
  have hassign := w.classes.assign_unmarked_of_ne (c := c) (x := none) name member fun _ => hname
  refine .classes_bind (.ofExcept_bind _ hassign fun g hg => .setClasses_none ?_ rfl)
  exact Hierarchy.declared_of_assign hg

theorem putMissing_blind (c : ClassId) {names : List String} (hnames : "__final__" ∉ names) :
    BlindAt none w (putMissing c names) (putMissing c names) := by
  refine .forM names fun w' x' hx name hname => ?_
  obtain rfl := BlindAt.eq_none hx
  have hne : name ≠ "__final__" := fun h => hnames (h ▸ hname)
  refine .classes_bind ?_
  rw [w'.classes.own?_unmarked name (by simp), Option.isNone_map]
  exact .ite_same rfl (put_blind c hne (.part false)) (.pure rfl nofun)

/-- The members that show an enumeration are taken over in the order of their names. -/
theorem complete_blind (c : ClassId) (bases : List ClassId) (p : MemberPlan) :
    BlindAt none w (complete c bases p) (complete c bases p.unmarked) := by
  refine .classes_bind (.same_bind (checkNamespace_unmarked _) fun _ _ =>
    .classes_bind (.same_bind (w.classes.isAmong_unmarked _) fun among _ => ?_))
  -- the steps behind the three conditions, last one first
  extract_lets order show' fill order' show'' fill'
  have horder (w : World) (u : Unit) : BlindAt none w (order u) (order' u) := by
    unfold order order'
    rw [show p.unmarked.order = p.order.map Member.unmarked from rfl]
    cases p.order with
    | none => exact .pure rfl nofun
    | some m =>
      exact .classes_bind (.same (checkOrder_unmarked _ m))
  have hshow (w : World) (u : Unit) : BlindAt none w (show' u) (show'' u) := by
    refine BlindAt.bind_none (.forIn showingNames (fun w x hx name hname _ => ?_) _) fun _ w =>
      .classes_bind ?_
    · obtain rfl := BlindAt.eq_none hx
      have hne : name ≠ "__final__" := fun h => absurd (h ▸ hname) (by simp [showingNames])
      refine .classes_bind (.ite_iff ?_ ?_ (.pure rfl nofun))
      · rw [w.classes.own?_unmarked name (by simp), Option.isNone_map,
          isBorrowed_unmarked _ _ _ (by simp)]
        rfl
      · refine .ofExcept_bind _ (w.classes.read?_unmarked name (by simp)) fun found _ => ?_
        have hput := put_blind (w := w) c hne ((found.map (·.member)).getD (.part false))
        refine BlindAt.bind_none ?_ fun _ w => .pure rfl nofun
        cases found <;> exact hput
    · extract_lets isFlag create keep isFlag' create' keep'
      have hflag : isFlag' = isFlag := w.classes.derives_unmarked _
      have hcreate (w : World) (u : Unit) : BlindAt none w (create u) (create' u) := by
        refine (put_blind c (by simp) finder).bind_none fun _ w => .ite_same hflag ?_ ?_
        · refine .classes_bind (.same_bind (checkIteration_unmarked _) fun _ _ => .classes_bind ?_)
          exact .ite_then_none (by rw [isUnordered_unmarked])
            (fun _ => put_blind c (by simp) (.part false)) fun w => horder w ()
        · refine BlindAt.bind_none (.forIn Hierarchy.flagNames (fun w x hx name hname _ => ?_) _)
            fun _ w => horder w ()
          obtain rfl := BlindAt.eq_none hx
          exact .classes_bind (.delete_bind c name fun w => .pure rfl nofun)
      have hkeep (w : World) (u : Unit) : BlindAt none w (keep u) (keep' u) := by
        unfold keep keep'
        rw [show p.unmarked.declaredCreator = p.declaredCreator.map Member.unmarked from rfl]
        cases p.declaredCreator with
        | none => exact hcreate w ()
        | some creator =>
          exact (put_blind c (by simp [Hierarchy.keptCreatorName]) creator).bind_none
            fun u w => hcreate w u
      exact .ite_then_none (by rw [hflag]) (fun _ => putMissing_blind c (by simp [flagOperations]))
        fun w => hkeep w ()
  have hfill (w : World) (u : Unit) : BlindAt none w (fill u) (fill' u) :=
    (putMissing_blind c (by simp)).bind_none fun u w => hshow w u
  cases among
  · exact hshow w ()
  · exact .ite_then_none Iff.rfl (fun _ => .fail _) fun w => hfill w ()

/-- Going over a list while a namespace is filled. -/
theorem foldlM_unmarked {β : Type} {f : Blueprint → β → Except Fault Blueprint}
    (hf : ∀ b e, f b.unmarked e = (f b e).map Blueprint.unmarked) (list : List β) (b : Blueprint) :
    list.foldlM f b.unmarked = (list.foldlM f b).map Blueprint.unmarked := by
  induction list generalizing b with
  | nil => rfl
  | cons e rest ih =>
    rw [List.foldlM_cons, List.foldlM_cons, hf, Result.bind_map, Result.map_bind]
    exact bind_congr fun b => ih b

theorem readOn?_unmarkedBoth (h : Hierarchy) (v : Value) (name : String)
    (hn : x.isSome → name ≠ "__final__") :
    (h.unmarked x).readOn? v.unmarked name =
      (h.readOn? v name).map (Option.map fun found => (found.1, found.2.unmarked)) :=
  ((h.unmarked x).readOn?_unmarkedValue v name).trans (h.readOn?_unmarked v name hn)

/-- The argument for a member is data, which carries no mark. -/
theorem argument_bare (p : MemberPlan) (declared : Json) :
    (argument p declared).unmarked = argument p declared := by
  unfold argument
  split <;> rfl

variable (hm : m.IsBlind)
include hm

theorem convert_blind (p : MemberPlan) (made given : Value) :
    BlindAt none w (convert m p made given)
      (convert m p.unmarked made.unmarked given.unmarked) := by
  have hconverted : BlindAt none w
      (do
        let value ← m.call (.ofClass p.dataType) [given] []
        Act.ofExcept ((← Act.classes).checkAttribute made valueName)
        return value)
      (do
        let value ← m.call (.ofClass p.dataType) [given.unmarked] []
        Act.ofExcept ((← Act.classes).checkAttribute made.unmarked valueName)
        return value) :=
    (hm.call_none (.ofClass p.dataType) [given] []).bind_none fun value w =>
      .classes_bind (.same_bind (w.classes.checkAttribute_unmarked made valueName (by simp))
        fun _ _ => .pure rfl nofun)
  refine (BlindAt.catching hm hconverted).bind_none fun result w => ?_
  cases result with
  | ok value => exact .pure rfl nofun
  | error e =>
    exact .classes_bind (.ite_same w.classes.isException_unmarked (.fail _) (.throw e))

theorem valueOf_blind (p : MemberPlan) (declared : Json) (made : Value) :
    BlindAt none w (valueOf m p declared made) (valueOf m p.unmarked declared made.unmarked) := by
  refine .classes_bind (.ofExcept_bind _ (readOn?_unmarkedBoth _ made valueName nofun)
    fun found _ => ?_)
  have husual : BlindAt none w
      (if p.takesValue ∧ p.dataType ≠ LibraryClass.object then
        convert m p made (argument p declared)
      else do
        Act.ofExcept (w.classes.checkAttribute made valueName)
        return .data declared)
      (if p.unmarked.takesValue ∧ p.unmarked.dataType ≠ LibraryClass.object then
        convert m p.unmarked made.unmarked (argument p.unmarked declared)
      else do
        Act.ofExcept ((w.classes.unmarked none).checkAttribute made.unmarked valueName)
        return .data declared) := by
    refine .ite_iff Iff.rfl ?_ ?_
    · simpa [argument_bare] using convert_blind hm p made (argument p declared)
    · exact .same_bind (w.classes.checkAttribute_unmarked made valueName (by simp)) fun _ _ =>
        .pure rfl nofun
  rcases found with _ | ⟨c, member⟩
  · exact husual
  · cases member
    all_goals exact .pure rfl nofun

theorem makeMember_blind (c : ClassId) (p : MemberPlan) (name : String) (declared : Json) :
    BlindAt none w (makeMember m c p name declared) (makeMember m c p.unmarked name declared) := by
  refine .classes_bind (.delete_bind c name fun w => ?_)
  have hargument : [argument p declared].map Value.unmarked = [argument p declared] :=
    congrArg ([·]) (argument_bare p declared)
  have hcreator : p.unmarked.creator.onClass c =
      ((p.creator.onClass c).1.unmarked, (p.creator.onClass c).2) := p.creator.onClass_unmarked c
  have hbound : (p.bound.map Value.ofClass).map Value.unmarked = p.bound.map Value.ofClass := by
    rw [List.map_map]
    exact List.map_congr_left fun _ _ => rfl
  have hgiven : (if p.takesValue then [argument p declared] else []).map Value.unmarked =
      if p.takesValue then [argument p declared] else [] := by
    split
    · exact hargument
    · rfl
  have happly := hm.apply_none (w := w) (p.creator.onClass c).1 ((p.creator.onClass c).2 ++
    p.bound.map .ofClass ++ .ofClass c :: if p.takesValue then [argument p declared] else []) []
  rw [List.map_append, List.map_append, List.map_cons, p.creator.map_unmarked_onClass, hbound,
    hgiven] at happly
  rw [hcreator]
  refine happly.bind_none fun (made, _) w => (valueOf_blind hm p declared made).bind_none
    fun value w => .classes_bind (.same_bind
      (w.classes.checkAttribute_unmarked made "_name_" (by simp)) fun _ _ => ?_)
  extract_lets enlist enlist'
  have henlist (w : World) (u : Unit) : BlindAt none w (enlist u) (enlist' u) := by
    refine .classes_bind ?_
    extract_lets known object place known' object' place'
    have hknown : known' = known := by
      unfold known known'
      simp only [HasMarks.unmarked_value, Value.content?_unmarked]
      rfl
    have hobject : object' = object := by
      unfold object object'
      simp only [Value.type_unmarkedClasses]
      cases made <;> rfl
    have hplace (listed : Bool) : BlindAt none w (place listed) (place' listed) := by
      unfold place place'
      rw [hknown, hobject]
      refine .same_bind (checkAncestors_unmarked _ name) fun _ _ => .ofExcept_bind
        (fun g => g.unmarked none) ?_ fun g hg => .setClasses_none ?_ ?_
      · have htrue := countsAsTrue_unmarked (x := none) (c := c) w.classes made value
        exact (congrArg (fun truthy => (w.classes.unmarked none).assign c name (.enumerated truthy))
          htrue).trans (w.classes.assign_unmarked_of_ne name (.enumerated _) nofun)
      · have hdeclared := Hierarchy.declared_of_assign hg
        exact hdeclared
      · simp only [HasMarks.unmarked_value, Value.content?_unmarked]
        exact addMember_unmarked _ _
    refine .ite_iff (by rw [hknown]) ?_ (.ite_iff (by rw [Hierarchy.derives_unmarked]) ?_ ?_)
    · exact hplace false
    · exact .same_bind (hasOneBit_unmarked _ value) fun listed _ => hplace listed
    · exact hplace true
  have hname : (none : Option Flag).isSome → "__init__" ≠ "__final__" := nofun
  dsimp only [HasMarks.unmarked]
  simp only [Value.type_unmarkedClasses, Value.type_unmarked]
  rw [w.classes.resolve?_unmarked "__init__" hname]
  rcases w.classes.resolve? (made.type w.classes) "__init__" with _ | ⟨d, initialiser⟩
  · exact henlist w ()
  · refine .ofExcept_bind _ (w.classes.bind_unmarked made initialiser) fun (bound, front) _ => ?_
    have happly := hm.apply_none (w := w) bound (front ++ [argument p declared]) []
    rw [List.map_append, hargument] at happly
    exact happly.discard.bind_none fun u w => henlist w u

theorem makeMembers_blind (c : ClassId) (p : MemberPlan) :
    BlindAt none w (makeMembers m c p) (makeMembers m c p.unmarked) := by
  refine .forM p.pending fun w x hx (name, declared) _ => ?_
  obtain rfl := BlindAt.eq_none hx
  exact makeMember_blind hm c p name declared

/-! ## Searching enumerations -/

omit hm

theorem isFinished_of_map_object {found? : Option Instance} {found : Value}
    (hf : found?.map Value.object = some found) : found.IsFinished := by
  obtain ⟨i, -, rfl⟩ := Option.map_eq_some_iff.1 hf
  trivial

theorem isFinished_findAlong {h : Hierarchy} {c : ClassId} {value : Json} {found : Value}
    (hf : findAlong h c value = .ok (some found)) : found.IsFinished := by
  obtain ⟨a, -, ha⟩ := Result.bind_eq_ok_iff.1 hf
  split at ha
  · cases ha
  · cases ha
  · cases ha
  · obtain ⟨member, -, rfl⟩ := Option.map_eq_some_iff.1 (Except.ok.inj ha)
    trivial

theorem isFinished_findKept {h : Hierarchy} {c : ClassId} {kept value : Json} {found : Value}
    (hf : findKept h c kept value = .ok (some found)) : found.IsFinished := by
  unfold findKept at hf
  split at hf
  · obtain ⟨item, -, rfl⟩ := Option.map_eq_some_iff.1 (Except.ok.inj hf)
    trivial
  · split at hf
    · cases hf
    · exact isFinished_findAlong hf
  · split at hf
    · obtain ⟨-, hf⟩ := Result.ite_error_eq_ok_iff.1 hf
      split at hf
      · cases hf
        trivial
      · cases hf
    · exact isFinished_findAlong hf

/-- A member is an object, and what stands in its place is plain data. -/
theorem isFinished_findKnown {h : Hierarchy} {c : ClassId} {value : Json} {found : Value}
    (hf : findKnown h c value = .ok (some found)) : found.IsFinished := by
  obtain ⟨a, -, ha⟩ := Result.bind_eq_ok_iff.1 hf
  split at ha
  · exact isFinished_findKept ha
  · split at ha
    · exact isFinished_findAlong ha
    · exact isFinished_of_map_object (Except.ok.inj ha)

include hm

section Apply

variable {y : Option Flag} (h : Hierarchy) (a : ClassAttribute) (c : ClassId) (given : List Value)

/-- What is read of a class is called. -/
theorem applyRead_blind (named : List (String × Value))
    (hgiven : x.isSome → AreFinished given named) :
    BlindAt x w (m.apply (a.on h c).1 ((a.on h c).2 ++ given) named)
      (m.apply (a.unmarked.on (h.unmarked y) c).1
        ((a.unmarked.on (h.unmarked y) c).2 ++ given.map Value.unmarked)
        (unmarkedNamed named)) := by
  have happly := hm.apply x w (a.on h c).1 ((a.on h c).2 ++ given) named fun hx =>
    (hgiven hx).append (a.isFinished_on h c)
  rw [List.map_append, ClassAttribute.map_unmarked_on] at happly
  rwa [ClassAttribute.on_unmarked]

theorem callRead_blind (hgiven : x.isSome → ∀ v ∈ given, v.IsFinished) :
    BlindAt x w
      (do return (← m.apply (a.on h c).1 ((a.on h c).2 ++ given) []).1)
      (do return (← m.apply (a.unmarked.on (h.unmarked y) c).1
        ((a.unmarked.on (h.unmarked y) c).2 ++ given.map Value.unmarked) []).1) :=
  (applyRead_blind hm h a c given [] fun hx => ⟨hgiven hx, by simp⟩).bind fun made w x hmade =>
    .pure rfl fun hx => (hmade hx).1

end Apply

theorem createCombination_blind (c : ClassId) (e : Enumeration) (value : Json) :
    BlindAt x w (createCombination m c e value) (createCombination m c e value) := by
  have hname : x.isSome → Hierarchy.keptCreatorName ≠ "__final__" := by
    simp [Hierarchy.keptCreatorName]
  have hgiven : x.isSome → ∀ v ∈ [Value.ofClass c, .data value], v.IsFinished := by simp
  refine .classes_bind (.ofExcept_bind _ (w.classes.read?_unmarked _ hname) fun found _ => ?_)
  have hkept : (found.map ClassAttribute.unmarked).filter ClassAttribute.truthy =
      (found.filter ClassAttribute.truthy).map ClassAttribute.unmarked := by
    rw [Option.filter_map]
    exact congrArg (Option.map _) (congrArg (found.filter ·) (funext fun a => a.truthy_unmarked))
  dsimp only
  rw [hkept]
  rcases found.filter ClassAttribute.truthy with _ | creator
  · refine .ite_iff Iff.rfl ?_ ?_
    · have happly := hm.apply x w (.native (.create .object)) [.ofClass c] [] fun _ => by
        simp [AreFinished]
      exact happly.bind fun made w x hmade => .pure rfl fun hx => (hmade hx).1
    · refine .ofExcept_bind _ (w.classes.read_unmarked "__new__" (by simp)) fun creator _ => ?_
      exact callRead_blind hm w.classes creator e.dataType _ hgiven
  · exact callRead_blind hm w.classes creator c _ hgiven

theorem findCombination_blind (c : ClassId) (e : Enumeration) (given : Json) (n : Int) :
    BlindAt x w (findCombination m c e given n) (findCombination m c e given n) := by
  refine .classes_bind (.same_bind (conforming_unmarked _ e n) fun value _ =>
    (createCombination_blind hm c e _).bind fun made w x hmade => .classes_bind ?_)
  refine .ofExcept_bind _ (readOn?_unmarkedBoth _ made valueName (by simp [valueName]))
    fun found _ => ?_
  have hkeeps (h : Hierarchy) (n : Int) (i : Instance) : h.Keeps (remember h c n i) :=
    .modify h c (fun _ => rfl) (fun _ => rfl) fun _ => rfl
  have hmadeSame : BlindAt x w (pure made) (pure made.unmarked) := .pure rfl hmade
  extract_lets finish keep complete finish' keep' complete'
  have hcomplete (u : Unit) : BlindAt x w (complete u) (complete' u) := by
    refine .ite_iff Iff.rfl (.fail_bind _) ?_
    cases made with
    | object i =>
      exact .ite_then Iff.rfl (fun _ => .setClasses ((hkeeps _ _ i).trans (hkeeps _ _ i)) rfl
        World.Fits.flag (by rw [remember_unmarked, remember_unmarked]))
        fun w x hx => .pure rfl fun h => hmade (hx h)
    | _ => exact hmadeSame
  exact .ite_iff (by rw [Option.isNone_map]) (.same_bind
    (w.classes.checkAttribute_unmarked made valueName (by simp [valueName]))
    fun _ _ => hcomplete ()) (hcomplete ())

theorem askMissing_blind (c : ClassId) (e : Enumeration) (value : Value)
    (hvalue : x.isSome → value.IsFinished) :
    BlindAt x w (askMissing m c e value) (askMissing m c e value.unmarked) := by
  have hname : x.isSome → missingName ≠ "__final__" := by simp [missingName]
  refine .classes_bind (.ofExcept_bind _ (w.classes.read_unmarked _ hname) fun a _ => ?_)
  have hasked := callRead_blind (w := w) (y := x) hm w.classes a c [value] fun hx => by
    simpa using hvalue hx
  rw [w.classes.resolve?_unmarked _ hname, Value.content?_unmarked]
  obtain ⟨member, bound⟩ := a
  cases member
  case part isAbstract =>
    rcases w.classes.resolve? c missingName with _ | ⟨l | _, _⟩
    · exact .pure rfl fun _ => trivial
    · cases l
      case flag =>
        rcases value.content? with _ | given
        · exact .pure rfl fun _ => trivial
        · dsimp only [Option.map_some]
          rcases (some given).bind Json.integer? with _ | n
          · exact .pure rfl fun _ => trivial
          · exact findCombination_blind hm c e given n
      all_goals exact .pure rfl fun _ => trivial
    · exact .pure rfl fun _ => trivial
  all_goals exact hasked

theorem findMissing_blind (c : ClassId) (e : Enumeration) (value : Value)
    (hvalue : x.isSome → value.IsFinished) :
    BlindAt x w (findMissing m c e value) (findMissing m c e value.unmarked) := by
  refine (BlindAt.catching hm (askMissing_blind hm c e value hvalue)).bind fun found w x hfound =>
    .classes_bind ?_
  have hliteral : value.unmarked.literal (w.classes.unmarked x) = value.literal w.classes :=
    (value.unmarked.literal_unmarkedClasses ..).trans (value.literal_unmarked _)
  cases found with
  | ok found =>
    refine .same_bind (isMember_unmarked _ found) fun isMember _ => .ite_iff Iff.rfl ?_ ?_
    · exact .pure rfl fun hx => hfound hx found rfl
    · refine .same_bind hliteral fun literal _ => .same_bind w.classes.longName_unmarked
        fun name _ => .ite_iff (by simp) (.fail_bind _) ?_
      exact .same_bind w.classes.shortName_unmarked fun _ _ => .same_bind
        ((found.unmarked.literal_unmarkedClasses ..).trans (found.literal_unmarked _))
        fun _ _ => .fail _
  | error raised =>
    refine .ite_iff (by rw [Hierarchy.isException_unmarked]) ?_ (.throw raised)
    exact .discard_bind id ((isMember_unmarked _ .null).trans (id_map _).symm)
      (.discard_bind id (hliteral.trans (id_map _).symm) (.throw raised))

theorem find_blind (receiver value : Value) (hvalue : x.isSome → value.IsFinished) :
    BlindAt x w (find m receiver value) (find m receiver.unmarked value.unmarked) := by
  have hname : x.isSome → valueMapName ≠ "__final__" := by simp [valueMapName]
  refine .classes_bind ?_
  cases receiver
  case ofClass c =>
    refine .ite_iff (by simp) (.pure rfl hvalue) ?_
    refine .discard_bind _ (w.classes.read_unmarked _ hname) ?_
    rw [Value.content?_unmarked, Hierarchy.unmarked_info_enumeration]
    rcases (w.classes.info c).enumeration with _ | e
    · exact .fail _
    · rcases value.content? with _ | content
      · exact findMissing_blind hm c e value hvalue
      · refine .same_bind (findKnown_unmarked _ content) fun found hfound => ?_
        cases found with
        | none => exact findMissing_blind hm c e value hvalue
        | some found =>
          have hfinished := isFinished_findKnown hfound
          exact .pure hfinished.unmarked_eq.symm fun _ => hfinished
  all_goals exact .fail _

/-! ## New enumerations -/

omit hm in
theorem prepare_blind (metaclass self : ClassId) (name : Json) (bases : List ClassId) :
    BlindAt none w (prepare metaclass self name bases) (prepare metaclass self name bases) := by
  refine .classes_bind (.discard_bind _ (w.classes.read?_unmarked "__prepare__" nofun) ?_)
  rw [w.classes.resolve?_unmarked "__prepare__" nofun]
  rcases w.classes.resolve? metaclass "__prepare__" with _ | ⟨l | serial, hook⟩
  · exact .pure rfl nofun
  · cases l
    case enumType => exact .ofExcept (w.classes.prepareEnumeration_unmarked self name bases) nofun
    all_goals exact .pure rfl nofun
  · have hcall : (hook.unmarked.onClass metaclass).1.tryCall
        ((hook.unmarked.onClass metaclass).2.length + 2) =
          (hook.onClass metaclass).1.tryCall ((hook.onClass metaclass).2.length + 2) := by
      rw [Member.onClass_unmarked, Member.tryCall_unmarked]
    exact .same_bind hcall fun _ _ => .fail _

theorem countOn_blind (c : ClassId) (name : Json) (earlier : Nat) :
    BlindAt none w (countOn m c name earlier) (countOn m c name earlier) := by
  have hname : (none : Option Flag).isSome → Hierarchy.nextValueName ≠ "__final__" := nofun
  refine .classes_bind (.ofExcept_bind _ (w.classes.read?_unmarked _ hname) fun found _ => ?_)
  have husual : BlindAt none w
      (if w.classes.derives c LibraryClass.flag then return .int (Int.ofNat (Nat.pow 2 earlier))
        else return .int (Int.ofNat (earlier + 1)))
      (if (w.classes.unmarked none).derives c LibraryClass.flag then
          return .int (Int.ofNat (Nat.pow 2 earlier))
        else return .int (Int.ofNat (earlier + 1)) : Act Json) :=
    .ite_iff (by rw [Hierarchy.derives_unmarked]) (.pure rfl nofun) (.pure rfl nofun)
  rcases found with _ | a
  · exact husual
  · have happly := applyRead_blind (x := none) (y := none) (w := w) hm w.classes a c
      [.data name, .data (.int 1), .data (.int earlier), .data (.arr [])] [] fun hx => nomatch hx
    let counted (made : Value × Value) : Act Json := pure (made.1.content?.getD .null)
    have hcounted : BlindAt none w (_ >>= counted) (_ >>= counted) :=
      happly.bind_none fun made w => .pure (by simp [HasMarks.unmarked]) nofun
    obtain ⟨member, bound⟩ := a
    cases member
    case part => exact husual
    all_goals exact hcounted

/-- The members for names that are counted. -/
theorem declareCounted_blind (c : ClassId) (b : Blueprint) (names : List Json) :
    BlindAt none w
      (do
        let pairs ← names.zipIdx.mapM fun (name, earlier) => do
          return (name, ← countOn m c name earlier)
        Act.ofExcept (pairs.foldlM (fun b (name, value) => declareMember b name value) b))
      (do
        let pairs ← names.zipIdx.mapM fun (name, earlier) => do
          return (name, ← countOn m c name earlier)
        Act.ofExcept (pairs.foldlM (fun b (name, value) => declareMember b name value)
          b.unmarked)) := by
  refine BlindAt.bind_none (.mapM (fun _ => rfl) (fun w x hx entry => ?_) _) fun pairs w =>
    .ofExcept (foldlM_unmarked (fun b pair => declareMember_unmarked b pair.1 pair.2) pairs b)
      fun hx => nomatch hx
  obtain rfl := BlindAt.eq_none hx
  exact (countOn_blind hm c entry.1 entry.2).bind_none fun value w => .pure rfl fun hx => nomatch hx

omit hm in
/-- The members for items that have names and values. -/
theorem declareListed_blind (b : Blueprint) (names : Json) :
    BlindAt none w
      (Act.ofExcept do
        (← names.items).foldlM (fun b item => do
          let (name, value) ← memberOfItem names item
          declareMember b name value) b)
      (Act.ofExcept do
        (← names.items).foldlM (fun b item => do
          let (name, value) ← memberOfItem names item
          declareMember b name value) b.unmarked) := by
  refine .ofExcept ?_ fun hx => nomatch hx
  rw [Result.map_bind]
  refine bind_congr fun items => foldlM_unmarked (fun b item => ?_) items b
  rw [Result.map_bind]
  exact bind_congr fun found => declareMember_unmarked b found.1 found.2

theorem declareMembers_blind (c : ClassId) (b : Blueprint) (names : Json) :
    BlindAt none w (declareMembers m c b names) (declareMembers m c b.unmarked names) := by
  unfold declareMembers
  extract_lets listed
  clear_value listed
  cases listed
  case arr items =>
    rcases items with _ | ⟨first, rest⟩
    · exact declareListed_blind b _
    · cases first
      case str => exact declareCounted_blind hm c b (_ :: rest)
      all_goals exact declareListed_blind b _
  all_goals exact declareListed_blind b _

theorem make_blind (c : ClassId) (name names : Value) :
    BlindAt x w (make m c name names) (make m c name.unmarked names.unmarked) := by
  refine .classes_bind (.discard_bind id ?_ (.takeClass_bind fun self _ => ?_))
  · rw [Value.content?_unmarked, Hierarchy.mixins_unmarked]
    exact (id_map _).symm
  · have hmodule (b : Blueprint) := b.declare_unmarked "__module__" (.data (.str "__main__"))
    rw [Value.content?_unmarked, Value.content?_unmarked]
    refine (prepare_blind _ self _ [c]).bind_none fun b _ =>
      (declareMembers_blind hm c b _).bind_none fun b w' =>
        .ofExcept_bind _ (hmodule b) fun b _ =>
        .classes_bind (.ofExcept_bind _ (w'.classes.read_unmarked "__new__" (by simp))
          fun creator _ => ?_)
    let metaclass := (w.classes.info c).metaclass
    have happly := applyRead_blind (x := none) (y := none) (w := w') hm w'.classes creator metaclass
      [.ofClass metaclass, name, .tuple [.ofClass c], .blueprint b] [("boundary", .null)]
      fun hx => nomatch hx
    exact happly.bind_none fun made w => .pure rfl nofun

theorem answer_blind (receiver value names : Value) (hvalue : x.isSome → value.IsFinished) :
    BlindAt x w (answer m receiver value names)
      (answer m receiver.unmarked value.unmarked names.unmarked) := by
  refine .classes_bind ?_
  cases receiver
  case ofClass c =>
    refine .ite_iff (by simp) (make_blind hm c value names) ?_
    refine .ofExcept_bind _ (w.classes.read_unmarked "__new__" (by simp)) fun creator _ => ?_
    exact callRead_blind hm w.classes creator c [.ofClass c, value] (by simpa using hvalue)
  all_goals exact .fail _

end Enumeration

end UtilityClass
