import UtilityClass.Construction.Services
import UtilityClass.Proofs.BlindEnumerations
import UtilityClass.Proofs.UnmarkedCalls

/-!
# Services of the library are blind to marks

The functions of the library that are written like declared ones are blind to marks if the machinery
is that they ask. The one that keeps track of abstract methods needs more than that. It notes the
names of the abstract methods of the class that it gets from the next function behind it, and what
counts as such a method would depend on the flag. A new class ends the comparison, so all that has
to be excluded is that it gets one that has been there before.

## Main results

* `Hierarchy.IsSettled.createsAfresh_next` : what creates a class that is kept track of
* `Construction.createAbstract_blind`, `Construction.createEnumeration_blind` : making classes
* `Construction.guardProtocol_blind`, `Construction.createFraction_blind`,
  `Construction.fillDictionary_blind` : all other functions
-/

namespace UtilityClass

open HasMarks (IsFinished)
open Act (BlindAt)

namespace Member

variable (m : Member) (v : Value) (c : ClassId)

/-- What is handed out creates what the member creates. -/
@[simp] theorem createsAfresh_onClass : (m.onClass c).1.createsAfresh = m.createsAfresh := by
  cases m <;> rfl

@[simp] theorem createsAfresh_onObject : (m.onObject v c).1.createsAfresh = m.createsAfresh := by
  rcases m with _ | _ | _ | _ | _ | n | _ | _ | _
  case native => cases n <;> rfl
  all_goals rfl

end Member

namespace Hierarchy

variable {h : Hierarchy}

/-- What a lookup finds is an entry of one of the classes. -/
theorem mem_of_firstIn? {name : String} {order : List ClassId} {found : ClassId × Member}
    (hf : h.firstIn? name order = some found) :
    found.1 ∈ order ∧ (name, found.2) ∈ (h.info found.1).members := by
  obtain ⟨hmem, hown⟩ := own?_of_firstIn? h hf
  obtain ⟨before, behind, hmembers, -⟩ := List.lookup_eq_some_iff.1 hown
  exact ⟨hmem, by simp [hmembers]⟩

theorem createsAfresh_of_bind {m : Member} {v : Value} {handed : Member × List Value}
    (hb : h.bind m v = .ok handed) : handed.1.createsAfresh = m.createsAfresh := by
  obtain ⟨-, -, rfl⟩ := Result.map_eq_ok_iff.1 hb
  rw [Member.createsAfresh_onObject]
  cases m
  case native n => cases n <;> rfl
  all_goals rfl

/-- Behind the metaclass that keeps track of abstract methods nobody gives back a class that has
been there before. -/
theorem IsSettled.createsAfresh_next (hs : h.IsSettled) {v : Value} {found : Attribute}
    (hn : h.next? v LibraryClass.abcMeta "__new__" = .ok (some found)) :
    found.member.createsAfresh = true := by
  have hfrom {start : ClassId} {self? : Option ClassId}
      (hn : h.nextFrom v LibraryClass.abcMeta "__new__" start self? = .ok (some found)) :
      found.member.createsAfresh = true := by
    obtain ⟨hderives, hn⟩ := Result.ite_error_eq_ok_iff.1 hn
    rcases hr : h.resolveAfter? start LibraryClass.abcMeta "__new__" with _ | ⟨d, m⟩
    · rw [hr] at hn
      cases hn
    · obtain ⟨hd, hm⟩ := mem_of_firstIn? hr
      have hafresh := hs.afresh start (by simpa using hderives) d hd m hm
      rw [hr] at hn
      cases self? with
      | some c =>
        cases hn
        exact (m.createsAfresh_onClass c).trans hafresh
      | none =>
        obtain ⟨handed, hb, hh⟩ := Result.bind_eq_ok_iff.1 hn
        cases hh
        exact (createsAfresh_of_bind hb).trans hafresh
  cases v with
  | ofClass c => exact hfrom hn
  | data value => exact hfrom hn
  | object i => exact hfrom hn
  | tuple items => exact hfrom hn
  | blueprint b => exact hfrom hn

end Hierarchy

namespace Construction

variable {m : Machinery} {x : Option Flag} {w : World} (hm : m.IsBlind)
include hm

/-! ## Protocols -/

theorem guardProtocol_blind (self : Value) (given : List Value) (named : List (String × Value))
    (hself : x.isSome → self.IsFinished) (hgiven : x.isSome → AreFinished given named) :
    BlindAt x w (guardProtocol m self given named)
      (guardProtocol m self.unmarked (given.map Value.unmarked) (unmarkedNamed named)) := by
  refine .classes_bind ?_
  simp only [Value.type_unmarked, Value.type_unmarkedClasses]
  refine .ofExcept_bind _ (w.classes.read_unmarked "_is_protocol" (by simp)) fun a _ =>
    .ite_iff (by rw [ClassAttribute.truthy_unmarked]) (.fail_bind _) (.ofExcept_bind _
      (w.classes.read_unmarked "__init__" (by simp)) fun a _ => ?_)
  obtain ⟨member, bound⟩ := a
  have hkept : BlindAt x w (pure self) (pure self.unmarked) := .pure rfl hself
  cases member
  case function f =>
    refine .ite_iff Iff.rfl hkept (.ofExcept_bind (fun g => g.unmarked x) ?_ fun g hg => ?_)
    · simp only [Hierarchy.readOrder_unmarked, otherInitialiser_unmarked, Result.bind_map,
        Result.map_bind, w.classes.assign_unmarked_of_ne "__init__" _ (by simp)]
    · obtain ⟨order, -, hg⟩ := Result.bind_eq_ok_iff.1 hg
      obtain ⟨initialiser, -, hg⟩ := Result.bind_eq_ok_iff.1 hg
      refine (BlindAt.setClasses (Hierarchy.keeps_of_assign
        (Member.fits_of_ne (by simp) (by simp) _) hg) rfl World.Fits.flag
        rfl).bind_of_flag fun _ w' x' hx _ => ?_
      refine .ofExcept_bind _ (g.read_unmarked "__init__" (by simp)) fun a _ => ?_
      have happly := Enumeration.applyRead_blind (w := w') (y := x) hm g a (self.type w.classes)
        (self :: given) named fun h => (hgiven (hx h)).cons (hself (hx h))
      refine happly.bind_of_flag fun made w'' x'' hx' hmade => ?_
      rw [ClassAttribute.on_unmarked]
      cases (a.on g (self.type w.classes)).2.isEmpty
      · exact .pure rfl fun h => hself (hx (hx' h))
      · exact .pure rfl fun h => (hmade h).2
  all_goals exact hkept

/-! ## Making classes -/

theorem createNext_blind (after : ClassId) (metaclass : Value) (given : List Value)
    (named : List (String × Value)) (hgiven : x.isSome → AreFinished (metaclass :: given) named) :
    BlindAt x w (createNext m after metaclass given named)
      (createNext m after metaclass.unmarked (given.map Value.unmarked) (unmarkedNamed named)) := by
  refine .classes_bind (.ofExcept_bind _ (w.classes.next?_unmarked metaclass after "__new__"
    (by simp)) fun found hfound => ?_)
  cases found with
  | none => exact .pure rfl fun _ => trivial
  | some found =>
    have happly := hm.apply x w found.member (found.front ++ metaclass :: given) named fun hx =>
      (hgiven hx).append (Hierarchy.isFinished_next ((hgiven hx).1 _ List.mem_cons_self) hfound)
    rw [List.map_append] at happly
    exact happly.bind fun made w x hmade => .pure rfl fun hx => (hmade hx).1

/-- Where a flag is exchanged, no class is given back for finished arguments. -/
theorem createNext_ne_ofClass (hs : w.classes.IsSettled) {metaclass : Value}
    {given : List Value} {named : List (String × Value)}
    (hgiven : AreFinished (metaclass :: given) named) (c : ClassId) (w' : World) :
    createNext m LibraryClass.abcMeta metaclass given named w ≠ (.ok (.ofClass c), w') := by
  intro hr
  obtain ⟨h, w₁, hh, hr⟩ := Act.bind_eq_ok_iff.1 hr
  cases hh
  obtain ⟨found?, w₂, hfound, hr⟩ := Act.bind_eq_ok_iff.1 hr
  obtain ⟨hfound, rfl⟩ := Act.ofExcept_eq_ok_iff.1 hfound
  cases found? with
  | none => cases hr
  | some found =>
    obtain ⟨⟨made, first⟩, w₃, happly, hr⟩ := Act.bind_eq_ok_iff.1 hr
    cases hr
    have hfront := Hierarchy.isFinished_next (hgiven.1 _ List.mem_cons_self) hfound
    exact hm.creates _ _ _ (hs.createsAfresh_next hfound) (hgiven.append hfront) _ _ _ happly

theorem createAbstract_blind (metaclass : Value) (given : List Value)
    (named : List (String × Value)) (hgiven : x.isSome → AreFinished (metaclass :: given) named) :
    BlindAt x w (createAbstract m metaclass given named)
      (createAbstract m metaclass.unmarked (given.map Value.unmarked) (unmarkedNamed named)) := by
  have hfail (x : Option Flag) (w : World) (made : Value) : BlindAt x w
      (Act.fail (.noAttribute (made.kind w.classes) "__dict__") : Act Value)
      (Act.fail (.noAttribute (made.unmarked.kind (w.classes.unmarked x)) "__dict__")) := by
    simp only [Value.kind_unmarked, Value.kind_unmarkedClasses]
    exact .fail _
  have hnone : BlindAt none w (createAbstract m metaclass given named)
      (createAbstract m metaclass.unmarked (given.map Value.unmarked) (unmarkedNamed named)) := by
    refine (createNext_blind (x := none) hm _ metaclass given named nofun).bind_none
      fun made w => .classes_bind ?_
    cases made with
    | ofClass c =>
      refine .ofExcept_bind _ (w.classes.trackAbstract_unmarked) fun g hg => ?_
      exact (BlindAt.setClasses_none (Hierarchy.keeps_of_trackAbstract hg).declared rfl).bind_none
        fun _ w => .pure rfl nofun
    | _ => exact hfail none w _
  cases hx : x.isSome
  · obtain rfl : x = none := by simpa using hx
    exact hnone
  · refine .of_fits hnone fun hw => ?_
    have hnext := createNext_blind (x := x) (w := w) hm LibraryClass.abcMeta metaclass given named
      hgiven
    rcases hr : createNext m LibraryClass.abcMeta metaclass given named w with ⟨e | made, w'⟩
    · exact hnext.bind_of_error hr
    · refine hnext.bind_of_ok hr fun x' _ _ => .classes_bind ?_
      cases made with
      | ofClass c => exact absurd hr (createNext_ne_ofClass hm (hw.classes hx) (hgiven hx) c w')
      | _ => exact hfail x' w' _

theorem createEnumeration_blind (metaclass name bases namespace' : Value)
    (named : List (String × Value)) (hspace : x.isSome → namespace'.IsFinished) :
    BlindAt x w (createEnumeration m metaclass name bases namespace' named)
      (createEnumeration m metaclass.unmarked name.unmarked bases.unmarked namespace'.unmarked
        (unmarkedNamed named)) := by
  refine .classes_bind ?_
  have hfail : BlindAt x w
      (if namespace'.isOf w.classes LibraryClass.dict then
        Act.fail (.noAttribute (namespace'.kind w.classes) "_member_names")
      else Act.fail (.noAttribute (namespace'.kind w.classes) "setdefault") : Act Value)
      (if namespace'.unmarked.isOf (w.classes.unmarked x) LibraryClass.dict then
        Act.fail (.noAttribute (namespace'.unmarked.kind (w.classes.unmarked x)) "_member_names")
      else
        Act.fail
          (.noAttribute (namespace'.unmarked.kind (w.classes.unmarked x)) "setdefault")) := by
    simp only [Value.kind_unmarked, Value.kind_unmarkedClasses]
    exact .ite_iff (by simp) (.fail _) (.fail _)
  cases namespace'
  case blueprint b =>
    cases bases
    case tuple items =>
      cases hx : x.isSome
      · obtain rfl : x = none := by simpa using hx
        refine .ite_iff (by simp) (.fail_bind _) ?_
        rw [Value.content?_unmarked]
        refine .ofExcept_bind _ (w.classes.planEnumeration_unmarked _ _ b) fun b _ => ?_
        refine (createNext_blind (x := none) hm _ metaclass [name, .tuple items, .blueprint b] named
          nofun).bind_none fun made w => ?_
        have hmade : BlindAt none w
            (do Act.fail (.noAttribute (made.kind (← Act.classes)) "__dict__") : Act Value)
            (do Act.fail (.noAttribute (made.unmarked.kind (← Act.classes)) "__dict__")) := by
          refine .classes_bind ?_
          simp only [Value.kind_unmarked, Value.kind_unmarkedClasses]
          exact .fail _
        rw [Blueprint.plan_unmarked]
        cases made
        case ofClass c =>
          cases b.plan with
          | none => exact hmade
          | some plan =>
            exact (Enumeration.complete_blind c _ plan).bind_none fun _ w => .pure rfl nofun
        all_goals exact hmade
      · exact (hspace hx).elim
    all_goals exact hfail
  all_goals exact hfail

theorem createFraction_blind (receiver numerator denominator : Value)
    (hreceiver : x.isSome → receiver.IsFinished) :
    BlindAt x w (createFraction m receiver numerator denominator)
      (createFraction m receiver.unmarked numerator.unmarked denominator.unmarked) := by
  refine (createNext_blind hm _ receiver [] [] fun hx => AreFinished.nil.cons (hreceiver hx)).bind
    fun made w x hmade => .same_bind (Hierarchy.fractionOf_unmarked ..) fun content _ =>
    .classes_bind (.same_bind (w.classes.checkAttribute_unmarked made "_numerator" (by simp))
    fun _ _ => ?_)
  cases made
  case object i => exact .pure rfl fun _ => trivial
  all_goals exact .pure rfl hmade

/-! ## Dictionaries -/

omit hm in
theorem keysOf_blind (given : Value) :
    BlindAt x w (keysOf given) (keysOf given.unmarked) := by
  cases given
  case data value =>
    rw [Value.unmarked_data]
    unfold keysOf
    cases value
    case obj fields => exact .pure rfl fun _ => trivial
    all_goals exact .same rfl
  all_goals
    refine .classes_bind ?_
    simp only [Value.kind_unmarked, Value.kind_unmarkedClasses]
    exact .refuse _

/-- A method of an object is called. -/
theorem applyBound_blind {y : Option Flag} (h : Hierarchy) (member : Member) (self : Value)
    (given : List Value) (hself : x.isSome → self.IsFinished)
    (hgiven : x.isSome → ∀ v ∈ given, v.IsFinished) :
    BlindAt x w
      (do
        let (method, front) ← Act.ofExcept (h.bind member self)
        discard (m.apply method (front ++ given) []))
      (do
        let (method, front) ← Act.ofExcept ((h.unmarked y).bind member.unmarked self.unmarked)
        discard (m.apply method (front ++ given.map Value.unmarked) [])) := by
  refine .ofExcept_bind _ (h.bind_unmarked self member) fun (method, front) hbound => ?_
  have happly := hm.apply x w method (front ++ given) [] fun hx =>
    .append (Hierarchy.isFinished_bind (hself hx) hbound) ⟨hgiven hx, by simp⟩
  rw [List.map_append] at happly
  exact happly.discard

theorem putItems_blind (self given : Value) (hself : x.isSome → self.IsFinished)
    (hgiven : x.isSome → given.IsFinished) :
    BlindAt x w (putItems m self given) (putItems m self.unmarked given.unmarked) := by
  refine .classes_bind ?_
  simp only [Value.type_unmarked, Value.type_unmarkedClasses]
  rw [w.classes.resolve?_unmarked "update" (by simp),
    w.classes.resolve?_unmarked "__setitem__" (by simp)]
  rcases w.classes.resolve? (self.type w.classes) "update" with _ | ⟨_ | _, method⟩
  case some.declared =>
    exact applyBound_blind hm w.classes method self [given] hself (by simpa using hgiven)
  all_goals
    refine (keysOf_blind given).bind_of_flag fun keys w' x' hx _ => BlindAt.bind
      (.forIn keys (fun w'' x'' hx' key _ _ => ?_) _) fun _ _ _ _ => .pure rfl fun _ => trivial
    have hkey : BlindAt x'' w''
        (if ¬key.isHashable then do
          Act.fail (.unhashable key.kind)
          return ForInStep.yield PUnit.unit
        else return ForInStep.yield PUnit.unit)
        (if ¬key.isHashable then do
          Act.fail (.unhashable key.kind)
          return ForInStep.yield PUnit.unit
        else return ForInStep.yield PUnit.unit) :=
      .ite_iff Iff.rfl (.fail_bind _) (.pure rfl fun _ => trivial)
    rcases w.classes.resolve? (self.type w.classes) "__setitem__" with _ | ⟨_ | _, method⟩
    · exact hkey
    · exact hkey
    · have hset := applyBound_blind (x := x'') (w := w'') (y := x) hm w.classes method self
        [.data key, .null] (fun h => hself (hx (hx' h))) (by simp)
      let goOn (_ : Unit) : Act (ForInStep PUnit) := pure (.yield PUnit.unit)
      have hloop : BlindAt x'' w'' (_ >>= goOn) (_ >>= goOn) :=
        hset.bind fun _ _ _ _ => .pure rfl fun _ => trivial
      rwa [bind_assoc, bind_assoc] at hloop

theorem fillDictionary_blind (self given : Value) (named : List (String × Value))
    (hself : x.isSome → self.IsFinished) (hgiven : x.isSome → given.IsFinished) :
    BlindAt x w (fillDictionary m self given named)
      (fillDictionary m self.unmarked given.unmarked (unmarkedNamed named)) := by
  have hput (w : World) (y : Option Flag) (hy : y.isSome → x.isSome) : BlindAt y w
      (putItems m self (.data (.obj (Hierarchy.namedFields named))))
      (putItems m self.unmarked (.data (.obj (Hierarchy.namedFields (unmarkedNamed named))))) := by
    rw [Hierarchy.namedFields_unmarked]
    exact putItems_blind hm self _ (fun h => hself (hy h)) fun _ => trivial
  exact .classes_bind (.same_bind (w.classes.checkAttribute_unmarked self "data" (by simp))
    fun _ _ => .ite_then (by simp) (fun _ => putItems_blind hm self given hself hgiven)
      fun w y hy => .ite_iff (by simp) (hput w y hy) (.pure rfl fun _ => trivial))

end Construction

end UtilityClass
