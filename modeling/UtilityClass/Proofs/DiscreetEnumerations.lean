import UtilityClass.Enumeration.Making
import UtilityClass.Enumeration.Search
import UtilityClass.Proofs.Discretion

/-!
# Enumerations are made discreetly

Code of classes runs when the members of an enumeration are made, and when a value is looked up that
is none of theirs. It is run by the machinery, and all else that is done is to read and to change
classes, so making an enumeration and searching it is as discreet as the machinery is.

## Main results

* `Enumeration.find_isDiscreet`, `Enumeration.make_isDiscreet`, `Enumeration.answer_isDiscreet`
-/

namespace UtilityClass

open Act (IsDiscreet)

variable {m : Machinery}

namespace Enumeration

theorem put_isDiscreet (c : ClassId) (name : String) (member : Member) :
    IsDiscreet (put c name member) :=
  IsDiscreet.classes.bind fun _ => (IsDiscreet.ofExcept _).bind fun _ => .setClasses _

theorem putMissing_isDiscreet (c : ClassId) (names : List String) :
    IsDiscreet (putMissing c names) := by
  refine .forM (fun name => IsDiscreet.classes.bind fun h => ?_) names
  split
  · exact put_isDiscreet c name _
  · exact .pure _

theorem complete_isDiscreet (c : ClassId) (bases : List ClassId) (p : MemberPlan) :
    IsDiscreet (complete c bases p) := by
  refine IsDiscreet.classes.bind fun h => (IsDiscreet.ofExcept _).bind fun _ =>
    IsDiscreet.classes.bind fun h => (IsDiscreet.ofExcept _).bind fun amongBases => ?_
  -- the steps behind the three conditions, last one first
  extract_lets order show' fill
  have horder (u : Unit) : IsDiscreet (order u) := by
    unfold order
    split
    · exact IsDiscreet.classes.bind fun _ => .ofExcept _
    · exact .pure _
  have hshow (u : Unit) : IsDiscreet (show' u) := by
    refine IsDiscreet.bind (.forIn (fun name _ => IsDiscreet.classes.bind fun h => ?_) _ _) fun _ =>
      IsDiscreet.classes.bind fun h => ?_
    · split
      · exact (IsDiscreet.ofExcept _).bind fun _ => (put_isDiscreet _ _ _).bind fun _ => .pure _
      · exact .pure _
    extract_lets isFlag create keep
    have hcreate (u : Unit) : IsDiscreet (create u) := by
      refine (put_isDiscreet _ _ _).bind fun _ => ?_
      split
      · exact IsDiscreet.classes.bind fun _ => (IsDiscreet.ofExcept _).bind fun _ =>
          IsDiscreet.classes.bind fun _ => .ite_then (put_isDiscreet _ _ _) horder
      · refine IsDiscreet.bind (.forIn (fun name _ => ?_) _ _) horder
        exact IsDiscreet.classes.bind fun _ => (IsDiscreet.ofExcept _).bind fun _ =>
          (IsDiscreet.setClasses _).bind fun _ => .pure _
    have hkeep (u : Unit) : IsDiscreet (keep u) := by
      unfold keep
      split
      · exact (put_isDiscreet _ _ _).bind hcreate
      · exact hcreate ()
    exact .ite_then (putMissing_isDiscreet _ _) hkeep
  have hfill (u : Unit) : IsDiscreet (fill u) := (putMissing_isDiscreet _ _).bind hshow
  split
  · exact .ite_then (.fail _) hfill
  · exact hshow ()

variable (hm : m.IsDiscreet)
include hm

theorem convert_isDiscreet (p : MemberPlan) (made given : Value) :
    IsDiscreet (convert m p made given) := by
  refine IsDiscreet.bind (IsDiscreet.catching hm ?_) fun result => ?_
  · exact (hm.call _ _ _).bind fun _ => IsDiscreet.classes.bind fun _ =>
      (IsDiscreet.ofExcept _).bind fun _ => .pure _
  · cases result with
    | ok value => exact .pure _
    | error e =>
      refine IsDiscreet.classes.bind fun h => ?_
      split
      · exact .fail _
      · exact .throw e

theorem valueOf_isDiscreet (p : MemberPlan) (declared : Json) (made : Value) :
    IsDiscreet (valueOf m p declared made) := by
  refine IsDiscreet.classes.bind fun h => (IsDiscreet.ofExcept _).bind fun found => ?_
  split
  · exact .pure _
  · exact .pure _
  · split
    · exact convert_isDiscreet hm _ _ _
    · exact (IsDiscreet.ofExcept _).bind fun _ => .pure _

theorem makeMember_isDiscreet (c : ClassId) (p : MemberPlan) (name : String) (declared : Json) :
    IsDiscreet (makeMember m c p name declared) := by
  refine IsDiscreet.classes.bind fun h => (IsDiscreet.ofExcept _).bind fun _ =>
    (IsDiscreet.setClasses _).bind fun _ => ?_
  refine (hm.apply _ _ _).bind fun (made, _) => (valueOf_isDiscreet hm p declared made).bind
    fun value => IsDiscreet.classes.bind fun h => (IsDiscreet.ofExcept _).bind fun _ => ?_
  extract_lets enlist
  have henlist (u : Unit) : IsDiscreet (enlist u) := by
    refine IsDiscreet.classes.bind fun h => ?_
    extract_lets known made' place
    have hplace (listed : Bool) : IsDiscreet (place listed) :=
      (IsDiscreet.ofExcept _).bind fun _ => (IsDiscreet.ofExcept _).bind fun _ => .setClasses _
    split
    · exact (IsDiscreet.pure _).bind hplace
    · split
      · exact (IsDiscreet.ofExcept _).bind hplace
      · exact (IsDiscreet.pure _).bind hplace
  split
  · exact (IsDiscreet.ofExcept _).bind fun _ => (hm.apply _ _ _).discard.bind henlist
  · exact henlist ()

theorem makeMembers_isDiscreet (c : ClassId) (p : MemberPlan) : IsDiscreet (makeMembers m c p) :=
  .forM (fun (name, declared) => makeMember_isDiscreet hm c p name declared) _

theorem createCombination_isDiscreet (c : ClassId) (e : Enumeration) (value : Json) :
    IsDiscreet (createCombination m c e value) := by
  refine IsDiscreet.classes.bind fun h => (IsDiscreet.ofExcept _).bind fun kept => ?_
  have happly (creator : Member) (given : List Value) : IsDiscreet (do
      return (← m.apply creator given []).1) := (hm.apply _ _ _).bind fun _ => .pure _
  dsimp only
  split
  · exact (IsDiscreet.pure _).bind fun _ => happly _ _
  · split
    · exact (IsDiscreet.pure _).bind fun _ => happly _ _
    · exact (IsDiscreet.ofExcept _).bind fun _ => (IsDiscreet.pure _).bind fun _ => happly _ _

theorem findCombination_isDiscreet (c : ClassId) (e : Enumeration) (given : Json) (n : Int) :
    IsDiscreet (findCombination m c e given n) := by
  refine IsDiscreet.classes.bind fun h => (IsDiscreet.ofExcept _).bind fun value =>
    (createCombination_isDiscreet hm _ _ _).bind fun made => IsDiscreet.classes.bind fun h =>
    (IsDiscreet.ofExcept _).bind fun found =>
    .ite_then (.ofExcept _) fun _ => .ite_then (.fail _) fun _ => ?_
  split
  · exact .ite_then (.setClasses _) fun _ => .pure _
  · exact .pure _

theorem askMissing_isDiscreet (c : ClassId) (e : Enumeration) (value : Value) :
    IsDiscreet (askMissing m c e value) := by
  refine IsDiscreet.classes.bind fun h => (IsDiscreet.ofExcept _).bind fun a => ?_
  split
  · split
    · exact findCombination_isDiscreet hm _ _ _ _
    · exact .pure _
  · exact .pure _
  · exact (hm.apply _ _ _).bind fun _ => .pure _

theorem findMissing_isDiscreet (c : ClassId) (e : Enumeration) (value : Value) :
    IsDiscreet (findMissing m c e value) := by
  refine ((askMissing_isDiscreet hm c e value).catching hm).bind fun found =>
    IsDiscreet.classes.bind fun h => ?_
  cases found with
  | ok found =>
    refine (IsDiscreet.ofExcept _).bind fun isMember => ?_
    split
    · exact .pure _
    · refine (IsDiscreet.ofExcept _).bind fun literal => (IsDiscreet.ofExcept _).bind fun name =>
        .ite_then (.refuse _) fun _ => ?_
      exact (IsDiscreet.ofExcept _).bind fun _ => (IsDiscreet.ofExcept _).bind fun _ => .fail _
  | error e =>
    dsimp only
    split
    · exact (IsDiscreet.ofExcept _).discard.bind fun _ =>
        (IsDiscreet.ofExcept _).discard.bind fun _ => .throw e
    · exact .throw e

theorem find_isDiscreet (receiver value : Value) : IsDiscreet (find m receiver value) := by
  refine IsDiscreet.classes.bind fun h => ?_
  split
  · split
    · exact .pure _
    · refine (IsDiscreet.ofExcept _).discard.bind fun _ => ?_
      split
      · exact .fail _
      · refine (IsDiscreet.ofExcept _).bind fun found => ?_
        split
        · exact .pure _
        · exact findMissing_isDiscreet hm _ _ _
      · exact findMissing_isDiscreet hm _ _ _
  · exact .fail _

omit hm in
theorem prepare_isDiscreet (metaclass self : ClassId) (name : Json) (bases : List ClassId) :
    IsDiscreet (prepare metaclass self name bases) := by
  refine IsDiscreet.classes.bind fun h => (IsDiscreet.ofExcept _).discard.bind fun _ => ?_
  split
  · exact .ofExcept _
  · exact (IsDiscreet.ofExcept _).bind fun _ => .fail _
  · exact .pure _

theorem countOn_isDiscreet (c : ClassId) (name : Json) (earlier : Nat) :
    IsDiscreet (countOn m c name earlier) := by
  refine IsDiscreet.classes.bind fun h => (IsDiscreet.ofExcept _).bind fun found => ?_
  split
  · split <;> exact .pure _
  · split <;> exact .pure _
  · exact (hm.apply _ _ _).bind fun _ => .pure _

theorem declareMembers_isDiscreet (c : ClassId) (b : Blueprint) (names : Json) :
    IsDiscreet (declareMembers m c b names) := by
  unfold declareMembers
  dsimp only
  split
  · refine IsDiscreet.bind (.mapM (fun (name, earlier) => ?_) _) fun pairs => .ofExcept _
    exact (countOn_isDiscreet hm c name earlier).bind fun _ => .pure _
  · exact .ofExcept _

theorem make_isDiscreet (c : ClassId) (name names : Value) : IsDiscreet (make m c name names) := by
  refine IsDiscreet.classes.bind fun h => (IsDiscreet.ofExcept _).discard.bind fun _ =>
    IsDiscreet.takeClass.bind fun self => (prepare_isDiscreet _ _ _ _).bind fun b =>
    (declareMembers_isDiscreet hm _ _ _).bind fun b => (IsDiscreet.ofExcept _).bind fun b =>
    IsDiscreet.classes.bind fun h => (IsDiscreet.ofExcept _).bind fun a => ?_
  exact (hm.apply _ _ _).bind fun _ => .pure _

theorem answer_isDiscreet (receiver value names : Value) :
    IsDiscreet (answer m receiver value names) := by
  refine IsDiscreet.classes.bind fun h => ?_
  split
  · split
    · exact make_isDiscreet hm _ _ _
    · exact (IsDiscreet.ofExcept _).bind fun _ => (hm.apply _ _ _).bind fun _ => .pure _
  · exact .fail _

end Enumeration

end UtilityClass
