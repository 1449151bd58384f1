import UtilityClass.Class.Creation
import UtilityClass.Class.Derivation
import UtilityClass.Proofs.Unmarked
import UtilityClass.Subclass

/-!
# Changing classes without their marks

Whatever changes classes does the same to classes without marks as it does to those with marks: to
set or to delete an attribute and to take the marks off are done in either order. The one thing that
matters is that the flag which is taken off is not itself what is set or deleted.

A new class is made of a namespace, from which the marks are taken off as well.

## Main results

* `Hierarchy.assign_unmarked`, `Hierarchy.delete_unmarked` : attributes
* `Hierarchy.make_unmarked`, `Hierarchy.tellBases_unmarked` : new classes
* `Hierarchy.trackAbstract_unmarked` : the note of abstract methods
-/

namespace UtilityClass

namespace Hierarchy

variable {x : Option Flag} {c : ClassId} (h : Hierarchy)

/-! ## Changes -/

/-- Two changes of a class that agree on everything but marks. -/
theorem modify_unmarked {d : ClassId} {f g : ClassInfo → ClassInfo}
    (hfg : ∀ i, g (bare x d i) = bare x d (f i)) :
    (h.unmarked x).modify d g = (h.modify d f).unmarked x := by
  have hinfo (e : ClassId) : ((h.unmarked x).modify d g).info e =
      bare x e ((h.modify d f).info e) := by
    by_cases he : e = d
    · subst he
      rw [modify_info_self, modify_info_self]
      exact hfg _
    · rw [modify_info_of_ne _ he, modify_info_of_ne _ he]
      rfl
  exact congrArg (Hierarchy.mk · h.declared) (funext hinfo)

@[simp] theorem createsNatively_unmarked :
    (h.unmarked x).createsNatively c = h.createsNatively c := by
  rw [createsNatively, createsNatively, resolve?_unmarked h "__new__" (by simp)]
  rcases h.resolve? c "__new__" with _ | ⟨d, m⟩
  · rfl
  · cases m
    case native n => cases n <;> rfl
    all_goals rfl

@[simp] theorem all_unmarked : (h.unmarked x).all = h.all := by
  rw [all, all, unmarked_declared]

@[simp] theorem withCreators_unmarked :
    (h.unmarked x).withCreators c = (h.withCreators c).unmarked x := by
  have hcreators (affected : List ClassId) (h : Hierarchy) :
      affected.foldl (fun g d => g.modify d ({ · with creator := none })) (h.unmarked x) =
        (affected.foldl (fun g d => g.modify d ({ · with creator := none })) h).unmarked x := by
    induction affected generalizing h with
    | nil => rfl
    | cons d affected ih =>
      rw [List.foldl_cons, List.foldl_cons, ← ih,
        modify_unmarked h (f := ({ · with creator := none })) fun i => rfl]
  have hnew (d : ClassId) : ((h.unmarked x).own? d "__new__").isNone =
      (h.own? d "__new__").isNone := by
    rw [own?_unmarked h "__new__" (by simp), Option.isNone_map]
  simp only [withCreators, all_unmarked, derives_unmarked, createsNatively_unmarked, hnew]
  exact hcreators _ h

@[simp] theorem putMember_unmarked (name : String) (m : Member)
    (hn : x.map Prod.fst = some c → name ≠ "__final__") :
    (h.unmarked x).putMember c name m.unmarked = (h.putMember c name m).unmarked x := by
  have hput : (h.unmarked x).modify c (·.setMember name m.unmarked) =
      (h.modify c (·.setMember name m)).unmarked x :=
    modify_unmarked h fun i => by
      show { i with members := ClassInfo.putEntry name m.unmarked (bareEntries x c i.members) } = _
      rw [putEntry_bareEntries hn]
      rfl
  simp only [putMember, hput]
  by_cases hnew : name = "__new__"
  · rw [if_pos hnew, if_pos hnew, withCreators_unmarked]
  · rw [if_neg hnew, if_neg hnew]

@[simp] theorem dropMember_unmarked (name : String)
    (hn : x.map Prod.fst = some c → name ≠ "__final__") :
    (h.unmarked x).dropMember c name = (h.dropMember c name).unmarked x := by
  have hdrop : (h.unmarked x).modify c (·.eraseMember name) =
      (h.modify c (·.eraseMember name)).unmarked x :=
    modify_unmarked h fun i => by
      show { i with members := (bareEntries x c i.members).filter fun entry => entry.1 != name } = _
      rw [← bareEntries_filter (· != name) fun hx => by simpa using (hn hx).symm]
      rfl
  simp only [dropMember, hdrop]
  by_cases hnew : name = "__new__"
  · rw [if_pos hnew, if_pos hnew, withCreators_unmarked]
  · rw [if_neg hnew, if_neg hnew]

@[simp] theorem isMembersProperty_unmarked (name : String) :
    (h.unmarked x).isMembersProperty c name = h.isMembersProperty c name := by
  by_cases hn : name = "__members__"
  · subst hn
    rw [isMembersProperty, isMembersProperty, unmarked_info_metaclass,
      resolve?_unmarked h "__members__" (by simp), Option.any_map]
  · have hother : (name == "__members__") = false := by simpa using hn
    rw [isMembersProperty, isMembersProperty, hother, Bool.false_and, Bool.false_and]

theorem assignField_unmarked (field : String) (m : Member) :
    (h.unmarked x).assignField c field m.unmarked =
      (h.assignField c field m).map fun g => g.unmarked x := by
  unfold assignField
  split
  · simp only [Member.textOrKind_unmarked, unmarked_info_runtimeName]
    rcases m.textOrKind with text | kind
    · dsimp only
      split
      · rfl
      · exact congrArg Except.ok (modify_unmarked h fun i => rfl)
    · rfl
  · simp only [Member.textOrKind_unmarked, unmarked_info_runtimeName]
    rcases m.textOrKind with text | kind
    · exact congrArg Except.ok (modify_unmarked h fun i => rfl)
    · rfl
  · simp only [Member.kind_unmarked, unmarked_info_runtimeName]
    rfl
  · simp only [Member.kind_unmarked]
    rfl
  · rfl
  · rfl
  · exact congrArg Except.ok (putMember_unmarked h _ m (by simp))
  · exact congrArg Except.ok (putMember_unmarked h _ m (by simp))
  · exact congrArg Except.ok (putMember_unmarked h _ m (by simp))
  · rw [putMember_unmarked h _ m (by simp), Member.truthy_unmarked]
    exact congrArg Except.ok (modify_unmarked _ fun i => rfl)
  · rfl

theorem isSome_own?_unmarked (name : String) (hn : x.map Prod.fst = some c → name ≠ "__final__") :
    (((h.unmarked x).info c).own? name).isSome = ((h.info c).own? name).isSome := by
  show ((h.unmarked x).own? c name).isSome = _
  rw [own?_unmarked h name hn, Option.isSome_map]
  rfl

theorem deleteField_unmarked (field : String) :
    (h.unmarked x).deleteField c field = (h.deleteField c field).map fun g => g.unmarked x := by
  unfold deleteField
  split
  any_goals rfl
  · dsimp only
    rw [isSome_own?_unmarked h _ (by simp), dropMember_unmarked h _ (by simp)]
    split <;> rfl
  · dsimp only
    rw [isSome_own?_unmarked h _ (by simp), dropMember_unmarked h _ (by simp)]
    split
    · exact congrArg Except.ok (modify_unmarked _ fun i => rfl)
    · rfl

section Named

variable (name : String) (hn : x.map Prod.fst = some c → name ≠ "__final__")
  (hf : (h.unmarked x).field? c name = h.field? c name)
include hn hf

theorem assignPlainly_unmarked (m : Member) :
    (h.unmarked x).assignPlainly c name m.unmarked =
      (h.assignPlainly c name m).map fun g => g.unmarked x := by
  simp only [assignPlainly, unmarked_info_immutable, unmarked_info_runtimeName,
    isMembersProperty_unmarked, metaclassName_unmarked, hf, putMember_unmarked h name m hn]
  cases (h.info c).immutable with
  | true => rfl
  | false =>
    cases h.isMembersProperty c name with
    | true => rfl
    | false =>
      rcases h.field? c name with _ | field
      · rfl
      · cases field
        case native n =>
          cases n
          case field field => exact assignField_unmarked h field m
          all_goals rfl
        all_goals rfl

theorem deletePlainly_unmarked :
    (h.unmarked x).deletePlainly c name =
      (h.deletePlainly c name).map fun g => g.unmarked x := by
  simp only [deletePlainly, unmarked_info_immutable, unmarked_info_runtimeName,
    isMembersProperty_unmarked, metaclassName_unmarked, hf, isSome_own?_unmarked h name hn,
    dropMember_unmarked h name hn]
  have hdropped : (if ((h.info c).own? name).isSome then
        Except.ok ((h.dropMember c name).unmarked x)
      else .error (.absent (h.info c).runtimeName name)) =
      (if ((h.info c).own? name).isSome then Except.ok (h.dropMember c name)
        else .error (ChangeError.absent (h.info c).runtimeName name)).map fun g =>
          g.unmarked x := by
    split <;> rfl
  cases (h.info c).immutable with
  | true => rfl
  | false =>
    cases h.isMembersProperty c name with
    | true => rfl
    | false =>
      rcases h.field? c name with _ | field
      · exact hdropped
      · cases field
        case native n =>
          cases n
          case field field => exact deleteField_unmarked h field
          all_goals exact hdropped
        all_goals exact hdropped

end Named

@[simp] theorem isMemberName_unmarked (name : String) (kept : Member) :
    (h.unmarked x).isMemberName c name kept.unmarked = h.isMemberName c name kept := by
  cases kept <;> rfl

/-- A declared metaclass answers for its classes when an attribute is set. -/
theorem assign_unmarked_of_hook {serial : Nat} {hook : Member}
    (hh : h.resolve? (h.info c).metaclass "__setattr__" = some (.declared serial, hook))
    (name : String) (m m' : Member) :
    (h.unmarked x).assign c name m' = (h.assign c name m).map fun g => g.unmarked x := by
  simp only [assign, unmarked_info_metaclass, resolve?_unmarked h "__setattr__" (by simp), hh,
    Option.map_some, tryHook_unmarked]
  cases h.tryHook c hook 2 <;> rfl

/-- Where no declared metaclass answers, an attribute is set as the library does it. -/
theorem assign_unmarked_of_plain {x' : Option Flag} {name : String} {m : Member}
    (hh : ∀ serial hook,
      h.resolve? (h.info c).metaclass "__setattr__" ≠ some (.declared serial, hook))
    (hp : (h.unmarked x).assignPlainly c name m.unmarked =
      (h.assignPlainly c name m).map fun g => g.unmarked x') :
    (h.unmarked x).assign c name m.unmarked = (h.assign c name m).map fun g => g.unmarked x' := by
  have hplain : ((h.unmarked x).assignPlainly c name m.unmarked).mapError Fault.change =
      ((h.assignPlainly c name m).mapError Fault.change).map fun g => g.unmarked x' := by
    rw [hp]
    cases h.assignPlainly c name m <;> rfl
  simp only [assign, unmarked_info_metaclass, resolve?_unmarked h "__setattr__" (by simp),
    namespaceOf_unmarked, derives_unmarked]
  generalize ((h.unmarked x).assignPlainly c name m.unmarked).mapError Fault.change = made at *
  generalize (h.assignPlainly c name m).mapError Fault.change = made' at *
  rcases hr : h.resolve? (h.info c).metaclass "__setattr__" with _ | ⟨l | _, hook⟩
  · exact hplain
  · cases l
    case enumType =>
      have hkept (kept : Option Member) : (kept.map Member.unmarked).getD (.data (.obj [])) =
          (kept.getD (.data (.obj []))).unmarked := by
        cases kept <;> rfl
      have hget (space : Namespace) : (space.unmarked x c).get? memberMapName =
          (space.get? memberMapName).map (Option.map Member.unmarked) :=
        space.get?_unmarked memberMapName (by simp [memberMapName])
      simp only [Option.map_some, Result.bind_map, Result.map_bind, hget, hkept,
        isMemberName_unmarked]
      refine bind_congr fun space => bind_congr fun kept => bind_congr fun isName => ?_
      cases isName with
      | true => rfl
      | false =>
        show (if h.derives c LibraryClass.enumType then _ else made) =
          (if h.derives c LibraryClass.enumType then _ else made').map _
        rw [hplain]
        split <;> rfl
    all_goals exact hplain
  · exact absurd hr (hh _ _)

section Named

variable (name : String) (hn : x.map Prod.fst = some c → name ≠ "__final__")
  (hf : (h.unmarked x).field? c name = h.field? c name)
include hn hf

theorem assign_unmarked (m : Member) :
    (h.unmarked x).assign c name m.unmarked = (h.assign c name m).map fun g => g.unmarked x := by
  by_cases hh : ∃ serial hook,
      h.resolve? (h.info c).metaclass "__setattr__" = some (.declared serial, hook)
  · obtain ⟨_, _, hh⟩ := hh
    exact assign_unmarked_of_hook h hh name m _
  · exact assign_unmarked_of_plain h (fun serial hook hr => hh ⟨serial, hook, hr⟩)
      (assignPlainly_unmarked h name hn hf m)

theorem delete_unmarked :
    (h.unmarked x).delete c name = (h.delete c name).map fun g => g.unmarked x := by
  have hplain : ((h.unmarked x).deletePlainly c name).mapError Fault.change =
      ((h.deletePlainly c name).mapError Fault.change).map fun g => g.unmarked x := by
    rw [deletePlainly_unmarked h name hn hf]
    cases h.deletePlainly c name <;> rfl
  simp only [delete, unmarked_info_metaclass, resolve?_unmarked h "__delattr__" (by simp),
    read_unmarked h memberMapName (by simp [memberMapName]), derives_unmarked, shortName_unmarked]
  generalize ((h.unmarked x).deletePlainly c name).mapError Fault.change = made at *
  generalize (h.deletePlainly c name).mapError Fault.change = made' at *
  rcases h.resolve? (h.info c).metaclass "__delattr__" with _ | ⟨l | _, hook⟩
  · exact hplain
  · cases l
    case enumType =>
      simp only [Option.map_some, Result.bind_map, Result.map_bind,
        ClassAttribute.member_unmarked, isMemberName_unmarked]
      refine bind_congr fun a => bind_congr fun isName => ?_
      cases isName with
      | true => cases h.shortName c <;> rfl
      | false =>
        show (if h.derives c LibraryClass.enumType then _ else made) =
          (if h.derives c LibraryClass.enumType then _ else made').map _
        rw [hplain]
        split <;> rfl
    all_goals exact hplain
  · simp only [Option.map_some, tryHook_unmarked]
    cases h.tryHook c hook 1 <;> rfl

end Named

/-! ## Notes -/

/-- Setting an attribute of another name than that of the flag. -/
theorem assign_unmarked_of_ne (name : String) (m : Member) (hn : x.isSome → name ≠ "__final__") :
    (h.unmarked x).assign c name m.unmarked = (h.assign c name m).map fun g => g.unmarked x :=
  assign_unmarked h name (fun hx => hn (isSome_of_map hx)) (field?_unmarked h name hn) m

/-- The class notes what is abstract in it. -/
theorem trackAbstract_unmarked : (h.unmarked none).trackAbstract c =
    (h.trackAbstract c).map fun g => g.unmarked none := by
  simp only [trackAbstract, abstractMethodsOf_unmarked, Result.map_bind]
  refine bind_congr fun names => ?_
  have hnote := assign_unmarked_of_ne h (x := none) (c := c) abstractMethodsName
    (.data (.arr (names.map .str))) (by simp [abstractMethodsName])
  have hanswers (g : Hierarchy) := assign_unmarked_of_ne g (x := none) (c := c) answersName
    (.part false) (by simp [answersName])
  simp only [Member.unmarked] at hnote hanswers
  simp only [hnote, hanswers, Result.bind_map]

end Hierarchy

/-! ## Namespaces of classes under way -/

theorem Member.asDeclared_unmarked (name : String) (m : Member) :
    m.unmarked.asDeclared name = (m.asDeclared name).unmarked := by
  cases m with
  | function f =>
    by_cases hnew : name = "__new__"
    · subst hnew
      rfl
    · by_cases hinit : name = "__init_subclass__"
      · subst hinit
        rfl
      · by_cases hitem : name = "__class_getitem__"
        · subst hitem
          rfl
        · simp [Member.asDeclared, Member.unmarked, hnew, hinit, hitem]
  | _ => simp [Member.asDeclared, Member.unmarked]

namespace Blueprint

variable (b : Blueprint)

@[simp] theorem get?_unmarked (name : String) :
    b.unmarked.get? name = (b.get? name).map Member.unmarked :=
  lookup_unmarkedEntries name b.entries

@[simp] theorem self_unmarked : b.unmarked.self = b.self := rfl

@[simp] theorem plan_unmarked : b.unmarked.plan = b.plan.map MemberPlan.unmarked := rfl

@[simp] theorem draft_unmarked : b.unmarked.draft = b.draft := rfl

@[simp] theorem put_unmarked (name : String) (m : Member) :
    b.unmarked.put name m.unmarked = (b.put name m).unmarked := by
  rw [put, put, Blueprint.unmarked, Blueprint.unmarked, putEntry_unmarkedEntries]

@[simp] theorem erase_unmarked (name : String) :
    b.unmarked.erase name = (b.erase name).unmarked := by
  rw [erase, erase, Blueprint.unmarked, Blueprint.unmarked, ← unmarkedEntries_filter (· != name)]

@[simp] theorem qualname_unmarked (name : String) : b.unmarked.qualname name = b.qualname name := by
  rw [qualname, qualname, get?_unmarked]
  rcases b.get? "__qualname__" with _ | m
  · rfl
  · cases m
    case data value => cases value <;> rfl
    all_goals rfl

@[simp] theorem checkCell_unmarked : b.unmarked.checkCell = b.checkCell := by
  rw [checkCell, checkCell, get?_unmarked]
  rcases b.get? "__classcell__" with _ | m
  · rfl
  · cases m <;> rfl

theorem members_unmarked (slots : Slots) :
    b.unmarked.members slots = unmarkedEntries (b.members slots) := by
  let kept (entries : List (String × Member)) : List (String × Member) :=
    (entries.filter fun entry => entry.1 != "__qualname__").map fun entry =>
      (entry.1, entry.2.asDeclared entry.1)
  let added : List (String × Member) :=
    slots.names.map (fun name => (name, .place name)) ++
      (if slots.addsAttributes then [(Hierarchy.attributesSlot, .part false)] else []) ++
      (if slots.addsReferences then [(Hierarchy.referencesSlot, .part false)] else []) ++
      [("__doc__", .data .null)] ++
      (if (b.get? "__eq__").isSome then [("__hash__", .data .null)] else [])
  have hkept : kept (unmarkedEntries b.entries) = unmarkedEntries (kept b.entries) := by
    show List.map _ (List.filter _ (unmarkedEntries b.entries)) = _
    rw [← unmarkedEntries_filter (· != "__qualname__"), unmarkedEntries, unmarkedEntries,
      List.map_map, List.map_map]
    exact List.map_congr_left fun entry _ =>
      Prod.ext rfl (Member.asDeclared_unmarked entry.1 entry.2)
  have hadded : unmarkedEntries added = added := by
    simp only [added, unmarkedEntries, List.map_append, List.map_map]
    refine congr (congrArg _ ?_) ?_
    · refine congr (congrArg _ (congr (congrArg _ (congr (congrArg _ rfl) ?_)) ?_)) rfl
      · split <;> rfl
      · split <;> rfl
    · split <;> rfl
  have hmembers : b.members slots = kept b.entries ++
      added.filter fun entry => ((kept b.entries).lookup entry.1).isNone := rfl
  have hmembers' : b.unmarked.members slots = kept (unmarkedEntries b.entries) ++
      added.filter fun entry => ((kept (unmarkedEntries b.entries)).lookup entry.1).isNone := by
    rw [members, get?_unmarked, Option.isSome_map]
    rfl
  rw [hmembers', hmembers, hkept, unmarkedEntries, unmarkedEntries, List.map_append,
    ← unmarkedEntries, ← unmarkedEntries,
    unmarkedEntries_filter fun name => ((kept b.entries).lookup name).isNone, hadded]
  simp only [lookup_unmarkedEntries, Option.isNone_map]

end Blueprint

namespace Hierarchy

variable {x : Option Flag} {c : ClassId} (h : Hierarchy)

theorem layoutWithin_unmarked (fuel : Nat) :
    (h.unmarked x).layoutWithin fuel c = h.layoutWithin fuel c := by
  induction fuel generalizing c with
  | zero => rfl
  | succ fuel ih =>
    rw [layoutWithin, layoutWithin, ih, unmarked_info_solid, unmarked_info_primary]

theorem primaryFrom_unmarked (best : ClassId) (bases : List ClassId) :
    (h.unmarked x).primaryFrom best bases = h.primaryFrom best bases := by
  induction bases generalizing best with
  | nil => rfl
  | cons base rest ih =>
    simp only [primaryFrom, layout, layoutWithin_unmarked, derives_unmarked, ih,
      unmarked_info_subclassable, unmarked_info_runtimeName, unmarked_info_order]
    rfl

@[simp] theorem primaryOf_unmarked (bases : List ClassId) :
    (h.unmarked x).primaryOf bases = h.primaryOf bases := by
  cases bases with
  | nil => rfl
  | cons first rest => exact primaryFrom_unmarked h first _

@[simp] theorem orderOf_unmarked (self : ClassId) (bases : List ClassId) :
    (h.unmarked x).orderOf self bases = h.orderOf self bases := rfl

@[simp] theorem slotsOf_unmarked (name : String) (primary : ClassId) (bases : List ClassId)
    (b : Blueprint) :
    (h.unmarked x).slotsOf name primary bases b.unmarked = h.slotsOf name primary bases b := by
  have hconflict (names : List String) :
      slotConflict? b.unmarked names = slotConflict? b names := by
    simp only [slotConflict?, Blueprint.get?_unmarked, Option.isSome_map]
  simp only [slotsOf, Blueprint.get?_unmarked, hconflict]
  rcases b.get? "__slots__" with _ | m
  · rfl
  · cases m
    case data value => cases value <;> rfl
    all_goals rfl

@[simp] theorem askForOrder_unmarked (metaclass self : ClassId) :
    (h.unmarked x).askForOrder metaclass self = h.askForOrder metaclass self := by
  rw [askForOrder, askForOrder, resolve?_unmarked h "mro" (by simp)]
  rcases h.resolve? metaclass "mro" with _ | ⟨_ | _, hook⟩
  · rfl
  · rfl
  · simp

@[simp] theorem withCreator_unmarked (self : ClassId) :
    (h.unmarked x).withCreator self = (h.withCreator self).unmarked x := by
  have hnone := modify_unmarked (x := x) h (d := self) (f := ({ · with creator := none }))
    (g := ({ · with creator := none })) fun i => rfl
  rw [withCreator, withCreator, resolve?_unmarked h "__new__" (by simp)]
  rcases h.resolve? self "__new__" with _ | ⟨d, m⟩
  · exact hnone
  · cases m
    case native n =>
      cases n
      case create => rfl
      all_goals exact hnone
    all_goals exact hnone

theorem make_unmarked (metaclass : ClassId) (name : String) (bases : List ClassId) {b : Blueprint}
    (hself : x.map Prod.fst ≠ some b.self) :
    (h.unmarked x).make metaclass name bases b.unmarked =
      (h.make metaclass name bases b).map fun g => g.unmarked x := by
  simp only [make, primaryOf_unmarked, slotsOf_unmarked, Blueprint.qualname_unmarked,
    Blueprint.checkCell_unmarked, Blueprint.members_unmarked, orderOf_unmarked,
    Blueprint.self_unmarked, askForOrder_unmarked, Result.map_bind]
  refine bind_congr fun primary => bind_congr fun slots => ?_
  by_cases hnull : name.toList.contains '\x00'
  · rw [if_pos hnull, if_pos hnull]
    rfl
  · rw [if_neg hnull, if_neg hnull]
    simp only [Result.map_bind]
    refine bind_congr fun qualname => bind_congr fun _ => bind_congr fun _ =>
      bind_congr fun order => ?_
    refine congrArg Except.ok (Eq.trans ?_ (withCreator_unmarked _ b.self))
    refine congrArg (withCreator · b.self) (modify_unmarked h fun i => ?_)
    rw [bare, bareEntries_of_ne hself, Blueprint.plan_unmarked, Option.map_map]
    rfl

/-! ## Telling the bases -/

@[simp] theorem isAllowedBase_unmarked : (h.unmarked x).isAllowedBase c = h.isAllowedBase c := by
  simp only [isAllowedBase, nameAttribute?_unmarked h "__module__" (by simp), shortName_unmarked]

@[simp] theorem mayBaseProtocol_unmarked (s : Subject) :
    (h.unmarked x).mayBaseProtocol s = h.mayBaseProtocol s := by
  cases s with
  | plain value => rfl
  | ofClass c =>
    simp only [mayBaseProtocol, sameClass_unmarked, isAllowedBase_unmarked, derives_unmarked,
      read_unmarked h "_is_protocol" (by simp), Result.bind_map, ClassAttribute.truthy_unmarked]

@[simp] theorem checkProtocolBases_unmarked (bases : List Subject) :
    (h.unmarked x).checkProtocolBases bases = h.checkProtocolBases bases := by
  induction bases with
  | nil => rfl
  | cons base rest ih =>
    simp only [checkProtocolBases, mayBaseProtocol_unmarked, Subject.literal_unmarked, ih]

@[simp] theorem hasPlainGeneric_unmarked :
    (h.unmarked x).hasPlainGeneric c = h.hasPlainGeneric c := by
  have hwritten : x.isSome → writtenBasesName ≠ "__final__" := by simp [writtenBasesName]
  have hcontains (space : Namespace) : (space.unmarked x c).contains writtenBasesName =
      space.contains writtenBasesName :=
    space.contains_unmarked writtenBasesName fun hx => hwritten (isSome_of_map hx)
  simp only [hasPlainGeneric, namespaceOf_unmarked, Result.bind_map, hcontains,
    readContains_unmarked h writtenBasesName _ _ hwritten,
    readContains_unmarked h "__bases__" _ _ (by simp), shortName_unmarked, unmarked_info_bases]

/-- What was made known to the root of classes with parameters is an entry that holds nothing. -/
theorem assign_part_unmarked (name : String) (hn : x.isSome → name ≠ "__final__") :
    (h.unmarked x).assign c name (.part false) =
      (h.assign c name (.part false)).map fun g => g.unmarked x :=
  assign_unmarked_of_ne h name (.part false) hn

@[simp] theorem asGeneric_unmarked :
    (h.unmarked x).asGeneric c = (h.asGeneric c).map fun g => g.unmarked x := by
  simp only [asGeneric, hasPlainGeneric_unmarked, Result.map_bind]
  refine bind_congr fun plain => ?_
  cases plain with
  | true => rfl
  | false => exact assign_part_unmarked h "__parameters__" (by simp)

/-! The root of protocols does three things with a new class, one after the other. -/

/-- Notes whether the class is a protocol, unless it says so itself. -/
def noteProtocol (c : ClassId) : Except Fault Hierarchy := do
  let flag ← (← h.namespaceOf c).get? "_is_protocol"
  if flag.any Member.truthy then pure h
  else do
    let named := (← h.readBases c).filterMap Subject.class?
    h.assign c "_is_protocol" (.data (.bool (named.contains (.library .protocol))))

/-- Gives the class the method of protocols that is asked for subclasses, unless it has one. -/
def hookProtocol (c : ClassId) : Except Fault Hierarchy := do
  if ← (← h.namespaceOf c).contains subclassHookName then pure h
  else h.assign c subclassHookName (.part false)

/-- Checks the bases of a protocol, and keeps it from being instantiated. -/
def guardNewProtocol (c : ClassId) : Except Fault Hierarchy := do
  if ¬(← h.read c "_is_protocol").truthy then return h
  h.checkProtocolBases (← h.readBases c)
  if (← h.read c "__init__").member.isRoot "__init__" then
    h.assign c "__init__" (.function LibraryClass.protocolInitialiser)
  else return h

theorem asProtocol_eq : h.asProtocol c = (do
    let h ← h.noteProtocol c
    let h ← h.hookProtocol c
    h.guardNewProtocol c) := by
  have hrest (g : Hierarchy) : (do
      let h ← if ← (← g.namespaceOf c).contains subclassHookName then pure g
        else g.assign c subclassHookName (.part false)
      h.guardNewProtocol c) = (do (← g.hookProtocol c).guardNewProtocol c) := by
    simp only [hookProtocol, bind_assoc]
    refine bind_congr fun space => bind_congr fun isHooked => ?_
    cases isHooked <;> rfl
  rw [asProtocol, noteProtocol, bind_assoc]
  refine bind_congr fun space => ?_
  rw [bind_assoc]
  refine bind_congr fun flag => ?_
  cases flag.any Member.truthy with
  | true => exact hrest h
  | false =>
    simp only [Bool.false_eq_true, if_false, bind_assoc]
    exact bind_congr fun bases => bind_congr fun g => hrest g

/-- The entry that says of a class that it is a protocol. -/
theorem get?_protocol_unmarked (space : Namespace) :
    (space.unmarked x c).get? "_is_protocol" =
      (space.get? "_is_protocol").map (Option.map Member.unmarked) :=
  space.get?_unmarked "_is_protocol" (by simp)

theorem any_truthy_unmarked (flag : Option Member) :
    (flag.map Member.unmarked).any Member.truthy = flag.any Member.truthy := by
  cases flag <;> simp

@[simp] theorem noteProtocol_unmarked :
    (h.unmarked x).noteProtocol c = (h.noteProtocol c).map fun g => g.unmarked x := by
  simp only [noteProtocol, namespaceOf_unmarked, Result.bind_map, Result.map_bind,
    get?_protocol_unmarked, any_truthy_unmarked, readBases_unmarked]
  refine bind_congr fun space => bind_congr fun flag => ?_
  cases flag.any Member.truthy with
  | true => rfl
  | false =>
    simp only [Bool.false_eq_true, if_false, Result.map_bind]
    exact bind_congr fun bases => assign_unmarked_of_ne h "_is_protocol" (.data _) (by simp)

@[simp] theorem hookProtocol_unmarked :
    (h.unmarked x).hookProtocol c = (h.hookProtocol c).map fun g => g.unmarked x := by
  have hcontains (space : Namespace) : (space.unmarked x c).contains subclassHookName =
      space.contains subclassHookName :=
    space.contains_unmarked subclassHookName (by simp [subclassHookName])
  simp only [hookProtocol, namespaceOf_unmarked, Result.bind_map, Result.map_bind, hcontains]
  refine bind_congr fun space => bind_congr fun isHooked => ?_
  cases isHooked with
  | true => rfl
  | false => exact assign_part_unmarked h subclassHookName (by simp [subclassHookName])

@[simp] theorem guardNewProtocol_unmarked :
    (h.unmarked x).guardNewProtocol c = (h.guardNewProtocol c).map fun g => g.unmarked x := by
  simp only [guardNewProtocol, read_unmarked h "_is_protocol" (by simp),
    read_unmarked h "__init__" (by simp), Result.bind_map, Result.map_bind,
    ClassAttribute.truthy_unmarked, ClassAttribute.member_unmarked, Member.isRoot_unmarked,
    readBases_unmarked, checkProtocolBases_unmarked]
  refine bind_congr fun a => ?_
  cases a.truthy with
  | false => rfl
  | true =>
    simp only [not_true_eq_false, if_false, Result.map_bind]
    refine bind_congr fun bases => bind_congr fun _ => bind_congr fun found => ?_
    cases found.member.isRoot "__init__" with
    | false => rfl
    | true =>
      have hplain : (Member.function LibraryClass.protocolInitialiser).unmarked =
          .function LibraryClass.protocolInitialiser := rfl
      have hassign := assign_unmarked_of_ne h (x := x) (c := c) "__init__"
        (.function LibraryClass.protocolInitialiser) (by simp)
      rw [hplain] at hassign
      exact hassign

@[simp] theorem asProtocol_unmarked :
    (h.unmarked x).asProtocol c = (h.asProtocol c).map fun g => g.unmarked x := by
  simp only [asProtocol_eq, noteProtocol_unmarked, hookProtocol_unmarked,
    guardNewProtocol_unmarked, Result.bind_map, Result.map_bind]

theorem tell_unmarked (list : List ClassId) :
    (h.unmarked x).tell c list = (h.tell c list).map fun g => g.unmarked x := by
  induction list with
  | nil => rfl
  | cons owner rest ih =>
    unfold tell
    rw [own?_unmarked h "__init_subclass__" (by simp), ih]
    rcases h.own? owner "__init_subclass__" with _ | m
    · cases owner <;> rfl
    · cases owner with
      | declared serial =>
        simp only [Option.map_some, Member.onClass_unmarked, Member.tryCall_unmarked]
        cases (m.onClass c).1.tryCall (m.onClass c).2.length <;> rfl
      | library l =>
        cases l
        case generic =>
          simp only [Option.map_some, Result.bind_map, Result.map_bind, asGeneric_unmarked]
        case protocol =>
          simp only [Option.map_some, Result.bind_map, Result.map_bind, asProtocol_unmarked]
        all_goals rfl

/-- The bases of a new class are told of it. -/
@[simp] theorem tellBases_unmarked :
    (h.unmarked x).tellBases c = (h.tellBases c).map fun g => g.unmarked x :=
  tell_unmarked h _

/-! ## Subclasses -/

@[simp] theorem answersKeeper_unmarked : (h.unmarked x).answersKeeper c = h.answersKeeper c := by
  have hn : x.isSome → answersName ≠ "__final__" := by simp [answersName]
  have howner : ((h.unmarked x).resolve? c answersName).map (·.1) =
      (h.resolve? c answersName).map (·.1) := by
    rw [resolve?_unmarked h _ hn, Option.map_map]
    rfl
  simp only [answersKeeper, read_unmarked h _ hn, Result.bind_map,
    ClassAttribute.member_unmarked, howner]
  refine bind_congr fun a => ?_
  cases a.member <;> rfl

@[simp] theorem keptAnswer?_unmarked (keeper : ClassId) :
    (h.unmarked x).keptAnswer? keeper c = h.keptAnswer? keeper c := by
  simp only [keptAnswer?, isKey_unmarked, unmarked_info_answers]

@[simp] theorem keepAnswer_unmarked (keeper : ClassId) (answer : Bool) :
    (h.unmarked x).keepAnswer keeper c answer =
      (h.keepAnswer keeper c answer).map fun g => g.unmarked x := by
  simp only [keepAnswer, checkHashable_unmarked, Result.map_bind]
  exact bind_congr fun _ => congrArg Except.ok (modify_unmarked h fun i => rfl)

@[simp] theorem askProtocol_unmarked (onBehalf : Bool) :
    (h.unmarked x).askProtocol onBehalf c = h.askProtocol onBehalf c := by
  simp only [askProtocol, namespaceOf_unmarked, Result.bind_map, get?_protocol_unmarked,
    any_truthy_unmarked, readTruth_unmarked h "_is_runtime_protocol" (by simp)]

@[simp] theorem readSubclasses_unmarked :
    (h.unmarked x).readSubclasses c = h.readSubclasses c := by
  simp only [readSubclasses, read_unmarked h "__subclasses__" (by simp), Result.bind_map]
  refine bind_congr fun a => ?_
  obtain ⟨m, bound⟩ := a
  cases m <;> cases bound <;> rfl

end Hierarchy

end UtilityClass
