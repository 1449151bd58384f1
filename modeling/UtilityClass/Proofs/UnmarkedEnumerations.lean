import UtilityClass.Enumeration.Search
import UtilityClass.Proofs.UnmarkedCalls

/-!
# Enumerations and marks

While an enumeration is planned, made and searched, classes are read and changed, and the namespace
that it is made of is filled. Of the functions that are met on the way none is asked for its mark,
so the plan of an enumeration without marks is its plan, without the marks.

## Main results

* `Blueprint.declare_unmarked`, `Hierarchy.planEnumeration_unmarked` : the namespace
* `Enumeration.findKnown_unmarked`, `Enumeration.isMember_unmarked` : members
-/

namespace UtilityClass

/-! ## Namespaces -/

namespace Member

variable (m : Member)

@[simp] theorem ignoredNames_unmarked :
    EnumerationName.ignoredNames m.unmarked = EnumerationName.ignoredNames m := by
  cases m <;> rfl

@[simp] theorem isDescriptor_unmarked : m.unmarked.isDescriptor = m.isDescriptor := by
  cases m <;> rfl

@[simp] theorem literal_unmarked : m.unmarked.literal = m.literal := by
  cases m <;> rfl

@[simp] theorem findsMember_unmarked : m.unmarked.findsMember = m.findsMember := by
  cases m <;> rfl

end Member

namespace Blueprint

variable (b : Blueprint) (d : EnumerationDraft) (name : String) (m : Member)

theorem ignore_unmarked :
    b.unmarked.ignore d m.unmarked = (b.ignore d m).map Blueprint.unmarked := by
  simp only [ignore, Member.ignoredNames_unmarked, Result.map_bind]
  refine bind_congr fun ignored => ?_
  split
  · rfl
  · have hput := put_unmarked b EnumerationName.ignoredName (.data (.arr ignored))
    rw [Member.unmarked_data] at hput
    rw [hput]
    rfl

theorem declareMember_unmarked :
    b.unmarked.declareMember d name m.unmarked =
      (b.declareMember d name m).map Blueprint.unmarked := by
  simp only [declareMember, get?_unmarked, Member.isDescriptor_unmarked, put_unmarked]
  rcases b.get? name with _ | earlier
  · split
    · rename_i hearlier _
      cases hearlier
    · simp only [Option.map_none]
      split <;> rfl
  · cases d.names.contains name with
    | true =>
      simp only [Option.map_some, Member.literal_unmarked]
      rfl
    | false =>
      simp only [Option.map_some, Member.literal_unmarked]
      split <;> rfl

theorem declare_unmarked :
    b.unmarked.declare name m.unmarked = (b.declare name m).map Blueprint.unmarked := by
  simp only [declare, draft_unmarked, put_unmarked, declareMember_unmarked, ignore_unmarked]
  cases b.draft with
  | none => rfl
  | some d =>
    dsimp only
    split
    · rfl
    · split
      · split
        · rfl
        · split <;> rfl
      · split <;> rfl

end Blueprint

namespace Hierarchy

variable {x : Option Flag} {c : ClassId} (h : Hierarchy)

/-! ## Bases -/

@[simp] theorem hasMembers_unmarked : (h.unmarked x).hasMembers c = h.hasMembers c := by
  simp only [hasMembers, read_unmarked h "_member_names_" (by simp), Result.bind_map,
    unmarked_info_enumeration]
  refine bind_congr fun a => ?_
  obtain ⟨m, bound⟩ := a
  cases m <;> rfl

theorem checkNoMembersAlong_unmarked (name : Json) (list : List Subject) :
    (h.unmarked x).checkNoMembersAlong name list = h.checkNoMembersAlong name list := by
  induction list with
  | nil => rfl
  | cons s rest ih =>
    cases s with
    | plain value => exact ih
    | ofClass c =>
      simp only [checkNoMembersAlong, isEnumeration_unmarked, hasMembers_unmarked,
        literal_unmarked, ih]

@[simp] theorem checkNoMembers_unmarked (name : Json) (bases : List ClassId) :
    (h.unmarked x).checkNoMembers name bases = h.checkNoMembers name bases := by
  simp only [checkNoMembers, readOrder_unmarked, checkNoMembersAlong_unmarked]

@[simp] theorem bringsCreator_unmarked : (h.unmarked x).bringsCreator c = h.bringsCreator c := by
  have hcontains (space : Namespace) (name : String) (hn : x.isSome → name ≠ "__final__") :
      (space.unmarked x c).contains name = space.contains name :=
    space.contains_unmarked name fun hx => hn (isSome_of_map hx)
  have hnew (space : Namespace) := hcontains space "__new__" (by simp)
  have hfields (space : Namespace) := hcontains space "__dataclass_fields__" (by simp)
  simp only [bringsCreator, namespaceOf_unmarked, Result.bind_map, hnew, hfields]

theorem dataTypeAlong_unmarked (candidate : Option ClassId) (list : List Subject) :
    (h.unmarked x).dataTypeAlong candidate list = h.dataTypeAlong candidate list := by
  induction list generalizing candidate with
  | nil => rfl
  | cons s rest ih =>
    cases s with
    | plain value => rfl
    | ofClass c =>
      simp only [dataTypeAlong, checkHashable_unmarked, isEnumeration_unmarked,
        bringsCreator_unmarked, unmarked_info_enumeration, ih]

@[simp] theorem dataTypeOf?_unmarked : (h.unmarked x).dataTypeOf? c = h.dataTypeOf? c := by
  simp only [dataTypeOf?, readOrder_unmarked, dataTypeAlong_unmarked]

@[simp] theorem mixins_unmarked (name : Json) (bases : List ClassId) :
    (h.unmarked x).mixins name bases = h.mixins name bases := by
  have hliteral : (h.unmarked x).literal = h.literal := funext fun c => h.literal_unmarked
  have htype : (h.unmarked x).dataTypeOf? = h.dataTypeOf? := funext fun c => h.dataTypeOf?_unmarked
  simp only [mixins, checkNoMembers_unmarked, isEnumeration_unmarked, htype, hliteral]

theorem prepareEnumeration_unmarked (self : ClassId) (name : Json) (bases : List ClassId) :
    (h.unmarked x).prepareEnumeration self name bases =
      (h.prepareEnumeration self name bases).map Blueprint.unmarked := by
  simp only [prepareEnumeration, checkNoMembers_unmarked, mixins_unmarked, Result.map_bind,
    read?_unmarked h nextValueName (by simp [nextValueName]), Result.bind_map]
  refine bind_congr fun _ => bind_congr fun found => bind_congr fun counter => ?_
  have hput := Blueprint.put_unmarked
    { Blueprint.empty self with draft := some ⟨name.text, [], []⟩ } nextValueName
  cases counter with
  | none => exact congrArg Except.ok (hput (.part false))
  | some a => exact congrArg Except.ok (hput a.member)

/-! ## The creating function of the members -/

/-- The creating function that an attribute is. -/
def creatorFound? (c : ClassId) (a : ClassAttribute) :
    Except Fault (Option (Member × List ClassId)) := do
  if a.member.findsMember then return none
  match a.member with
  | .data value => if ¬value.isHashable then .error (.unhashable value.kind)
  | _ => pure ()
  let (m, front) := a.on h c
  return some (m, front.filterMap fun v => v.subject.class?)

theorem creatorFound?_unmarked (a : ClassAttribute) :
    (h.unmarked x).creatorFound? c a.unmarked =
      (h.creatorFound? c a).map (Option.map fun found => (found.1.unmarked, found.2)) := by
  rw [creatorFound?, creatorFound?, ClassAttribute.member_unmarked, Member.findsMember_unmarked,
    ClassAttribute.on_unmarked]
  cases a.member.findsMember with
  | true => rfl
  | false =>
    cases a.member
    case data value =>
      rw [Member.unmarked_data]
      dsimp only
      cases value.isHashable <;> rfl
    all_goals rfl

theorem memberCreator?_unmarked (name : String) (hn : x.isSome → name ≠ "__final__") :
    (h.unmarked x).memberCreator? c name =
      (h.memberCreator? c name).map (Option.map fun found => (found.1.unmarked, found.2)) := by
  simp only [memberCreator?, read?_unmarked h name hn, Result.bind_map, Result.map_bind]
  refine bind_congr fun found => ?_
  rcases found with _ | a
  · rfl
  · have hrest := creatorFound?_unmarked (x := x) (c := c) h a
    obtain ⟨m, bound⟩ := a
    cases m
    case data value =>
      cases value
      case null => rfl
      all_goals exact hrest
    case native n =>
      simp only [Option.map_some, ClassAttribute.unmarked, Member.unmarked] at hrest ⊢
      split
      · rfl
      · rfl
      · rfl
      · rename_i hfound
        cases hfound
        exact hrest
    all_goals exact hrest

theorem firstMemberCreator?_unmarked (list : List (ClassId × String))
    (hn : x.isSome → ∀ found ∈ list, found.2 ≠ "__final__") :
    (h.unmarked x).firstMemberCreator? list =
      (h.firstMemberCreator? list).map (Option.map fun found => (found.1.unmarked, found.2)) := by
  induction list with
  | nil => rfl
  | cons first rest ih =>
    obtain ⟨c, name⟩ := first
    have hrest := ih fun hx => (List.forall_mem_cons.1 (hn hx)).2
    have hfirst := memberCreator?_unmarked (c := c) h name fun hx =>
      (List.forall_mem_cons.1 (hn hx)).1
    simp only [firstMemberCreator?, hfirst, hrest, Result.bind_map, Result.map_bind]
    refine bind_congr fun found => ?_
    cases found <;> rfl

theorem memberCreator_unmarked (b : Blueprint) (dataType last : ClassId) :
    (h.unmarked x).memberCreator b.unmarked dataType last =
      (h.memberCreator b dataType last).map fun found => (found.1.unmarked, found.2) := by
  have hfound := firstMemberCreator?_unmarked (x := x) h [(dataType, keptCreatorName),
    (last, keptCreatorName), (dataType, "__new__"), (last, "__new__")] (by simp [keptCreatorName])
  have husual : (do
      let found ← (h.unmarked x).firstMemberCreator? [(dataType, keptCreatorName),
        (last, keptCreatorName), (dataType, "__new__"), (last, "__new__")]
      return found.getD (.native (.create .object), [])) = (do
      let found ← h.firstMemberCreator? [(dataType, keptCreatorName),
        (last, keptCreatorName), (dataType, "__new__"), (last, "__new__")]
      return found.getD (.native (.create .object), []) : Except Fault (Member × List ClassId)).map
        fun found => (found.1.unmarked, found.2) := by
    rw [hfound, Result.bind_map, Result.map_bind]
    exact bind_congr fun found => by cases found <;> rfl
  simp only [memberCreator, Blueprint.get?_unmarked]
  rcases b.get? "__new__" with _ | m
  · exact husual
  · cases m
    case data value =>
      cases value
      case null => exact husual
      all_goals rfl
    all_goals rfl

/-! ## The plan -/

/-- The namespace with a plan, when it is known what the bases bring along and what creates the
members, and which names they have. -/
def planned (names : List String) (order : Option Member) (b : Blueprint)
    (mixed : ClassId × ClassId) (found : Member × List ClassId) : Blueprint :=
  let isRoot := match found.1 with
    | .native (.create .object) => true
    | m => m.findsMember
  let pending := names.filterMap fun n =>
    match b.get? n with
    | some (.data value) => some (n, value)
    | _ => none
  let declaredCreator := match b.get? "__new__" with
    | some (.data .null) => none
    | found => found
  let filled := (bookkeepingNames ++ flagNames).foldl (fun b n => b.put n (.part false)) b
  { filled with plan := some {
      dataType := mixed.1
      parent := mixed.2
      creator := found.1
      bound := found.2
      takesValue := !isRoot
      declaredCreator
      order
      mask := maskOf (pending.map (·.2))
      singles := singlesOf (pending.map (·.2))
      conforms := h.derives mixed.2 LibraryClass.flag
      pending } }

theorem planned_unmarked (names : List String) (order : Option Member) (b : Blueprint)
    (mixed : ClassId × ClassId) (found : Member × List ClassId) :
    (h.unmarked x).planned names (order.map Member.unmarked) b.unmarked mixed
        (found.1.unmarked, found.2) =
      (h.planned names order b mixed found).unmarked := by
  have hput (names : List String) (b : Blueprint) :
      names.foldl (fun b n => b.put n (.part false)) b.unmarked =
        (names.foldl (fun b n => b.put n (.part false)) b).unmarked := by
    induction names generalizing b with
    | nil => rfl
    | cons name names ih =>
      rw [List.foldl_cons, List.foldl_cons, ← ih, ← Blueprint.put_unmarked, Member.unmarked_part]
  have hroot : (match found.1.unmarked with
      | .native (.create .object) => true
      | m => m.findsMember) = (match found.1 with
      | .native (.create .object) => true
      | m => m.findsMember) := by
    cases found.1 <;> rfl
  have hpending (n : String) : (match (b.get? n).map Member.unmarked with
      | some (.data value) => some (n, value)
      | _ => none) = (match b.get? n with
      | some (.data value) => some (n, value)
      | _ => none) := by
    rcases b.get? n with _ | m
    · rfl
    · cases m <;> rfl
  have hcreator : (match (b.get? "__new__").map Member.unmarked with
      | some (.data .null) => none
      | found => found) = (match b.get? "__new__" with
      | some (.data .null) => none
      | found => found).map Member.unmarked := by
    rcases b.get? "__new__" with _ | m
    · rfl
    · cases m
      case data value => cases value <;> rfl
      all_goals rfl
  simp only [planned, Blueprint.get?_unmarked, hroot, hpending, hcreator, hput, derives_unmarked]
  rfl

theorem planEnumeration_unmarked (name : Json) (bases : List ClassId) (b : Blueprint) :
    (h.unmarked x).planEnumeration name bases b.unmarked =
      (h.planEnumeration name bases b).map Blueprint.unmarked := by
  have herase (names : List String) (b : Blueprint) :
      names.foldl Blueprint.erase b.unmarked = (names.foldl Blueprint.erase b).unmarked := by
    induction names generalizing b with
    | nil => rfl
    | cons name names ih => rw [List.foldl_cons, List.foldl_cons, Blueprint.erase_unmarked, ih]
  let cleared (b : Blueprint) : Blueprint :=
    ((b.draft.getD ⟨name.text, [], []⟩).ignored.filterMap planEnumeration.nameOf?).foldl
      Blueprint.erase (b.erase EnumerationName.ignoredName)
  have hcleared : cleared b.unmarked = (cleared b).unmarked := by
    simp only [cleared, Blueprint.draft_unmarked, Blueprint.erase_unmarked, herase]
  let rest (g : Hierarchy) (b : Blueprint) : Except Fault Blueprint := do
    let d := b.draft.getD ⟨name.text, [], []⟩
    let order := (cleared b).get? EnumerationName.orderName
    let kept := (cleared b).erase EnumerationName.orderName
    let mixed ← g.mixins name bases
    let found ← g.memberCreator kept mixed.1 mixed.2
    discard (g.read? mixed.2 boundaryName)
    return g.planned d.names order kept mixed found
  have hrest : rest (h.unmarked x) b.unmarked = (rest h b).map Blueprint.unmarked := by
    simp only [rest, hcleared, Blueprint.draft_unmarked, Blueprint.get?_unmarked,
      Blueprint.erase_unmarked, mixins_unmarked, memberCreator_unmarked, planned_unmarked,
      read?_unmarked h boundaryName (by simp [boundaryName]), Result.bind_map, Result.map_bind]
    refine bind_congr fun mixed => bind_congr fun found => ?_
    cases h.read? mixed.2 boundaryName <;> rfl
  have heq (g : Hierarchy) (b : Blueprint) : g.planEnumeration name bases b = (do
      let invalid := (b.draft.getD ⟨name.text, [], []⟩).names.filter fun n => n == "mro" || n == ""
      if ¬invalid.isEmpty then .error (.declaration (.invalidNames invalid))
      rest g b) := rfl
  rw [heq, heq, Blueprint.draft_unmarked, hrest]
  dsimp only
  split <;> rfl

end Hierarchy

/-! ## Members -/

namespace Enumeration

variable {x : Option Flag} {c : ClassId} (h : Hierarchy)

@[simp] theorem memberOf?_unmarked (value : Json) :
    (h.unmarked x).memberOf? c value = h.memberOf? c value := rfl

@[simp] theorem unmarked_argument (p : MemberPlan) (declared : Json) :
    argument p.unmarked declared = argument p declared := rfl

@[simp] theorem hasOneBit_unmarked (v : Value) :
    hasOneBit (h.unmarked x) v.unmarked = hasOneBit h v := by
  simp only [hasOneBit, Value.isOf_unmarked, Value.isOf_unmarkedClasses, Value.content?_unmarked,
    Value.kind_unmarked, Value.kind_unmarkedClasses, Hierarchy.unmarked_info_runtimeName]

@[simp] theorem countsAsTrue_unmarked (made value : Value) :
    countsAsTrue (h.unmarked x) c made.unmarked value.unmarked = countsAsTrue h c made value := by
  simp only [countsAsTrue, Hierarchy.derives_unmarked, Value.content?_unmarked]
  cases made <;> rfl

@[simp] theorem addMember_unmarked (member : EnumerationMember) :
    addMember (h.unmarked x) c member = (addMember h c member).unmarked x :=
  Hierarchy.modify_unmarked h fun _ => rfl

theorem restOf_unmarked (a : ClassAttribute) :
    restOf (h.unmarked x) c a.unmarked = restOf h c a := by
  simp only [restOf, ClassAttribute.member_unmarked, ClassAttribute.kind_unmarked,
    Hierarchy.unmarked_info_order]
  cases a.member
  case native n => cases n <;> rfl
  all_goals rfl

@[simp] theorem checkAncestors_unmarked (name : String) :
    checkAncestors (h.unmarked x) c name = checkAncestors h c name := by
  -- what is looked for does not matter, only whether there is a namespace to look into
  have hlooked (d : ClassId) (space : Namespace) :
      discard ((space.unmarked x d).get? name) = discard (space.get? name) := by
    cases space with
    | own entries => rfl
    | data value => cases value <;> rfl
    | other => rfl
  simp only [checkAncestors, h.read_unmarked "__mro__" (by simp), Result.bind_map,
    restOf_unmarked, Hierarchy.namespaceOf_unmarked, hlooked]

@[simp] theorem checkNamespace_unmarked :
    checkNamespace (h.unmarked x) c = checkNamespace h c := by
  simp only [checkNamespace, Hierarchy.namespaceOf_unmarked, Result.bind_map]
  refine bind_congr fun space => ?_
  cases space <;> rfl

@[simp] theorem isUnordered_unmarked : isUnordered (h.unmarked x) c = isUnordered h c := rfl

@[simp] theorem isGiven_unmarked (owner dataType : ClassId) (name : String)
    (hn : x.isSome → name ≠ "__final__") :
    isGiven (h.unmarked x) owner dataType name = isGiven h owner dataType name := by
  simp only [isGiven, h.resolve?_unmarked name hn, Option.any_map, Hierarchy.derives_unmarked]

@[simp] theorem isBorrowed_unmarked (dataType : ClassId) (name : String)
    (hn : x.isSome → name ≠ "__final__") :
    isBorrowed (h.unmarked x) c dataType name = isBorrowed h c dataType name := by
  simp only [isBorrowed, h.resolve?_unmarked name hn, Option.any_map, isGiven_unmarked h _ _ _ hn]
  rcases h.resolve? c name with _ | ⟨owner, m⟩
  · rfl
  · cases m <;> rfl

@[simp] theorem itemsOfOrder_unmarked (m : Member) :
    itemsOfOrder m.unmarked = itemsOfOrder m := by
  cases m <;> rfl

@[simp] theorem checkOrder_unmarked (order : Member) :
    checkOrder (h.unmarked x) c order.unmarked = checkOrder h c order := by
  simp only [checkOrder, itemsOfOrder_unmarked, Hierarchy.unmarked_info_enumeration]

@[simp] theorem finder_unmarked : finder.unmarked = finder := rfl

@[simp] theorem checkIteration_unmarked :
    checkIteration (h.unmarked x) c = checkIteration h c := by
  rw [checkIteration, checkIteration, h.resolve?_unmarked "__iter__" (by simp),
    Hierarchy.unmarked_info_metaclass]
  rcases h.resolve? (h.info c).metaclass "__iter__" with _ | ⟨_ | _, hook⟩
  · rfl
  · rfl
  · exact congrArg (· >>= _) (h.tryHook_unmarked hook 0)

/-! ## Searching -/

@[simp] theorem conforming_unmarked (e : Enumeration) (value : Int) :
    conforming (h.unmarked x) c e value = conforming h c e value := by
  simp only [conforming, Hierarchy.literal_unmarked]

@[simp] theorem remember_unmarked (value : Int) (made : Instance) :
    remember (h.unmarked x) c value made = (remember h c value made).unmarked x :=
  Hierarchy.modify_unmarked h fun _ => rfl

@[simp] theorem isMember_unmarked (v : Value) :
    isMember (h.unmarked x) c v.unmarked = isMember h c v := by
  simp only [isMember, h.hook?_unmarked "__instancecheck__" (by simp), Value.type_unmarked,
    Value.type_unmarkedClasses, Value.isOf_unmarked, Value.isOf_unmarkedClasses]
  rcases h.hook? c "__instancecheck__" with _ | hook
  · rfl
  · simp only [Option.map_some, Hierarchy.tryHook_unmarked]

@[simp] theorem findAlong_unmarked (value : Json) :
    findAlong (h.unmarked x) c value = findAlong h c value := by
  simp only [findAlong, h.read_unmarked Hierarchy.memberMapName (by simp [Hierarchy.memberMapName]),
    Result.bind_map, memberOf?_unmarked]
  refine bind_congr fun a => ?_
  obtain ⟨m, bound⟩ := a
  cases m <;> rfl

@[simp] theorem findKept_unmarked (kept value : Json) :
    findKept (h.unmarked x) c kept value = findKept h c kept value := by
  simp only [findKept, findAlong_unmarked]

@[simp] theorem findKnown_unmarked (value : Json) :
    findKnown (h.unmarked x) c value = findKnown h c value := by
  have howner : ((h.unmarked x).resolve? c valueMapName).map (·.1) =
      (h.resolve? c valueMapName).map (·.1) := by
    rw [h.resolve?_unmarked valueMapName (by simp [valueMapName]), Option.map_map]
    rfl
  simp only [findKnown, h.read_unmarked valueMapName (by simp [valueMapName]), Result.bind_map,
    findKept_unmarked, findAlong_unmarked, memberOf?_unmarked, howner,
    Hierarchy.unmarked_info_enumeration]
  refine bind_congr fun a => ?_
  obtain ⟨m, bound⟩ := a
  cases m <;> rfl

theorem declareMember_unmarked (b : Blueprint) (name value : Json) :
    declareMember b.unmarked name value = (declareMember b name value).map Blueprint.unmarked := by
  cases name
  case str name => exact b.declare_unmarked name (.data value)
  all_goals rfl

end Enumeration

end UtilityClass
