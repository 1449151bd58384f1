import UtilityClass.Construction.Call
import UtilityClass.Proofs.UnmarkedChanges
import UtilityClass.Proofs.UnmarkedNatives

/-!
# Calls and marks

A call hands out a member together with the values that it gets in front, runs native functions on
values, and finds out what a function makes of its arguments. What is handed out for values without
marks, by classes without marks, is what is handed out for the values themselves, without its marks.

## Main definitions

* `Attribute.unmarked`

## Main results

* `Hierarchy.bind_unmarked`, `Hierarchy.next?_unmarked` : members as attributes of values
* `Hierarchy.initialiseNative_unmarked` : initialisation by a native function
* `Signature.argument?_unmarked` : what a parameter gets
-/

namespace UtilityClass

/-- An attribute of a value without marks. -/
def Attribute.unmarked (a : Attribute) : Attribute :=
  ⟨a.member.unmarked, a.front.map Value.unmarked, a.takesReceiver⟩

theorem Member.onObject_unmarkedBoth (m : Member) (v : Value) (c : ClassId) :
    m.unmarked.onObject v.unmarked c =
      ((m.onObject v c).1.unmarked, (m.onObject v c).2.map Value.unmarked) := by
  rw [onObject_unmarked, onObject_unmarkedReceiver]

namespace Hierarchy

variable {x : Option Flag} {c : ClassId} (h : Hierarchy) (v : Value)

/-! ## Attributes of values -/

/-- Whether a hook of a value takes an attribute. -/
theorem tryOn_unmarked (hook : Member) : (do
      let (hook, front) := hook.unmarked.onObject v.unmarked (v.type h)
      hook.tryCall (front.length + 2)) = (do
      let (hook, front) := hook.onObject v (v.type h)
      hook.tryCall (front.length + 2)) := by
  simp only [Member.onObject_unmarkedBoth, Member.tryCall_unmarked, List.length_map]

theorem checkAttribute_unmarked (name : String) (hn : x.isSome → name ≠ "__final__") :
    (h.unmarked x).checkAttribute v.unmarked name = h.checkAttribute v name := by
  have hassign (c : ClassId) : ((h.unmarked x).assign c name (.part false)).map (fun _ => ()) =
      (h.assign c name (.part false)).map fun _ => () := by
    rw [assign_part_unmarked h name hn]
    cases h.assign c name (.part false) <;> rfl
  simp only [checkAttribute, Value.type_unmarked, Value.type_unmarkedClasses,
    resolve?_unmarked h "__setattr__" (by simp), resolve?_unmarked h name hn]
  generalize h.resolve? (v.type h) "__setattr__" = hook
  generalize h.resolve? (v.type h) name = found
  cases v with
  | ofClass c => exact hassign c
  | _ =>
    rcases hook with _ | ⟨_ | _, hook⟩
    case some.declared => exact tryOn_unmarked h _ hook
    all_goals
      rcases found with _ | ⟨d, m⟩
      · rfl
      · cases m <;> rfl

theorem checkHome_unmarked (m : Member) :
    (h.unmarked x).checkHome m.unmarked v.unmarked = h.checkHome m v := by
  cases m
  case native n =>
    simp only [checkHome, Member.unmarked]
    rcases n.home? with _ | ⟨l, name⟩
    · rfl
    · simp only [Value.isOf_unmarked, Value.isOf_unmarkedClasses, unmarked_info_runtimeName,
        Value.kind_unmarked, Value.kind_unmarkedClasses]
  all_goals rfl

theorem bind_unmarked (m : Member) :
    (h.unmarked x).bind m.unmarked v.unmarked =
      (h.bind m v).map fun bound => (bound.1.unmarked, bound.2.map Value.unmarked) := by
  simp only [bind, checkHome_unmarked, Value.type_unmarked, Value.type_unmarkedClasses]
  cases h.checkHome m v with
  | error e => rfl
  | ok u =>
    cases m
    case native n => exact congrArg Except.ok (Member.onObject_unmarkedBoth (.native _) v _)
    all_goals exact congrArg Except.ok (Member.onObject_unmarkedBoth _ v _)

/-- What is found behind a class along the order of another one, which may be the value itself. -/
def nextFrom (owner : ClassId) (name : String) (start : ClassId) (self? : Option ClassId) :
    Except Fault (Option Attribute) := do
  if ¬h.derives start owner then .error (.refusal .foreignSuper)
  match h.resolveAfter? start owner name, self? with
  | none, _ => return none
  | some (_, member), some c => return some (.ofPair (member.onClass c) false)
  | some (_, member), none => return some (.ofPair (← h.bind member v) member.takesObject)

theorem nextFrom_unmarked (owner : ClassId) (name : String)
    (hn : x.isSome → name ≠ "__final__") (start : ClassId) (self? : Option ClassId) :
    (h.unmarked x).nextFrom v.unmarked owner name start self? =
      (h.nextFrom v owner name start self?).map (Option.map Attribute.unmarked) := by
  simp only [nextFrom, derives_unmarked, resolveAfter?_unmarked h _ _ hn]
  cases h.derives start owner with
  | false => rfl
  | true =>
    rcases h.resolveAfter? start owner name with _ | ⟨d, m⟩
    · rfl
    · cases self? with
      | none =>
        show ((h.unmarked x).bind m.unmarked v.unmarked >>= _) = (h.bind m v >>= _).map _
        rw [bind_unmarked, Result.bind_map, Result.map_bind]
        exact bind_congr fun bound => by rw [Member.takesObject_unmarked]; rfl
      | some c =>
        show Except.ok (some (Attribute.ofPair (m.unmarked.onClass c) false)) = Except.ok _
        rw [Member.onClass_unmarked]
        exact congrArg (fun front => Except.ok (some (Attribute.mk _ front false)))
          (m.map_unmarked_onClass c).symm

theorem next?_unmarked (owner : ClassId) (name : String) (hn : x.isSome → name ≠ "__final__") :
    (h.unmarked x).next? v.unmarked owner name =
      (h.next? v owner name).map (Option.map Attribute.unmarked) := by
  have hfrom := nextFrom_unmarked (x := x) h v owner name hn
  cases v with
  | ofClass c =>
    show (h.unmarked x).nextFrom _ owner name _ _ = (h.nextFrom _ owner name _ _).map _
    exact hfrom ((if h.derives c owner then some c else none).getD (h.info c).metaclass) _
  | data value => exact hfrom value.type none
  | object i => exact hfrom i.type none
  | tuple items => exact hfrom LibraryClass.tuple none
  | blueprint b => exact hfrom LibraryClass.dict none

/-! ## Initialisation by native functions -/

variable (given : List Value) (named : List (String × Value))

theorem initialiseProperty_unmarked :
    (h.unmarked x).initialiseProperty v.unmarked (given.map Value.unmarked)
        (unmarkedNamed named) =
      h.initialiseProperty v given named := by
  have hmissing (taken : List (Option Value)) (place : Nat) :
      ((taken.map (Option.map Value.unmarked))[place]?.getD none).all Value.isNull =
        (taken[place]?.getD none).all Value.isNull := by
    rw [getD_map_unmarked]
    cases taken[place]?.getD none with
    | none => rfl
    | some v => exact v.isNull_unmarked
  simp only [initialiseProperty, NativeParameters.take_acceptAny_unmarked, Result.bind_map,
    Value.type_unmarked, Value.type_unmarkedClasses, hmissing,
    checkAttribute_unmarked h v "__doc__" (by simp)]

theorem checkClassArguments_unmarked :
    checkClassArguments (given.map Value.unmarked) (unmarkedNamed named) =
      checkClassArguments given named := by
  simp only [checkClassArguments, isEmpty_unmarkedNamed, List.length_map]

/-- Initialisation by a native function does the same to the value. -/
theorem initialiseNative_unmarked (initialiser : LibraryClass) :
    (h.unmarked x).initialiseNative initialiser v.unmarked (given.map Value.unmarked)
        (unmarkedNamed named) =
      (h.initialiseNative initialiser v given named).map Value.unmarked := by
  have hkept (result : Except Fault Unit) : (do result; return v.unmarked) =
      (do result; return v).map Value.unmarked := by
    cases result <;> rfl
  have hcontent {β : Type} (made : Except Fault β) (f : β → Json) :
      (do return v.unmarked.withContent (f (← made))) =
        (do return v.withContent (f (← made))).map Value.unmarked := by
    cases made with
    | error e => rfl
    | ok b => cases v <;> rfl
  have hobject (i : Instance) (late : Prop) [Decidable late] (made : Except Fault Instance) :
      (if late then do return Value.object (← made) else return Value.object i :
          Except Fault Value) =
        (if late then do return Value.object (← made) else return Value.object i :
          Except Fault Value).map Value.unmarked := by
    split
    · cases made <;> rfl
    · rfl
  have hproperty := initialiseProperty_unmarked (x := x) h v given named
  simp only [initialiseNative, Value.type_unmarked, Value.type_unmarkedClasses, List.isEmpty_map,
    isEmpty_unmarkedNamed, initialiseRoot_unmarked, checkClassArguments_unmarked,
    fillList_unmarked, fillSet_unmarked, updateDictionary_unmarked, fillOrdered_unmarked,
    initialiseException_unmarked, unmarked_info_creator]
  cases v
  case blueprint b =>
    split
    case h_7 => exact (congrArg (· >>= _) hproperty).trans (hkept _)
    case h_8 => split <;> rfl
    case h_9 hv => cases hv
    case h_10 => split <;> first | contradiction | exact absurd rfl (by assumption) | rfl
    case h_3 | h_5 | h_6 => exact hcontent _ _
    all_goals exact hkept _
  all_goals
    simp only [Value.unmarked] at hproperty hkept hcontent ⊢
    split
    case h_7 => exact (congrArg (· >>= _) hproperty).trans (hkept _)
    case h_8 => split <;> rfl
    case h_9 hv =>
      cases hv
      try exact hobject _ _ _
    case h_10 => rfl
    case h_3 | h_5 | h_6 => exact hcontent _ _
    all_goals exact hkept _

end Hierarchy

namespace Construction

variable {x : Option Flag} (h : Hierarchy)

/-- The argument that the creating function of classes complains of: its place, what is wanted there
and what is given. -/
def unfit? : List Value → Option (String × String × Value)
  | [.data (.str _), .tuple _, b] => some ("3", "dict", b)
  | [.data (.str _), bases, _] => some ("2", "tuple", bases)
  | [name, _, _] => some ("1", "str", name)
  | _ => none

/-- What is said of an argument that is of another kind than is wanted in its place. -/
def misfit (place wanted kind : String) : String :=
  "type.__new__() argument " ++ place ++ " must be " ++ wanted ++ ", not " ++ kind

/-- What is said of a wrong number of arguments. -/
def miscount (count : Int) : String :=
  "type.__new__() takes exactly 3 arguments (" ++ intText count ++ " given)"

/-- How the creating function of classes complains of `found`, or of the number of arguments. -/
def complaintAbout (count : Int) (found : Option (String × String × Value)) : String :=
  (found.map fun f => misfit f.1 f.2.1 (if f.2.2.isNull then "None" else f.2.2.kind h)).getD
    (miscount count)

theorem classComplaint_eq (given : List Value) :
    classComplaint h given = complaintAbout h given.length (unfit? given) := by
  unfold classComplaint
  dsimp only
  split
  · rfl
  · rename_i hbases
    rw [unfit?.eq_2 _ _ _ hbases]
    rfl
  · rename_i hboth hname
    rw [unfit?.eq_3 _ _ _ hboth hname]
    rfl
  · rename_i hboth htext hthree
    rw [unfit?.eq_4 _ hboth htext hthree]
    rfl

theorem unfit?_unmarked (given : List Value) :
    unfit? (given.map Value.unmarked) =
      (unfit? given).map fun found => (found.1, found.2.1, found.2.2.unmarked) := by
  rcases given with _ | ⟨u, _ | ⟨v, _ | ⟨w, _ | ⟨more, rest⟩⟩⟩⟩
  case cons.cons.cons.nil =>
    cases u
    case data value =>
      cases value
      case str => cases v <;> rfl
      all_goals rfl
    all_goals rfl
  all_goals simp [unfit?]

theorem complaintAbout_unmarked (count : Int) (found : Option (String × String × Value)) :
    complaintAbout (h.unmarked x) count (found.map fun f => (f.1, f.2.1, f.2.2.unmarked)) =
      complaintAbout h count found := by
  unfold complaintAbout
  rw [Option.map_map]
  congr 2
  funext f
  simp only [Function.comp_apply, Value.isNull_unmarked, Value.kind_unmarked,
    Value.kind_unmarkedClasses]

theorem classComplaint_unmarked (given : List Value) :
    classComplaint (h.unmarked x) (given.map Value.unmarked) = classComplaint h given := by
  rw [classComplaint_eq, unfit?_unmarked, complaintAbout_unmarked, List.length_map,
    ← classComplaint_eq]

theorem otherInitialiser_unmarked (list : List Subject) :
    otherInitialiser (h.unmarked x) list = (otherInitialiser h list).map Member.unmarked := by
  induction list with
  | nil => rfl
  | cons s rest ih =>
    cases s with
    | plain value => rfl
    | ofClass c =>
      have hget (space : Namespace) : (space.unmarked x c).get? "__init__" =
          (space.get? "__init__").map (Option.map Member.unmarked) :=
        space.get?_unmarked "__init__" (by simp)
      simp only [otherInitialiser, Hierarchy.namespaceOf_unmarked, Result.bind_map, hget, ih,
        Result.map_bind]
      refine bind_congr fun space => bind_congr fun found => ?_
      rcases found with _ | m
      · rfl
      · cases m
        case function f =>
          show (if f.isProtocolGuard then _ else _) = (if f.isProtocolGuard then _ else _ :
            Except Fault Member).map _
          split <;> rfl
        all_goals rfl

end Construction

/-! ## Arguments of functions -/

namespace Signature

variable (parameters : List Parameter) (given : List Value) (named : List (String × Value))

theorem argument?_unmarked (name : String) :
    argument? Value.data parameters name (given.map Value.unmarked) (unmarkedNamed named) =
      (argument? Value.data parameters name given named).map Value.unmarked := by
  have husual : ((parameters.find? fun p => p.name == name).bind fun p => p.default.map .data) =
      ((parameters.find? fun p => p.name == name).bind fun p => p.default.map .data).map
        Value.unmarked := by
    generalize parameters.find? (fun p => p.name == name) = usual
    cases usual with
    | none => rfl
    | some p =>
      show p.default.map Value.data = (p.default.map Value.data).map Value.unmarked
      cases p.default <;> rfl
  simp only [argument?, List.getElem?_map, lookup_unmarkedNamed]
  generalize given[(parameters.filter (·.isPositional)).findIdx fun p => p.name == name]? = found
  cases found with
  | some v => rfl
  | none =>
    by_cases hnameless : parameters.any fun p => p.name == name && p.kind == .positional
    · rw [if_pos hnameless, if_pos hnameless]
      exact husual
    · rw [if_neg hnameless, if_neg hnameless]
      cases named.lookup name with
      | none => exact husual
      | some v => rfl

theorem firstArgument?_unmarked :
    firstArgument? Value.data parameters (given.map Value.unmarked) (unmarkedNamed named) =
      (firstArgument? Value.data parameters given named).map Value.unmarked := by
  cases parameters with
  | nil => rfl
  | cons p rest =>
    simp only [firstArgument?, argument?_unmarked, List.head?_map]
    cases p.kind <;> rfl

end Signature

end UtilityClass
