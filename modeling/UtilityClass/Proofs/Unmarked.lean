import Mathlib.Tactic.Simps.Basic
import UtilityClass.Class.Abstract
import UtilityClass.Introspector.Reflection
import UtilityClass.Proofs.Results

/-!
# Classes without their marks

Two kinds of marks say something about a class to whoever verifies it: the attribute that declares a
constructor private, which is put on the function or on the wrapper around it, and the entry that
declares a class final. Here they are taken away: the private marks of all functions, and the final
flag of at most one class. A given entry takes the place of the flag, in front of all others,
whether there was a flag or not.

Nothing but the verification looks at the marks, so whatever is read of the classes is the same
without them. A private mark is never in the way. The flag is an entry of a namespace, so for a
lookup of a name that is computed it matters that the name is another one.

## Main definitions

* `Function.unmarked`, `Member.unmarked`, `Value.unmarked` : without private marks
* `Hierarchy.unmarked` : the classes without private marks, one of them with another flag

## Main results

* `Hierarchy.resolve?_unmarked`, `Hierarchy.read?_unmarked` : what lookups find
-/

namespace UtilityClass

/-! ## Taking marks off -/

/-- The function without its mark. -/
def Function.unmarked (f : Function) : Function := { f with marker := none }

/-- The member without marks, on a function or on the wrapper around it. -/
def Member.unmarked : Member → Member
  | .function f => .function f.unmarked
  | .static f _ => .static f.unmarked none
  | .classwise f _ => .classwise f.unmarked none
  | .callable f => .callable f.unmarked
  | m => m

/-- The entries of a namespace with their members unmarked. -/
def unmarkedEntries (entries : List (String × Member)) : List (String × Member) :=
  entries.map fun (name, m) => (name, m.unmarked)

/-- The plan with its functions unmarked. -/
def MemberPlan.unmarked (p : MemberPlan) : MemberPlan :=
  { p with
    creator := p.creator.unmarked
    declaredCreator := p.declaredCreator.map Member.unmarked
    order := p.order.map Member.unmarked }

/-- The namespace of a class under way with its members unmarked. -/
def Blueprint.unmarked (b : Blueprint) : Blueprint :=
  { b with entries := unmarkedEntries b.entries, plan := b.plan.map MemberPlan.unmarked }

/-- The value with the members unmarked that it holds. -/
def Value.unmarked : Value → Value
  | .blueprint b => .blueprint b.unmarked
  | v => v

/-- A class, and what is put in the place of its final flag. -/
abbrev Flag : Type := ClassId × Member

namespace Hierarchy

/-- The namespace of a class with its members unmarked, and with another flag if it is the one class
that is given one. -/
def bareEntries (x : Option Flag) (c : ClassId) (entries : List (String × Member)) :
    List (String × Member) :=
  match x with
  | none => unmarkedEntries entries
  | some (d, flag) =>
    if d = c then
      ("__final__", flag) :: unmarkedEntries (entries.filter fun entry => entry.1 != "__final__")
    else unmarkedEntries entries

/-- What is known of a class, with what is left of its namespace. -/
def bare (x : Option Flag) (c : ClassId) (i : ClassInfo) : ClassInfo :=
  { i with members := bareEntries x c i.members }

/-- The classes without private marks, and one class with another flag. -/
@[simps! declared info_name info_qualname info_module info_runtimeName info_bases info_order
  info_primary info_metaclass info_isBarred info_enumeration info_answers info_creator
  info_immutable info_subclassable info_solid info_takesAttributes info_takesReferences]
def unmarked (h : Hierarchy) (x : Option Flag) : Hierarchy :=
  { h with info := fun c => bare x c (h.info c) }

end Hierarchy

/-! ## Members -/

namespace Member

@[simp] theorem unmarked_data (value : Json) : (data value).unmarked = data value := rfl

@[simp] theorem unmarked_part (isAbstract : Bool) : (part isAbstract).unmarked = part isAbstract :=
  rfl

@[simp] theorem unmarked_unmarked (m : Member) : m.unmarked.unmarked = m.unmarked := by
  cases m <;> rfl

@[simp] theorem isRoot_unmarked (name : String) (m : Member) :
    m.unmarked.isRoot name = m.isRoot name := by
  cases m <;> rfl

@[simp] theorem truthy_unmarked (m : Member) : m.unmarked.truthy = m.truthy := by
  cases m <;> rfl

@[simp] theorem isAbstract_unmarked (m : Member) : m.unmarked.isAbstract = m.isAbstract := by
  cases m <;> rfl

@[simp] theorem isField_unmarked (m : Member) : m.unmarked.isField = m.isField := by
  cases m <;> rfl

@[simp] theorem kind_unmarked (m : Member) : m.unmarked.kind = m.kind := by
  cases m <;> rfl

@[simp] theorem tryCall_unmarked (m : Member) (given : Nat) :
    m.unmarked.tryCall given = m.tryCall given := by
  cases m <;> rfl

@[simp] theorem isFunction_unmarked (m : Member) : m.unmarked.isFunction = m.isFunction := by
  cases m <;> rfl

@[simp] theorem takesObject_unmarked (m : Member) : m.unmarked.takesObject = m.takesObject := by
  cases m <;> rfl

@[simp] theorem textOrKind_unmarked (m : Member) : m.unmarked.textOrKind = m.textOrKind := by
  cases m <;> rfl

@[simp] theorem unmarked_eq_data_iff {m : Member} {value : Json} :
    m.unmarked = .data value ↔ m = .data value := by
  cases m <;> simp [unmarked]

@[simp] theorem unmarked_eq_native_iff {m : Member} {n : Native} :
    m.unmarked = .native n ↔ m = .native n := by
  cases m <;> simp [unmarked]

end Member

/-! ## Entries -/

theorem lookup_unmarkedEntries (name : String) (entries : List (String × Member)) :
    (unmarkedEntries entries).lookup name = (entries.lookup name).map Member.unmarked := by
  induction entries with
  | nil => rfl
  | cons entry entries ih =>
    rw [unmarkedEntries, List.map_cons, ← unmarkedEntries, List.lookup_cons, List.lookup_cons, ih]
    cases name == entry.1 <;> rfl

theorem unmarkedEntries_filter (p : String → Bool) (entries : List (String × Member)) :
    unmarkedEntries (entries.filter fun entry => p entry.1) =
      (unmarkedEntries entries).filter fun entry => p entry.1 := by
  rw [unmarkedEntries, unmarkedEntries, List.filter_map]
  rfl

theorem putEntry_unmarkedEntries (name : String) (m : Member) (entries : List (String × Member)) :
    ClassInfo.putEntry name m.unmarked (unmarkedEntries entries) =
      unmarkedEntries (ClassInfo.putEntry name m entries) := by
  induction entries with
  | nil => rfl
  | cons entry entries ih =>
    show (if entry.1 = name then _ else _) = unmarkedEntries (if entry.1 = name then _ else _)
    split
    · rfl
    · exact congrArg _ ih

namespace Hierarchy

variable {x : Option Flag} {c : ClassId} {name : String}

theorem bareEntries_of_ne (hx : x.map Prod.fst ≠ some c) (entries : List (String × Member)) :
    bareEntries x c entries = unmarkedEntries entries := by
  rcases x with _ | ⟨d, flag⟩
  · rfl
  · exact if_neg fun hd => hx (congrArg some hd)

theorem bareEntries_self (flag : Member) (entries : List (String × Member)) :
    bareEntries (some (c, flag)) c entries = ("__final__", flag) ::
      unmarkedEntries (entries.filter fun entry => entry.1 != "__final__") :=
  if_pos rfl

/-- The namespace is unmarked as it is, unless it is that of the class with another flag. -/
theorem bareEntries_cases (x : Option Flag) (c : ClassId) :
    (∀ entries, bareEntries x c entries = unmarkedEntries entries) ∨
      ∃ flag, x = some (c, flag) := by
  by_cases hx : x.map Prod.fst = some c
  · obtain ⟨⟨d, flag⟩, rfl, rfl⟩ := Option.map_eq_some_iff.1 hx
    exact .inr ⟨flag, rfl⟩
  · exact .inl (bareEntries_of_ne hx)

theorem lookup_bareEntries (hn : x.map Prod.fst = some c → name ≠ "__final__")
    (entries : List (String × Member)) :
    (bareEntries x c entries).lookup name = (entries.lookup name).map Member.unmarked := by
  obtain hbare | ⟨flag, rfl⟩ := bareEntries_cases x c
  · rw [hbare, lookup_unmarkedEntries]
  · have hother : (name == "__final__") = false := by simpa using hn rfl
    rw [bareEntries_self, List.lookup_cons, hother]
    dsimp only
    rw [lookup_unmarkedEntries]
    congr 1
    induction entries with
    | nil => rfl
    | cons entry entries ih =>
      rw [List.filter_cons]
      split
      · rw [List.lookup_cons, List.lookup_cons, ih]
      · rename_i hdropped
        have hfinal : entry.1 = "__final__" := by simpa using hdropped
        rw [ih, List.lookup_cons, hfinal, hother]

theorem putEntry_bareEntries (hn : x.map Prod.fst = some c → name ≠ "__final__") (m : Member)
    (entries : List (String × Member)) :
    ClassInfo.putEntry name m.unmarked (bareEntries x c entries) =
      bareEntries x c (ClassInfo.putEntry name m entries) := by
  obtain hbare | ⟨flag, rfl⟩ := bareEntries_cases x c
  · rw [hbare, hbare, putEntry_unmarkedEntries]
  · have hname : name ≠ "__final__" := hn rfl
    rw [bareEntries_self, bareEntries_self, ClassInfo.putEntry, if_neg hname.symm,
      putEntry_unmarkedEntries]
    congr 2
    induction entries with
    | nil => simp [ClassInfo.putEntry, hname]
    | cons entry entries ih =>
      obtain ⟨key, old⟩ := entry
      by_cases hk : key = name
      · subst hk
        simp [ClassInfo.putEntry, hname]
      · by_cases hf : key = "__final__"
        · simp [ClassInfo.putEntry, hf, ← ih, hname.symm]
        · simp [ClassInfo.putEntry, hk, hf, ← ih]

theorem isSome_of_map (hx : x.map Prod.fst = some c) : x.isSome := by
  obtain ⟨flag, rfl, -⟩ := Option.map_eq_some_iff.1 hx
  rfl

/-- Another flag is put in the place of the one that was given. -/
theorem putEntry_flag_bareEntries (flag m : Member) (entries : List (String × Member)) :
    ClassInfo.putEntry "__final__" m.unmarked (bareEntries (some (c, flag)) c entries) =
      bareEntries (some (c, m.unmarked)) c (ClassInfo.putEntry "__final__" m entries) := by
  rw [bareEntries_self, bareEntries_self, ClassInfo.putEntry, if_pos rfl]
  congr 2
  induction entries with
  | nil => simp [ClassInfo.putEntry]
  | cons entry entries ih =>
    obtain ⟨key, old⟩ := entry
    by_cases hf : key = "__final__"
    · simp [ClassInfo.putEntry, hf]
    · simp [ClassInfo.putEntry, hf, ih]

theorem bareEntries_filter (p : String → Bool) (hp : x.map Prod.fst = some c → p "__final__")
    (entries : List (String × Member)) :
    bareEntries x c (entries.filter fun entry => p entry.1) =
      (bareEntries x c entries).filter fun entry => p entry.1 := by
  obtain hbare | ⟨flag, rfl⟩ := bareEntries_cases x c
  · rw [hbare, hbare, unmarkedEntries_filter]
  · rw [bareEntries_self, bareEntries_self, List.filter_cons, if_pos (hp rfl),
      ← unmarkedEntries_filter, List.filter_filter, List.filter_filter]
    simp only [Bool.and_comm]

variable (h : Hierarchy)

/-! ## Lookups -/

theorem own?_unmarked (name : String) (hn : x.map Prod.fst = some c → name ≠ "__final__") :
    (h.unmarked x).own? c name = (h.own? c name).map Member.unmarked :=
  lookup_bareEntries hn _

theorem firstIn?_unmarked (name : String) (hn : x.isSome → name ≠ "__final__")
    (order : List ClassId) :
    (h.unmarked x).firstIn? name order =
      (h.firstIn? name order).map fun found => (found.1, found.2.unmarked) := by
  induction order with
  | nil => rfl
  | cons c order ih =>
    rw [firstIn?_cons, firstIn?_cons, ih, own?_unmarked h name fun hx => hn (isSome_of_map hx)]
    cases h.own? c name <;> rfl

@[simp] theorem resolve?_unmarked (name : String) (hn : x.isSome → name ≠ "__final__") :
    (h.unmarked x).resolve? c name =
      (h.resolve? c name).map fun found => (found.1, found.2.unmarked) :=
  firstIn?_unmarked h name hn _

@[simp] theorem resolveAfter?_unmarked (after : ClassId) (name : String)
    (hn : x.isSome → name ≠ "__final__") :
    (h.unmarked x).resolveAfter? c after name =
      (h.resolveAfter? c after name).map fun found => (found.1, found.2.unmarked) :=
  firstIn?_unmarked h name hn _

@[simp] theorem field?_unmarked (name : String) (hn : x.isSome → name ≠ "__final__") :
    (h.unmarked x).field? c name = h.field? c name := by
  unfold field?
  rw [resolve?_unmarked h _ hn]
  rw [unmarked_info_metaclass]
  rcases h.resolve? (h.info c).metaclass name with _ | ⟨d, m⟩
  · rfl
  · cases m <;> rfl

@[simp] theorem derives_unmarked (d : ClassId) :
    (h.unmarked x).derives c d = h.derives c d := rfl

@[simp] theorem isException_unmarked : (h.unmarked x).isException c = h.isException c := rfl

@[simp] theorem isEnumeration_unmarked :
    (h.unmarked x).isEnumeration c = h.isEnumeration c := rfl

@[simp] theorem tracksAbstract_unmarked :
    (h.unmarked x).tracksAbstract c = h.tracksAbstract c := rfl

@[simp] theorem metaclassName_unmarked :
    (h.unmarked x).metaclassName c = h.metaclassName c := rfl

@[simp] theorem moduleOf_unmarked : (h.unmarked x).moduleOf c = h.moduleOf c := by
  have hown := own?_unmarked (x := x) (c := c) h "__module__" (by simp)
  unfold own? at hown
  simp only [moduleOf, hown, unmarked_info_immutable, unmarked_info_module, unmarked_info_name]
  rcases (h.info c).own? "__module__" with _ | m
  · rfl
  · cases m <;> rfl

@[simp] theorem plainLiteral_unmarked : (h.unmarked x).plainLiteral c = h.plainLiteral c := by
  have hown := own?_unmarked (x := x) (c := c) h "__module__" (by simp)
  unfold own? at hown
  simp only [plainLiteral, hown, moduleOf_unmarked, unmarked_info_runtimeName,
    unmarked_info_qualname]
  rcases (h.info c).own? "__module__" with _ | m
  · rfl
  · rcases h.moduleOf c with _ | value
    · cases m <;> rfl
    · cases m <;> cases value <;> rfl

end Hierarchy

/-! ## Values -/

namespace Value

variable (h : Hierarchy) (x : Option Flag) (v : Value)

@[simp] theorem unmarked_data (value : Json) : (data value).unmarked = data value := rfl

@[simp] theorem unmarked_object (i : Instance) : (object i).unmarked = object i := rfl

@[simp] theorem unmarked_ofClass (c : ClassId) : (ofClass c).unmarked = ofClass c := rfl

@[simp] theorem unmarked_tuple (items : List Subject) : (tuple items).unmarked = tuple items := rfl

@[simp] theorem unmarked_blueprint (b : Blueprint) :
    (blueprint b).unmarked = blueprint b.unmarked := rfl

@[simp] theorem unmarked_null : null.unmarked = null := rfl

@[simp] theorem type_unmarked : v.unmarked.type h = v.type h := by cases v <;> rfl

@[simp] theorem type_unmarkedClasses : v.type (h.unmarked x) = v.type h := by cases v <;> rfl

@[simp] theorem kind_unmarked : v.unmarked.kind h = v.kind h := by cases v <;> rfl

@[simp] theorem kind_unmarkedClasses : v.kind (h.unmarked x) = v.kind h := by cases v <;> rfl

@[simp] theorem isOf_unmarked (c : ClassId) : v.unmarked.isOf h c = v.isOf h c := by
  cases v <;> rfl

@[simp] theorem isOf_unmarkedClasses (c : ClassId) : v.isOf (h.unmarked x) c = v.isOf h c := by
  cases v <;> rfl

@[simp] theorem content?_unmarked : v.unmarked.content? = v.content? := by cases v <;> rfl

@[simp] theorem isNull_unmarked : v.unmarked.isNull = v.isNull := by cases v <;> rfl

@[simp] theorem subject_unmarked : v.unmarked.subject = v.subject := by cases v <;> rfl

end Value

namespace Member

variable (m : Member) (v : Value) (c : ClassId)

@[simp] theorem onObject_unmarked :
    m.unmarked.onObject v c = ((m.onObject v c).1.unmarked, (m.onObject v c).2) := by
  rcases m with _ | _ | _ | _ | _ | n | _ | _ | _
  case native => cases n <;> rfl
  all_goals rfl

@[simp] theorem onObject_unmarkedReceiver :
    m.onObject v.unmarked c = ((m.onObject v c).1, (m.onObject v c).2.map Value.unmarked) := by
  rcases m with _ | _ | _ | _ | _ | n | _ | _ | _
  case native => cases n <;> rfl
  all_goals rfl

@[simp] theorem onClass_unmarked :
    m.unmarked.onClass c = ((m.onClass c).1.unmarked, (m.onClass c).2) := by
  cases m <;> rfl

/-- A class in front is no value that holds members. -/
@[simp] theorem map_unmarked_onClass :
    (m.onClass c).2.map Value.unmarked = (m.onClass c).2 := by
  cases m <;> rfl

@[simp] theorem map_unmarked_onObject_ofClass (d : ClassId) :
    (m.onObject (.ofClass d) c).2.map Value.unmarked = (m.onObject (.ofClass d) c).2 := by
  rcases m with _ | _ | _ | _ | _ | n | _ | _ | _
  case native => cases n <;> rfl
  all_goals rfl

end Member

namespace Hierarchy

variable {x : Option Flag} {c : ClassId} {name : String} (h : Hierarchy)

/-! ## Hooks -/

@[simp] theorem hook?_unmarked (name : String) (hn : x.isSome → name ≠ "__final__") :
    (h.unmarked x).hook? c name = (h.hook? c name).map Member.unmarked := by
  simp only [hook?, unmarked_info_metaclass, resolve?_unmarked h _ hn]
  rcases h.resolve? (h.info c).metaclass name with _ | ⟨_ | _, m⟩ <;> rfl

@[simp] theorem tryHook_unmarked (hook : Member) (given : Nat) :
    (h.unmarked x).tryHook c hook.unmarked given = h.tryHook c hook given := by
  simp [tryHook]

@[simp] theorem readOn?_unmarkedValue (v : Value) (name : String) :
    h.readOn? v.unmarked name = h.readOn? v name := by
  simp only [readOn?, Value.type_unmarked, Member.onObject_unmarkedReceiver, List.length_map]

@[simp] theorem readOn?_unmarked (v : Value) (name : String)
    (hn : x.isSome → name ≠ "__final__") :
    (h.unmarked x).readOn? v name =
      (h.readOn? v name).map (Option.map fun found => (found.1, found.2.unmarked)) := by
  have hplace : ∀ found : Option (ClassId × Member),
      ((found.map fun f => (f.1, f.2.unmarked)).filter fun f => !f.2.isPlace) =
        (found.filter fun f => !f.2.isPlace).map fun f => (f.1, f.2.unmarked) := by
    rintro (_ | ⟨d, m⟩)
    · rfl
    · cases m <;> rfl
  simp only [readOn?, Value.type_unmarkedClasses, resolve?_unmarked h _ hn]
  rw [resolve?_unmarked h _ (by simp), resolve?_unmarked h _ (by simp), hplace]
  generalize (h.resolve? (v.type h) name).filter _ = found
  -- only a declared class answers itself, and then what it finds is no member
  have hasked (hook : Member) :
      ((fun _ => some (v.type h, Member.data .null)) <$> (hook.onObject v (v.type h)).1.tryCall
          ((hook.onObject v (v.type h)).2.length + 1) : Except Fault _) =
        Except.map (Option.map fun found => (found.1, found.2.unmarked))
          ((fun _ => some (v.type h, Member.data .null)) <$> (hook.onObject v (v.type h)).1.tryCall
            ((hook.onObject v (v.type h)).2.length + 1)) := by
    cases (hook.onObject v (v.type h)).1.tryCall _ <;> rfl
  rcases h.resolve? (v.type h) "__getattribute__" with _ | ⟨_ | _, hook⟩
  case some.declared => simpa using hasked hook
  all_goals
    rcases found with _ | found
    · rcases h.resolve? (v.type h) "__getattr__" with _ | ⟨_ | _, hook⟩
      case some.declared => simpa using hasked hook
      all_goals rfl
    · rfl

theorem askEqual_unmarked (list : List ClassId) :
    (h.unmarked x).askEqual list = h.askEqual list := by
  induction list with
  | nil => rfl
  | cons c rest ih =>
    rw [askEqual, askEqual, hook?_unmarked h _ (by simp), ih]
    rcases h.hook? c "__eq__" with _ | hook
    · rfl
    · simp

@[simp] theorem sameClass_unmarked (d : ClassId) :
    (h.unmarked x).sameClass c d = h.sameClass c d := by
  simp only [sameClass, askEqual_unmarked, unmarked_info_metaclass, derives_unmarked]

@[simp] theorem isAmong_unmarked (list : List ClassId) :
    (h.unmarked x).isAmong c list = h.isAmong c list := by
  induction list with
  | nil => rfl
  | cons d rest ih => rw [isAmong, isAmong, sameClass_unmarked, ih]

@[simp] theorem checkHashable_unmarked : (h.unmarked x).checkHashable c = h.checkHashable c := by
  rw [checkHashable, checkHashable, hook?_unmarked h _ (by simp), metaclassName_unmarked]
  rcases h.hook? c "__hash__" with _ | hook
  · rfl
  · cases hook
    case data value => rfl
    all_goals exact congrArg (· >>= _) (tryHook_unmarked h _ 0)

@[simp] theorem isKey_unmarked (keys : List ClassId) :
    (h.unmarked x).isKey c keys = h.isKey c keys := by
  simp only [isKey, checkHashable_unmarked, askEqual_unmarked, hook?_unmarked h "__eq__" (by simp)]
  rcases h.hook? c "__eq__" with _ | hook <;> rfl

end Hierarchy

/-! ## Attributes of classes -/

namespace ClassAttribute

/-- The attribute with its member unmarked. -/
def unmarked (a : ClassAttribute) : ClassAttribute := { a with member := a.member.unmarked }

variable (a : ClassAttribute)

@[simp] theorem member_unmarked : a.unmarked.member = a.member.unmarked := rfl

@[simp] theorem isBound_unmarked : a.unmarked.isBound = a.isBound := rfl

@[simp] theorem isField_unmarked : a.unmarked.isField = a.isField := by
  simp [isField]

@[simp] theorem truthy_unmarked : a.unmarked.truthy = a.truthy := by
  simp [truthy]

@[simp] theorem kind_unmarked : a.unmarked.kind = a.kind := by
  obtain ⟨m, bound⟩ := a
  cases bound <;> cases m <;> rfl

variable {x : Option Flag} (h : Hierarchy) (c : ClassId)

@[simp] theorem on_unmarked :
    a.unmarked.on (h.unmarked x) c = ((a.on h c).1.unmarked, (a.on h c).2) := by
  obtain ⟨m, _ | _⟩ := a
  · exact m.onClass_unmarked c
  · exact m.onObject_unmarked (.ofClass c) (h.info c).metaclass

@[simp] theorem map_unmarked_on : (a.on h c).2.map Value.unmarked = (a.on h c).2 := by
  obtain ⟨m, _ | _⟩ := a
  · exact m.map_unmarked_onClass c
  · exact m.map_unmarked_onObject_ofClass _ c

@[simp] theorem tryCall_unmarked (given : Nat) :
    a.unmarked.tryCall (h.unmarked x) c given = a.tryCall h c given := by
  simp [tryCall]

end ClassAttribute

namespace Hierarchy

variable {x : Option Flag} {c : ClassId} {name : String} (h : Hierarchy)

@[simp] theorem hasField_unmarked : (h.unmarked x).hasField c name = h.hasField c name := by
  simp only [hasField, moduleOf_unmarked]
  by_cases hn : name = abstractMethodsName
  · subst hn
    rw [if_pos rfl, if_pos rfl, own?_unmarked h _ (by simp [abstractMethodsName])]
    cases h.own? c abstractMethodsName <;> simp
  · rw [if_neg hn, if_neg hn]

@[simp] theorem lookUp?_unmarked (name : String) (hn : x.isSome → name ≠ "__final__") :
    (h.unmarked x).lookUp? c name = (h.lookUp? c name).map ClassAttribute.unmarked := by
  simp only [lookUp?, field?_unmarked h _ hn, hasField_unmarked, resolve?_unmarked h _ hn,
    unmarked_info_metaclass]
  cases hf : h.field? c name with
  | some m =>
    obtain ⟨field, rfl⟩ : ∃ field, m = .native (.field field) := by
      unfold field? at hf
      split at hf
      · exact ⟨_, (Option.some.inj hf).symm⟩
      · cases hf
    cases h.hasField c name <;> rfl
  | none =>
    rcases h.resolve? c name with _ | ⟨d, m⟩
    · cases h.resolve? (h.info c).metaclass name <;> rfl
    · rfl

@[simp] theorem keptEntry?_unmarked :
    keptEntry? (h.unmarked x) c name =
      Except.map (Option.map ClassAttribute.unmarked) ( keptEntry? h c name) := by
  simp only [ keptEntry?, lookUp?_unmarked h memberMapName (by simp [memberMapName])]
  rcases h.lookUp? c memberMapName with _ | ⟨m, bound⟩
  · rfl
  · cases m
    case data kept =>
      by_cases hd : Underscored.isDouble name
      · simp only [Option.map_some, hd]
        rfl
      · cases kept
        case obj fields =>
          simp only [Option.map_some, hd]
          show Except.ok _ = Except.ok _
          rw [Option.map_map]
          rfl
        all_goals
          simp only [Option.map_some, hd]
          rfl
    all_goals rfl

@[simp] theorem read?_unmarked (name : String) (hn : x.isSome → name ≠ "__final__") :
    (h.unmarked x).read? c name = (h.read? c name).map (Option.map ClassAttribute.unmarked) := by
  have hanswer (hook : Member) :
      ((h.unmarked x).tryHook c hook.unmarked 1).map (fun _ => some ClassAttribute.nothing) =
        ((h.tryHook c hook 1).map fun _ => some ClassAttribute.nothing).map
          (Option.map ClassAttribute.unmarked) := by
    rw [tryHook_unmarked]
    cases h.tryHook c hook 1 <;> rfl
  simp only [read?, hook?_unmarked h "__getattribute__" (by simp),
    lookUp?_unmarked h _ hn, unmarked_info_metaclass,
    resolve?_unmarked h "__getattr__" (by simp)]
  rcases h.hook? c "__getattribute__" with _ | hook
  · rcases h.lookUp? c name with _ | a
    · rcases h.resolve? (h.info c).metaclass "__getattr__" with _ | ⟨_ | _, hook⟩
      · rfl
      · exact keptEntry?_unmarked h
      · exact hanswer hook
    · rfl
  · exact hanswer hook

@[simp] theorem read_unmarked (name : String) (hn : x.isSome → name ≠ "__final__") :
    (h.unmarked x).read c name = (h.read c name).map ClassAttribute.unmarked := by
  simp only [read, read?_unmarked h _ hn, unmarked_info_metaclass, unmarked_info_runtimeName,
    resolve?_unmarked h "__getattr__" (by simp)]
  rcases h.read? c name with e | _ | a
  · rfl
  · rcases h.resolve? (h.info c).metaclass "__getattr__" with _ | ⟨l | _, hook⟩
    · rfl
    · cases l <;> rfl
    · rfl
  · rfl

/-! ## Names, flags and lists -/

@[simp] theorem readTruth_unmarked (name : String) (hn : x.isSome → name ≠ "__final__") :
    (h.unmarked x).readTruth c name = h.readTruth c name := by
  simp only [readTruth, read?_unmarked h _ hn]
  rcases h.read? c name with e | _ | a
  · rfl
  · rfl
  · exact congrArg Except.ok a.truthy_unmarked

@[simp] theorem nameAttribute?_unmarked (name : String) (hn : x.isSome → name ≠ "__final__") :
    (h.unmarked x).nameAttribute? c name = h.nameAttribute? c name := by
  simp only [nameAttribute?, read?_unmarked h _ hn, moduleOf_unmarked, plainLiteral_unmarked]
  rcases h.read? c name with e | _ | ⟨m, bound⟩
  · rfl
  · rfl
  · cases m <;> cases bound <;> rfl

@[simp] theorem shortName_unmarked : (h.unmarked x).shortName c = h.shortName c := by
  simp [shortName]

@[simp] theorem longName_unmarked : (h.unmarked x).longName c = h.longName c := by
  simp [longName]

@[simp] theorem nameOf_unmarked : (h.unmarked x).nameOf c = h.nameOf c := by
  simp [nameOf]

@[simp] theorem nameText_unmarked : (h.unmarked x).nameText c = h.nameText c := by
  simp [nameText]

@[simp] theorem hasFlag_unmarked (flag : Int) (isCase : Bool) :
    (h.unmarked x).hasFlag c flag isCase = h.hasFlag c flag isCase := by
  simp only [hasFlag, read_unmarked h "__flags__" (by simp)]
  rcases h.read c "__flags__" with e | ⟨m, bound⟩
  · rfl
  · cases m <;> cases bound <;> rfl

@[simp] theorem readAll_unmarked (name : String) (own : List ClassId)
    (hn : x.isSome → name ≠ "__final__") :
    (h.unmarked x).readAll c name own = h.readAll c name own := by
  simp only [readAll, read_unmarked h _ hn]
  rcases h.read c name with e | ⟨m, bound⟩
  · rfl
  · cases m <;> cases bound <;> rfl

@[simp] theorem readBases_unmarked : (h.unmarked x).readBases c = h.readBases c :=
  readAll_unmarked h "__bases__" _ (by simp)

@[simp] theorem readOrder_unmarked : (h.unmarked x).readOrder c = h.readOrder c :=
  readAll_unmarked h "__mro__" _ (by simp)

@[simp] theorem readContains_unmarked (name : String) (own : List ClassId) (wanted : ClassId)
    (hn : x.isSome → name ≠ "__final__") :
    (h.unmarked x).readContains c name own wanted = h.readContains c name own wanted := by
  unfold readContains
  rw [read_unmarked h _ hn]
  rcases h.read c name with e | ⟨m, bound⟩
  · rfl
  · show (if ClassAttribute.isField (ClassAttribute.unmarked ⟨m, bound⟩) then _ else _) = _
    rw [isAmong_unmarked, metaclassName_unmarked]
    cases m <;> cases bound <;> rfl

end Hierarchy

/-! ## Namespaces -/

/-- What a class shows as its namespace, without marks. -/
def Namespace.unmarked (x : Option Flag) (c : ClassId) : Namespace → Namespace
  | .own entries => .own (Hierarchy.bareEntries x c entries)
  | space => space

namespace Namespace

variable {x : Option Flag} {c : ClassId} (space : Namespace)

@[simp] theorem contains_unmarked (name : String)
    (hn : x.map Prod.fst = some c → name ≠ "__final__") :
    (space.unmarked x c).contains name = space.contains name := by
  cases space with
  | own entries =>
    show Except.ok _ = Except.ok _
    rw [Hierarchy.lookup_bareEntries hn, Option.isSome_map]
  | _ => rfl

@[simp] theorem get?_unmarked (name : String) (hn : x.map Prod.fst = some c → name ≠ "__final__") :
    (space.unmarked x c).get? name = (space.get? name).map (Option.map Member.unmarked) := by
  cases space with
  | own entries => exact congrArg Except.ok (Hierarchy.lookup_bareEntries hn entries)
  | data value =>
    cases value
    case obj fields =>
      show Except.ok _ = Except.ok _
      rw [Option.map_map]
      rfl
    all_goals rfl
  | other => rfl

@[simp] theorem entry_unmarked (name : String) (hn : x.map Prod.fst = some c → name ≠ "__final__") :
    (space.unmarked x c).entry name = (space.entry name).map Member.unmarked := by
  cases space with
  | own entries =>
    show Except.ok _ = Except.ok _
    rw [Hierarchy.lookup_bareEntries hn]
    cases entries.lookup name <;> rfl
  | data value => cases value <;> rfl
  | other => rfl

end Namespace

namespace Hierarchy

variable {x : Option Flag} {c : ClassId} {name : String} (h : Hierarchy)

@[simp] theorem namespaceOf_unmarked :
    (h.unmarked x).namespaceOf c = (h.namespaceOf c).map (Namespace.unmarked x c) := by
  simp only [namespaceOf, read_unmarked h "__dict__" (by simp)]
  rcases h.read c "__dict__" with e | ⟨m, bound⟩
  · rfl
  · cases m
    case native n => cases bound <;> cases n <;> rfl
    all_goals cases bound <;> rfl

/-- The namespace that an attribute of a class with some entries shows. -/
def shownAs (entries : List (String × Member)) (a : ClassAttribute) : Except Fault Namespace := do
  if a.isField then return .own entries
  match a.member with
  | .data value => return .data value
  | _ => return .other a.kind a.holderKind

@[simp] theorem shownAs_unmarked (entries : List (String × Member)) (a : ClassAttribute) :
    shownAs entries a.unmarked = shownAs entries a := by
  obtain ⟨m, isBound⟩ := a
  cases m
  case native n => cases isBound <;> cases n <;> rfl
  all_goals cases isBound <;> rfl

/-- Which namespace a class shows is read of it. Where it is its own one, the entries are those that
it has. -/
theorem namespaceOf_of_read {g h : Hierarchy}
    (hr : (g.read c "__dict__").map ClassAttribute.unmarked =
      (h.read c "__dict__").map ClassAttribute.unmarked) :
    g.namespaceOf c = (h.namespaceOf c).map fun
      | .own _ => .own (g.info c).members
      | space => space := by
  have hshown (h : Hierarchy) : h.namespaceOf c =
      (h.read c "__dict__").map ClassAttribute.unmarked >>= shownAs (h.info c).members := by
    rw [Result.bind_map]
    exact bind_congr fun a => (shownAs_unmarked _ a).symm
  rw [hshown g, hshown h, hr, Result.map_bind]
  refine bind_congr fun a => ?_
  simp only [shownAs]
  split
  · rfl
  · split <;> rfl

theorem eq_members_of_namespaceOf {h : Hierarchy} {entries : List (String × Member)}
    (hs : h.namespaceOf c = .ok (.own entries)) : entries = (h.info c).members := by
  have hself := namespaceOf_of_read (g := h) (h := h) (c := c) rfl
  rw [hs] at hself
  cases hself
  rfl

/-! ## How classes are shown -/

@[simp] theorem enumerationLiteral_unmarked :
    (h.unmarked x).enumerationLiteral c = h.enumerationLiteral c := by
  rw [enumerationLiteral, shortName_unmarked]
  rfl

@[simp] theorem literal_unmarked : (h.unmarked x).literal c = h.literal c := by
  simp only [literal, resolve?_unmarked h "__repr__" (by simp), unmarked_info_metaclass,
    enumerationLiteral_unmarked, plainLiteral_unmarked]
  rcases h.resolve? (h.info c).metaclass "__repr__" with _ | ⟨l | _, hook⟩
  · rfl
  · cases l <;> rfl
  · exact congrArg (· >>= _) (tryHook_unmarked h hook 0)

end Hierarchy

@[simp] theorem Subject.name_unmarked (h : Hierarchy) (x : Option Flag) (s : Subject) :
    s.name (h.unmarked x) = s.name h := by
  cases s with
  | ofClass c => exact h.nameOf_unmarked
  | plain value => rfl

@[simp] theorem Subject.literal_unmarked (h : Hierarchy) (x : Option Flag) (s : Subject) :
    s.literal (h.unmarked x) = s.literal h := by
  cases s with
  | ofClass c => exact h.literal_unmarked
  | plain value => rfl

@[simp] theorem Instance.literal_unmarked (h : Hierarchy) (x : Option Flag) (i : Instance) :
    i.literal (h.unmarked x) = i.literal h := by
  simp only [Instance.literal, Hierarchy.resolve?_unmarked h "__repr__" (by simp),
    Hierarchy.derives_unmarked]
  rcases h.resolve? i.type "__repr__" with _ | ⟨l | _, hook⟩
  · rfl
  · rfl
  · simp

@[simp] theorem Value.literal_unmarkedClasses (h : Hierarchy) (x : Option Flag) (v : Value) :
    v.literal (h.unmarked x) = v.literal h := by
  cases v with
  | ofClass c => exact h.literal_unmarked
  | object i => exact i.literal_unmarked h x
  | _ => rfl

@[simp] theorem Value.literal_unmarked (h : Hierarchy) (v : Value) :
    v.unmarked.literal h = v.literal h := by
  cases v <;> rfl

namespace Hierarchy

variable {x : Option Flag} {c : ClassId} {name : String} (h : Hierarchy)

/-! ## Abstract methods -/

@[simp] theorem isAbstractMethod_unmarked (name : Json)
    (hn : x.isSome → name ≠ .str "__final__") :
    (h.unmarked x).isAbstractMethod c name = h.isAbstractMethod c name := by
  cases name
  case str name =>
    simp only [isAbstractMethod, read?_unmarked h name fun hx => by simpa using hn hx]
    rcases h.read? c name with e | _ | a
    · rfl
    · rfl
    · exact congrArg Except.ok a.member.isAbstract_unmarked
  all_goals rfl

/-- The names that a member gives as those of abstract methods. -/
theorem namesIn_unmarked (noted : Member) (kind : String) :
    (match noted.unmarked with
      | .data value => value.items
      | _ => .error (.refusal (.notIterable kind))) =
    match noted with
      | .data value => value.items
      | _ => .error (.refusal (.notIterable kind)) := by
  cases noted <;> rfl

@[simp] theorem notedNames_unmarked : (h.unmarked x).notedNames c = h.notedNames c := by
  simp only [notedNames, read?_unmarked h abstractMethodsName (by simp [abstractMethodsName])]
  rcases h.read? c abstractMethodsName with e | _ | a
  · rfl
  · rfl
  · rw [own?_unmarked h abstractMethodsName (by simp [abstractMethodsName])]
    have hnoted : (if a.unmarked.isField then
          ((h.own? c abstractMethodsName).map Member.unmarked).getD (.data (.arr []))
        else a.unmarked.member) =
        (if a.isField then (h.own? c abstractMethodsName).getD (.data (.arr []))
          else a.member).unmarked := by
      rw [ClassAttribute.isField_unmarked]
      split
      · cases h.own? c abstractMethodsName <;> rfl
      · rfl
    refine Eq.trans ?_ (namesIn_unmarked
      (if a.isField then (h.own? c abstractMethodsName).getD (.data (.arr [])) else a.member)
      a.kind)
    rw [← hnoted, ← ClassAttribute.kind_unmarked]
    rfl

theorem ownAbstract_unmarkedEntries (entries : List (String × Member)) :
    ownAbstract (unmarkedEntries entries) = ownAbstract entries := by
  rw [ownAbstract, ownAbstract, unmarkedEntries, List.filter_map, List.map_map]
  show (List.filter (fun entry : String × Member => entry.2.unmarked.isAbstract) _).map _ = _
  simp only [Member.isAbstract_unmarked]
  rfl

/-! ### Where no flag is exchanged -/

theorem isAbstractMethod_unmarkedAll :
    (h.unmarked none).isAbstractMethod c = h.isAbstractMethod c :=
  funext fun name => isAbstractMethod_unmarked h name (by simp)

theorem inheritedAbstract_unmarked (bases : List ClassId) :
    (h.unmarked none).inheritedAbstract c bases = h.inheritedAbstract c bases := by
  induction bases with
  | nil => rfl
  | cons base rest ih =>
    rw [inheritedAbstract, inheritedAbstract, ih, notedNames_unmarked,
      isAbstractMethod_unmarkedAll]

theorem inheritsAbstract_unmarked (bases : List Subject) :
    (h.unmarked none).inheritsAbstract c bases = h.inheritsAbstract c bases := by
  induction bases with
  | nil => rfl
  | cons base rest ih =>
    cases base with
    | plain value => exact ih
    | ofClass base =>
      rw [inheritsAbstract, inheritsAbstract, ih, notedNames_unmarked,
        isAbstractMethod_unmarkedAll]

/-- What is asked of the abstract methods that a class declares itself. -/
theorem bind_ownAbstract_unmarked {β : Type} (k : List Json → Except Fault β) :
    (do k (ownAbstract (← (← (h.unmarked none).namespaceOf c).entries))) =
      (do k (ownAbstract (← (← h.namespaceOf c).entries))) := by
  rw [namespaceOf_unmarked]
  cases h.namespaceOf c with
  | error e => rfl
  | ok space =>
    cases space with
    | own entries =>
      have hbare : bareEntries none c entries = unmarkedEntries entries :=
        bareEntries_of_ne (by simp) entries
      exact congrArg k ((congrArg ownAbstract hbare).trans (ownAbstract_unmarkedEntries entries))
    | data value => rfl
    | other => rfl

@[simp] theorem hasAbstractMethods_unmarked :
    (h.unmarked none).hasAbstractMethods c = h.hasAbstractMethods c := by
  let rest (own : List Json) : Except Fault Bool := do
    if ¬own.isEmpty then return true
    h.inheritsAbstract c (← h.readBases c)
  have hrest := bind_ownAbstract_unmarked h (c := c) rest
  simp only [hasAbstractMethods, hasFlag_unmarked, tracksAbstract_unmarked, readBases_unmarked,
    unmarked_info_isBarred, inheritsAbstract_unmarked h,
    read?_unmarked h abstractMethodsName (by simp [abstractMethodsName])]
  rcases h.hasFlag c barredFlag (h.info c).isBarred with e | _ | _
  · rfl
  · cases h.tracksAbstract c with
    | false => rfl
    | true =>
      rcases h.read? c abstractMethodsName with e | _ | a
      · rfl
      · exact hrest
      · rfl
  · rfl

@[simp] theorem isAbstract_unmarked : (h.unmarked none).isAbstract c = h.isAbstract c := by
  unfold isAbstract
  rw [hasAbstractMethods_unmarked h, readContains_unmarked h "__bases__" _ _ (by simp)]
  rfl

@[simp] theorem abstractMethodsOf_unmarked :
    (h.unmarked none).abstractMethodsOf c = h.abstractMethodsOf c := by
  let rest (g : Hierarchy) (own : List Json) : Except Fault (List String) := do
    if ¬(← g.read c "__bases__").isField then
      .error (typeComplaint "__bases__ is not tuple")
    let inherited ← g.inheritedAbstract c (g.info c).bases
    return ((own ++ inherited).map Json.text).eraseDups.mergeSort
  have hrest : rest (h.unmarked none) = rest h := by
    funext own
    simp only [rest, inheritedAbstract_unmarked h, unmarked_info_bases,
      read_unmarked h "__bases__" (by simp)]
    cases h.read c "__bases__" with
    | error e => rfl
    | ok a =>
      show (if ¬a.unmarked.isField then _ else _) = _
      rw [ClassAttribute.isField_unmarked]
      rfl
  show (do rest (h.unmarked none) (ownAbstract (← (← (h.unmarked none).namespaceOf c).entries))) =
    (do rest h (ownAbstract (← (← h.namespaceOf c).entries)))
  rw [hrest]
  exact bind_ownAbstract_unmarked h (rest h)

@[simp] theorem abstractNames_unmarked : (h.unmarked x).abstractNames c = h.abstractNames c := by
  rw [abstractNames, abstractNames,
    own?_unmarked h abstractMethodsName (by simp [abstractMethodsName])]
  rcases h.own? c abstractMethodsName with _ | m
  · rfl
  · cases m <;> rfl

end Hierarchy

end UtilityClass
