import UtilityClass.Class.Basic

/-!
# Lookups

A member is looked up along the order of a class: the first class of the order that has it in its
own namespace supplies it. Being a subclass is being a member of the order.

## Main definitions

* `Hierarchy.resolve?`, `Hierarchy.resolveAfter?` : lookups
* `Hierarchy.derives` : the subclass relation
* `Hierarchy.plainLiteral` : a class as the runtime shows it
-/

namespace UtilityClass

namespace Member

/-- Whether a member found under a name is the one that every class inherits from the root. -/
def isRoot (name : String) : Member → Bool
  | .native (.create .object) => name == "__new__"
  | .native (.initialise .object) => name == "__init__"
  | _ => false

/-- Whether a member counts as true. -/
def truthy : Member → Bool
  | .data value => value.truthy
  | .enumerated truthy => truthy
  | _ => true

/-- Whether a member is an abstract method. -/
def isAbstract : Member → Bool
  | .function f | .static f _ | .classwise f _ => f.isAbstract
  | .part isAbstract => isAbstract
  | _ => false

/-- Whether a member is an attribute that each class has by being a class. -/
def isField : Member → Bool
  | .native (.field _) => true
  | _ => false

/-- Whether a member is a place for a value. -/
def isPlace : Member → Bool
  | .place _ => true
  | _ => false

/-- The word for the type of a member. -/
def kind : Member → String
  | .data value => value.kind
  | .static _ _ => "staticmethod"
  | .classwise _ _ => "classmethod"
  | .callable _ => "Callable"
  | .place _ => "member_descriptor"
  | .native _ => "builtin_function_or_method"
  | _ => "function"

end Member

namespace Hierarchy

variable (h : Hierarchy)

/-- The own member of a class. -/
def own? (c : ClassId) (name : String) : Option Member := (h.info c).own? name

/-- The first member of a name along a list of classes, with the class that has it. -/
def firstIn? (name : String) (order : List ClassId) : Option (ClassId × Member) :=
  order.findSome? fun c => (h.own? c name).map fun m => (c, m)

/-- The member that a lookup on a class finds, with the class that has it. -/
def resolve? (c : ClassId) (name : String) : Option (ClassId × Member) :=
  h.firstIn? name (h.info c).order

/-- The classes that stand behind a class in the order of another one. -/
def orderAfter (c after : ClassId) : List ClassId :=
  ((h.info c).order.dropWhile fun d => d ≠ after).drop 1

/-- The member that a lookup on an object of class `c` finds when it starts behind `after`. -/
def resolveAfter? (c after : ClassId) (name : String) : Option (ClassId × Member) :=
  h.firstIn? name (h.orderAfter c after)

/-- The attribute that each class has by being a class, unless the metaclass hides it. -/
def field? (c : ClassId) (name : String) : Option Member :=
  match h.resolve? (h.info c).metaclass name with
  | some (_, .native (.field name)) => some (.native (.field name))
  | _ => none

/-- Whether a class is the other one or derives from it. -/
def derives (c ancestor : ClassId) : Bool := (h.info c).order.contains ancestor

/-- Whether objects of the class can be raised and caught like ordinary errors. -/
def isException (c : ClassId) : Bool := h.derives c (.library .exception)

/-- Whether the class is an enumeration: its metaclass makes enumerations. -/
def isEnumeration (c : ClassId) : Bool := h.derives (h.info c).metaclass (.library .enumType)

/-- Whether the metaclass of the class keeps track of abstract methods. -/
def tracksAbstract (c : ClassId) : Bool := h.derives (h.info c).metaclass (.library .abcMeta)

/-- The runtime name of the metaclass. -/
def metaclassName (c : ClassId) : String := (h.info (h.info c).metaclass).runtimeName

/-! ## Names -/

/-- The module that the class itself names. -/
def moduleOf (c : ClassId) : Option Json :=
  let info := h.info c
  match info.own? "__module__" with
  | some (.data value) => some value
  | found =>
    if info.immutable then some info.module else found.map fun _ => .str info.name

/-- A class as the runtime shows it inside a message that tells values apart. -/
def plainLiteral (c : ClassId) : String :=
  let info := h.info c
  match info.own? "__module__", h.moduleOf c with
  | some (.function _), _ => "<class '" ++ info.runtimeName ++ "'>"
  | _, some (.str module) =>
    if module = QualifiedName.implicitModule then "<class '" ++ info.runtimeName ++ "'>"
    else "<class '" ++ module ++ "." ++ info.qualname ++ "'>"
  | _, _ => "<class '" ++ info.runtimeName ++ "'>"

/-! ## Laws of lookups -/

theorem firstIn?_cons (name : String) (c : ClassId) (order : List ClassId) :
    h.firstIn? name (c :: order) =
      ((h.own? c name).map fun m => (c, m)).or (h.firstIn? name order) := by
  cases hm : h.own? c name <;> simp [firstIn?, hm]

/-- What a lookup finds is an own member of a class of the order. -/
theorem own?_of_firstIn? {name : String} {order : List ClassId} {c : ClassId} {m : Member}
    (hf : h.firstIn? name order = some (c, m)) : c ∈ order ∧ h.own? c name = some m := by
  induction order with
  | nil => simp [firstIn?] at hf
  | cons d order ih =>
    rw [firstIn?_cons] at hf
    cases hd : h.own? d name with
    | none =>
      obtain ⟨hc, hm⟩ := ih (by simpa [hd] using hf)
      exact ⟨List.mem_cons_of_mem d hc, hm⟩
    | some m' =>
      obtain ⟨rfl, rfl⟩ : d = c ∧ m' = m := by simpa [hd] using hf
      exact ⟨List.mem_cons_self, hd⟩

end Hierarchy

end UtilityClass
