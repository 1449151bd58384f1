import UtilityClass.Class.Change
import UtilityClass.World

/-!
# The machinery of construction, from outside

The verifier constructs an object of the class that it verifies, and a constructor may in turn
verify a class. Neither has to know how the other one works: what can be asked of the machinery is
gathered in `Machinery`, and the verifier and the bodies of functions are written over an arbitrary
one.

## Main definitions

* `Machinery` : constructing, calling, and the text of exceptions
* `Raised.answer` : an exception as its class and text
* `Hierarchy.bind` : a member as an attribute of a value
-/

namespace UtilityClass

/-- What can be asked of the machinery of construction. -/
structure Machinery where
  /-- Constructs an object of a class without arguments, whatever its metaclass makes of calls. -/
  construct : ClassId → Act Value
  /-- Calls a value. -/
  call : Value → List Value → List (String × Value) → Act Value
  /-- The text of an exception. -/
  textOf : Instance → Act String
  /-- Calls a member with all of its arguments. Besides what the call gives it tells what has become
  of the first argument. -/
  apply : Member → List Value → List (String × Value) → Act (Value × Value)

/-- An exception as the short name that its class gives, and its text. -/
def Raised.answer (m : Machinery) (e : Raised) : Act (Json × String) := do
  let name ← Act.ofExcept ((← Act.classes).shortName e.error.type)
  return (name, ← m.textOf e.error)

/-! ## Attributes of values -/

/-- The class on whose objects alone a native function works, and the name that the function has
there. -/
def Native.home? : Native → Option (LibraryClass × String)
  | .initialise l => some (l, "__init__")
  | .describe l => some (l, "__str__")
  | .update => some (.dict, "update")
  | .pop _ => some (.dict, "pop")
  | .clear _ => some (.dict, "clear")
  | .create _ | .field _ | .length | .iterate => none

/-- Whether a lookup on an object hands the object to the member. -/
def Member.takesObject : Member → Bool
  | .function _ | .part _ | .place _ => true
  | .native (.create _) | .native .length | .native .iterate => false
  | .native _ => true
  | _ => false

/-- A member as an attribute of a value. -/
structure Attribute where
  member : Member
  /-- The arguments that the member gets in front of all others. -/
  front : List Value
  /-- Whether the first of them is the value itself. -/
  takesReceiver : Bool

namespace Attribute

/-- An attribute, from the member and the arguments in front. -/
def ofPair (handed : Member × List Value) (takesReceiver : Bool) : Attribute :=
  ⟨handed.1, handed.2, takesReceiver⟩

end Attribute

namespace Hierarchy

/-- Refuses to set an attribute of a value that takes none of its own. A function of its class may
be asked instead. -/
def checkAttribute (h : Hierarchy) (v : Value) (name : String) : Except Fault Unit :=
  let type := v.type h
  let takes := match v with
    | .object _ => (h.info type).takesAttributes
    | _ => false
  match v, h.resolve? type "__setattr__", h.resolve? type name with
  | .ofClass c, _, _ => (h.assign c name (.part false)).map fun _ => ()
  | v, some (.declared _, hook), _ =>
    let (hook, front) := hook.onObject v type
    hook.tryCall (front.length + 2)
  | _, _, some (_, .part _) | _, _, some (_, .place _) => .ok ()
  | v, _, found =>
    if takes then .ok ()
    else if found.isSome then .error (.readOnlyAttribute (v.kind h) name)
    else .error (.noAttribute (v.kind h) name)

/-- Refuses to hand a native function out for a value that it does not work on. -/
def checkHome (h : Hierarchy) (m : Member) (v : Value) : Except Fault Unit :=
  match m with
  | .native n =>
    match n.home? with
    | some (l, name) =>
      if v.isOf h l then .ok ()
      else .error (.refusal (.foreignMethod name (h.info l).runtimeName (v.kind h)))
    | none => .ok ()
  | _ => .ok ()

/-- A member as an attribute of a value, with the arguments that it gets in front. -/
def bind (h : Hierarchy) (m : Member) (v : Value) : Except Fault (Member × List Value) :=
  let shown : Member := match m with
    | .native n => .native (n.shownFor (v.type h))
    | m => m
  (h.checkHome m v).map fun _ => shown.onObject v (v.type h)

/-- The member behind a class along the order of a value, as an attribute of the value. A class that
derives from the other one is searched itself, and of any other value its class is. -/
def next? (h : Hierarchy) (v : Value) (owner : ClassId) (name : String) :
    Except Fault (Option Attribute) := do
  let start? := match v with
    | .ofClass c => if h.derives c owner then some c else none
    | _ => none
  let start := start?.getD (v.type h)
  if ¬h.derives start owner then .error (.refusal .foreignSuper)
  match h.resolveAfter? start owner name, start? with
  | none, _ => return none
  | some (_, member), some c => return some (.ofPair (member.onClass c) false)
  | some (_, member), none => return some (.ofPair (← h.bind member v) member.takesObject)

end Hierarchy

end UtilityClass
