import UtilityClass.Fault
import UtilityClass.Value

/-!
# Hooks

What is done with a class or an object is up to methods of its class, and a declared class may have
hooks of its own for this. Like all methods that are declared by name only, a hook gives nothing;
but its arguments have to fit, and what stands in its place may be plain data, which cannot be
called. Equality and membership of tables are such questions, since they too are asked of the class.

## Main definitions

* `Member.tryCall`, `Hierarchy.tryHook` : calls of members that are declared by name only
* `Hierarchy.readOn?` : reading an attribute of an object
* `Hierarchy.sameClass`, `Hierarchy.samePlain` : whether a class equals something else
* `Hierarchy.checkHashable` : whether a class may be a key of a table
-/

namespace UtilityClass

/-- Calls a member that is declared by name only: it gives nothing, but the arguments have to fit,
and plain data cannot be called. -/
def Member.tryCall (m : Member) (given : Nat) : Except Fault Unit :=
  match m with
  | .function f | .static f _ =>
    match Signature.pass f.parameters given [] with
    | .ok () => .ok ()
    | .error e => .error (.call f.qualname e)
  | .data _ | .place _ => .error (.refusal (.notCallable m.kind))
  | _ => .ok ()

namespace Hierarchy

variable (h : Hierarchy)

/-- What a declared metaclass of the class has under a name. -/
def hook? (c : ClassId) (name : String) : Option Member :=
  match h.resolve? (h.info c).metaclass name with
  | some (.declared _, m) => some m
  | _ => none

/-- Calls a hook of the metaclass of a class with a number of further arguments. -/
def tryHook (c : ClassId) (hook : Member) (given : Nat) : Except Fault Unit :=
  let (m, front) := hook.onObject (.ofClass c) (h.info c).metaclass
  m.tryCall (front.length + given)

/-- The member that is read of a value that is no class, with the class that has it. A declared
class may answer itself, always or for what is not found, and a place for a value holds none. -/
def readOn? (v : Value) (name : String) : Except Fault (Option (ClassId × Member)) :=
  let type := v.type h
  let found := (h.resolve? type name).filter fun (_, m) => !m.isPlace
  let ask (hook : Member) : Except Fault (Option (ClassId × Member)) := do
    let (m, front) := hook.onObject v type
    m.tryCall (front.length + 1)
    return some (type, .data .null)
  match h.resolve? type "__getattribute__", found, h.resolve? type "__getattr__" with
  | some (.declared _, hook), _, _ => ask hook
  | _, some found, _ => .ok (some found)
  | _, none, some (.declared _, hook) => ask hook
  | _, none, _ => .ok none

/-! ## Equality -/

/-- Whether one of several classes says that it equals something else; the first one that has a hook
decides. -/
def askEqual : List ClassId → Except Fault Bool
  | [] => .ok false
  | c :: rest =>
    match h.hook? c "__eq__" with
    | some hook => (h.tryHook c hook 1).map fun _ => false
    | none => askEqual rest

/-- Whether two classes are equal. The second one is asked first if its metaclass derives from that
of the first one. -/
def sameClass (c d : ClassId) : Except Fault Bool :=
  let first := (h.info c).metaclass
  let second := (h.info d).metaclass
  if c = d then .ok true
  else h.askEqual (if first ≠ second ∧ h.derives second first then [d, c] else [c, d])

/-- Whether a class equals plain data. -/
def samePlain (c : ClassId) : Except Fault Bool := h.askEqual [c]

/-- Whether a class is among others. -/
def isAmong (c : ClassId) : List ClassId → Except Fault Bool
  | [] => .ok false
  | d :: rest => do if ← h.sameClass d c then return true else isAmong c rest

/-! ## Tables -/

/-- Refuses a class that cannot be a key of a table. -/
def checkHashable (c : ClassId) : Except Fault Unit :=
  match h.hook? c "__hash__" with
  | some (.data .null) => .error (.unhashable (h.metaclassName c))
  | some hook => do
    h.tryHook c hook 0
    .error (typeComplaint "__hash__ method should return an integer")
  | none => .ok ()

/-- Whether a class is one of the keys of a table. A table without keys asks nothing, and a key is
told from others by equality even where it is the class itself. -/
def isKey (c : ClassId) (keys : List ClassId) : Except Fault Bool := do
  if keys.isEmpty then return false
  h.checkHashable c
  if ¬keys.contains c then return false
  match h.hook? c "__eq__" with
  | some _ => h.askEqual [c]
  | none => return true

end Hierarchy

end UtilityClass
