import UtilityClass.Class.Layout
import UtilityClass.Class.Literal

/-!
# Making classes

A class is made of a name, its bases and a namespace. The bases are looked at first, then the slots,
then the names, and the order last, so that of two faults the earlier one is complained of. The
namespace of the new class holds a little more than what was declared: its slots, and whatever else
objects of the class have that those of its bases have not.

## Main definitions

* `Hierarchy.make` : the hierarchy with a new class
-/

namespace UtilityClass

/-- An entry as it is put into a new class: a creating function works on no object, and a few other
functions work on the class. -/
def Member.asDeclared (name : String) (m : Member) : Member :=
  match name, m with
  | "__new__", .function f => .static f f.marker
  | "__init_subclass__", .function f | "__class_getitem__", .function f => .classwise f f.marker
  | _, m => m

namespace Blueprint

/-- The qualified name that the namespace gives to a class of the given name. -/
def qualname (b : Blueprint) (name : String) : Except DeclarationError String :=
  match b.get? "__qualname__" with
  | none => .ok name
  | some (.data (.str text)) => .ok text
  | some (.data value) => .error (.qualnameNotText value.kind)
  | some _ => .error (.qualnameNotText "function")

/-- Refuses what stands in the place of the cell that tells functions their class. -/
def checkCell (b : Blueprint) : Except DeclarationError Unit :=
  match b.get? "__classcell__" with
  | none => .ok ()
  | some (.data value) => .error (.noCell value.kind)
  | some _ => .error (.noCell "function")

/-- The namespace of the new class. -/
def members (b : Blueprint) (slots : Slots) : List (String × Member) :=
  let declared := (b.entries.filter fun (name, _) => name != "__qualname__").map fun (name, m) =>
    (name, m.asDeclared name)
  let added : List (String × Member) :=
    slots.names.map (fun name => (name, .place name)) ++
      (if slots.addsAttributes then [(Hierarchy.attributesSlot, .part false)] else []) ++
      (if slots.addsReferences then [(Hierarchy.referencesSlot, .part false)] else []) ++
      [("__doc__", .data .null)] ++
      (if (b.get? "__eq__").isSome then [("__hash__", .data .null)] else [])
  declared ++ added.filter fun (name, _) => (declared.lookup name).isNone

end Blueprint

namespace Hierarchy

variable (h : Hierarchy)

/-- Asks a declared metaclass for the order of a new class; what it gives is no sequence. -/
def askForOrder (metaclass : ClassId) (self : ClassId) : Except Fault Unit :=
  match h.resolve? metaclass "mro" with
  | some (.declared _, hook) => do
    let (m, front) := hook.onObject (.ofClass self) metaclass
    m.tryCall front.length
    .error (.refusal (.notIterable "NoneType"))
  | _ => .ok ()

/-- The hierarchy in which a new class has no native creating function unless a lookup finds one. -/
def withCreator (self : ClassId) : Hierarchy :=
  match h.resolve? self "__new__" with
  | some (_, .native (.create _)) => h
  | _ => h.modify self ({ · with creator := none })

/-- The hierarchy with a new class, before anybody is told of it. -/
def make (metaclass : ClassId) (name : String) (bases : List ClassId) (b : Blueprint) :
    Except Fault Hierarchy := do
  let bases := if bases.isEmpty then [ClassId.library .object] else bases
  let primary ← (h.primaryOf bases).mapError .declaration
  let slots ← (h.slotsOf name primary bases b).mapError .declaration
  if name.toList.contains '\x00' then .error (.declaration .nullInName)
  let qualname ← (b.qualname name).mapError .declaration
  b.checkCell.mapError .declaration
  h.askForOrder metaclass b.self
  let order ← (h.orderOf b.self bases).mapError .declaration
  let base := h.info primary
  let info : ClassInfo := {
    name
    qualname
    module := .null
    runtimeName := name
    bases
    order
    primary
    metaclass
    members := b.members slots
    isBarred := false
    enumeration := b.plan.map fun p => ⟨p.dataType, p.mask, p.singles, p.conforms, [], []⟩
    answers := .empty
    creator := base.creator
    immutable := false
    subclassable := true
    solid := !slots.names.isEmpty || (slots.addsAttributes && h.hasVariableSize primary)
    takesAttributes := base.takesAttributes || slots.addsAttributes
    takesReferences := base.takesReferences || slots.addsReferences }
  return (h.modify b.self fun _ => info).withCreator b.self

end Hierarchy

end UtilityClass
