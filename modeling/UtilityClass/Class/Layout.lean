import UtilityClass.Class.Error
import UtilityClass.Class.Order
import UtilityClass.Text.Word
import UtilityClass.Value

/-!
# What the bases decide

The bases of a new class decide on the layout of its objects and on its order. Either of the two may
not exist. One base is primary: it decides on the layout, which has to extend the layouts of the
other bases. A class may name the slots that its objects have; without slots its objects take
attributes of any name.

## Main definitions

* `Hierarchy.primaryOf` : the primary base
* `Hierarchy.orderOf` : the order
* `Slots`, `Hierarchy.slotsOf` : the slots
-/

namespace UtilityClass

/-- What objects of a new class have beyond those of its primary base. -/
structure Slots where
  names : List String
  addsAttributes : Bool
  addsReferences : Bool

namespace Hierarchy

variable (h : Hierarchy)

/-! ## Layout -/

/-- The class that decides on the layout of a class: the nearest one along the primary bases whose
objects have a layout of their own. The fuel bounds the number of primary bases. -/
def layoutWithin : Nat → ClassId → ClassId
  | 0, c => c
  | fuel + 1, c => if (h.info c).solid then c else layoutWithin fuel (h.info c).primary

/-- The class that decides on the layout of a class. -/
def layout (c : ClassId) : ClassId := h.layoutWithin (h.info c).order.length c

/-- The primary one of the bases, starting from a candidate: the first one with the most derived
layout. -/
def primaryFrom : ClassId → List ClassId → Except DeclarationError ClassId
  | best, [] => .ok best
  | best, base :: rest =>
    if ¬(h.info base).subclassable then .error (.notABase (h.info base).runtimeName)
    else if h.derives (h.layout best) (h.layout base) then primaryFrom best rest
    else if h.derives (h.layout base) (h.layout best) then primaryFrom base rest
    else .error .layoutConflict

/-- The primary one of the bases. -/
def primaryOf : List ClassId → Except DeclarationError ClassId
  | [] => .ok LibraryClass.object
  | first :: rest => h.primaryFrom first (first :: rest)

/-- Whether objects of the class are of variable size. -/
def hasVariableSize (c : ClassId) : Bool :=
  [LibraryClass.int, .tuple, .bytes, .type].any fun l => h.derives c l

/-! ## Order -/

/-- The first entry that stands twice. -/
def firstDuplicate? : List ClassId → Option ClassId
  | [] => none
  | c :: rest => if rest.contains c then some c else firstDuplicate? rest

/-- The order of a class with the given bases. -/
def orderOf (self : ClassId) (bases : List ClassId) : Except DeclarationError (List ClassId) :=
  match firstDuplicate? bases with
  | some c => .error (.duplicateBase (h.info c).name)
  | none =>
    match ClassOrder.merge (bases.map (fun c => (h.info c).order) ++ [bases]) with
    | .ok rest => .ok (self :: rest)
    | .error heads => .error (.noOrder (heads.map fun c => (h.info c).name))

/-! ## Slots -/

/-- The name of the slot for attributes of any name. -/
def attributesSlot : String := "__dict__"

/-- The name of the slot for references. -/
def referencesSlot : String := "__weakref__"

/-- Whether a text is an identifier. -/
def isIdentifier (text : String) : Bool :=
  match text.toList with
  | [] => false
  | c :: rest => (isLetter c) && rest.all fun c => isLetter c || c.isDigit
where
  /-- Whether an identifier may start with the character. -/
  isLetter (c : Char) : Bool := Unicode.isWord c && !c.isDigit

/-- A slot as it is named inside a class: a name that is private to the class carries the name of
the class. -/
def mangled (className slot : String) : String :=
  let stripped := className.toList.dropWhile (· == '_')
  let isPrivate := slot.startsWith "__" && !slot.endsWith "__" && !slot.toList.contains '.'
  if isPrivate ∧ ¬stripped.isEmpty then "_" ++ String.ofList stripped ++ slot else slot

/-- The slots that are named, one after the other; `found` holds those that came before. -/
def visitSlots (mayAddAttributes mayAddReferences : Bool) :
    Slots → List Json → Except DeclarationError Slots
  | found, [] => .ok found
  | found, .str name :: rest =>
    if ¬isIdentifier name then .error .slotNotIdentifier
    else if name = attributesSlot then
      if ¬mayAddAttributes ∨ found.addsAttributes then .error .dictionarySlot
      else visitSlots mayAddAttributes mayAddReferences { found with addsAttributes := true } rest
    else if name = referencesSlot then
      if ¬mayAddReferences ∨ found.addsReferences then .error .referenceSlot
      else visitSlots mayAddAttributes mayAddReferences { found with addsReferences := true } rest
    else
      visitSlots mayAddAttributes mayAddReferences
        { found with names := found.names ++ [name] } rest
  | _, other :: _ => .error (.slotNotText other.kind)

/-- The first slot under whose name the namespace already has an entry. -/
def slotConflict? (b : Blueprint) (names : List String) : Option String :=
  names.find? fun name => (b.get? name).isSome && name != "__qualname__" && name != "__classcell__"

/-- The slots of a class of the given name, or why it cannot have them. A base that is not primary
lends its places for attributes and references to a class with slots. -/
def slotsOf (className : String) (primary : ClassId) (bases : List ClassId) (b : Blueprint) :
    Except DeclarationError Slots :=
  let base := h.info primary
  let mayAddAttributes := !base.takesAttributes
  let mayAddReferences := !base.takesReferences && !h.hasVariableSize primary
  let lends (has : ClassInfo → Bool) : Bool :=
    bases.any fun c => c != primary && has (h.info c)
  let named (items : List Json) : Except DeclarationError Slots := do
    if ¬items.isEmpty ∧ h.hasVariableSize primary then
      .error (.slotsOnVariableSize base.runtimeName)
    let found ← visitSlots mayAddAttributes mayAddReferences ⟨[], false, false⟩ items
    let names := found.names.map (mangled className)
    match slotConflict? b names with
    | some name => .error (.slotConflict name)
    | none =>
      return {
        names
        addsAttributes := found.addsAttributes ||
          (mayAddAttributes && lends ClassInfo.takesAttributes)
        addsReferences := found.addsReferences ||
          (mayAddReferences && lends ClassInfo.takesReferences) }
  match b.get? "__slots__" with
  | none => .ok ⟨[], mayAddAttributes, mayAddReferences⟩
  | some (.data (.str name)) => named [.str name]
  | some (.data value) =>
    match value.items? with
    | some items => named items
    | none => .error (.slotsNotIterable value.kind)
  | some _ => .error (.slotsNotIterable "function")

end Hierarchy

end UtilityClass
