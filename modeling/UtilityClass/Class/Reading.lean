import UtilityClass.Class.Hook
import UtilityClass.Class.Namespace
import UtilityClass.Number.Bits
import UtilityClass.Text.Underscored

/-!
# Reading attributes of classes

An attribute of a class is looked up along the order of the class and then along that of its
metaclass; only the attributes that each class has by being a class come before its own namespace,
unless the metaclass hides them behind an entry of its own. A declared metaclass may answer the
question itself, always or for attributes that are not found.

Whoever reads an attribute has to be prepared for any member in its place: what should be a number,
a name, or a list of classes may turn out to be something else.

## Main definitions

* `ClassAttribute`, `Hierarchy.lookUp?` : what a lookup on a class finds
* `Hierarchy.read?`, `Hierarchy.read` : the same with the hooks of the metaclass
* `Hierarchy.nameOf`, `Hierarchy.nameText` : the qualified name of a class
* `Hierarchy.hasFlag`, `Hierarchy.readAll`, `Hierarchy.readContains`
* `Hierarchy.namespaceOf` : what a class shows as its namespace
-/

namespace UtilityClass

/-- An attribute of a class. -/
structure ClassAttribute where
  member : Member
  /-- Whether the metaclass supplies the member, which then works on the class. -/
  isBound : Bool

namespace ClassAttribute

/-- The attribute that stands for nothing. -/
def nothing : ClassAttribute := ⟨.data .null, false⟩

/-- Whether it is one of the attributes that each class has by being a class. -/
def isField (a : ClassAttribute) : Bool := a.isBound && a.member.isField

/-- Whether the attribute counts as true. -/
def truthy (a : ClassAttribute) : Bool := a.member.truthy

/-- The word for the type of the attribute. -/
def kind (a : ClassAttribute) : String :=
  match a.member, a.isBound with
  | .function _, true | .classwise _ _, _ => "method"
  | .static _ _, _ => "function"
  | .native (.field _), _ | .part _, _ => "getset_descriptor"
  | m, _ => m.kind

/-- The word for the type whose attributes the attribute has: a function that works on something
shows those of the function alone. -/
def holderKind (a : ClassAttribute) : String := if a.kind = "method" then "function" else a.kind

/-- The attribute as it is handed out for a class, with the arguments that it gets in front. -/
def on (a : ClassAttribute) (h : Hierarchy) (c : ClassId) : Member × List Value :=
  if a.isBound then a.member.onObject (.ofClass c) (h.info c).metaclass else a.member.onClass c

/-- Calls an attribute of a class, which is declared by name only, with a number of arguments. -/
def tryCall (a : ClassAttribute) (h : Hierarchy) (c : ClassId) (given : Nat) :
    Except Fault Unit :=
  let (m, front) := a.on h c
  m.tryCall (front.length + given)

end ClassAttribute

namespace Hierarchy

variable (h : Hierarchy)

/-! ## Reading -/

/-- Whether a class really has one of the attributes that each class has by being a class. -/
def hasField (c : ClassId) (name : String) : Bool :=
  if name = abstractMethodsName then (h.own? c name).any fun m => !m.isField
  else if name = "__module__" then (h.moduleOf c).isSome
  else true

/-- The attribute that a lookup on a class finds. -/
def lookUp? (c : ClassId) (name : String) : Option ClassAttribute :=
  match h.field? c name with
  | some m => if h.hasField c name then some ⟨m, true⟩ else none
  | none =>
    match h.resolve? c name with
    | some (_, m) => some ⟨m, false⟩
    | none => (h.resolve? (h.info c).metaclass name).map fun (_, m) => ⟨m, true⟩

/-- The name under which an enumeration keeps its members. -/
def memberMapName : String := "_member_map_"

/-- The attribute that an enumeration finds among what it keeps in the place of its members. -/
def keptEntry? (c : ClassId) (name : String) : Except Fault (Option ClassAttribute) := do
  match h.lookUp? c memberMapName with
  | some ⟨.data kept, _⟩ =>
    if Underscored.isDouble name then return none
    match kept with
    | .obj fields => return (fields.lookup name).map fun value => ⟨.data value, false⟩
    | kept => return some ⟨← (Namespace.data kept).entry name, false⟩
  | _ => return none

/-- The attribute that is read of a class. -/
def read? (c : ClassId) (name : String) : Except Fault (Option ClassAttribute) :=
  match h.hook? c "__getattribute__", h.lookUp? c name,
      h.resolve? (h.info c).metaclass "__getattr__" with
  | some hook, _, _ | none, none, some (.declared _, hook) =>
    (h.tryHook c hook 1).map fun _ => some .nothing
  | none, some a, _ => .ok (some a)
  | none, none, some _ => h.keptEntry? c name
  | none, none, none => .ok none

/-- The attribute that is read of a class, which has to exist. -/
def read (c : ClassId) (name : String) : Except Fault ClassAttribute := do
  match ← h.read? c name, h.resolve? (h.info c).metaclass "__getattr__" with
  | some a, _ => return a
  | none, some (.library .enumType, _) => .error (.change (.missing name))
  | none, _ => .error (.change (.absent (h.info c).runtimeName name))

/-- Whether an attribute of a class counts as true; one that does not exist counts as false. -/
def readTruth (c : ClassId) (name : String) : Except Fault Bool := do
  return (← h.read? c name).any ClassAttribute.truthy

/-! ## Names -/

/-- A naming attribute of a class, if it has it. A method of its metaclass is shown as one that
works on the class; what else is no plain data counts as the short name. -/
def nameAttribute? (c : ClassId) (name : String) : Except Fault (Option Json) := do
  let info := h.info c
  return (← h.read? c name).bind fun a =>
    match a.member, a.isBound with
    | .native (.field "__module__"), _ => h.moduleOf c
    | .native (.field "__qualname__"), _ => some (.str info.qualname)
    | .data value, _ => some value
    | .function f, true =>
      some (.str ("<bound method " ++ f.qualname ++ " of " ++ h.plainLiteral c ++ ">"))
    | _, _ => some (.str info.name)

/-- The short name that a class gives. -/
def shortName (c : ClassId) : Except Fault Json := do
  return (← h.nameAttribute? c "__name__").getD .null

/-- The name inside its module that a class gives. -/
def longName (c : ClassId) : Except Fault Json := do
  return (← h.nameAttribute? c "__qualname__").getD .null

/-- The qualified name of a class. -/
def nameOf (c : ClassId) : Except Fault QualifiedName := do
  let long ← h.nameAttribute? c "__qualname__"
  let short ← if (long.getD .null).truthy then pure none else h.nameAttribute? c "__name__"
  let module ← h.nameAttribute? c "__module__"
  (QualifiedName.ofAttributes module long short).mapError .name

/-- The written qualified name of a class. -/
def nameText (c : ClassId) : Except Fault String := do (← h.nameOf c).text.mapError .name

/-- The name that the class of a class gives, as it is put into a text. -/
def kindName (c : ClassId) : Except Fault String := do
  let a ← h.read c "__class__"
  if a.isField then return (← h.shortName (h.info c).metaclass).text
  match a.member with
  | .native (.field name) => return name
  | .data value => .error (.noAttribute value.kind "__name__")
  | _ => return "__class__"

/-! ## Flags -/

/-- The flag that says that objects of a class are refused. -/
def barredFlag : Int := 1048576

/-- The flag that says that a class may be a base. -/
def subclassableFlag : Int := 1024

/-- Whether a class has a flag: what is the case with the class, unless its metaclass hides this
behind a number of its own. -/
def hasFlag (c : ClassId) (flag : Int) (isCase : Bool) : Except Fault Bool := do
  let a ← h.read c "__flags__"
  if a.isField then return isCase
  match a.member with
  | .data value =>
    match value.integer? with
    | some n => return Bits.and n flag != 0
    | none => refuse value.kind
  | _ => refuse a.kind
where
  /-- Says that something has no bits. -/
  refuse (kind : String) : Except Fault Bool :=
    .error (typeComplaint ("unsupported operand type(s) for &: '" ++ kind ++ "' and 'int'"))

/-! ## Lists of classes -/

/-- What an attribute of a class goes through item by item. `own` is what stands there unless the
metaclass hides it. -/
def readAll (c : ClassId) (name : String) (own : List ClassId) : Except Fault (List Subject) := do
  let a ← h.read c name
  if a.isField then return own.map .ofClass
  match a.member with
  | .data value => return (← value.items).map .plain
  | _ => .error (.refusal (.notIterable a.kind))

/-- The bases that a class names. -/
def readBases (c : ClassId) : Except Fault (List Subject) :=
  h.readAll c "__bases__" (h.info c).bases

/-- The order of lookups that a class names. -/
def readOrder (c : ClassId) : Except Fault (List Subject) :=
  h.readAll c "__mro__" (h.info c).order

/-- Whether a class is contained in what an attribute of another class holds. `own` is what stands
there unless the metaclass hides it. -/
def readContains (c : ClassId) (name : String) (own : List ClassId) (wanted : ClassId) :
    Except Fault Bool := do
  let a ← h.read c name
  if a.isField then h.isAmong wanted own
  else match a.member with
    | .data (.arr _) | .data (.obj _) => return false
    | .data (.str _) => .error (typeComplaint
        ("'in <string>' requires string as left operand, not " ++ h.metaclassName wanted))
    | _ => Namespace.refuse a.kind

/-! ## Namespaces -/

/-- What a class shows as its namespace. -/
def namespaceOf (c : ClassId) : Except Fault Namespace := do
  let a ← h.read c "__dict__"
  if a.isField then return .own (h.info c).members
  match a.member with
  | .data value => return .data value
  | _ => return .other a.kind a.holderKind

end Hierarchy

end UtilityClass
