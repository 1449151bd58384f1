import UtilityClass.Class.Literal

/-!
# Changing classes

Attributes of a class can be set and deleted unless the class is immutable. Most of them are entries
of its namespace. The attributes that each class has by being a class follow rules of their own:
some are names, some cannot be written, and the one that holds the abstract methods decides whether
objects are refused. Enumerations guard their members.

Which native function creates objects of a class is decided when the class is made. A creating
function that is set later takes its place, also in the derived classes, and deleting it again does
not bring the native one back.

## Main definitions

* `Hierarchy.assign`, `Hierarchy.delete`
-/

namespace UtilityClass

namespace Member

/-- The word for the type of a member, and its text if it is one. -/
def textOrKind : Member → String ⊕ String
  | .data (.str text) => .inl text
  | m => .inr m.kind

end Member

namespace Hierarchy

variable (h : Hierarchy)

/-- The classes that can be changed. -/
def all : List ClassId :=
  LibraryClass.referable.map .library ++ (List.range h.declared).map .declared

/-- Whether the creating function that a lookup finds is native. -/
def createsNatively (c : ClassId) : Bool :=
  match h.resolve? c "__new__" with
  | some (_, .native (.create _)) => true
  | _ => false

/-- The hierarchy after the creating function of a class has changed. -/
def withCreators (c : ClassId) : Hierarchy :=
  let affected := h.all.filter fun d =>
    (d = c || (h.derives d c && (h.own? d "__new__").isNone)) && !h.createsNatively d
  affected.foldl (fun g d => g.modify d ({ · with creator := none })) h

/-- The class with an entry put into its namespace. -/
def putMember (c : ClassId) (name : String) (m : Member) : Hierarchy :=
  let h := h.modify c (·.setMember name m)
  if name = "__new__" then h.withCreators c else h

/-- The class without an entry of its namespace. -/
def dropMember (c : ClassId) (name : String) : Hierarchy :=
  let h := h.modify c (·.eraseMember name)
  if name = "__new__" then h.withCreators c else h

/-- Sets an attribute that each class has by being a class. -/
def assignField (c : ClassId) (field : String) (m : Member) : Except ChangeError Hierarchy :=
  let info := h.info c
  match field with
  | "__name__" =>
    match m.textOrKind with
    | .inl text =>
      if text.toList.contains '\x00' then .error .nullInName
      else .ok (h.modify c fun i => { i with name := text, runtimeName := text })
    | .inr kind => .error (.notText info.runtimeName field kind)
  | "__qualname__" =>
    match m.textOrKind with
    | .inl text => .ok (h.modify c ({ · with qualname := text }))
    | .inr kind => .error (.notText info.runtimeName field kind)
  | "__bases__" => .error (.notBases info.runtimeName m.kind)
  | "__class__" => .error (.classNotClass m.kind)
  | "__dict__" | "__text_signature__" => .error (.notWritable field)
  | "__module__" | "__doc__" | "__annotations__" => .ok (h.putMember c field m)
  | "__abstractmethods__" =>
    .ok ((h.putMember c field m).modify c ({ · with isBarred := m.truthy }))
  | _ => .error .readOnly

/-- Deletes an attribute that each class has by being a class. -/
def deleteField (c : ClassId) (field : String) : Except ChangeError Hierarchy :=
  let info := h.info c
  match field with
  | "__name__" | "__qualname__" | "__module__" | "__bases__" | "__doc__" =>
    .error (.undeletable field info.runtimeName)
  | "__class__" => .error .classDeleted
  | "__dict__" | "__text_signature__" => .error (.notWritable field)
  | "__annotations__" =>
    if (info.own? field).isSome then .ok (h.dropMember c field) else .error (.missing field)
  | "__abstractmethods__" =>
    if (info.own? field).isSome then
      .ok ((h.dropMember c field).modify c ({ · with isBarred := false }))
    else .error (.missing field)
  | _ => .error .readOnly

/-- Whether the metaclass shows the members of an enumeration under a name of its own. -/
def isMembersProperty (c : ClassId) (name : String) : Bool :=
  name == "__members__" && (h.resolve? (h.info c).metaclass name).any fun found =>
    found.1 = .library .enumType

/-- Sets an attribute as the metaclass of the library does. -/
def assignPlainly (c : ClassId) (name : String) (m : Member) : Except ChangeError Hierarchy :=
  let info := h.info c
  if info.immutable then .error (.immutable name info.runtimeName)
  else if h.isMembersProperty c name then
    .error (.noProperty name (h.metaclassName c) "setter")
  else match h.field? c name with
    | some (.native (.field field)) => h.assignField c field m
    | _ => .ok (h.putMember c name m)

/-- Deletes an attribute as the metaclass of the library does. -/
def deletePlainly (c : ClassId) (name : String) : Except ChangeError Hierarchy :=
  let info := h.info c
  if info.immutable then .error (.immutable name info.runtimeName)
  else if h.isMembersProperty c name then
    .error (.noProperty name (h.metaclassName c) "deleter")
  else match h.field? c name with
    | some (.native (.field field)) => h.deleteField c field
    | _ =>
      if (info.own? name).isSome then .ok (h.dropMember c name)
      else .error (.absent info.runtimeName name)

/-- Whether a name is that of a member of an enumeration, given what the enumeration keeps in the
place of its members. -/
def isMemberName (c : ClassId) (name : String) (kept : Member) : Except Fault Bool :=
  match kept with
  | .data value => (Namespace.data value).contains name
  | _ => .ok ((h.info c).enumeration.any fun e => e.members.any (·.name == name))

/-- Refuses to change an enumeration that itself makes enumerations: the function that would do it
is found along the order of the enumeration, where it belongs to no object. -/
def refuseOwnKind (function : String) : Except Fault Hierarchy :=
  .error (.refusal (.foreignReceiver function "type" "str"))

/-- The class with an attribute set. -/
def assign (c : ClassId) (name : String) (m : Member) : Except Fault Hierarchy :=
  match h.resolve? (h.info c).metaclass "__setattr__" with
  | some (.declared _, hook) => do
    h.tryHook c hook 2
    .ok h
  | some (.library .enumType, _) => do
    let kept ← (← h.namespaceOf c).get? memberMapName
    if ← h.isMemberName c name (kept.getD (.data (.obj []))) then
      .error (.change (.memberAssigned name))
    else if h.derives c (.library .enumType) then refuseOwnKind "__setattr__"
    else (h.assignPlainly c name m).mapError .change
  | _ => (h.assignPlainly c name m).mapError .change

/-- The class without an attribute of its own. -/
def delete (c : ClassId) (name : String) : Except Fault Hierarchy :=
  match h.resolve? (h.info c).metaclass "__delattr__" with
  | some (.declared _, hook) => do
    h.tryHook c hook 1
    .ok h
  | some (.library .enumType, _) => do
    if ← h.isMemberName c name (← h.read c memberMapName).member then
      .error (.change (.memberDeleted (← h.shortName c).literal name))
    else if h.derives c (.library .enumType) then refuseOwnKind "__delattr__"
    else (h.deletePlainly c name).mapError .change
  | _ => (h.deletePlainly c name).mapError .change

end Hierarchy

end UtilityClass
