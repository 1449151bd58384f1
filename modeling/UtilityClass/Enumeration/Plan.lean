import UtilityClass.Class.Library
import UtilityClass.Enumeration.Namespace
import UtilityClass.Number.Bits

/-!
# Planning an enumeration

Before an enumeration is made, its bases and its namespace decide how its members will be. The last
base has to be an enumeration without members; the others may bring along a type of data that the
members are mixed with. The members are created by the function that the namespace declares, or by
one that a base declared for its own members, or by the one of the type of data.

## Main definitions

* `Hierarchy.prepareEnumeration` : the namespace that is to be filled
* `Hierarchy.planEnumeration` : the namespace with the plan of its members
-/

namespace UtilityClass

namespace Member

/-- Whether a member is the creating function that every enumeration owns. -/
def findsMember : Member → Bool
  | .function f | .static f _ =>
    match f.body with
    | .service .findMember => true
    | _ => false
  | _ => false

end Member

namespace Hierarchy

variable (h : Hierarchy)

/-! ## Bases -/

/-- Whether an enumeration lists members. -/
def hasMembers (c : ClassId) : Except Fault Bool := do
  match (← h.read c "_member_names_").member with
  | .data value => return value.truthy
  | _ => return (h.info c).enumeration.any fun e => e.members.any (·.listed)

/-- Refuses a class with members among ancestors. -/
def checkNoMembersAlong (name : Json) : List Subject → Except Fault Unit
  | [] => .ok ()
  | .plain _ :: rest => checkNoMembersAlong name rest
  | .ofClass c :: rest => do
    if h.isEnumeration c then
      if ← h.hasMembers c then
        .error (.declaration (.extendsEnumeration name.literal (← h.literal c)))
    checkNoMembersAlong name rest

/-- Refuses bases that have members. -/
def checkNoMembers (name : Json) (bases : List ClassId) : Except Fault Unit :=
  bases.forM fun base => do h.checkNoMembersAlong name (← h.readOrder base)

/-- Whether a class brings along a way to create objects. -/
def bringsCreator (c : ClassId) : Except Fault Bool := do
  if ← (← h.namespaceOf c).contains "__new__" then return true
  (← h.namespaceOf c).contains "__dataclass_fields__"

/-- The type of data along an order. The first class that only comes before one that creates objects
stands for it; `candidate` is that class. -/
def dataTypeAlong (candidate : Option ClassId) : List Subject → Except Fault (Option ClassId)
  | [] => .ok none
  | .plain value :: _ =>
    if value.isHashable then .error (.noAttribute value.kind "__dict__")
    else .error (.unhashable value.kind)
  | .ofClass c :: rest => do
    h.checkHashable c
    if c = LibraryClass.object then dataTypeAlong candidate rest
    else if h.isEnumeration c then
      let dataType : ClassId :=
        ((h.info c).enumeration.map (·.dataType)).getD (.library .object)
      if dataType = LibraryClass.object then dataTypeAlong candidate rest
      else return some dataType
    else if ← h.bringsCreator c then return some (candidate.getD c)
    else dataTypeAlong (candidate.or (some c)) rest

/-- The type of data that a base brings along. -/
def dataTypeOf? (base : ClassId) : Except Fault (Option ClassId) := do
  h.dataTypeAlong none (← h.readOrder base)

/-- The type of data that the bases bring along, and the enumeration that is the last of them. -/
def mixins (name : Json) (bases : List ClassId) : Except Fault (ClassId × ClassId) := do
  match bases.getLast? with
  | none => return (LibraryClass.object, LibraryClass.enumeration)
  | some last =>
    h.checkNoMembers name bases
    if ¬h.isEnumeration last then .error (.declaration .enumerationLast)
    let types := ((← bases.mapM h.dataTypeOf?).filterMap id).eraseDups
    match types with
    | [] => return (LibraryClass.object, last)
    | [type] => return (type, last)
    | _ => .error (.declaration (.manyDataTypes name.literal (← types.mapM h.literal)))

/-- The name of the function that counts members on. -/
def nextValueName : String := "_generate_next_value_"

/-- The namespace that is to be filled for an enumeration. -/
def prepareEnumeration (self : ClassId) (name : Json) (bases : List ClassId) :
    Except Fault Blueprint := do
  h.checkNoMembers name bases
  let (_, parent) ← h.mixins name bases
  let b := { Blueprint.empty self with draft := some ⟨name.text, [], []⟩ }
  let counter ← h.read? parent nextValueName
  return b.put nextValueName ((counter.map (·.member)).getD (.part false))

/-! ## Creating function -/

/-- A member as a lookup on a class hands it out, if it can be the creating function of members: it
is neither the root's nor the one that finds members. -/
def memberCreator? (c : ClassId) (name : String) :
    Except Fault (Option (Member × List ClassId)) := do
  match ← h.read? c name with
  | none | some ⟨.data .null, _⟩ | some ⟨.native (.create .object), _⟩ => return none
  | some a =>
    if a.member.findsMember then return none
    match a.member with
    | .data value => if ¬value.isHashable then .error (.unhashable value.kind)
    | _ => pure ()
    let (m, front) := a.on h c
    return some (m, front.filterMap fun v => v.subject.class?)

/-- The first creating function that one of several lookups finds. -/
def firstMemberCreator? : List (ClassId × String) →
    Except Fault (Option (Member × List ClassId))
  | [] => .ok none
  | (c, name) :: rest => do
    match ← h.memberCreator? c name with
    | some found => return some found
    | none => firstMemberCreator? rest

/-- The name under which an enumeration keeps the creating function that it declares. -/
def keptCreatorName : String := "__new_member__"

/-- The creating function of the members: the declared one, or the first one that is found. -/
def memberCreator (b : Blueprint) (dataType last : ClassId) :
    Except Fault (Member × List ClassId) := do
  match b.get? "__new__" with
  | some (.data .null) | none =>
    let found ← h.firstMemberCreator? [(dataType, keptCreatorName), (last, keptCreatorName),
      (dataType, "__new__"), (last, "__new__")]
    return found.getD (.native (.create .object), [])
  | some m => return (m, [])

/-! ## The plan -/

/-- The names of the entries that every enumeration has of its own. -/
def bookkeepingNames : List String :=
  ["_new_member_", "_use_args_", "_member_names_", "_member_map_", "_value2member_map_",
    "_unhashable_values_", "_member_type_", "_value_repr_"]

/-- The name of the entry that says what flags do about other bits. -/
def boundaryName : String := "_boundary_"

/-- The names of the entries that only flags keep. -/
def flagNames : List String :=
  [boundaryName, "_flag_mask_", "_singles_mask_", "_all_bits_", "_inverted_"]

/-- The bits that occur in the integers among some values. -/
def maskOf (values : List Json) : Int :=
  (values.filterMap Json.integer?).foldl Bits.or 0

/-- Whether an integer has exactly one bit. -/
def isSingle (n : Int) : Bool := n != 0 && Bits.and n (n - 1) == 0

/-- The bits that are values by themselves among some values. -/
def singlesOf (values : List Json) : Int :=
  ((values.filterMap Json.integer?).filter isSingle).foldl Bits.or 0

/-- The namespace without the ignored names, and with the plan of its members. -/
def planEnumeration (name : Json) (bases : List ClassId) (b : Blueprint) :
    Except Fault Blueprint := do
  let d := b.draft.getD ⟨name.text, [], []⟩
  let b := (d.ignored.filterMap nameOf?).foldl Blueprint.erase (b.erase EnumerationName.ignoredName)
  let invalid := d.names.filter fun n => n == "mro" || n == ""
  if ¬invalid.isEmpty then .error (.declaration (.invalidNames invalid))
  let order := b.get? EnumerationName.orderName
  let b := b.erase EnumerationName.orderName
  let (dataType, parent) ← h.mixins name bases
  let (creator, bound) ← h.memberCreator b dataType parent
  discard (h.read? parent boundaryName)
  let isRoot := match creator with
    | .native (.create .object) => true
    | m => m.findsMember
  let pending := d.names.filterMap fun n =>
    match b.get? n with
    | some (.data value) => some (n, value)
    | _ => none
  let values := pending.map (·.2)
  let declaredCreator := match b.get? "__new__" with
    | some (.data .null) => none
    | found => found
  let b := (bookkeepingNames ++ flagNames).foldl (fun b n => b.put n (.part false)) b
  return { b with plan := some {
    dataType
    parent
    creator
    bound
    takesValue := !isRoot
    declaredCreator
    order
    mask := maskOf values
    singles := singlesOf values
    conforms := h.derives parent LibraryClass.flag
    pending } }
where
  /-- The name that plain data is. -/
  nameOf? : Json → Option String
    | .str text => some text
    | _ => none

end Hierarchy

end UtilityClass
