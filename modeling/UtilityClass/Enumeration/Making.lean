import UtilityClass.Catching
import UtilityClass.Enumeration.Plan

/-!
# Making the members of an enumeration

When an enumeration is made, each entry that its plan names is replaced by a member: an object that
the creating function gives, with the value that was declared or that the type of data makes of it.
The object is initialised with what was declared. A member with the value of an earlier one is just
a further name of it, and among flags only values of one bit are listed.

After that the enumeration gets a few entries of its own, above all the creating function that finds
members instead of making them, and the order of the members is checked if it is given.

## Main definitions

* `Enumeration.makeMembers`
* `Enumeration.complete`
-/

namespace UtilityClass

/-- The member of an enumeration that has a value. -/
def Hierarchy.memberOf? (h : Hierarchy) (c : ClassId) (value : Json) : Option EnumerationMember :=
  (h.info c).enumeration.bind fun e =>
    e.members.find? fun member => member.value.any (·.same value)

namespace Enumeration

variable (m : Machinery)

/-! ## Members -/

/-- The attribute that holds the value of a member. -/
def valueName : String := "_value_"

/-- What a member is made of. A type of several values takes them as one argument. -/
def argument (p : MemberPlan) (declared : Json) : Value :=
  if p.dataType = LibraryClass.tuple then .tuple [.plain declared] else .data declared

/-- What the type of data makes of the argument of a member, which has to take it as its value. -/
def convert (p : MemberPlan) (made given : Value) : Act Value := do
  let converted : Act Value := do
    let value ← m.call (.ofClass p.dataType) [given] []
    Act.ofExcept ((← Act.classes).checkAttribute made valueName)
    return value
  match ← Act.catching m converted with
  | .ok value => return value
  | .error e =>
    if (← Act.classes).isException e.error.type then Act.fail (.declaration .noMemberValue)
    else throw e

/-- The value of a member that has been created. One that its class brings along comes first. -/
def valueOf (p : MemberPlan) (declared : Json) (made : Value) : Act Value := do
  let h ← Act.classes
  match ← Act.ofExcept (h.readOn? made valueName) with
  | some (_, .data value) => return .data value
  | some _ => return .object (Instance.bare LibraryClass.functionType)
  | none =>
    if p.takesValue ∧ p.dataType ≠ LibraryClass.object then
      convert m p made (argument p declared)
    else
      Act.ofExcept (h.checkAttribute made valueName)
      return .data declared

/-- The types of numbers that can be counted down but have no bits. -/
def bitlessTypes : List ClassId := LibraryClass.ids [.float, .complex, .decimal, .fraction]

/-- Whether a value has one bit. -/
def hasOneBit (h : Hierarchy) (v : Value) : Except Fault Bool :=
  match bitlessTypes.find? fun l => v.isOf h l, v.content?.bind Json.integer? with
  | some l, _ =>
    if v.content?.any fun value => !value.truthy then .ok false
    else .error (.declaration (.noBits (v.kind h) (h.info l).runtimeName "&="))
  | none, some n => .ok (decide (n ≠ 0) && Bits.and n (n - 1) == 0)
  | none, none => .error (.declaration (.noBits (v.kind h) "int" "-"))

/-- Whether a member counts as true: flags by their values, others by the data they stand for. -/
def countsAsTrue (h : Hierarchy) (c : ClassId) (made value : Value) : Bool :=
  if h.derives c LibraryClass.flag then value.content?.all Json.truthy
  else match made with
    | .object i => i.content.all Json.truthy
    | made => made.content?.all Json.truthy

/-- Adds a member to an enumeration. -/
def addMember (h : Hierarchy) (c : ClassId) (member : EnumerationMember) : Hierarchy :=
  h.modify c fun i =>
    { i with enumeration := i.enumeration.map fun e => { e with members := e.members ++ [member] } }

/-- What an attribute of a class holds behind its first item. -/
def restOf (h : Hierarchy) (c : ClassId) (a : ClassAttribute) : Except Fault (List Subject) :=
  let refuse (kind : String) : Except Fault (List Subject) :=
    .error (typeComplaint ("'" ++ kind ++ "' object is not subscriptable"))
  match a.member with
  | .native (.field _) => .ok (((h.info c).order.drop 1).map .ofClass)
  | .data (.obj _) => .error (.unhashable "slice")
  | .data value =>
    match value.items? with
    | some items => .ok ((items.drop 1).map .plain)
    | none => refuse value.kind
  | _ => refuse a.kind

/-- Looks into the namespaces of the ancestors of an enumeration for an entry of a name. -/
def checkAncestors (h : Hierarchy) (c : ClassId) (name : String) : Except Fault Unit := do
  for ancestor in ← restOf h c (← h.read c "__mro__") do
    match ancestor with
    | .ofClass d => discard ((← h.namespaceOf d).get? name)
    | .plain value => .error (.noAttribute value.kind "__dict__")

/-- Makes a member of an enumeration. -/
def makeMember (c : ClassId) (p : MemberPlan) (name : String) (declared : Json) : Act Unit := do
  Act.setClasses (← Act.ofExcept ((← Act.classes).delete c name))
  let given := argument p declared
  let (creator, front) := p.creator.onClass c
  let arguments := front ++ p.bound.map .ofClass ++
    .ofClass c :: if p.takesValue then [given] else []
  let (made, _) ← m.apply creator arguments []
  let value ← valueOf m p declared made
  let h ← Act.classes
  Act.ofExcept (h.checkAttribute made "_name_")
  match h.resolve? (made.type h) "__init__" with
  | some (_, initialiser) =>
    let (initialiser, front) ← Act.ofExcept (h.bind initialiser made)
    discard (m.apply initialiser (front ++ [given]) [])
  | none => pure ()
  let h ← Act.classes
  let known := value.content?.bind (h.memberOf? c)
  let listed ←
    if known.isSome then pure false
    else if h.derives c LibraryClass.flag then Act.ofExcept (hasOneBit h value)
    else pure true
  let made' := match made with
    | .object i => i
    | made => Instance.bare (made.type h)
  let member := match known with
    | some known => { known with name, listed }
    | none => ⟨name, made', value.content?, listed⟩
  Act.ofExcept (checkAncestors h c name)
  let h ← Act.ofExcept (h.assign c name (.enumerated (countsAsTrue h c made value)))
  Act.setClasses (addMember h c member)

/-- Makes the members of an enumeration. -/
def makeMembers (c : ClassId) (p : MemberPlan) : Act Unit :=
  p.pending.forM fun (name, declared) => makeMember m c p name declared

/-! ## Completion -/

/-- Sets an attribute of a class. -/
def put (c : ClassId) (name : String) (member : Member) : Act Unit := do
  Act.setClasses (← Act.ofExcept ((← Act.classes).assign c name member))

/-- Sets attributes of a class that it does not have of its own. -/
def putMissing (c : ClassId) (names : List String) : Act Unit :=
  names.forM fun name => do
    if ((← Act.classes).own? c name).isNone then put c name (.part false)

/-- Refuses what an enumeration shows as its namespace if it cannot be gone through. -/
def checkNamespace (h : Hierarchy) (c : ClassId) : Except Fault Unit := do
  match ← h.namespaceOf c with
  | .own _ | .data (.obj _) => return
  | .data value => discard value.items
  | .other kind _ => .error (.refusal (.notIterable kind))

/-- Whether the listed members of flags do not stand in the order of their values. -/
def isUnordered (h : Hierarchy) (c : ClassId) : Bool :=
  let members := ((h.info c).enumeration.map (·.members)).getD []
  let values := (members.filter (·.listed)).filterMap fun member =>
    member.value.bind Json.integer?
  (values.zip (values.drop 1)).any fun (n, next) => decide (next < n)

/-- Whether an enumeration was given a method of its type of data for showing members. -/
def isGiven (h : Hierarchy) (owner dataType : ClassId) (name : String) : Bool :=
  let isOwn := (h.resolve? dataType name).any fun (supplier, _) =>
    decide (supplier ≠ .library .object)
  let root : ClassId := .library .reprEnum
  owner ≠ root && h.derives owner root && (name == "__format__" || name == "__str__" && isOwn)

/-- Whether the attribute of a name comes from the type of data or the root. -/
def isBorrowed (h : Hierarchy) (c dataType : ClassId) (name : String) : Bool :=
  let isSupplier (owner : ClassId) : Bool :=
    owner = LibraryClass.object || (h.resolve? dataType name).any fun found => found.1 = owner
  match h.resolve? c name with
  | some (owner, .part _) => isSupplier owner || isGiven h owner dataType name
  | some (owner, _) => isSupplier owner
  | none => false

/-- The names of the methods that show members. -/
def showingNames : List String := ["__repr__", "__str__", "__format__", "__reduce_ex__"]

/-- The names of the operations on flags. -/
def flagOperations : List String :=
  ["__or__", "__and__", "__xor__", "__ror__", "__rand__", "__rxor__", "__invert__"]

/-- The items of a given order. -/
def itemsOfOrder : Member → Except Fault (List Json)
  | .data (.str text) => .ok ((EnumerationName.words text).map .str)
  | .data value =>
    if ¬value.truthy then .ok []
    else do
      let items ← value.items
      match items.find? fun item => !item.isHashable with
      | some item => .error (.unhashable item.kind)
      | none => .ok items
  | _ => .error (.refusal (.notIterable "function"))

/-- Checks a given order of the members. Further names of members are left out of it. -/
def checkOrder (h : Hierarchy) (c : ClassId) (order : Member) : Except Fault Unit := do
  let items ← itemsOfOrder order
  if items.isEmpty then return
  let members := ((h.info c).enumeration.map (·.members)).getD []
  let listed := (members.filter (·.listed)).map fun member => Json.str member.name
  let isFurther (item : Json) : Bool :=
    members.any (fun member => item.same (.str member.name)) &&
      !listed.any fun name => item.same name
  let given := items.filter fun item => !isFurther item
  let agree := given.length == listed.length && (given.zip listed).all fun (x, y) => x.same y
  if ¬agree then
    .error (.declaration (.orderMismatch (Json.arr listed).literal (Json.arr given).literal))

/-- The creating function that finds members, as an enumeration owns it. -/
def finder : Member :=
  match LibraryClass.enumerationCreator with
  | .static f _ => .function f
  | member => member

/-- Goes over the members of an enumeration. A metaclass that declares by name only how to do this
gives nothing to go over. -/
def checkIteration (h : Hierarchy) (c : ClassId) : Except Fault Unit :=
  match h.resolve? (h.info c).metaclass "__iter__" with
  | some (.declared _, hook) => do
    h.tryHook c hook 0
    .error (typeComplaint "iter() returned non-iterator of type 'NoneType'")
  | _ => .ok ()

/-- Gives a new enumeration the entries that every enumeration has, and checks the order of its
members. -/
def complete (c : ClassId) (bases : List ClassId) (p : MemberPlan) : Act Unit := do
  Act.ofExcept (checkNamespace (← Act.classes) c)
  if ← Act.ofExcept ((← Act.classes).isAmong LibraryClass.reprEnum bases) then
    if p.dataType = LibraryClass.object then Act.fail (.declaration .noDataType)
    putMissing c ["__format__", "__str__"]
  for name in showingNames do
    let h ← Act.classes
    if (h.own? c name).isNone ∧ isBorrowed h c p.dataType name then
      let inherited ← Act.ofExcept (h.read? p.parent name)
      put c name ((inherited.map (·.member)).getD (.part false))
  let isFlag := (← Act.classes).derives c LibraryClass.flag
  if isFlag then putMissing c flagOperations
  match p.declaredCreator with
  | some creator => put c Hierarchy.keptCreatorName creator
  | none => pure ()
  put c "__new__" finder
  if isFlag then
    Act.ofExcept (checkIteration (← Act.classes) c)
    if isUnordered (← Act.classes) c then put c "_iter_member_" (.part false)
  else
    for name in Hierarchy.flagNames do
      Act.setClasses (← Act.ofExcept ((← Act.classes).delete c name))
  match p.order with
  | some order => Act.ofExcept (checkOrder (← Act.classes) c order)
  | none => pure ()

end Enumeration

end UtilityClass
