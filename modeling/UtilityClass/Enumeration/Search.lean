import UtilityClass.Enumeration.Making

/-!
# Finding members

Calling an enumeration with a value finds the member of this value. Where there is none, the
enumeration may know what to do; flags know a member for each combination of their bits. Calling it
with names as well makes a new enumeration with members of these names.

## Main definitions

* `Enumeration.findCombination` : the combination of flags of an integer
* `Enumeration.find` : the member of a value
* `Enumeration.answer` : what the call of an enumeration gives
* `Enumeration.prepare` : the namespace that a new class is filled into
-/

namespace UtilityClass

namespace Enumeration

variable (m : Machinery)

/-! ## Flags -/

/-- The largest integer with as many bits as another one. -/
def allBits (n : Int) : Int := Int.ofNat (Nat.pow 2 (Bits.length n)) - 1

/-- Whether an integer has bits that do not occur in the values of flags, in either of the two ways
to write them down: a negative integer stands for the bits that it leaves out. -/
def isForeign (mask value : Int) : Bool :=
  let all := allBits mask
  let skipped := Bits.and (Bits.or all mask) (Bits.not (Bits.and all mask))
  decide (value < -all - 1) || decide (all < value) || Bits.and value skipped != 0

/-- The values of single bits that an integer consists of. -/
def singleBits (n : Int) : List Int :=
  (List.range (Bits.length n)).filterMap fun place =>
    let bit := Int.ofNat (Nat.pow 2 place)
    if Bits.and n bit = 0 then none else some bit

/-- Creates an object for a combination of flags. -/
def createCombination (c : ClassId) (e : Enumeration) (value : Json) : Act Value := do
  let h ← Act.classes
  let kept := (← Act.ofExcept (h.read? c Hierarchy.keptCreatorName)).filter ClassAttribute.truthy
  let ((creator, front), given) ←
    match kept with
    | some creator => pure (creator.on h c, [Value.data value])
    | none =>
      if e.dataType = LibraryClass.object then
        pure ((.native (.create .object), []), [])
      else do
        let creator ← Act.ofExcept (h.read e.dataType "__new__")
        pure (creator.on h e.dataType, [Value.data value])
  return (← m.apply creator (front ++ .ofClass c :: given) []).1

/-- The integer without the bits that do not occur in the values of flags, if the enumeration knows
what to do about them. -/
def conforming (h : Hierarchy) (c : ClassId) (e : Enumeration) (value : Int) :
    Except Fault Int := do
  if ¬isForeign e.mask value then return value
  if e.conforms then return Bits.and value e.mask
  .error (valueComplaint ((← h.literal c) ++ " unknown flag boundary None"))

/-- Remembers a combination of flags under an integer. -/
def remember (h : Hierarchy) (c : ClassId) (value : Int) (made : Instance) : Hierarchy :=
  h.modify c fun i => { i with enumeration := i.enumeration.map fun e =>
    { e with combinations := (value, made) :: e.combinations } }

/-- The bits of an integer that are values by themselves, or belong to the value of a member that
has no other bits. -/
def coveredBits (e : Enumeration) (bits : Int) : Int :=
  let values := e.members.filterMap fun member => member.value.bind Json.integer?
  (values.filter fun n => Bits.and n bits == n).foldl Bits.or (Bits.and bits e.singles)

/-- The combination of flags that a value stands for, which is an integer. One that has bits besides
those of members is not remembered. -/
def findCombination (c : ClassId) (e : Enumeration) (given : Json) (n : Int) : Act Value := do
  let value ← Act.ofExcept (conforming (← Act.classes) c e n)
  let bits := if value < 0 then allBits e.mask + 1 + value else value
  let made ← createCombination m c e (if bits = n then given else .int bits)
  let h ← Act.classes
  if (← Act.ofExcept (h.readOn? made valueName)).isNone then
    Act.ofExcept (h.checkAttribute made valueName)
  if (singleBits (Bits.and bits e.singles)).any fun bit => (h.memberOf? c (.int bit)).isNone then
    Act.fail (.noAttribute "NoneType" valueName)
  match made with
  | .object i =>
    if bits = coveredBits e bits then Act.setClasses (remember (remember h c bits i) c value i)
  | _ => pure ()
  return made

/-! ## Members -/

/-- The name of the method that is asked for members that are not found. -/
def missingName : String := "_missing_"

/-- What the method of an enumeration finds for a value that no member has, if it finds anything. -/
def askMissing (c : ClassId) (e : Enumeration) (value : Value) : Act Value := do
  let h ← Act.classes
  let a ← Act.ofExcept (h.read c missingName)
  match a.member, h.resolve? c missingName with
  | .part _, some (.library .flag, _) =>
    match value.content?, value.content?.bind Json.integer? with
    | some given, some n => findCombination m c e given n
    | _, _ => return .null
  | .part _, _ => return .null
  | _, _ =>
    let (method, front) := a.on h c
    return (← m.apply method (front ++ [value]) []).1

/-- Whether a value is one of an enumeration. Its metaclass may have something to say to it. -/
def isMember (h : Hierarchy) (c : ClassId) (value : Value) : Except Fault Bool :=
  match h.hook? c "__instancecheck__" with
  | some hook =>
    if value.type h = c then .ok true else (h.tryHook c hook 1).map fun _ => false
  | none => .ok (value.isOf h c)

/-- What is found for a value that no member has. -/
def findMissing (c : ClassId) (e : Enumeration) (value : Value) : Act Value := do
  let found ← Act.catching m (askMissing m c e value)
  let h ← Act.classes
  match found with
  | .ok found =>
    if ← Act.ofExcept (isMember h c found) then return found
    let literal ← Act.ofExcept (value.literal h)
    let name ← Act.ofExcept (h.longName c)
    if found.isNull then Act.refuse (.noMember literal name.text)
    Act.fail (typeComplaint ("error in " ++ (← Act.ofExcept (h.shortName c)).text ++
      "._missing_: returned " ++ (← Act.ofExcept (found.literal h)) ++
        " instead of None or a valid member"))
  | .error e =>
    if h.isException e.error.type then
      discard (Act.ofExcept (isMember h c .null))
      discard (Act.ofExcept (value.literal h))
    throw e

/-- The name under which an enumeration keeps its members by their values. -/
def valueMapName : String := "_value2member_map_"

/-- The member of an enumeration that is found by going over all of them. -/
def findAlong (h : Hierarchy) (c : ClassId) (value : Json) : Except Fault (Option Value) := do
  match (← h.read c Hierarchy.memberMapName).member with
  | .data (.obj []) => return none
  | .data (.obj ((_, first) :: _)) => .error (.noAttribute first.kind valueName)
  | .data kept => .error (.noAttribute kept.kind "values")
  | _ => return (h.memberOf? c value).map fun member => .object member.made

/-- What is found for a value in plain data that stands in the place of the members by their
values. -/
def findKept (h : Hierarchy) (c : ClassId) (kept value : Json) : Except Fault (Option Value) := do
  match kept, value with
  | .obj fields, .str name => return (fields.lookup name).map .data
  | .obj _, value => if value.isHashable then return none else findAlong h c value
  | kept, value =>
    match kept.items?, value.integer? with
    | some items, some place =>
      let fromEnd := if place < 0 then place + items.length else place
      if fromEnd < 0 then .error (outOfRange kept)
      match items[fromEnd.toNat]? with
      | some item => return some (.data item)
      | none => .error (outOfRange kept)
    | _, _ => findAlong h c value
where
  /-- What is said of a place that a sequence does not have. -/
  outOfRange (kept : Json) : Fault :=
    .refusal (.complaint .indexError
      ((if kept.kind = "str" then "string" else kept.kind) ++ " index out of range"))

/-- What is found for a value among the members by their values, which may be inherited. -/
def findKnown (h : Hierarchy) (c : ClassId) (value : Json) : Except Fault (Option Value) := do
  match (← h.read c valueMapName).member with
  | .data kept => findKept h c kept value
  | _ =>
    if ¬value.isHashable then findAlong h c value
    else
      let owner := ((h.resolve? c valueMapName).map (·.1)).getD c
      let combinations := ((h.info owner).enumeration.map (·.combinations)).getD []
      let member? := (h.memberOf? owner value).map (·.made)
      let combination? := (combinations.find? fun (n, _) => value.same (.int n)).map (·.2)
      return (member?.or combination?).map .object

/-- The member of an enumeration that has a value. A member stands for itself. -/
def find (receiver value : Value) : Act Value := do
  let h ← Act.classes
  match receiver with
  | .ofClass c =>
    if value.type h = c then return value
    discard (Act.ofExcept (h.read c valueMapName))
    match (h.info c).enumeration, value.content? with
    | none, _ => Act.fail (.change (.absent (h.info c).runtimeName valueMapName))
    | some e, some content =>
      match ← Act.ofExcept (findKnown h c content) with
      | some found => return found
      | none => findMissing m c e value
    | some e, none => findMissing m c e value
  | v => Act.fail (.noAttribute (v.kind h) valueMapName)

/-! ## New enumerations -/

/-- Asks a metaclass for the namespace that a new class is filled into. -/
def prepare (metaclass self : ClassId) (name : Json) (bases : List ClassId) : Act Blueprint := do
  let h ← Act.classes
  discard (Act.ofExcept (h.read? metaclass "__prepare__"))
  match h.resolve? metaclass "__prepare__" with
  | some (.library .enumType, _) => Act.ofExcept (h.prepareEnumeration self name bases)
  | some (.declared _, hook) => do
    let (hook, front) := hook.onClass metaclass
    Act.ofExcept (hook.tryCall (front.length + 2))
    Act.fail (typeComplaint "'NoneType' object does not support item assignment")
  | _ => return Blueprint.empty self

/-- The value of a member that is given by its name only, when some members come before it. -/
def countOn (c : ClassId) (name : Json) (earlier : Nat) : Act Json := do
  let h ← Act.classes
  match ← Act.ofExcept (h.read? c Hierarchy.nextValueName) with
  | some ⟨.part _, _⟩ | none =>
    if h.derives c LibraryClass.flag then return .int (Int.ofNat (Nat.pow 2 earlier))
    else return .int (Int.ofNat (earlier + 1))
  | some counter =>
    let (counter, front) := counter.on h c
    let given : List Value := [.data name, .data (.int 1), .data (.int earlier), .data (.arr [])]
    return ((← m.apply counter (front ++ given) []).1.content?).getD .null

/-- A member that is given by an item: its name and its value. -/
def memberOfItem (names item : Json) : Except Fault (Json × Json) :=
  match item, names with
  | .str name, .obj fields => .ok (item, (fields.lookup name).getD .null)
  | .str _, _ => .error (typeComplaint "list indices must be integers or slices, not str")
  | item, _ => item.pair

/-- Puts a member into a namespace. -/
def declareMember (b : Blueprint) (name value : Json) : Except Fault Blueprint :=
  match name with
  | .str name => b.declare name (.data value)
  | .arr _ | .obj _ => .error (.unhashable name.kind)
  | name => .error (.refusal (.noLength name.kind))

/-- The namespace with members put into it. -/
def declareMembers (c : ClassId) (b : Blueprint) (names : Json) : Act Blueprint := do
  let names := match names with
    | .str text => Json.arr ((EnumerationName.words text).map .str)
    | names => names
  match names with
  | .arr (.str first :: rest) => do
    let pairs ← (Json.str first :: rest).zipIdx.mapM fun (name, earlier) => do
      return (name, ← countOn m c name earlier)
    Act.ofExcept (pairs.foldlM (fun b (name, value) => declareMember b name value) b)
  | names => Act.ofExcept do
    (← names.items).foldlM (fun b item => do
      let (name, value) ← memberOfItem names item
      declareMember b name value) b

/-- Makes a new enumeration with members of the given names. -/
def make (c : ClassId) (name names : Value) : Act Value := do
  let h ← Act.classes
  let metaclass := (h.info c).metaclass
  let shown := name.content?.getD .null
  discard (Act.ofExcept (h.mixins shown [c]))
  let self ← Act.takeClass
  let b ← prepare metaclass self shown [c]
  let b ← declareMembers m c b (names.content?.getD .null)
  let b ← Act.ofExcept (b.declare "__module__" (.data (.str "__main__")))
  let h ← Act.classes
  let (creator, front) := (← Act.ofExcept (h.read metaclass "__new__")).on h metaclass
  let given := [Value.ofClass metaclass, name, .tuple [.ofClass c], .blueprint b]
  return (← m.apply creator (front ++ given) [("boundary", .null)]).1

/-- What the call of an enumeration gives: a member, or a new enumeration if there are names. -/
def answer (receiver value names : Value) : Act Value := do
  let h ← Act.classes
  match receiver with
  | .ofClass c =>
    if ¬names.isNull then make m c value names
    else
      let (creator, front) := (← Act.ofExcept (h.read c "__new__")).on h c
      return (← m.apply creator (front ++ [.ofClass c, value]) []).1
  | v => Act.fail (.noAttribute (v.kind h) "_create_")

end Enumeration

end UtilityClass
