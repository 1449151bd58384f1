import UtilityClass.Class.Abstract
import UtilityClass.Class.Derivation
import UtilityClass.Construction.Numbers
import UtilityClass.Construction.Root
import UtilityClass.Enumeration.Search

/-!
# What functions of the library do

Some classes of the library have functions that are written like those of declared classes. A
protocol has one that keeps it from being instantiated, classes that keep track of abstract methods
and enumerations have one that makes them, and so have fractions; and dictionaries that wrap another
one are filled by one.

## Main definitions

* `Construction.guardProtocol`
* `Construction.createAbstract`, `Construction.createEnumeration`
* `Construction.createFraction`, `Construction.fillDictionary`
-/

namespace UtilityClass

namespace Construction

variable (m : Machinery)

/-! ## Protocols -/

/-- The first initialising member along an order that is not the guard of protocols. -/
def otherInitialiser (h : Hierarchy) : List Subject → Except Fault Member
  | [] => .ok (.native (.initialise .object))
  | .plain value :: _ => .error (.noAttribute value.kind "__dict__")
  | .ofClass c :: rest => do
    match ← (← h.namespaceOf c).get? "__init__" with
    | some (.function f) =>
      if f.isProtocolGuard then otherInitialiser h rest else return .function f
    | some m => return m
    | none => otherInitialiser h rest

/-- Keeps protocols from being instantiated. A class derived from a protocol that is none itself and
has no initialising function of its own takes over the first other one along its order, for good.
The result is what has become of the object. -/
def guardProtocol (self : Value) (arguments : List Value) (named : List (String × Value)) :
    Act Value := do
  let h ← Act.classes
  let c := self.type h
  if (← Act.ofExcept (h.read c "_is_protocol")).truthy then Act.refuse .protocolInstantiated
  match (← Act.ofExcept (h.read c "__init__")).member with
  | .function f =>
    if ¬f.isProtocolGuard then return self
    let h ← Act.ofExcept do
      let member ← otherInitialiser h (← h.readOrder c)
      h.assign c "__init__" member
    Act.setClasses h
    let (member, front) := (← Act.ofExcept (h.read c "__init__")).on h c
    let (_, first) ← m.apply member (front ++ self :: arguments) named
    return if front.isEmpty then first else self
  | _ => return self

/-! ## Making classes -/

/-- Creates a class with the next function behind one of its metaclasses. -/
def createNext (after : ClassId) (metaclass : Value) (arguments : List Value)
    (named : List (String × Value)) : Act Value := do
  let h ← Act.classes
  match ← Act.ofExcept (h.next? metaclass after "__new__") with
  | some found =>
    return (← m.apply found.member (found.front ++ metaclass :: arguments) named).1
  | none => return .null

/-- Creates a class that keeps track of its abstract methods. -/
def createAbstract (metaclass : Value) (arguments : List Value) (named : List (String × Value)) :
    Act Value := do
  let made ← createNext m LibraryClass.abcMeta metaclass arguments named
  let h ← Act.classes
  match made with
  | .ofClass c =>
    Act.setClasses (← Act.ofExcept (h.trackAbstract c))
    return made
  | made => Act.fail (.noAttribute (made.kind h) "__dict__")

/-- Creates an enumeration. -/
def createEnumeration (metaclass name bases namespace' : Value) (named : List (String × Value)) :
    Act Value := do
  let h ← Act.classes
  let next (b : Value) : Act Value :=
    createNext m LibraryClass.enumType metaclass [name, bases, b] named
  match namespace', bases with
  | .blueprint b, .tuple items =>
    if b.draft.isNone then Act.fail (.noAttribute "dict" "_member_names")
    let bases := items.filterMap Subject.class?
    let b ← Act.ofExcept (h.planEnumeration (name.content?.getD .null) bases b)
    let made ← next (.blueprint b)
    match made, b.plan with
    | .ofClass c, some plan =>
      Enumeration.complete c bases plan
      return made
    | made, _ => Act.fail (.noAttribute (made.kind (← Act.classes)) "__dict__")
  | b, _ =>
    if b.isOf h LibraryClass.dict then Act.fail (.noAttribute (b.kind h) "_member_names")
    else Act.fail (.noAttribute (b.kind h) "setdefault")

/-! ## Fractions -/

/-- Creates a fraction. -/
def createFraction (receiver numerator denominator : Value) : Act Value := do
  let made ← createNext m LibraryClass.fraction receiver [] []
  let content ← Act.ofExcept (Hierarchy.fractionOf numerator denominator)
  Act.ofExcept ((← Act.classes).checkAttribute made "_numerator")
  match made with
  | .object i => return .object { i with content }
  | made => return made

/-! ## Dictionaries -/

/-- What the items are called that a dictionary is filled with: those of an object have their names,
and all others are pairs of a name and a value. -/
def keysOf (given : Value) : Act (List Json) := do
  match given with
  | .data (.obj fields) => return fields.map fun (name, _) => .str name
  | .data value => Act.ofExcept do
    (← value.items).mapM fun item => (·.1) <$> item.pair
  | v => Act.refuse (.notIterable (v.kind (← Act.classes)))

/-- Puts items into a dictionary that wraps another one. -/
def putItems (self given : Value) : Act Unit := do
  let h ← Act.classes
  match h.resolve? (self.type h) "update" with
  | some (.declared _, method) =>
    let (method, front) ← Act.ofExcept (h.bind method self)
    discard (m.apply method (front ++ [given]) [])
  | _ =>
    for key in ← keysOf given do
      match h.resolve? (self.type h) "__setitem__" with
      | some (.declared _, method) =>
        let (method, front) ← Act.ofExcept (h.bind method self)
        discard (m.apply method (front ++ [.data key, .null]) [])
      | _ => if ¬key.isHashable then Act.fail (.unhashable key.kind)

/-- Fills a dictionary that wraps another one. -/
def fillDictionary (self given : Value) (named : List (String × Value)) : Act Unit := do
  Act.ofExcept ((← Act.classes).checkAttribute self "data")
  if ¬given.isNull then putItems m self given
  if ¬named.isEmpty then
    putItems m self (.data (.obj (named.map fun (name, v) => (name, v.content?.getD .null))))

end Construction

end UtilityClass
