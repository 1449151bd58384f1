import UtilityClass.Class.Change
import UtilityClass.Class.Library

/-!
# Telling the bases of a new class

When a class has been made, the next function along its order is told of it. Most classes have
nothing to say to this. A class that could be given parameters may not be a base by itself. A class
derived from protocols is marked as one if it names the root of protocols among its bases; such a
class may only have protocols as bases, and it gets an initialising function that keeps it from
being instantiated.

## Main definitions

* `Hierarchy.tellBases`
-/

namespace UtilityClass

namespace Hierarchy

variable (h : Hierarchy)

/-- The classes that protocols may have as bases although they are none, by module and name. -/
def allowedBases : List (String × List String) :=
  [("collections.abc", ["Callable", "Awaitable", "Iterable", "Iterator", "AsyncIterable",
      "Hashable", "Sized", "Container", "Collection", "Reversible"]),
    ("contextlib", ["AbstractContextManager", "AbstractAsyncContextManager"])]

/-- Whether a class is listed as one that protocols may have as a base. -/
def isAllowedBase (c : ClassId) : Except Fault Bool := do
  match ← h.nameAttribute? c "__module__" with
  | none => .error (.change (.missing "__module__"))
  | some (.str module) =>
    match allowedBases.lookup module with
    | some names =>
      let name ← h.shortName c
      return names.any fun allowed => name.same (.str allowed)
    | none => return false
  | some module =>
    if module.isHashable then return false else .error (.unhashable module.kind)

/-- Whether what stands among the bases of a protocol may stand there. -/
def mayBaseProtocol : Subject → Except Fault Bool
  | .plain value => .error (.noAttribute value.kind "__module__")
  | .ofClass c => do
    if ← h.sameClass LibraryClass.object c then return true
    if ← h.sameClass LibraryClass.generic c then return true
    if ← h.isAllowedBase c then return true
    if ¬h.derives c LibraryClass.generic then return false
    return (← h.read c "_is_protocol").truthy

/-- The name under which the bases of a class are listed as they were written. -/
def writtenBasesName : String := "__orig_bases__"

/-- Whether a class has the root of classes with parameters as a base by itself. The root of
protocols is known by its name. -/
def hasPlainGeneric (c : ClassId) : Except Fault Bool := do
  if ← (← h.namespaceOf c).contains writtenBasesName then
    h.readContains c writtenBasesName [] LibraryClass.generic
  else if ← h.readContains c "__bases__" (h.info c).bases LibraryClass.generic then
    return !(← h.shortName c).same (.str "Protocol")
  else return false

/-- What the root of classes with parameters says to a new class. -/
def asGeneric (c : ClassId) : Except Fault Hierarchy := do
  if ← h.hasPlainGeneric c then .error (.declaration .plainGeneric)
  h.assign c "__parameters__" (.part false)

/-- The name of the method that is asked whether a class derives from another one. -/
def subclassHookName : String := "__subclasshook__"

/-- Refuses a base that no protocol may have. -/
def checkProtocolBases : List Subject → Except Fault Unit
  | [] => .ok ()
  | base :: rest => do
    if ¬(← h.mayBaseProtocol base) then
      .error (.declaration (.protocolBase (← base.literal h)))
    checkProtocolBases rest

/-- What the root of protocols says to a new class. -/
def asProtocol (c : ClassId) : Except Fault Hierarchy := do
  let flag ← (← h.namespaceOf c).get? "_is_protocol"
  let h ← if flag.any Member.truthy then pure h
    else do
      let named := (← h.readBases c).filterMap Subject.class?
      h.assign c "_is_protocol" (.data (.bool (named.contains (.library .protocol))))
  let h ← if ← (← h.namespaceOf c).contains subclassHookName then pure h
    else h.assign c subclassHookName (.part false)
  if ¬(← h.read c "_is_protocol").truthy then return h
  h.checkProtocolBases (← h.readBases c)
  if (← h.read c "__init__").member.isRoot "__init__" then
    h.assign c "__init__" (.function LibraryClass.protocolInitialiser)
  else return h

/-- Tells the classes of a list of a new class: the first one that has something to say decides
whether the ones behind it are told. -/
def tell (c : ClassId) : List ClassId → Except Fault Hierarchy
  | [] => .ok h
  | owner :: rest =>
    match owner, h.own? owner "__init_subclass__" with
    | _, none => tell c rest
    | .library .generic, _ => do (← tell c rest).asGeneric c
    | .library .protocol, _ => do (← tell c rest).asProtocol c
    | .library _, some _ => .ok h
    | .declared _, some m => do
      let (m, front) := m.onClass c
      m.tryCall front.length
      .ok h

/-- Tells the bases of a new class of it. -/
def tellBases (c : ClassId) : Except Fault Hierarchy := h.tell c ((h.info c).order.drop 1)

end Hierarchy

end UtilityClass
