import UtilityClass.Class.Abstract
import UtilityClass.Class.Derivation
import UtilityClass.World

/-!
# Whether a class derives from another one

A class derives from the classes of its order, but the question may be left to the metaclass of the
other class. A declared metaclass may have a hook for it. A metaclass that keeps track of abstract
methods first looks at what the class has answered before, then asks a method of the class, which
protocols have, then looks at the order, and at last asks the direct subclasses in turn. The answer
is kept with the class, so that nothing is asked a second time.

## Main definitions

* `Hierarchy.askSubclassHook` : what the method of a class has to say
* `Act.isSubclass` : whether a class derives from another one
-/

namespace UtilityClass

namespace Hierarchy

variable (h : Hierarchy)

/-! ## Kept answers -/

/-- The class with which the answers of a class are kept: itself, unless its own ones have been
deleted. -/
def answersKeeper (c : ClassId) : Except Fault ClassId := do
  match (← h.read c answersName).member with
  | .part _ => return ((h.resolve? c answersName).map (·.1)).getD c
  | _ => .error (typeComplaint (answersName ++ " is set to a wrong type"))

/-- The answer that is kept. -/
def keptAnswer? (keeper c : ClassId) : Except Fault (Option Bool) := do
  let answers := (h.info keeper).answers
  if ← h.isKey c answers.accepted then return some true
  if ← h.isKey c answers.refused then return some false
  return none

/-- The hierarchy in which an answer is kept. -/
def keepAnswer (keeper c : ClassId) (answer : Bool) : Except Fault Hierarchy := do
  h.checkHashable c
  return h.modify keeper fun i =>
    { i with answers :=
        if answer then { i.answers with accepted := c :: i.answers.accepted }
        else { i.answers with refused := c :: i.answers.refused } }

/-! ## What a class says itself -/

/-- What the method of a protocol has to say: it leaves the question open where it is asked on
behalf of another class, and otherwise protocols of exceptions do not take it. -/
def askProtocol (onBehalf : Bool) (protocol : ClassId) : Except Fault Unit := do
  let flag ← (← h.namespaceOf protocol).get? "_is_protocol"
  if ¬flag.any Member.truthy then return
  let isRuntime ← h.readTruth protocol "_is_runtime_protocol"
  if onBehalf then return
  if isRuntime then
    .error (typeComplaint "Protocols with non-method members don't support issubclass()")
  .error (typeComplaint
    "Instance and class checks can only be used with @runtime_checkable protocols")

/-- The direct subclasses of a class that it gives. -/
def readSubclasses (c : ClassId) : Except Fault (List ClassId) := do
  let a ← h.read c "__subclasses__"
  match a.member, a.isBound with
  | .part _, false =>
    .error (typeComplaint "unbound method type.__subclasses__() needs an argument")
  | .part _, true =>
    return ((List.range h.declared).map ClassId.declared).filter fun d =>
      (h.info d).bases.contains c
  | .data value, _ =>
    .error (typeComplaint ("attribute of type '" ++ value.kind ++ "' is not callable"))
  | _, _ =>
    a.tryCall h c 0
    .error (typeComplaint "__subclasses__() must return a list")

end Hierarchy

namespace Act

/-- What the method of a class says to the question whether another class derives from it: nothing,
unless it complains. The method of protocols is a function with a body. -/
def askSubclassHook (onBehalf : Bool) (c : ClassId) : Act Unit := do
  let h ← classes
  let a ← ofExcept (h.read c Hierarchy.subclassHookName)
  match a.member, h.resolve? c Hierarchy.subclassHookName with
  | .part _, some (.declared protocol, _) =>
    inFrame (ofExcept (h.askProtocol onBehalf (.declared protocol)))
  | .part _, _ => return
  | _, _ =>
    ofExcept (a.tryCall h c 1)
    refuse (.complaint .assertionError
      "__subclasshook__ must return either False, True, or NotImplemented")

/-- Whether a class derives from another one. The fuel bounds how many classes are asked on behalf
of each other. -/
def isSubclassWithin : Nat → Bool → ClassId → ClassId → Act Bool
  | 0, _, _, _ => return false
  | fuel + 1, onBehalf, c, ancestor => do
    let h ← classes
    match h.resolve? (h.info ancestor).metaclass "__subclasscheck__" with
    | some (.declared _, hook) =>
      ofExcept (h.tryHook ancestor hook 1)
      return false
    | some (.library .abcMeta, _) => inFrame do
      let keeper ← ofExcept (h.answersKeeper ancestor)
      match ← ofExcept (h.keptAnswer? keeper c) with
      | some answer => return answer
      | none =>
        askSubclassHook onBehalf ancestor
        let answer ←
          if h.derives c ancestor then pure true
          else (← ofExcept (h.readSubclasses ancestor)).anyM (isSubclassWithin fuel true c)
        setClasses (← ofExcept ((← classes).keepAnswer keeper c answer))
        return answer
    | _ => return h.derives c ancestor

/-- Whether a class derives from another one. -/
def isSubclass (c ancestor : ClassId) : Act Bool := do
  isSubclassWithin ((← classes).declared + 1) false c ancestor

/-- A class whose metaclass leaves the question to the order is not asked. -/
theorem isSubclass_run {c ancestor : ClassId} {w : World} {m : Member}
    (hm : w.classes.resolve? (w.classes.info ancestor).metaclass "__subclasscheck__" =
      some (.library .type, m)) :
    isSubclass c ancestor w = (.ok (w.classes.derives c ancestor), w) := by
  have hc : (classes : Act Hierarchy) w = (.ok w.classes, w) := rfl
  simp [isSubclass, isSubclassWithin, bind_run, hc, hm]

end Act

end UtilityClass
