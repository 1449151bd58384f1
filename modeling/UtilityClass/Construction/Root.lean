import UtilityClass.Class.Abstract
import UtilityClass.Class.Library

/-!
# Creation and initialisation by the root

The root of all classes creates objects and initialises them, and takes no arguments for either. A
class that has one of the two functions of its own may be given arguments, which the other one then
ignores; the root only complains where no function takes them.

A native creating function is called in two ways. A class whose primary bases are all created
natively is created by their function directly. Where the function is found by a lookup instead, it
first checks that the class is one that it can create.

## Main definitions

* `Hierarchy.checkCreation` : the check of a creating function that was looked up
* `Hierarchy.createRoot`, `Hierarchy.initialiseRoot`
-/

namespace UtilityClass

namespace LibraryClass

/-- Whether a library class is an exception of the operating system. -/
def isSystemError (c : LibraryClass) : Bool := (info c).order.contains (.library .osError)

/-- The class whose creating function does the work of that of another class: exceptions have theirs
in common. -/
def creationFamily (c : LibraryClass) : LibraryClass :=
  if c.isSystemError then .osError
  else if (info c).order.contains (.library .baseException) then .baseException
  else c

end LibraryClass

namespace Hierarchy

variable (h : Hierarchy)

/-- The first class along the primary bases whose objects are created natively, and by which
function. The fuel bounds the number of primary bases. -/
def nativeBaseWithin : Nat → ClassId → Option (ClassId × LibraryClass)
  | 0, _ => none
  | fuel + 1, c =>
    match (h.info c).creator with
    | some l => some (c, l)
    | none => nativeBaseWithin fuel (h.info c).primary

/-- Checks that the looked up creating function of a library class can create objects of a class:
the class derives from it, and no other native function is responsible for the layout. -/
def checkCreation (creator : LibraryClass) (c : ClassId) : Except Fault Unit :=
  let creatorName := (h.info creator).runtimeName
  let name := (h.info c).runtimeName
  if ¬h.derives c creator then .error (.refusal (.notSubtype creatorName name))
  else match h.nativeBaseWithin (h.info c).order.length c with
    | some (base, l) =>
      if l.creationFamily = creator.creationFamily then .ok ()
      else .error (.refusal (.unsafeCreation creatorName name (h.info base).runtimeName))
    | none => .ok ()

/-- The native initialising function of a class, if its effective one is native and made for objects
like its own. -/
def nativeInitialiser? (c : ClassId) : Option LibraryClass :=
  match h.resolve? c "__init__" with
  | some (_, .native (.initialise l)) => if h.derives c l then some l else none
  | _ => none

/-- Whether the native creating function of a class is the root's. -/
def createsAsRoot (c : ClassId) : Bool := (h.info c).creator == some .object

/-- Whether the effective initialising member of a class is the root's. -/
def initialisesAsRoot (c : ClassId) : Bool := h.nativeInitialiser? c == some .object

/-- Creation by the root's own function. -/
def createRoot (c : ClassId) (surplus : Bool) : Except Fault Unit := do
  let info := h.info c
  if surplus ∧ ¬h.createsAsRoot c then .error (.refusal .leftOverForCreation)
  if surplus ∧ h.initialisesAsRoot c then
    .error (.refusal (.takesNoArguments info.runtimeName))
  if info.isBarred then
    .error (.refusal (.abstractMethods info.runtimeName (← h.abstractNames c)))

/-- Initialisation of an object of a class by the root's own function. -/
def initialiseRoot (c : ClassId) (surplus : Bool) : Except Fault Unit :=
  if surplus ∧ ¬h.initialisesAsRoot c then .error (.refusal .leftOverForInitialisation)
  else if surplus ∧ h.createsAsRoot c then
    .error (.refusal (.initialisesAlone (h.info c).runtimeName))
  else .ok ()

end Hierarchy

end UtilityClass
