import UtilityClass.Construction.Calendar
import UtilityClass.Construction.Collections
import UtilityClass.Construction.Exceptions
import UtilityClass.Construction.Numbers
import UtilityClass.Construction.Texts
import UtilityClass.Machinery

/-!
# Native construction

What the native creating and initialising functions of the library do, whatever their class: they
are sorted by the family of their class here and do their work elsewhere. Classes are created by a
function of their own, which is not among them.

## Main definitions

* `Hierarchy.createNative`, `Hierarchy.initialiseNative`
-/

namespace UtilityClass

namespace Value

/-- What a class of plain data makes of it: the data itself, or an object that stands for it if the
class is derived from the one of the data. -/
def standingFor (family : LibraryClass) (c : ClassId) (content : Json) : Value :=
  if c = .library family then .data content
  else .object { Instance.bare c with content := some content }

/-- An object of a class that may stand for plain data. -/
def ofContent (c : ClassId) (content : Option Json) : Value :=
  .object { Instance.bare c with content }

/-- A value with other plain data in its place. -/
def withContent (v : Value) (content : Json) : Value :=
  match v with
  | .object i => .object { i with content := some content }
  | _ => .data content

/-- The fields of a value that is an object of plain data. -/
def fields (v : Value) : List (String × Json) :=
  match v.content? with
  | some (.obj fields) => fields
  | _ => []

end Value

namespace Hierarchy

variable (h : Hierarchy)

/-! ## Creation -/

/-- Refuses arguments that give no view of the memory of another object, as no plain data does. -/
def createView (given : List Value) (named : List (String × Value)) : Except Fault Unit := do
  let parameters := NativeParameters.ofNames (some "memoryview") ["object"] 1
  match ← parameters.take given named acceptAny with
  | some v :: _ => .error (typeComplaint
      ("memoryview: a bytes-like object is required, not '" ++ v.kind h ++ "'"))
  | _ => return

/-- Refuses arguments that give no function: nothing that can be given is code. -/
def createFunction (given : List Value) (named : List (String × Value)) : Except Fault Unit := do
  let names := ["code", "globals", "name", "argdefs", "closure"]
  match ← (NativeParameters.ofNames (some "function") names 2).take given named acceptAny with
  | some v :: _ => .error (typeComplaint ("function() argument 'code' must be code, not " ++
      if v.isNull then "None" else v.kind h))
  | _ => return

/-- Creation of an object of a class by the native function of a library class. -/
def createNative (creator : LibraryClass) (c : ClassId) (given : List Value)
    (named : List (String × Value)) : Except Fault Value := do
  let refusesNames := c = .library creator || h.initialisesAsRoot c
  let bare : Value := .object (Instance.bare c)
  match creator.creationFamily with
  | .object =>
    h.createRoot c (!(given.isEmpty && named.isEmpty))
    return bare
  | .baseException | .osError => return .object (← h.createException creator c given named)
  | .int => return .standingFor .int c (.int (← h.createInteger given named))
  | .bool => return .data (.bool (← createTruth given named))
  | .float => return .standingFor .float c (.float (← h.createFloat refusesNames given named))
  | .str => return .standingFor .str c (.str (← h.createText given named))
  | .list => return .standingFor .list c (.arr [])
  | .dict => return .standingFor .dict c (.obj [])
  | .complex => return .ofContent c (plainComplex? (← h.createComplex given named))
  | .decimal => return .ofContent c (← h.createDecimal given named)
  | .noneType =>
    if given.isEmpty ∧ named.isEmpty then return .null
    else .error (typeComplaint "NoneType takes no arguments")
  | family =>
    match family with
    | .bytes => h.createBytes given named
    | .tuple => h.createTuple refusesNames given named
    | .frozenset => h.createFrozenSet c refusesNames given named
    | .range => h.createRange given named
    | .slice =>
      refuseNames "slice" named
      checkCount "slice" 1 3 given.length
    | .date => h.createDate given named
    | .datetime => h.createMoment given named
    | .timedelta => h.createDuration given named
    | .memoryview => h.createView given named
    | .functionType => h.createFunction given named
    | _ => pure ()
    return bare

/-! ## Initialisation -/

/-- What the initialising function of classes asks of its arguments. -/
def checkClassArguments (given : List Value) (named : List (String × Value)) :
    Except Fault Unit :=
  if ¬named.isEmpty ∧ given.length = 1 then
    .error (.refusal (.takesNoNamedArguments "type.__init__"))
  else if given.length = 1 ∨ given.length = 3 then .ok ()
  else .error (typeComplaint "type.__init__() takes 1 or 3 arguments")

/-- Initialises a property. One of a derived class takes over the description of the function that
reads it. -/
def initialiseProperty (v : Value) (given : List Value) (named : List (String × Value)) :
    Except Fault Unit := do
  let parameters := NativeParameters.ofNames (some "property") ["fget", "fset", "fdel", "doc"] 0
  let taken ← parameters.take given named acceptAny
  let isMissing (place : Nat) : Bool := (taken[place]?.getD none).all Value.isNull
  if v.type h ≠ .library .property ∧ ¬isMissing 0 ∧ isMissing 3 then
    h.checkAttribute v "__doc__"

/-- Initialisation of a value by the native function of a library class. -/
def initialiseNative (initialiser : LibraryClass) (v : Value) (given : List Value)
    (named : List (String × Value)) : Except Fault Value := do
  let type := v.type h
  match initialiser, v with
  | .object, v =>
    h.initialiseRoot type (!(given.isEmpty && named.isEmpty))
    return v
  | .type, v =>
    checkClassArguments given named
    return v
  | .list, v =>
    let refusesNames := type = .library .list || (h.info type).creator == some .list
    return v.withContent (.arr (← h.fillList refusesNames given named))
  | .set, v =>
    h.fillSet type given named
    return v
  | .dict, v => return v.withContent (.obj (← h.updateDictionary "dict" v.fields given named))
  | .orderedDict, v => return v.withContent (.obj (← h.fillOrdered v.fields given named))
  | .property, v =>
    h.initialiseProperty v given named
    return v
  | .simpleNamespace, v =>
    if ¬given.isEmpty then .error (typeComplaint "no positional arguments expected")
    return v
  | l, .object i =>
    if l.creationFamily = .osError ∨ l.creationFamily = .baseException then
      return .object (← h.initialiseException l i given named)
    else return v
  | _, v => return v

end Hierarchy

end UtilityClass
