import UtilityClass.Construction.Arguments
import UtilityClass.Construction.Root

/-!
# Collections

What the classes of lists, tuples, sets, dictionaries and ranges make of their arguments. Those that
can change are empty when they are created, whatever the arguments are, and filled when they are
initialised. Named arguments are refused unless a function of another class may take them.

## Main definitions

* `Hierarchy.createTuple`, `Hierarchy.createFrozenSet`, `Hierarchy.createRange`
* `Hierarchy.fillList`, `Hierarchy.fillSet`, `Hierarchy.updateDictionary`,
  `Hierarchy.fillOrdered` : initialisation
-/

namespace UtilityClass

namespace Hierarchy

variable (h : Hierarchy)

/-! ## Sequences and sets -/

/-- The items of at most one argument. -/
def itemsOfOne (name : String) (given : List Value) : Except Fault (List Json) := do
  checkCount name 0 1 given.length
  match given with
  | v :: _ => h.itemsOf v
  | [] => return []

/-- Refuses arguments that give no tuple. -/
def createTuple (refusesNames : Bool) (given : List Value) (named : List (String × Value)) :
    Except Fault Unit := do
  if refusesNames then refuseNames "tuple" named
  discard (h.itemsOfOne "tuple" given)

/-- Refuses arguments that give no unchangeable set of a class. -/
def createFrozenSet (c : ClassId) (refusesNames : Bool) (given : List Value)
    (named : List (String × Value)) : Except Fault Unit := do
  if refusesNames then refuseNames "frozenset" named
  checkKeys (← h.itemsOfOne (h.info c).runtimeName given)

/-- The items that a list is filled with. -/
def fillList (refusesNames : Bool) (given : List Value) (named : List (String × Value)) :
    Except Fault (List Json) := do
  if refusesNames then refuseNames "list" named
  h.itemsOfOne "list" given

/-- Refuses arguments that a set of a class cannot be filled with. -/
def fillSet (c : ClassId) (given : List Value) (named : List (String × Value)) :
    Except Fault Unit := do
  refuseNames "set" named
  checkKeys (← h.itemsOfOne (h.info c).runtimeName given)

/-! ## Dictionaries -/

/-- A key and a value that stand at a place of what a dictionary is filled with. -/
def entryAt (place : Nat) (item : Json) : Except Fault (String × Json) := do
  let lead := "dictionary update sequence element #" ++ intText place
  match item.items? with
  | some [key, value] =>
    checkKeys [key]
    return (key.text, value)
  | some items => .error (valueComplaint
      (lead ++ " has length " ++ intText items.length ++ "; 2 is required"))
  | none => .error (typeComplaint ("cannot convert " ++ lead ++ " to a sequence"))

/-- The fields of an object with others put into it. -/
def putAll (fields : List (String × Json)) (others : List (String × Json)) :
    List (String × Json) :=
  others.foldl (fun fields (name, value) => Json.set name value fields) fields

/-- Named arguments as fields. What is no plain data is not known. -/
def namedFields (named : List (String × Value)) : List (String × Json) :=
  named.map fun (name, v) => (name, v.content?.getD .null)

/-- What a dictionary holds after items were put into it. -/
def updateDictionary (name : String) (fields : List (String × Json)) (given : List Value)
    (named : List (String × Value)) : Except Fault (List (String × Json)) := do
  checkCount name 0 1 given.length
  let others ← match given with
    | .data (.obj others) :: _ => pure others
    | v :: _ => (← h.itemsOf v).zipIdx.mapM fun (item, place) => entryAt place item
    | [] => pure []
  return putAll (putAll fields others) (namedFields named)

/-- A key and a value that an ordered dictionary is filled with. -/
def orderedEntry (item : Json) : Except Fault (String × Json) := do
  match item.items? with
  | some [key, value] =>
    checkKeys [key]
    return (key.text, value)
  | some [] => .error (valueComplaint "need more than 0 values to unpack")
  | some [_] => .error (valueComplaint "need more than 1 value to unpack")
  | some _ => .error (valueComplaint "too many values to unpack (expected 2)")
  | none => .error (.refusal (.notIterable item.kind))

/-- What an ordered dictionary holds after items were put into it. -/
def fillOrdered (fields : List (String × Json)) (given : List Value)
    (named : List (String × Value)) : Except Fault (List (String × Json)) := do
  if 1 < given.length then
    .error (typeComplaint ("expected at most 1 arguments, got " ++ intText given.length))
  let others ← match given with
    | .data (.obj others) :: _ => pure others
    | v :: _ => (← h.itemsOf v).mapM orderedEntry
    | [] => pure []
  return putAll (putAll fields others) (namedFields named)

/-! ## Ranges -/

/-- Refuses arguments that give no range. -/
def createRange (given : List Value) (named : List (String × Value)) : Except Fault Unit := do
  refuseNames "range" named
  checkCount "range" 1 3 given.length
  let numbers ← given.mapM h.indexOf
  if numbers[2]? = some 0 then .error (valueComplaint "range() arg 3 must not be zero")

end Hierarchy

end UtilityClass
