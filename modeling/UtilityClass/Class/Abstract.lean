import UtilityClass.Class.Change
import UtilityClass.Class.Layout

/-!
# Abstract methods

A metaclass that keeps track of abstract methods notes the names of those that are still abstract
when the class is made: the own ones, and those of the bases that no other attribute hides. The note
is an entry of the namespace, and whether objects are refused is decided with it, so that methods
which are added or deleted later change neither.

## Main definitions

* `Hierarchy.trackAbstract` : notes the abstract methods of a new class
* `Hierarchy.isAbstract` : whether a class says that it is abstract
* `Hierarchy.abstractNames` : the names that a refused construction shows
-/

namespace UtilityClass

namespace Hierarchy

variable (h : Hierarchy)

/-- Whether an attribute of the class that a name stands for is an abstract method. -/
def isAbstractMethod (c : ClassId) (name : Json) : Except Fault Bool :=
  match name with
  | .str name => do return (← h.read? c name).any (·.member.isAbstract)
  | other => .error (typeComplaint ("attribute name must be string, not '" ++ other.kind ++ "'"))

/-- What a class notes as the names of its abstract methods. -/
def notedNames (c : ClassId) : Except Fault (List Json) := do
  match ← h.read? c abstractMethodsName with
  | none => return []
  | some a =>
    let noted :=
      if a.isField then (h.own? c abstractMethodsName).getD (.data (.arr [])) else a.member
    match noted with
    | .data value => value.items
    | _ => .error (.refusal (.notIterable a.kind))

/-- The names among those that the bases note under which a class still has abstract methods. -/
def inheritedAbstract (c : ClassId) : List ClassId → Except Fault (List Json)
  | [] => .ok []
  | base :: rest => do
    let names ← (← h.notedNames base).filterM (h.isAbstractMethod c)
    return names ++ (← inheritedAbstract c rest)

/-- The own abstract methods among entries of a namespace, by name. -/
def ownAbstract (entries : List (String × Member)) : List Json :=
  (entries.filter fun (_, m) => m.isAbstract).map fun (name, _) => .str name

/-- The names of the methods that are abstract in a class: its own abstract ones, and those that its
bases note and nothing hides. -/
def abstractMethodsOf (c : ClassId) : Except Fault (List String) := do
  let own := ownAbstract (← (← h.namespaceOf c).entries)
  if ¬(← h.read c "__bases__").isField then
    .error (typeComplaint "__bases__ is not tuple")
  let inherited ← h.inheritedAbstract c (h.info c).bases
  return ((own ++ inherited).map Json.text).eraseDups.mergeSort

/-- The name under which a class that keeps track of abstract methods keeps what it has answered to
the question which classes derive from it. -/
def answersName : String := "_abc_impl"

/-- The hierarchy in which a class notes its abstract methods. -/
def trackAbstract (c : ClassId) : Except Fault Hierarchy := do
  let names ← h.abstractMethodsOf c
  let h ← h.assign c abstractMethodsName (.data (.arr (names.map .str)))
  h.assign c answersName (.part false)

/-- Whether one of the bases notes the name of a method that is still abstract in a class. Data in
the place of a base notes nothing. -/
def inheritsAbstract (c : ClassId) : List Subject → Except Fault Bool
  | [] => .ok false
  | .plain _ :: rest => inheritsAbstract c rest
  | .ofClass base :: rest => do
    if ← (← h.notedNames base).anyM (h.isAbstractMethod c) then return true
    inheritsAbstract c rest

/-- Whether a class has abstract methods. A class whose note has been deleted is searched for them
again, if its metaclass keeps track of them. -/
def hasAbstractMethods (c : ClassId) : Except Fault Bool := do
  if ← h.hasFlag c barredFlag (h.info c).isBarred then return true
  if ¬h.tracksAbstract c then return false
  if (← h.read? c abstractMethodsName).isSome then return false
  if ¬(ownAbstract (← (← h.namespaceOf c).entries)).isEmpty then return true
  h.inheritsAbstract c (← h.readBases c)

/-- Whether a class is abstract: it has abstract methods, or says so by its bases. -/
def isAbstract (c : ClassId) : Except Fault Bool := do
  if ← h.hasAbstractMethods c then return true
  h.readContains c "__bases__" (h.info c).bases (.library .abc)

/-- Whether plain data can be put into an order. -/
def comparable (left right : Json) : Bool :=
  (left.isNumber && right.isNumber) || (left.kind == right.kind && left.kind != "NoneType" &&
    left.kind != "dict")

/-- The two neighbours that stand in no order to each other. -/
def incomparable? : List Json → Option (Json × Json)
  | first :: second :: rest =>
    if comparable first second then incomparable? (second :: rest) else some (second, first)
  | _ => none

/-- A number as a quotient. -/
def quotient? : Json → Option (Int × Nat)
  | .float x => x.toQuotient?
  | value => value.integer?.map fun n => (n, 1)

/-- Whether a number is less than another one. -/
def isLess (left right : Json) : Bool :=
  match quotient? left, quotient? right with
  | some (m, d), some (n, e) => decide (m * e < n * d)
  | _, _ => false

/-- The least number of a list; the first item of a list of anything else. -/
def least (first : Json) (rest : List Json) : Json :=
  rest.foldl (fun best item => if isLess item best then item else best) first

/-- Plain data as the names that a refused construction shows, in order. Data of one type is put in
order first, so that what is no text is complained of by its least item. -/
def namesInOrder (items : List Json) : Except Fault (List String) :=
  match incomparable? items, items with
  | some (left, right), _ => .error (typeComplaint
      ("'<' not supported between instances of '" ++ left.kind ++ "' and '" ++ right.kind ++ "'"))
  | none, [] => .ok []
  | none, first :: rest =>
    match items.mapM textOf? with
    | some names => .ok names.mergeSort
    | none => .error (typeComplaint ("sequence item 0: expected str instance, " ++
        (least first rest).kind ++ " found"))
where
  /-- The text that plain data is. -/
  textOf? : Json → Option String
    | .str text => some text
    | _ => none

/-- The names that a refused construction shows, in order. -/
def abstractNames (c : ClassId) : Except Fault (List String) :=
  match h.own? c abstractMethodsName with
  | some (.data value) => do namesInOrder (← value.items)
  | _ => .ok []

end Hierarchy

end UtilityClass
