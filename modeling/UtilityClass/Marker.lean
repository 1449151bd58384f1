import UtilityClass.Catching

/-!
# The marker of private constructors

A constructor is declared private by an attribute that is put on it. Marking never fails for want of
a place for the attribute: what takes no attributes is left unmarked. Only the truth value itself
counts as the mark, not what merely counts as true.

## Main definitions

* `Bearer` : what can be marked
* `Bearer.mark`, `Bearer.isMarked`
-/

namespace UtilityClass

/-- The name of the attribute. -/
def markerName : String := "__private__"

/-- What may be marked, with the value that its attribute has. -/
inductive Bearer where
  | function (marker : Option Json)
  /-- A wrapper around a function, each with an attribute of its own. -/
  | wrapper (marker function : Option Json)
  | ofClass (c : ClassId)
  /-- What takes no attributes. -/
  | closed
  /-- What raises an exception when an attribute is set. -/
  | refusing (error : Value)

namespace Bearer

/-- Whether the bearer is marked. A class inherits the attribute. -/
def isMarked (h : Hierarchy) : Bearer → Except Fault Bool
  | .function marker | .wrapper marker _ => .ok (marker.any Json.isTrue)
  | .ofClass c => do
    return (← h.read? c markerName).any fun a =>
      match a.member with
      | .data value => value.isTrue
      | _ => false
  | .closed | .refusing _ => .ok false

/-- Whether the function inside a wrapper is marked; nothing else has one. -/
def isMarkedInside : Bearer → Option Bool
  | .wrapper _ inner => some (inner.any Json.isTrue)
  | _ => none

/-- Puts a value into the attribute, which may be refused. -/
def assign (m : Machinery) (value : Json) : Bearer → Act Bearer
  | .function _ => return .function (some value)
  | .wrapper _ inner => return .wrapper (some value) inner
  | .ofClass c => do
    let h ← Act.classes
    Act.setClasses (← Act.ofExcept (h.assign c markerName (.data value)))
    return .ofClass c
  | .closed => Act.fail (.noAttribute "object" markerName)
  | .refusing error => do
    match ← m.call error [.data (.str "refused")] [] with
    | .object i =>
      if (← Act.classes).derives i.type LibraryClass.baseException then
        Act.inFrame (throw i.raised)
      else Act.refuse .notRaisable
    | _ => Act.refuse .notRaisable

/-- Whether an exception says that an attribute is not taken. -/
def isRefusal (h : Hierarchy) (e : Raised) : Bool :=
  h.derives e.error.type LibraryClass.attributeError ||
    h.derives e.error.type LibraryClass.typeError

/-- Marks the bearer if it takes attributes. -/
def mark (m : Machinery) (b : Bearer) : Act Bearer := do
  match ← Act.catching m (b.assign m (.bool true)) with
  | .ok b => return b
  | .error e => if isRefusal (← Act.classes) e then return b else throw e

end Bearer

end UtilityClass
