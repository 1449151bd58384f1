import UtilityClass.Class.Layout
import UtilityClass.Class.Literal
import UtilityClass.Text.Blank

/-!
# The namespaces of enumerations

While the namespace of an enumeration is filled, each entry that is neither a method nor has a name
of a special form becomes a member. Names with two underscores on both ends are left to the language
and those with one are reserved, up to a few that say something about the enumeration. A member
cannot be declared twice. Names can be listed that are to be forgotten again.

## Main definitions

* `Blueprint.declare` : puts a declared entry into a namespace
-/

namespace UtilityClass

namespace EnumerationName

/-- Whether a name is private to a class of the given name. -/
def isPrivateTo (className name : String) : Bool :=
  let lead := "_" ++ className ++ "__"
  decide (lead.length < name.length) && name.startsWith lead && !name.endsWith "__"

/-- The name under which the ignored names are listed. -/
def ignoredName : String := "_ignore_"

/-- The name under which the order of the members is given. -/
def orderName : String := "_order_"

/-- The reserved names that may be used. -/
def allowed : List String :=
  [orderName, "_generate_next_value_", "_numeric_repr_", "_missing_", ignoredName,
    "_iter_member_", "_iter_member_by_value_", "_iter_member_by_def_"]

/-- The words of a text that are set apart by blanks or commas. -/
def words (text : String) : List String :=
  (wordsOf [] [] text.toList).map String.ofList
where
  /-- The words of a text, given the words before it and the letters of the current one, both in
  reverse. -/
  wordsOf (done : List (List Char)) (current : List Char) : List Char → List (List Char)
    | [] => (if current.isEmpty then done else current.reverse :: done).reverse
    | c :: rest =>
      if c == ',' || Unicode.isBlank c then
        wordsOf (if current.isEmpty then done else current.reverse :: done) [] rest
      else wordsOf done (c :: current) rest

/-- The ignored names that a value lists. -/
def ignoredNames : Member → Except Fault (List Json)
  | .data (.str text) => .ok ((words text).map .str)
  | .data value => do
    let items ← value.items
    match items.find? fun item => !item.isHashable with
    | some item => .error (.unhashable item.kind)
    | none => .ok items
  | _ => .error (.refusal (.notIterable "function"))

end EnumerationName

namespace Member

/-- Whether a member is no candidate for a member of an enumeration: lookups on objects treat it in
a way of its own. -/
def isDescriptor : Member → Bool
  | .data _ | .callable _ | .enumerated _ => false
  | _ => true

/-- A member as it is shown inside a message. -/
def literal : Member → String
  | .data value => value.literal
  | _ => "<function>"

end Member

namespace Blueprint

open EnumerationName

/-- The namespace with a list of ignored names. -/
def ignore (b : Blueprint) (d : EnumerationDraft) (m : Member) : Except Fault Blueprint := do
  let ignored ← ignoredNames m
  let already := d.names.filter fun name => ignored.any (·.same (.str name))
  if ¬already.isEmpty then .error (.declaration (.ignoredTooLate already))
  return { b.put ignoredName (.data (.arr ignored)) with draft := some { d with ignored } }

/-- The namespace with an entry that is no method and has an ordinary name: a member, unless its
name is ignored. -/
def declareMember (b : Blueprint) (d : EnumerationDraft) (name : String) (m : Member) :
    Except Fault Blueprint :=
  match b.get? name, d.names.contains name with
  | some earlier, true => .error (.declaration (.repeatedName name earlier.literal))
  | earlier, _ =>
    if d.ignored.any (·.same (.str name)) ∨ m.isDescriptor then .ok (b.put name m)
    else match earlier with
      | some earlier => .error (.declaration (.repeatedName name earlier.literal))
      | none => .ok { b.put name m with draft := some { d with names := d.names ++ [name] } }

/-- The namespace with a declared entry. -/
def declare (b : Blueprint) (name : String) (m : Member) : Except Fault Blueprint :=
  match b.draft with
  | none => .ok (b.put name m)
  | some d =>
    if isPrivateTo d.className name then .ok (b.put name m)
    else if Underscored.isSingle name then
      if ¬allowed.contains name then .error (.declaration (.reservedName name))
      else if name = ignoredName then b.ignore d m
      else .ok (b.put name m)
    else if Underscored.isDouble name then
      .ok (b.put (if name = "__order__" then orderName else name) m)
    else b.declareMember d name m

end Blueprint

end UtilityClass
