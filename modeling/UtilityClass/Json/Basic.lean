import UtilityClass.Number.Double

/-!
# Plain data

`Json` is the plain data that flows through the verifier: default values of parameters, arguments of
exceptions, attribute values and the fields of log events. Objects keep the order of their fields,
since the order is visible in printed text, and integers are kept apart from doubles, since `1` and
`1.0` print differently although they are equal. Texts consist of characters, the scalar values of
Unicode; what may hold surrogates besides is a `Document`.

## Main definitions

* `Json`, `Json.get?`
* `Json.same` : equality of values, in which `1`, `1.0` and `true` are one number
* `Json.truthy` : whether a value counts as true
* `Json.kind` : the name of the type of a value
* `Json.items?` : the items of a sequence
-/

namespace UtilityClass

/-- Plain data. -/
inductive Json where
  | null
  | bool (value : Bool)
  | int (value : Int)
  | float (value : Double)
  | str (text : String)
  | arr (items : List Json)
  | obj (fields : List (String × Json))
  deriving Inhabited

namespace Json

/-- The value of a field, `none` if the value is no object or has no such field. -/
def get? (name : String) : Json → Option Json
  | .obj fields => fields.lookup name
  | _ => none

/-- The name of the type of a value. -/
def kind : Json → String
  | .null => "NoneType"
  | .bool _ => "bool"
  | .int _ => "int"
  | .float _ => "float"
  | .str _ => "str"
  | .arr _ => "list"
  | .obj _ => "dict"

/-- Zero, the empty text, the empty containers and `null` count as false, all else as true. -/
def truthy : Json → Bool
  | .null => false
  | .bool value => value
  | .int value => decide (value ≠ 0)
  | .float value => !value.isZero
  | .str text => decide (text ≠ "")
  | .arr items => !items.isEmpty
  | .obj fields => !fields.isEmpty

/-- Only the truth value `true` itself, not what merely counts as true. -/
def isTrue : Json → Bool
  | .bool true => true
  | _ => false

/-- The integer that a number without a fraction part by type stands for. -/
def integer? : Json → Option Int
  | .bool value => some (if value then 1 else 0)
  | .int value => some value
  | _ => none

/-- The order of a number against zero; `none` for what is no number, and for a double that is no
number, which stands in no order to zero. -/
def sign? : Json → Option Ordering
  | .float value => value.compareInt? 0
  | value => value.integer?.map fun n => compare n 0

/-- Whether the value is of a type that has an order against zero. -/
def isNumber : Json → Bool
  | .bool _ | .int _ | .float _ => true
  | _ => false

/-- Equality of two numbers. -/
def sameNumber (left right : Json) : Bool :=
  match left.integer?, right.integer?, left, right with
  | some m, some n, _, _ => decide (m = n)
  | some m, none, _, .float y => decide (y.compareInt? m = some .eq)
  | none, some n, .float x, _ => decide (x.compareInt? n = some .eq)
  | none, none, .float x, .float y => x.same y
  | _, _, _, _ => false

mutual

/-- Equality of values: numbers are compared as numbers, and the fields of objects in any order. -/
def same : Json → Json → Bool
  | .null, .null => true
  | .str s, .str t => decide (s = t)
  | .arr items, .arr others => sameItems items others
  | .obj fields, .obj others => decide (fields.length = others.length) && sameFields fields others
  | left, right => sameNumber left right

/-- Equality of lists of values, place by place. -/
def sameItems : List Json → List Json → Bool
  | [], [] => true
  | x :: xs, y :: ys => same x y && sameItems xs ys
  | _, _ => false

/-- Whether each field has an equal among the others. -/
def sameFields : List (String × Json) → List (String × Json) → Bool
  | [], _ => true
  | (name, x) :: rest, others =>
    (match others.lookup name with
      | some y => same x y
      | none => false) && sameFields rest others

end

/-- Whether a value may be a key of a table: no list or object may. -/
def isHashable : Json → Bool
  | .arr _ | .obj _ => false
  | _ => true

/-- The items that a value is a sequence of: those of a list, the names of an object, the characters
of a text. -/
def items? : Json → Option (List Json)
  | .arr items => some items
  | .obj fields => some (fields.map fun (name, _) => .str name)
  | .str text => some (text.toList.map fun c => .str (String.singleton c))
  | _ => none

/-- The value put under the name, in the place of the name's first field or at the end. -/
def set (name : String) (value : Json) : List (String × Json) → List (String × Json)
  | [] => [(name, value)]
  | (key, old) :: rest =>
    if key = name then (name, value) :: rest else (key, old) :: set name value rest

end Json

end UtilityClass
