import UtilityClass.Json.Basic
import UtilityClass.Number.Shortest
import UtilityClass.Text.Quoted

/-!
# Values inside messages

`Json.literal` shows a value so that strings are told apart from numbers, and `Json.text` shows it
as plain text: they differ only on strings, which `text` leaves as they are. Who shows a value
refuses integers with too many digits.
-/

namespace UtilityClass

namespace Json

mutual

/-- A value as it is shown inside a message. -/
def literal : Json → String
  | .null => "None"
  | .bool value => if value then "True" else "False"
  | .int value => intText value
  | .float value => value.text
  | .str text => Quoted.text text
  | .arr items => "[" ++ joinText ", " (literalItems items) ++ "]"
  | .obj fields => "\x7b" ++ joinText ", " (literalFields fields) ++ "\x7d"

/-- The items of a list, each on its own. -/
def literalItems : List Json → List String
  | [] => []
  | item :: rest => literal item :: literalItems rest

/-- The fields of an object, each on its own. -/
def literalFields : List (String × Json) → List String
  | [] => []
  | (name, value) :: rest => (Quoted.text name ++ ": " ++ literal value) :: literalFields rest

end

/-- How many digits an integer may have where a value is shown. -/
def digitLimit : Nat := 4300

mutual

/-- Whether no integer in a value has too many digits. -/
def isShowable : Json → Bool
  | .int value => decide ((Nat.toDigits 10 value.natAbs).length ≤ digitLimit)
  | .arr items => areShowable items
  | .obj fields => areFieldsShowable fields
  | .null | .bool _ | .float _ | .str _ => true

/-- Whether this holds for the items of a list. -/
def areShowable : List Json → Bool
  | [] => true
  | item :: rest => isShowable item && areShowable rest

/-- Whether this holds for the fields of an object. -/
def areFieldsShowable : List (String × Json) → Bool
  | [] => true
  | (_, value) :: rest => isShowable value && areFieldsShowable rest

end

/-- A value as plain text. -/
def text : Json → String
  | .str text => text
  | value => literal value

/-- Several values in parentheses; a single one is followed by a comma. -/
def parenthesised (parts : List String) : String :=
  match parts with
  | [part] => "(" ++ part ++ ",)"
  | parts => "(" ++ joinText ", " parts ++ ")"

end Json

end UtilityClass
