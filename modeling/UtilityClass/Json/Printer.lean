import UtilityClass.Json.Document
import UtilityClass.Number.Shortest
import UtilityClass.Text.Joined

/-!
# Printed documents

Two layouts of the same text: `compact` on one line, and `indented`, which puts each item of a
container on a line of its own, four columns deeper than the container. Both write only printable
ASCII characters, apart from the line breaks of the indented layout: every other character of a
string is escaped by its UTF-16 units, so no text can break a line or leave its quotes. The units of
a character are those of a pair of surrogates, and the two are not kept apart.

## Main definitions

* `Document.escaped` : a code point as it stands between quotes
* `Document.compact`, `Document.indented` : the two layouts
* `Document.Layout`, `Document.print` : a layout by name
-/

namespace UtilityClass

namespace Document

/-- One UTF-16 unit, escaped. -/
def escapedUnit (unit : Nat) : List Char := '\\' :: 'u' :: hexText 4 unit

/-- The code points that a backslash and a letter stand for. -/
def shortLetters : List (Nat × Char) :=
  [(34, '"'), (92, '\\'), (10, 'n'), (13, 'r'), (9, 't'), (8, 'b'), (12, 'f')]

/-- A code point as it stands between quotes. -/
def escaped (p : CodePoint) : List Char :=
  match shortLetters.lookup p.toNat with
  | some letter => ['\\', letter]
  | none =>
    if 32 ≤ p.toNat ∧ p.toNat < 127 then [Char.ofNat p.toNat]
    else if p.toNat < 65536 then escapedUnit p.toNat
    else
      let offset := p.toNat - 65536
      escapedUnit (55296 + offset / 1024) ++ escapedUnit (56320 + offset % 1024)

/-- A string in quotes. -/
def quoted (text : Text) : List Char := '"' :: (text.flatMap escaped ++ ['"'])

/-- A double as number text. The values that no decimal denotes are written as words. -/
def floatText (x : Double) : List Char :=
  match x with
  | .nan => "NaN".toList
  | .infinite negative => if negative then "-Infinity".toList else "Infinity".toList
  | finite => finite.text.toList

mutual

/-- The text on one line, with one blank after each comma and colon. -/
def compact : Document → List Char
  | .null => "null".toList
  | .bool value => if value then "true".toList else "false".toList
  | .int value => (intText value).toList
  | .float value => floatText value
  | .str text => quoted text
  | .arr items => '[' :: (joined [',', ' '] (compactItems items) ++ [']'])
  | .obj fields => '{' :: (joined [',', ' '] (compactFields fields) ++ ['}'])

/-- The items of a list, each on its own. -/
def compactItems : List Document → List (List Char)
  | [] => []
  | item :: rest => compact item :: compactItems rest

/-- The fields of an object, each on its own. -/
def compactFields : List (Text × Document) → List (List Char)
  | [] => []
  | (name, value) :: rest =>
    (quoted name ++ ':' :: ' ' :: compact value) :: compactFields rest

end

/-- A line break and the blanks of a depth, four for each level. -/
def lineAt (depth : Nat) : List Char := '\n' :: List.replicate (4 * depth) ' '

/-- Parts of a container between its brackets, each on a line one level deeper; a container without
parts stays on its line. -/
def block (opening closing : Char) (depth : Nat) (parts : List (List Char)) : List Char :=
  match parts with
  | [] => [opening, closing]
  | parts =>
    opening :: (lineAt (depth + 1) ++ joined (',' :: lineAt (depth + 1)) parts ++
      lineAt depth ++ [closing])

mutual

/-- The text with each item of a container on a line of its own. -/
def indented (depth : Nat) : Document → List Char
  | .arr items => block '[' ']' depth (indentedItems (depth + 1) items)
  | .obj fields => block '{' '}' depth (indentedFields (depth + 1) fields)
  | .null => "null".toList
  | .bool value => if value then "true".toList else "false".toList
  | .int value => (intText value).toList
  | .float value => floatText value
  | .str text => quoted text

/-- The items of a list, each on its own. -/
def indentedItems (depth : Nat) : List Document → List (List Char)
  | [] => []
  | item :: rest => indented depth item :: indentedItems depth rest

/-- The fields of an object, each on its own. -/
def indentedFields (depth : Nat) : List (Text × Document) → List (List Char)
  | [] => []
  | (name, value) :: rest =>
    (quoted name ++ ':' :: ' ' :: indented depth value) :: indentedFields depth rest

end

/-- The two layouts. -/
inductive Layout where
  | compact
  | indented
  deriving DecidableEq

/-- The text of a document in a layout. -/
def print (layout : Layout) (value : Document) : String :=
  match layout with
  | .compact => String.ofList value.compact
  | .indented => String.ofList (indented 0 value)

end Document

end UtilityClass
