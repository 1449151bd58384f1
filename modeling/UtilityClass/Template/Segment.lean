import UtilityClass.Template.Error

/-!
# Templates as segments

A template is text with replacement fields between braces; a brace of the text itself is doubled.
The scanner reads a template once, character by character, and gives its segments in order: literal
characters, fields, and at most one fault, which is the last segment. Since a fault is a segment
like any other, it counts only when everything before it has been filled in.

## Main definitions

* `Template.Field` : what stands between the braces of a field
* `Template.scan` : the segments of a template
* `Template.escaped` : text with its braces doubled
-/

namespace UtilityClass

namespace Template

/-- What stands between the braces of a field: a reference to an argument, after `!` a conversion
letter, after `:` a specification, which may hold fields of its own. -/
structure Field where
  reference : List Char
  conversion : Option Char
  specification : List Char
  nested : Bool
  deriving DecidableEq

/-- A part of a template. -/
inductive Segment where
  | literal (c : Char)
  | field (f : Field)
  | fault (cause : Error)

/-- Where the scanner stands. What it has read of a field is kept in reverse. -/
inductive Mode where
  /-- In the text between fields. -/
  | text
  /-- After a closing brace in the text. -/
  | closing
  /-- In a reference; `fresh` right after the opening brace. -/
  | reference (sofar : List Char) (fresh : Bool)
  /-- In brackets inside a reference, where braces and colons are ordinary characters. -/
  | bracket (sofar : List Char)
  /-- After the `!` of a field. -/
  | conversion (reference : List Char)
  /-- After the conversion letter. -/
  | converted (reference : List Char) (letter : Char)
  /-- In a specification, inside `depth` further braces. -/
  | specification (reference : List Char) (letter : Option Char) (sofar : List Char) (depth : Nat)
    (nested : Bool)

/-- The segments of a template, from a mode of the scanner on. -/
def scan : Mode → List Char → List Segment
  | .text, [] => []
  | .text, c :: rest =>
    if c = '{' then scan (.reference [] true) rest
    else if c = '}' then scan .closing rest
    else .literal c :: scan .text rest
  | .closing, [] => [.fault .singleClosing]
  | .closing, c :: rest =>
    if c = '}' then .literal '}' :: scan .text rest else [.fault .singleClosing]
  | .reference _ fresh, [] => [.fault (if fresh then .singleOpening else .unclosedField)]
  | .reference sofar fresh, c :: rest =>
    if c = '{' then
      if fresh then .literal '{' :: scan .text rest else [.fault .openingInReference]
    else if c = '}' then .field ⟨sofar.reverse, none, [], false⟩ :: scan .text rest
    else if c = ':' then scan (.specification sofar.reverse none [] 0 false) rest
    else if c = '!' then scan (.conversion sofar.reverse) rest
    else if c = '[' then scan (.bracket (c :: sofar)) rest
    else scan (.reference (c :: sofar) false) rest
  | .bracket _, [] => [.fault .unclosedField]
  | .bracket sofar, c :: rest =>
    if c = ']' then scan (.reference (c :: sofar) false) rest else scan (.bracket (c :: sofar)) rest
  | .conversion _, [] => [.fault .missingConversion]
  | .conversion reference, c :: rest => scan (.converted reference c) rest
  | .converted _ _, [] => [.fault .unclosedSpecification]
  | .converted reference letter, c :: rest =>
    if c = '}' then .field ⟨reference, some letter, [], false⟩ :: scan .text rest
    else if c = ':' then scan (.specification reference (some letter) [] 0 false) rest
    else [.fault .textAfterConversion]
  | .specification _ _ _ _ _, [] => [.fault .unclosedSpecification]
  | .specification reference letter sofar depth nested, c :: rest =>
    if c = '{' then scan (.specification reference letter (c :: sofar) (depth + 1) true) rest
    else if c = '}' then
      match depth with
      | 0 => .field ⟨reference, letter, sofar.reverse, nested⟩ :: scan .text rest
      | depth + 1 => scan (.specification reference letter (c :: sofar) depth nested) rest
    else scan (.specification reference letter (c :: sofar) depth nested) rest

/-- The segments of a template. -/
def segments (template : List Char) : List Segment := scan .text template

/-- Text with its braces doubled, so that a template shows it as it is. -/
def escaped (text : List Char) : List Char :=
  text.flatMap fun c => if c = '{' ∨ c = '}' then [c, c] else [c]

@[simp] theorem scan_text_nil : scan .text [] = [] := rfl

/-- Escaped text is read back as its own characters, whatever follows it. -/
theorem scan_escaped_append (text rest : List Char) :
    scan .text (escaped text ++ rest) = text.map Segment.literal ++ scan .text rest := by
  induction text with
  | nil => rfl
  | cons c text ih =>
    by_cases hopen : c = '{'
    · subst hopen
      simpa [escaped, scan] using ih
    · by_cases hclose : c = '}'
      · subst hclose
        simpa [escaped, scan] using ih
      · simpa [escaped, scan, hopen, hclose] using ih

/-- An empty pair of braces is a field with an empty reference. -/
theorem scan_empty_field (rest : List Char) :
    scan .text ('{' :: '}' :: rest) = .field ⟨[], none, [], false⟩ :: scan .text rest := rfl

end Template

end UtilityClass
