import UtilityClass.Template.Segment
import UtilityClass.Template.Specification

/-!
# Filling in a template

A template is filled in segment by segment, so the first segment that fails decides the error. A
field takes its argument by position, either given or counted; then it follows the steps of its
reference, converts the value, and lays it out. An argument is only ever looked at as a value: text
that comes out of it is never scanned for fields again.

## Main definitions

* `Template.Argument` : a qualified name, plain data, or the type of one
* `Template.Numbering` : how far automatic counting has come
* `Template.fill` : the text of a template with arguments
-/

namespace UtilityClass

namespace Template

/-- What a template may be filled in with. -/
inductive Argument where
  | name (value : QualifiedName)
  | data (value : Json)
  /-- The type of another one. -/
  | type (module typeName : String)

namespace Argument

/-- The name of the type of an argument. -/
def kind : Argument → String
  | .name _ => "QualifiedName"
  | .data value => value.kind
  | .type _ _ => "type"

/-- The type of an argument. -/
def typeOf : Argument → Argument
  | .name _ => .type "utilclass_verifier.core.value_objects" "QualifiedName"
  | a => .type QualifiedName.implicitModule a.kind

/-- A type as it is shown. -/
def typeText (module typeName : String) : String :=
  if module = QualifiedName.implicitModule then "<class '" ++ typeName ++ "'>"
  else "<class '" ++ module ++ "." ++ typeName ++ "'>"

/-- An argument as plain text. -/
def text : Argument → Except Error String
  | .name value => value.text.mapError .unnamed
  | .data value => .ok value.text
  | .type module typeName => .ok (typeText module typeName)

/-- An argument as it is shown inside a message that tells values apart. -/
def literal : Argument → String
  | .name value => value.literal
  | .data value => value.literal
  | .type module typeName => typeText module typeName

/-- The attribute of an argument. Each one has its type; beyond that only names, numbers and types
have any that are data. -/
def member (name : String) (a : Argument) : Except Error Argument :=
  let missing : Except Error Argument := .error (.noAttribute a.kind name)
  if name = "__class__" then .ok a.typeOf
  else match a with
  | .name value =>
    if name = "module" then .ok (.data value.module)
    else if name = "qualname" then .ok (.data value.qualname)
    else if name = "__dict__" then
      .ok (.data (.obj [("module", value.module), ("qualname", value.qualname)]))
    else if name = "__module__" then
      match a.typeOf with
      | .type module _ => .ok (.data (.str module))
      | _ => missing
    else missing
  | .type module typeName =>
    if name = "__name__" ∨ name = "__qualname__" then .ok (.data (.str typeName))
    else if name = "__module__" then .ok (.data (.str module))
    else .error (.noTypeAttribute typeName name)
  | .data (.float value) =>
    if name = "real" then .ok (.data (.float value))
    else if name = "imag" then .ok (.data (.float (.zero false)))
    else missing
  | .data value =>
    match value.integer? with
    | some n =>
      if name = "real" ∨ name = "numerator" then .ok (.data (.int n))
      else if name = "imag" then .ok (.data (.int 0))
      else if name = "denominator" then .ok (.data (.int 1))
      else missing
    | none => missing

/-- The item of an argument at a position. -/
def itemAt (index : Nat) : Argument → Except Error Argument
  | .data (.arr items) =>
    match items[index]? with
    | some item => .ok (.data item)
    | none => .error (.itemOutOfRange "list")
  | .data (.str text) =>
    match text.toList[index]? with
    | some c => .ok (.data (.str c.toString))
    | none => .error (.itemOutOfRange "string")
  | .data (.obj _) => .error (.noItem (.int index))
  | .type _ typeName => .error (.typeNotSubscriptable typeName)
  | a => .error (.notSubscriptable a.kind)

/-- The item of an argument under a key. -/
def itemOf (key : String) : Argument → Except Error Argument
  | .data (.arr _) => .error .keyIntoList
  | .data (.str _) => .error .keyIntoText
  | .data (.obj fields) =>
    match fields.lookup key with
    | some value => .ok (.data value)
    | none => .error (.noItem (.str key))
  | .type _ typeName => .error (.typeNotSubscriptable typeName)
  | a => .error (.notSubscriptable a.kind)

end Argument

/-! ## References -/

/-- The number that a whole text of digits denotes, `none` if it is no such text. The first digit
beyond the greatest number ends the reading, whatever comes after it. -/
def position? (sofar : Nat) : List Char → Except Error (Option Nat)
  | [] => .ok (some sofar)
  | c :: rest =>
    match Unicode.digit? c with
    | some digit =>
      if Specification.greatestNumber < 10 * sofar + digit then .error .tooManyDigits
      else position? (10 * sofar + digit) rest
    | none => .ok none

/-- The position that a text denotes; an empty text denotes none. -/
def positionOf (text : List Char) : Except Error (Option Nat) :=
  if text.isEmpty then .ok none else position? 0 text

/-- A step from a value to a part of it. -/
inductive Step where
  | member (name : List Char)
  | item (key : List Char)
  | fault (cause : Error)

/-- Where the reader of steps stands. -/
inductive StepMode where
  | start
  | member (sofar : List Char)
  | item (sofar : List Char)

/-- The steps after the first part of a reference. -/
def steps : StepMode → List Char → List Step
  | .start, [] => []
  | .start, c :: rest =>
    if c = '.' then steps (.member []) rest
    else if c = '[' then steps (.item []) rest
    else [.fault .textAfterBracket]
  | .member sofar, [] => [.member sofar.reverse]
  | .member sofar, c :: rest =>
    if c = '.' then .member sofar.reverse :: steps (.member []) rest
    else if c = '[' then .member sofar.reverse :: steps (.item []) rest
    else steps (.member (c :: sofar)) rest
  | .item _, [] => [.fault .unclosedBracket]
  | .item sofar, c :: rest =>
    if c = ']' then .item sofar.reverse :: steps .start rest else steps (.item (c :: sofar)) rest

/-- A step taken. -/
def Step.take (a : Argument) : Step → Except Error Argument
  | .fault cause => .error cause
  | .member name =>
    if name.isEmpty then .error .emptyStep else a.member (String.ofList name)
  | .item key => do
    match ← positionOf key with
    | some index => a.itemAt index
    | none => if key.isEmpty then .error .emptyStep else a.itemOf (String.ofList key)

/-- How the fields of a template refer to their arguments: not yet known, by counting, or by given
positions. -/
inductive Numbering where
  | unset
  | automatic (next : Nat)
  | manual
  deriving DecidableEq

/-- The position that the first part of a reference denotes, and the numbering after it; `none` for
a key. -/
def Numbering.place (numbering : Numbering) (first : List Char) :
    Except Error (Option Nat × Numbering) := do
  match ← positionOf first, first with
  | none, [] =>
    match numbering with
    | .unset => .ok (some 0, .automatic 1)
    | .automatic next => .ok (some next, .automatic (next + 1))
    | .manual => .error .automaticAfterManual
  | none, _ => .ok (none, numbering)
  | some index, _ =>
    match numbering with
    | .automatic _ => .error .manualAfterAutomatic
    | _ => .ok (some index, .manual)

/-- Whether a character ends the first part of a reference. -/
def startsStep (c : Char) : Bool := c == '.' || c == '['

/-- The value that a reference leads to, and the numbering after it. -/
def lookUp (arguments : List Argument) (reference : List Char) (numbering : Numbering) :
    Except Error (Argument × Numbering) := do
  let first := reference.takeWhile fun c => !startsStep c
  let (index, numbering) ← numbering.place first
  let argument ← match index with
    | some index =>
      match arguments[index]? with
      | some argument => .ok argument
      | none => .error (.indexOutOfRange index)
    | none => .error (.noNamedArgument (String.ofList first))
  let value ← (steps .start (reference.drop first.length)).foldlM Step.take argument
  .ok (value, numbering)

/-! ## Values -/

/-- A value converted by the letter after `!`; the one that stands for none leaves it as it is. -/
def convert (letter : Char) (a : Argument) : Except Error Argument :=
  if letter = Specification.noCode then .ok a
  else if letter = 'r' then .ok (.data (.str a.literal))
  else if letter = 's' then (a.text).map fun t => .data (.str t)
  else if letter = 'a' then .ok (.data (.str (Quoted.asciiOnly a.literal)))
  else .error (.unknownConversion letter)

/-- A value laid out by the text of a specification. An empty one asks for the plain text. -/
def layOut (specification : List Char) (a : Argument) : Except Error (List Char) :=
  if specification.isEmpty then a.text.map String.toList
  else match a with
    | .data (.str text) => do
      (← Specification.read "str" '<' (some 's') specification).layText text.toList
    | .data (.bool value) => do
      (← Specification.read "bool" '>' (some 'd') specification).layInteger "bool" value.toInt
    | .data (.int value) => do
      (← Specification.read "int" '>' (some 'd') specification).layInteger "int" value
    | .data (.float value) => do
      (← Specification.read "float" '>' none specification).layDouble "float" value
    | a => .error (.unsupported a.kind)

/-- The characters of the segments, and the numbering after them. `inner` fills in a specification
that holds fields of its own. -/
def fillSegments (arguments : List Argument)
    (inner : List Char → Numbering → Except Error (List Char × Numbering)) :
    List Segment → Numbering → Except Error (List Char × Numbering)
  | [], numbering => .ok ([], numbering)
  | .literal c :: rest, numbering => do
    let (more, numbering) ← fillSegments arguments inner rest numbering
    .ok (c :: more, numbering)
  | .fault cause :: _, _ => .error cause
  | .field f :: rest, numbering => do
    let (value, numbering) ← lookUp arguments f.reference numbering
    let value ← match f.conversion with
      | some letter => convert letter value
      | none => .ok value
    let (specification, numbering) ←
      if f.nested then inner f.specification numbering else .ok (f.specification, numbering)
    let shown ← layOut specification value
    let (more, numbering) ← fillSegments arguments inner rest numbering
    .ok (shown ++ more, numbering)

/-- Filling in a text with the given depth of nested specifications still allowed. -/
def fillWithin (arguments : List Argument) :
    Nat → List Char → Numbering → Except Error (List Char × Numbering)
  | 0, _, _ => .error .tooDeep
  | depth + 1, template, numbering =>
    fillSegments arguments (fillWithin arguments depth) (segments template) numbering

/-- The text of a template filled in with arguments. A specification may hold fields, and their
specifications may not. -/
def fill (template : String) (arguments : List Argument) : Except Error String :=
  (fillWithin arguments 2 template.toList .unset).map fun (chars, _) => String.ofList chars

end Template

end UtilityClass
