import UtilityClass.Number.Rounded
import UtilityClass.Template.Error
import UtilityClass.Text.Blank

/-!
# How a value is laid out

A specification says how wide a value is written and where the padding goes. Its parts come in a
fixed order, each of them optional: fill and alignment, sign, `z`, `#`, `0`, width, separator of
digit groups, precision, and a code for the kind of text. Reading it is the same for all values;
which parts a value accepts depends on the value.

## Main definitions

* `Specification`, `Specification.read` : the parts of a specification
* `Specification.layText` : text cut to the precision and padded to the width
* `Specification.layInteger` : an integer in a base, with sign, groups and padding
* `Specification.layDouble` : a number with a precision, with sign, groups and padding
-/

namespace UtilityClass

namespace Template

/-- The parts of a specification. -/
structure Specification where
  fill : Char
  alignment : Char
  sign : Option Char
  coercesZero : Bool
  alternate : Bool
  width : Option Nat
  separator : Option Char
  precision : Option Nat
  code : Option Char

namespace Specification

/-- The letters of alignment: to either side, to the middle, and between sign and digits. -/
def isAlignment (c : Char) : Bool := c == '<' || c == '>' || c == '=' || c == '^'

/-- The greatest number that a template may hold. -/
def greatestNumber : Nat := Nat.pow 2 63 - 1

/-- The number at the front of a text with the number of its digits, and the text after it. -/
def number (sofar size : Nat) : List Char → Except Error (Nat × Nat × List Char)
  | [] => .ok (sofar, size, [])
  | c :: rest =>
    match Unicode.digit? c with
    | some digit =>
      if greatestNumber < 10 * sofar + digit then .error .tooManyDigits
      else number (10 * sofar + digit) (size + 1) rest
    | none => .ok (sofar, size, c :: rest)

/-- A number at the front of a text, `none` if there is no digit. -/
def number? (text : List Char) : Except Error (Option Nat × List Char) :=
  (number 0 0 text).map fun (n, size, rest) => (if size = 0 then none else some n, rest)

/-- One character at the front of a text, if it passes the test. -/
def flag (test : Char → Bool) : List Char → Option Char × List Char
  | [] => (none, [])
  | c :: rest => if test c then (some c, rest) else (none, c :: rest)

/-- Fill and alignment at the front of a text. A fill is a character before an alignment. -/
def readAlignment : List Char → Option Char × Option Char × List Char
  | fill :: alignment :: rest =>
    if isAlignment alignment then (some fill, some alignment, rest)
    else if isAlignment fill then (none, some fill, alignment :: rest)
    else (none, none, fill :: alignment :: rest)
  | [c] => if isAlignment c then (none, some c, []) else (none, none, [c])
  | [] => (none, none, [])

/-- The separator of digit groups at the front of a text. -/
def readSeparator : List Char → Except Error (Option Char × List Char)
  | ',' :: '_' :: _ => .error .bothSeparators
  | '_' :: ',' :: _ => .error .bothSeparators
  | ',' :: rest => .ok (some ',', rest)
  | '_' :: rest => .ok (some '_', rest)
  | rest => .ok (none, rest)

/-- The precision at the front of a text. -/
def readPrecision : List Char → Except Error (Option Nat × List Char)
  | '.' :: rest => do
    let (precision, rest) ← number? rest
    match precision with
    | some precision => .ok (some precision, rest)
    | none => .error .missingPrecision
  | rest => .ok (none, rest)

/-- The codes of numbers with a precision. -/
def decimalCodes : List Char := ['e', 'E', 'f', 'F', 'g', 'G', '%']

/-- The codes of integers in a base that is a power of two. -/
def binaryCodes : List Char := ['b', 'o', 'x', 'X']

/-- The code that stands for none. -/
def noCode : Char := '\x00'

/-- The codes that digit groups may be used with. -/
def groupable (separator code : Char) : Bool :=
  code == 'd' || code == noCode || decimalCodes.contains code ||
    (separator == '_' && binaryCodes.contains code)

/-- The parts of a specification for a value of the given kind, with the alignment and the code that
hold when none is given. A value that can do without a code takes the one that stands for none. -/
def read (kind : String) (alignment : Char) (code : Option Char) (text : List Char) :
    Except Error Specification := do
  let (fill, given, rest) := readAlignment text
  let (sign, rest) := flag (fun c => c == ' ' || c == '+' || c == '-') rest
  let (zero, rest) := flag (· == 'z') rest
  let (alternate, rest) := flag (· == '#') rest
  let (padding, rest) := if fill.isNone then flag (· == '0') rest else (none, rest)
  let (width, rest) ← number? rest
  let (separator, rest) ← readSeparator rest
  let (precision, rest) ← readPrecision rest
  let code ← match rest with
    | [] => .ok code
    | [c] => .ok (if c = noCode then code.map fun _ => noCode else some c)
    | _ => .error (.invalidSpecification (String.ofList text) kind)
  match separator, code with
  | some separator, some code =>
    if groupable separator code then pure () else .error (.groupingWith separator code)
  | _, _ => pure ()
  let zeroAlignment := if alignment = '>' then '=' else alignment
  .ok { fill := if padding.isSome then '0' else fill.getD ' '
        alignment := given.getD (if padding.isSome then zeroAlignment else alignment)
        sign := sign
        coercesZero := zero.isSome
        alternate := alternate.isSome
        width := width
        separator := separator
        precision := precision
        code := code }

/-- A text padded to the width. In the middle, the odd blank goes to the right. -/
def pad (s : Specification) (text : List Char) : List Char :=
  let missing := s.width.getD 0 - text.length
  let left :=
    if s.alignment = '>' ∨ s.alignment = '=' then missing
    else if s.alignment = '^' then missing / 2
    else 0
  List.replicate left s.fill ++ text ++ List.replicate (missing - left) s.fill

/-- Refuses a code that is not among the given ones. -/
def requireCode (s : Specification) (codes : List Char) (kind : String) : Except Error Unit :=
  match s.code with
  | some code => if codes.contains code then .ok () else .error (.unknownCode code kind)
  | none => .ok ()

/-- A text laid out by a specification: the precision cuts it, the width pads it. -/
def layText (s : Specification) (text : List Char) : Except Error (List Char) := do
  s.requireCode ['s'] "str"
  if s.sign = some ' ' then .error .blankOnText
  else if s.sign.isSome then .error .signOnText
  else if s.coercesZero then .error .zeroCoercionOnText
  else if s.alternate then .error .alternateOnText
  else if s.alignment = '=' then .error .signAlignmentOnText
  else .ok (s.pad (match s.precision with
    | some precision => text.take precision
    | none => text))

/-- Digits in groups counted from the right, with as many zeros in front as keep the whole at least
`width` long. `reversed` holds the digits from the right, `room` counts down the group. The fuel
bounds the length of the result. -/
def grouped (separator : Char) (size : Nat) : Nat → Nat → List Char → Nat → List Char → List Char
  | 0, _, _, _, sofar => sofar
  | fuel + 1, width, reversed, room, sofar =>
    match reversed with
    | [] =>
      if width = 0 then sofar
      else if room = 0 then
        -- no group is empty, so a separator asks for one more zero
        grouped separator size fuel (max 1 (width - 1)) [] size (separator :: sofar)
      else grouped separator size fuel (width - 1) [] (room - 1) ('0' :: sofar)
    | digit :: rest =>
      if room = 0 then grouped separator size fuel (width - 1) reversed size (separator :: sofar)
      else grouped separator size fuel (width - 1) rest (room - 1) (digit :: sofar)

/-- A sign, a mark of the base, digits and what follows them, padded to the width. With zeros as
padding between sign and digits, the zeros are grouped like digits. -/
def layDigits (s : Specification) (negative : Bool) (mark digits tail : List Char) : List Char :=
  let sign : List Char :=
    if negative then ['-']
    else match s.sign with
      | some '+' => ['+']
      | some ' ' => [' ']
      | _ => []
  let front := sign ++ mark
  let room := s.width.getD 0 - front.length - tail.length
  let size := if s.code.any binaryCodes.contains then 4 else 3
  let zeros := if s.alignment = '=' ∧ s.fill = '0' then room else 0
  let body := match digits, s.separator with
    | _ :: _, some separator =>
      grouped separator size (2 * (s.width.getD 0 + digits.length) + 2) zeros digits.reverse size []
    | _, _ => digits
  if s.alignment = '=' then front ++ List.replicate (room - body.length) s.fill ++ body ++ tail
  else s.pad (front ++ body ++ tail)

/-- The numeral of a finite magnitude. Without a code and a precision it is the shortest one. -/
def numeral (s : Specification) (significand : Nat) (exponent : Int) : Numeral :=
  let (num, den) := Double.magnitude significand exponent
  let places := s.precision.getD 6
  let size := max 1 places
  match s.code.map Char.toLower, s.precision with
  | none, none => Double.numeral significand exponent
  | none, some _ => (Double.general num den size ((size : Int) - 1) s.alternate).withFraction
  | some 'e', _ => Double.exponential num den places
  | some 'f', _ | some '%', _ => Double.fixed num den places
  | some _, _ => Double.general num den size size s.alternate

/-- The greatest precision of a number. -/
def greatestPrecision : Nat := Nat.pow 2 31 - 1

/-- A double laid out by a specification. A percentage is the number times a hundred, rounded as a
double before it is written. -/
def layDouble (s : Specification) (kind : String) (x : Double) : Except Error (List Char) := do
  s.requireCode ('n' :: decimalCodes) kind
  let percent := s.code == some '%'
  let ending := if percent then ['%'] else []
  let capital := s.code.any Char.isUpper
  let word (text : String) : List Char := text.toList.map fun c => if capital then c.toUpper else c
  if greatestPrecision < s.precision.getD 0 then .error .precisionTooBig
  else match if percent then x.mulNat 100 else x with
    | .nan => .ok (s.layDigits false [] [] (word "nan" ++ ending))
    | .infinite negative => .ok (s.layDigits negative [] [] (word "inf" ++ ending))
    | .finite negative significand exponent =>
      let n := s.numeral significand exponent
      .ok (s.layDigits (negative && !(s.coercesZero && n.isZero)) [] n.whole
        (n.tail s.alternate (if capital then 'E' else 'e') ++ ending))

/-- A character laid out by a specification, given by its number. -/
def layCharacter (s : Specification) (n : Int) : Except Error (List Char) :=
  if s.sign.isSome then .error .signOnCharacter
  else if s.alternate then .error .alternateOnCharacter
  else if n < -greatestNumber - 1 ∨ greatestNumber < n then .error .characterTooLarge
  else if n < 0 ∨ 1114111 < n then .error .noSuchCharacter
  else .ok (s.layDigits false [] [] [Char.ofNat n.toNat])

/-- The base of the digits that an integer is written in. -/
def base (s : Specification) : Nat :=
  match s.code with
  | some 'b' => 2
  | some 'o' => 8
  | some 'x' | some 'X' => 16
  | _ => 10

/-- The digits of an integer laid out by a specification. -/
def layWhole (s : Specification) (n : Int) : List Char :=
  let digits := Nat.toDigits s.base n.natAbs
  let mark := match s.code with
    | some code => if s.alternate ∧ s.base ≠ 10 then ['0', code] else []
    | none => []
  s.layDigits (decide (n < 0)) mark
    (if s.code = some 'X' then digits.map Char.toUpper else digits) []

/-- An integer laid out by a specification. The codes of numbers with a precision ask for the
nearest double, if there is one. -/
def layInteger (s : Specification) (kind : String) (n : Int) : Except Error (List Char) := do
  if s.code.any decimalCodes.contains then
    match Double.ofInt n with
    | .infinite _ => .error .integerTooLarge
    | x => s.layDouble kind x
  else
    s.requireCode ('c' :: 'd' :: 'n' :: binaryCodes) kind
    if s.precision.isSome then .error .precisionOnInteger
    else if s.coercesZero then .error .zeroCoercionOnInteger
    else if s.code = some 'c' then s.layCharacter n
    else .ok (s.layWhole n)

end Specification

end Template

end UtilityClass
