import UtilityClass.Number.Double
import UtilityClass.Text.Blank

/-!
# Reading numbers

Numbers as people write them. Digits may be those of any script, blanks may stand on both ends, and
single underscores between digits. An integer is written in a base of up to thirty-six, which it may
tell itself by a prefix; a number may have a point and an exponent, or be one of the words for what
is no finite number; a complex number is written as the sum of its parts, and a fraction as a
quotient.

## Main definitions

* `Reading.integer?`, `Reading.double?`, `Reading.complex?`
* `Reading.decimal?`, `Reading.fraction?`
-/

namespace UtilityClass

namespace Reading

/-! ## Characters -/

/-- The characters of a text, with the digits and blanks beyond ASCII turned into those of ASCII. -/
def plainChars (text : String) : List Char :=
  text.toList.map fun c =>
    if c.toNat < 127 then c
    else match Unicode.digit? c with
      | some d => Char.ofNat (48 + d)
      | none => if Unicode.isBlank c then ' ' else c

/-- Whether a character is a blank of ASCII. -/
def isBlank (c : Char) : Bool := c == ' ' || (decide ('\t' ≤ c) && decide (c ≤ '\r'))

/-- The characters without the blanks at both ends. -/
def trimmed (blank : Char → Bool) (chars : List Char) : List Char :=
  ((chars.dropWhile blank).reverse.dropWhile blank).reverse

/-- The characters without their underscores, each of which has to stand between two digits;
`before` is the character in front of them. -/
def withoutUnderscores? (isDigit : Char → Bool) (before : Char) : List Char → Option (List Char)
  | [] => some []
  | ['_'] => none
  | '_' :: c :: rest =>
    if isDigit before && isDigit c then (withoutUnderscores? isDigit c rest).map (c :: ·) else none
  | c :: rest => (withoutUnderscores? isDigit c rest).map (c :: ·)

/-- Whether there is a minus sign in front, and the characters behind the sign. -/
def takeSign : List Char → Bool × List Char
  | '-' :: rest => (true, rest)
  | '+' :: rest => (false, rest)
  | chars => (false, chars)

/-- The characters behind a word of lower-case letters, if it stands in front in letters of either
case. -/
def afterWord? : List Char → List Char → Option (List Char)
  | [], rest => some rest
  | w :: word, c :: rest => if c.toLower = w then afterWord? word rest else none
  | _ :: _, [] => none

/-- The characters behind the word for infinity, or behind its short form. -/
def afterInfinity? (chars : List Char) : Option (List Char) :=
  (afterWord? "infinity".toList chars).or (afterWord? "inf".toList chars)

/-! ## Integers -/

/-- The value of a digit in a base. -/
def digit? (base : Nat) (c : Char) : Option Nat :=
  let value :=
    if '0' ≤ c ∧ c ≤ '9' then some (c.toNat - 48)
    else if 'a' ≤ c ∧ c ≤ 'z' then some (c.toNat - 87)
    else if 'A' ≤ c ∧ c ≤ 'Z' then some (c.toNat - 55)
    else none
  value.filter fun d => decide (d < base)

/-- The natural number that digits denote in a base. There has to be one, and underscores may
separate them. -/
def natural? (base : Nat) (chars : List Char) : Option Nat := do
  let digits ← withoutUnderscores? (fun c => (digit? base c).isSome) ' ' chars
  if digits.isEmpty then none
  else digits.foldlM (fun n c => (digit? base c).map (base * n + ·)) 0

/-- The base that a letter behind a zero tells. -/
def baseOfLetter? (c : Char) : Option Nat :=
  match c.toLower with
  | 'x' => some 16
  | 'o' => some 8
  | 'b' => some 2
  | _ => none

/-- The characters without an underscore in front. -/
def dropUnderscore : List Char → List Char
  | '_' :: rest => rest
  | chars => chars

/-- The natural number that characters denote, with a prefix for the base where it is allowed. In
base zero the number tells its base itself, which otherwise is ten; and then it is not written with
zeros in front, unless it is zero. -/
def magnitude? (base : Nat) (chars : List Char) : Option Nat :=
  let told : Option (Nat × List Char) := match chars with
    | '0' :: c :: rest => ((baseOfLetter? c).filter fun b => base == 0 || base == b).map (·, rest)
    | _ => none
  match told, base with
  | some (b, rest), _ => natural? b (dropUnderscore rest)
  | none, 0 => (natural? 10 chars).filter fun n => chars.head? != some '0' || n == 0
  | none, base => natural? base chars

/-- The integer that a text denotes in a base. -/
def integer? (base : Nat) (text : String) : Option Int :=
  let (negative, chars) := takeSign (trimmed isBlank (plainChars text))
  (magnitude? base chars).map fun n => if negative then -(n : Int) else n

/-! ## Decimals -/

/-- Digits with a power of ten. -/
structure Decimal where
  digits : Nat
  power : Int

/-- The natural number that decimal digits denote. -/
def ofDigits (digits : List Char) : Nat :=
  digits.foldl (fun n c => 10 * n + (c.toNat - 48)) 0

/-- An exponent in front, if there is one, and the characters behind it. -/
def takeExponent (chars : List Char) : Int × List Char :=
  match chars with
  | 'e' :: rest | 'E' :: rest =>
    let (negative, rest) := takeSign rest
    let digits := rest.takeWhile Char.isDigit
    if digits.isEmpty then (0, chars)
    else
      let n : Int := ofDigits digits
      (if negative then -n else n, rest.drop digits.length)
  | _ => (0, chars)

/-- A decimal without a sign in front, and the characters behind it. It has a digit before the point
or behind it. -/
def takeDecimal? (chars : List Char) : Option (Decimal × List Char) :=
  let whole := chars.takeWhile Char.isDigit
  let rest := chars.drop whole.length
  let (places, rest) := match rest with
    | '.' :: behind =>
      let places := behind.takeWhile Char.isDigit
      (places, behind.drop places.length)
    | rest => ([], rest)
  if whole.isEmpty && places.isEmpty then
    none
  else
    let (exponent, rest) := takeExponent rest
    some (⟨ofDigits (whole ++ places), exponent - places.length⟩, rest)

/-! ## Doubles and complex numbers -/

/-- A double in front, and the characters behind it. -/
def takeDouble? (chars : List Char) : Option (Double × List Char) :=
  let (negative, chars) := takeSign chars
  match takeDecimal? chars with
  | some (d, rest) => some (.ofDecimal negative d.digits d.power, rest)
  | none =>
    ((afterInfinity? chars).map (Double.infinite negative, ·)).or
      ((afterWord? "nan".toList chars).map (Double.nan, ·))

/-- The double that a text denotes. -/
def double? (text : String) : Option Double := do
  let chars ← withoutUnderscores? Char.isDigit ' ' (trimmed isBlank (plainChars text))
  let (x, rest) ← takeDouble? chars
  if rest.isEmpty then some x else none

/-- The characters behind the letter of imaginary parts. -/
def afterUnit? : List Char → Option (List Char)
  | 'j' :: rest | 'J' :: rest => some rest
  | _ => none

/-- The double of magnitude one whose sign stands in front, and the characters behind the sign. -/
def takeOne (chars : List Char) : Double × List Char :=
  let (negative, rest) := takeSign chars
  (Double.ofInt (if negative then -1 else 1), rest)

/-- The parts of a complex number in front, and the characters behind it. -/
def takeComplex? (chars : List Char) : Option ((Double × Double) × List Char) :=
  let signed (chars : List Char) : Bool := chars.head? == some '+' || chars.head? == some '-'
  match takeDouble? chars with
  | some (x, rest) =>
    if signed rest then
      let (y, rest) := (takeDouble? rest).getD (takeOne rest)
      (afterUnit? rest).map ((x, y), ·)
    else match afterUnit? rest with
      | some rest => some ((Double.ofInt 0, x), rest)
      | none => some ((x, Double.ofInt 0), rest)
  | none =>
    let (y, rest) := takeOne chars
    (afterUnit? rest).map ((Double.ofInt 0, y), ·)

/-- The parts of the complex number that characters without underscores denote. It may stand in
parentheses. -/
def complex? (chars : List Char) : Option (Double × Double) :=
  match chars.dropWhile isBlank with
  | '(' :: rest =>
    match takeComplex? (rest.dropWhile isBlank) with
    | some (z, rest) =>
      match rest.dropWhile isBlank with
      | ')' :: rest => if (rest.dropWhile isBlank).isEmpty then some z else none
      | _ => none
    | none => none
  | chars =>
    match takeComplex? chars with
    | some (z, rest) => if (rest.dropWhile isBlank).isEmpty then some z else none
    | none => none

/-! ## Exact numbers -/

/-- What a text of decimal arithmetic denotes. -/
inductive ExactDecimal where
  | finite (negative : Bool) (d : Decimal)
  | infinite (negative : Bool)
  | notANumber

/-- What a text denotes in decimal arithmetic. Underscores may stand anywhere in it, and what is no
number may be followed by digits. -/
def decimal? (text : String) : Option ExactDecimal :=
  let kept := (trimmed Unicode.isBlank text.toList).filter (· != '_')
  let (negative, chars) := takeSign (plainChars (String.ofList kept))
  match takeDecimal? chars with
  | some (d, rest) => if rest.isEmpty then some (.finite negative d) else none
  | none =>
    if afterInfinity? chars == some [] then some (.infinite negative)
    else
      let payload := (afterWord? "nan".toList chars).or (afterWord? "snan".toList chars)
      if payload.any (·.all Char.isDigit) then some .notANumber else none

/-- Digits in front that may be separated by underscores, and the characters behind them. -/
def takeSeparated (chars : List Char) : List Char × List Char :=
  let run := chars.takeWhile fun c => c.isDigit || c == '_'
  (run, chars.drop run.length)

/-- The natural number that separated digits denote; there may be none. -/
def separated? (chars : List Char) : Option Nat :=
  if chars.isEmpty then some 0 else natural? 10 chars

/-- The digits behind the point of a fraction, and the characters behind them. -/
def takePlaces : List Char → List Char × List Char
  | '.' :: rest => takeSeparated rest
  | chars => ([], chars)

/-- The exponent of a fraction. -/
def exponentOf? : List Char → Option Int
  | [] => some 0
  | c :: rest =>
    if c.toLower = 'e' then
      let (negative, digits) := takeSign rest
      (natural? 10 digits).map fun n => if negative then -(n : Int) else n
    else none

/-- The numerator and the denominator that a text denotes, not reduced. -/
def fraction? (text : String) : Option (Int × Nat) := do
  let chars := (trimmed Unicode.isBlank text.toList).map fun c =>
    ((Unicode.digit? c).map fun d => Char.ofNat (48 + d)).getD c
  let (negative, chars) := takeSign chars
  let signed (n : Nat) : Int := if negative then -(n : Int) else n
  let (whole, rest) := takeSeparated chars
  match rest with
  | '/' :: rest =>
    let num ← natural? 10 whole
    let den ← natural? 10 rest
    return (signed num, den)
  | rest =>
    let (places, rest) := takePlaces rest
    if whole.isEmpty && places.isEmpty then none
    let num ← separated? whole
    let behind ← separated? places
    let exponent ← exponentOf? rest
    let places := (places.filter (· != '_')).length
    let digits := num * Nat.pow 10 places + behind
    return (signed (digits * Nat.pow 10 exponent.toNat),
      Nat.pow 10 places * Nat.pow 10 (-exponent).toNat)

end Reading

end UtilityClass
