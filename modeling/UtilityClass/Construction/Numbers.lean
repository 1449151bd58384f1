import UtilityClass.Class.Literal
import UtilityClass.Construction.Arguments
import UtilityClass.Number.Reading

/-!
# Numbers

What the classes of numbers make of their arguments: the number that a value already is, or the one
that a text denotes. Where a result is equal to a plain number, this number stands for it.

## Main definitions

* `Hierarchy.createInteger`, `Hierarchy.createFloat`, `Hierarchy.createComplex`
* `Hierarchy.createTruth`
* `Hierarchy.createDecimal`, `Hierarchy.fractionOf`
-/

namespace UtilityClass

/-- The plain number that is equal to a quotient, if there is one. -/
def Json.ofQuotient? (num : Int) (den : Nat) : Option Json :=
  if den = 0 then none
  else if num % (den : Int) = 0 then some (.int (num / (den : Int)))
  else
    let x := Double.nearest (decide (num < 0)) num.natAbs den
    match x.toQuotient? with
    | some (a, b) => if a * (den : Int) = num * (b : Int) then some (.float x) else none
    | none => none

/-- Whether a value counts as true. -/
def Value.truthy : Value → Bool
  | .tuple items => !items.isEmpty
  | v => v.content?.all Json.truthy

namespace Hierarchy

variable (h : Hierarchy)

/-! ## Integers -/

/-- How integers take their arguments. -/
def integerParameters : NativeParameters := ⟨some "int", [none, some "base"], 0, 2⟩

/-- The integer that a value is or denotes. -/
def integerOf (v : Value) : Except Fault Int :=
  match v.content? with
  | some (.str text) =>
    match Reading.integer? 10 text with
    | some n => .ok n
    | none => .error (badLiteral 10 text)
  | some (.float .nan) => .error (valueComplaint "cannot convert float NaN to integer")
  | some (.float x) =>
    match x.truncate? with
    | some n => .ok n
    | none => .error (overflowComplaint "cannot convert float infinity to integer")
  | content =>
    match content.bind Json.integer? with
    | some n => .ok n
    | none => .error (typeComplaint ("int() argument must be a string, a bytes-like object or a " ++
        "real number, not '" ++ v.kind h ++ "'"))
where
  /-- What is said of a text that denotes no integer. Long ones are cut. -/
  badLiteral (base : Nat) (text : String) : Fault :=
    valueComplaint ("invalid literal for int() with base " ++ intText base ++ ": " ++
      String.ofList ((Json.str text).literal.toList.take 200))

/-- The integer that a value denotes in a base. -/
def integerInBase (v base : Value) : Except Fault Int := do
  let n ← h.indexOf base
  if (n ≠ 0 ∧ n < 2) ∨ 36 < n then
    .error (valueComplaint "int() base must be >= 2 and <= 36, or 0")
  match v.content? with
  | some (.str text) =>
    match Reading.integer? n.toNat text with
    | some n => return n
    | none => .error (integerOf.badLiteral n.toNat text)
  | _ => .error (typeComplaint "int() can't convert non-string with explicit base")

/-- The integer that arguments give. -/
def createInteger (given : List Value) (named : List (String × Value)) : Except Fault Int := do
  match ← integerParameters.take given named acceptAny with
  | [some v, some base] => h.integerInBase v base
  | some v :: _ => h.integerOf v
  | [_, some _] => .error (typeComplaint "int() missing string argument")
  | _ => return 0

/-- The truth value that arguments give. -/
def createTruth (given : List Value) (named : List (String × Value)) : Except Fault Bool := do
  refuseNames "bool" named
  checkCount "bool" 0 1 given.length
  return (given.head?.map Value.truthy).getD false

/-! ## Floating-point numbers -/

/-- The double nearest to an integer, which must not be too large. -/
def doubleOfInteger (n : Int) : Except Fault Double :=
  let x := Double.ofInt n
  if x.isFinite then .ok x
  else .error (overflowComplaint "int too large to convert to float")

/-- The double that a value is or denotes. -/
def doubleOf (v : Value) : Except Fault Double :=
  match v.content? with
  | some (.str text) =>
    match Reading.double? text with
    | some x => .ok x
    | none => .error (valueComplaint
        ("could not convert string to float: " ++ (Json.str text).literal))
  | some (.float x) => .ok x
  | content =>
    match content.bind Json.integer? with
    | some n => doubleOfInteger n
    | none => .error (typeComplaint
        ("float() argument must be a string or a real number, not '" ++ v.kind h ++ "'"))

/-- The double that arguments give. Names are only refused if no other function takes them. -/
def createFloat (refusesNames : Bool) (given : List Value) (named : List (String × Value)) :
    Except Fault Double := do
  if refusesNames then refuseNames "float" named
  checkCount "float" 0 1 given.length
  match given with
  | v :: _ => h.doubleOf v
  | [] => return .zero false

/-! ## Complex numbers -/

/-- How complex numbers take their arguments. -/
def complexParameters : NativeParameters := .ofNames (some "complex") ["real", "imag"] 0

/-- The complex number that a text denotes. -/
def complexOfText (text : String) : Except Fault (Double × Double) :=
  match Reading.withoutUnderscores? Char.isDigit ' ' (Reading.plainChars text) with
  | none => .error (valueComplaint
      ("could not convert string to complex: " ++ (Json.str text).literal))
  | some chars =>
    match Reading.complex? chars with
    | some z => .ok z
    | none => .error (valueComplaint "complex() arg is a malformed string")

/-- A part of a complex number. -/
def complexPart (v : Value) (complaint : String) : Except Fault Double :=
  match v.content? with
  | some (.float x) => .ok x
  | content =>
    match content.bind Json.integer? with
    | some n => doubleOfInteger n
    | none => .error (typeComplaint (complaint ++ ", not '" ++ v.kind h ++ "'"))

/-- The complex number that arguments give. -/
def createComplex (given : List Value) (named : List (String × Value)) :
    Except Fault (Double × Double) := do
  let isText (v : Option Value) : Bool := match v.bind Value.content? with
    | some (.str _) => true
    | _ => false
  let taken ← complexParameters.take given named acceptAny
  let real := (taken.head?.getD none).getD (.data (.int 0))
  let imaginary := taken[1]?.getD none
  match real.content? with
  | some (.str text) =>
    if imaginary.isSome then
      .error (typeComplaint "complex() can't take second arg if first is a string")
    complexOfText text
  | _ =>
    if isText imaginary then .error (typeComplaint "complex() second arg can't be a string")
    if ¬(real.content?.any Json.isNumber) then
      .error (typeComplaint ("complex() first argument must be a string or a number, not '" ++
        real.kind h ++ "'"))
    let second := "complex() second argument must be a number"
    match imaginary with
    | some v =>
      if ¬(v.content?.any Json.isNumber) then discard (h.complexPart v second)
      return (← h.complexPart real second, ← h.complexPart v second)
    | none => return (← h.complexPart real second, .zero false)

/-- The plain number that is equal to a complex one, if there is one. -/
def plainComplex? (z : Double × Double) : Option Json :=
  if z.2.isZero then some (.float z.1) else none

/-! ## Decimal numbers -/

/-- How decimal numbers take their arguments. -/
def decimalParameters : NativeParameters := .ofNames none ["value", "context"] 0

/-- A signal of decimal arithmetic. -/
def decimalSignal (name : String) : Fault :=
  .refusal (.complaint .invalidOperation ("[<class 'decimal." ++ name ++ "'>]"))

/-- The largest exponent of a decimal number. -/
def largestExponent : Int := 999999999999999999

/-- The plain number that is equal to an exact decimal, if there is one and it is not out of the
way. An exponent may be too large in either direction. -/
def plainDecimal? (negative : Bool) (d : Reading.Decimal) : Except Fault (Option Json) :=
  let adjusted : Int := d.power + (Nat.toDigits 10 d.digits).length - 1
  if largestExponent < adjusted ∨ d.power < -2 * largestExponent + 1 then
    .error (decimalSignal "InvalidOperation")
  else if 400 < d.power ∨ d.power < -400 then .ok none
  else
    let num : Int := d.digits * Nat.pow 10 d.power.toNat
    .ok (Json.ofQuotient? (if negative then -num else num) (Nat.pow 10 (-d.power).toNat))

/-- The plain number that is equal to what a text denotes in decimal arithmetic. -/
def decimalOfText (text : String) : Except Fault (Option Json) :=
  match Reading.decimal? text with
  | some (.finite negative d) => plainDecimal? negative d
  | some (.infinite negative) => .ok (some (.float (.infinite negative)))
  | some .notANumber => .ok none
  | none => .error (decimalSignal "ConversionSyntax")

/-- The integer that a part of a decimal number is, up to a largest one. -/
def decimalPart (value : Json) (largest : Int) (word complaint : String) : Except Fault Int :=
  match value.integer? with
  | none => .error (valueComplaint complaint)
  | some n => do
    checkWord word n
    if 0 ≤ largest ∧ (n < 0 ∨ largest < n) then .error (valueComplaint complaint)
    return n

/-- The exponent of a decimal number that is given by its parts; what is no finite number has a
letter in its place. -/
def decimalExponent (value : Json) : Except Fault (Option Int) :=
  match value with
  | .str text =>
    if ["F", "n", "N"].contains text then .ok none
    else .error (valueComplaint "string argument in the third position must be 'F', 'n' or 'N'")
  | value => some <$> decimalPart value (-1) "ssize_t" "exponent must be an integer"

/-- The plain number that is equal to the one of a sign, digits and an exponent. -/
def decimalOfParts (parts : List Json) : Except Fault (Option Json) := do
  match parts with
  | [sign, digits, exponent] =>
    let sign ← decimalPart sign 1 "long" "sign must be an integer with the value 0 or 1"
    let power ← decimalExponent exponent
    let wrongDigits := "coefficient must be a tuple of digits"
    let digits ← match digits with
      | .arr items => items.mapM fun item => decimalPart item 9 "long" wrongDigits
      | _ => .error (valueComplaint wrongDigits)
    match power with
    | some power => plainDecimal? (sign == 1) ⟨digits.foldl (fun n d => 10 * n + d.toNat) 0, power⟩
    | none =>
      return match exponent with
        | .str "F" => some (.float (.infinite (sign == 1)))
        | _ => none
  | _ => .error (valueComplaint "argument must be a sequence of length 3")

/-- The plain number that is equal to the decimal number of a value. -/
def decimalOf (v : Value) : Except Fault (Option Json) :=
  match v.content? with
  | some (.str text) => decimalOfText text
  | some (.float x) => .ok (some (.float x))
  | some (.arr parts) => decimalOfParts parts
  | content =>
    match content.bind Json.integer? with
    | some n => .ok (some (.int n))
    | none => .error (typeComplaint
        ("conversion from " ++ v.kind h ++ " to Decimal is not supported"))

/-- The plain number that is equal to the decimal number that arguments give, if there is one. -/
def createDecimal (given : List Value) (named : List (String × Value)) :
    Except Fault (Option Json) := do
  let taken ← decimalParameters.take given named acceptAny
  if (taken[1]?.getD none).any fun v => !v.isNull then
    .error (typeComplaint "optional argument must be a context")
  match taken.head?.getD none with
  | some v => h.decimalOf v
  | none => return some (.int 0)

/-! ## Fractions -/

/-- The plain number that is equal to a quotient, which has to exist. -/
def fractionOfQuotient (num den : Int) : Except Fault (Option Json) :=
  if den = 0 then
    .error (.refusal (.complaint .zeroDivisionError ("Fraction(" ++ intText num ++ ", 0)")))
  else .ok (Json.ofQuotient? (if den < 0 then -num else num) den.natAbs)

/-- The plain number that is equal to the fraction of a single value. -/
def fractionOfOne (v : Value) : Except Fault (Option Json) :=
  match v.content? with
  | some (.str text) =>
    match Reading.fraction? text with
    | some (num, den) => fractionOfQuotient num den
    | none => .error (valueComplaint
        ("Invalid literal for Fraction: " ++ (Json.str text).literal))
  | some (.float .nan) => .error (valueComplaint "cannot convert NaN to integer ratio")
  | some (.float x) =>
    if x.isFinite then .ok (some (.float x))
    else .error (overflowComplaint "cannot convert Infinity to integer ratio")
  | content =>
    match content.bind Json.integer? with
    | some n => .ok (some (.int n))
    | none => .error (typeComplaint "argument should be a string or a Rational instance")

/-- The plain number that is equal to the fraction of a numerator and a denominator, if there is
one. -/
def fractionOf (numerator denominator : Value) : Except Fault (Option Json) :=
  if denominator.isNull then fractionOfOne numerator
  else match numerator.content?.bind Json.integer?, denominator.content?.bind Json.integer? with
    | some num, some den => fractionOfQuotient num den
    | _, _ => .error (typeComplaint "both arguments should be Rational instances")

end Hierarchy

end UtilityClass
