/-!
# Numerals

The written form of a magnitude: digits before the decimal point, digits behind it, and an exponent
if one is written. Which digits a number has is decided elsewhere; here they are placed. Digits come
with a place `point`, counted from their left end, so that `d₁ d₂ …` at `point` stands for
`0.d₁d₂… * 10 ^ point`.

## Main definitions

* `Numeral` : the parts of a written magnitude
* `Numeral.positional`, `Numeral.scientific` : the two ways to place digits
* `Numeral.ofDigits` : the choice between them
* `Numeral.tail` : what is written behind the whole digits
-/

namespace UtilityClass

/-- The digits of `n`, with zeros in front of them up to a size. -/
def paddedDigits (size n : Nat) : List Char :=
  let digits := Nat.toDigits 10 n
  List.replicate (size - digits.length) '0' ++ digits

/-- Digits with the zeros at their end cut off. One digit always stays. -/
def significantDigits (digits : List Char) : List Char :=
  match (digits.reverse.dropWhile (· == '0')).reverse with
  | [] => ['0']
  | significant => significant

/-- The parts of a written magnitude. -/
structure Numeral where
  whole : List Char
  fraction : List Char
  exponent : Option Int

namespace Numeral

/-- Digits written out, with zeros where the point lies outside of them. -/
def positional (digits : List Char) (point : Int) : Numeral :=
  if point ≤ 0 then ⟨['0'], List.replicate (-point).toNat '0' ++ digits, none⟩
  else
    let places := point.toNat
    ⟨digits.take places ++ List.replicate (places - digits.length) '0', digits.drop places, none⟩

/-- Digits with one of them before the point and an exponent. -/
def scientific (digits : List Char) (point : Int) : Numeral :=
  ⟨digits.take 1, digits.drop 1, some (point - 1)⟩

/-- Numbers are written out from `0.0001` on, as long as they have no more whole digits than `most`,
and with an exponent outside of that. -/
def ofDigits (most : Int) (digits : List Char) (point : Int) : Numeral :=
  if -4 < point ∧ point ≤ most then positional digits point else scientific digits point

/-- A number that is written out gets a digit behind the point, so that it does not look like an
integer. An exponent says as much. -/
def withFraction (n : Numeral) : Numeral :=
  if n.exponent.isNone ∧ n.fraction.isEmpty then { n with fraction := ['0'] } else n

/-- An exponent has a sign and at least two digits. -/
def exponentText (letter : Char) (power : Int) : List Char :=
  letter :: (if power < 0 then '-' else '+') :: paddedDigits 2 power.natAbs

/-- What is written behind the whole digits. A point with nothing behind it is left out, unless it
is asked for. -/
def tail (n : Numeral) (barePoint : Bool) (letter : Char) : List Char :=
  (if n.fraction.isEmpty && !barePoint then [] else '.' :: n.fraction) ++
    (n.exponent.map (exponentText letter)).getD []

/-- Whether all digits are zeros. -/
def isZero (n : Numeral) : Bool := (n.whole ++ n.fraction).all (· == '0')

end Numeral

end UtilityClass
