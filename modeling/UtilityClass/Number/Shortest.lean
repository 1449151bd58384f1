import UtilityClass.Number.Double
import UtilityClass.Number.Numeral

/-!
# Shortest decimal text

The text of a double is the shortest decimal that reads back as it, and of those the nearest one.
Reading rounds to nearest, so a decimal reads back exactly when it lies between the midpoints to the
two neighbouring doubles; a midpoint itself counts when the significand is even. For each number of
digits only the two points of the decimal grid next to the value need a test: if some grid point
lies between the midpoints, so does one of these two.

## Main definitions

* `Double.shortest` : the digits of the shortest decimal and its power of ten
* `Double.numeral`, `Double.text` : the shortest decimal as it is written
-/

namespace UtilityClass

namespace Double

/-- The least `p` with `value < 10 ^ p`, for a positive quotient `num / den`. The estimate from the
binary length is off by at most one on either side. -/
def decimalPoint (num den : Nat) : Int :=
  let estimate : Int := ((num.log2 : Int) - (den.log2 : Int)) * 30103 / 100000
  let reaches (p : Int) : Bool := decide (den * Nat.pow 10 p.toNat ≤ num * Nat.pow 10 (-p).toNat)
  if reaches (estimate + 1) then estimate + 2
  else if reaches estimate then estimate + 1
  else if reaches (estimate - 1) then estimate
  else estimate - 1

/-- What the search needs of a positive double, all in quarters of its last binary place, which is
`num / den`: the value, and the midpoints to its neighbours, which count if `closed`. -/
structure Neighbourhood where
  value : Nat
  lower : Nat
  upper : Nat
  closed : Bool
  num : Nat
  den : Nat

/-- The neighbourhood of `significand * 2 ^ exponent`. Below a power of two the next double is only
half as far away. -/
def neighbourhood (significand : Nat) (exponent : Int) : Neighbourhood :=
  let quarter := exponent - 2
  { value := 4 * significand
    lower := 4 * significand -
      (if significand = Nat.pow 2 52 ∧ leastExponent < exponent then 1 else 2)
    upper := 4 * significand + 2
    closed := decide (significand % 2 = 0)
    num := Nat.pow 2 quarter.toNat
    den := Nat.pow 2 (-quarter).toNat }

/-- The better of the two points next to the value on the grid of multiples of `10 ^ power`, if one
of them reads back as the value. A tie goes to the even digit. -/
def Neighbourhood.hit (n : Neighbourhood) (power : Int) : Option Nat :=
  let unit := n.den * Nat.pow 10 power.toNat
  let scale := n.num * Nat.pow 10 (-power).toNat
  let below := n.value * scale / unit
  let within (d : Nat) : Bool :=
    if n.closed then decide (n.lower * scale ≤ d * unit) && decide (d * unit ≤ n.upper * scale)
    else decide (n.lower * scale < d * unit) && decide (d * unit < n.upper * scale)
  let beneath := n.value * scale - below * unit
  let above := (below + 1) * unit - n.value * scale
  match within below, within (below + 1) with
  | true, true =>
    if beneath < above then some below
    else if above < beneath then some (below + 1)
    else if below % 2 = 0 then some below
    else some (below + 1)
  | true, false => some below
  | false, true => some (below + 1)
  | false, false => none

/-- Digits and power of ten of the shortest decimal that reads back as
`significand * 2 ^ exponent`, for a positive significand. -/
def shortest (significand : Nat) (exponent : Int) : Nat × Int :=
  let (num, den) := magnitude significand exponent
  let point := decimalPoint num den
  let near := neighbourhood significand exponent
  let found := (List.range 17).findSome? fun (extra : Nat) =>
    let power := point - 1 - (extra : Int)
    (near.hit power).map fun digits => (digits, power)
  found.getD (0, 0)

/-- The numeral of the shortest decimal. Numbers below `10 ^ 16` are written out. -/
def numeral (significand : Nat) (exponent : Int) : Numeral :=
  if significand = 0 then .withFraction (.ofDigits 16 ['0'] 1)
  else
    let (n, power) := shortest significand exponent
    let digits := Nat.toDigits 10 n
    .withFraction (.ofDigits 16 (significantDigits digits) ((digits.length : Int) + power))

/-- The shortest text that reads back as the double. -/
def text : Double → String
  | .finite negative significand exponent =>
    let n := numeral significand exponent
    String.ofList ((if negative then ['-'] else []) ++ n.whole ++ n.tail false 'e')
  | .infinite negative => if negative then "-inf" else "inf"
  | .nan => "nan"

end Double

end UtilityClass
