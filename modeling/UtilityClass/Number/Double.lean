/-!
# Binary floating-point numbers

A `Double` is kept as what it denotes: a sign, a significand of at most 53 bits and a power of two.
Every operation computes the exact rational result first and rounds it once, to nearest with ties to
the even significand, so no operation depends on a machine's floating-point unit and each can be
reasoned about in `Nat` and `Int`.

A finite value is canonical when its significand is below `2 ^ 53` and either has all 53 bits or
sits at the least exponent. `Double.nearest` builds only canonical values, and on them structural
equality is equality of the number together with the sign of zero.

## Main definitions

* `roundQuotient` : a quotient of naturals rounded to nearest, a half to the even neighbour
* `Double.nearest` : the double nearest to a quotient of naturals
* `Double.roundTo` : rounding to a number of decimal places
-/

namespace UtilityClass

/-- `num / den` rounded to nearest, a half to the even neighbour. -/
def roundQuotient (num den : Nat) : Nat :=
  let below := num / den
  let rest := num % den
  if 2 * rest < den then below
  else if den < 2 * rest then below + 1
  else if below % 2 = 0 then below
  else below + 1

/-- A floating-point number of 53 significant bits. The finite one stands for
`± significand * 2 ^ exponent`. -/
inductive Double where
  | finite (negative : Bool) (significand : Nat) (exponent : Int)
  | infinite (negative : Bool)
  | nan
  deriving DecidableEq

namespace Double

/-- The exponent of the least positive double. -/
def leastExponent : Int := -1074

/-- The exponent of the greatest finite double. -/
def greatestExponent : Int := 971

/-- The zero of the given sign. -/
def zero (negative : Bool) : Double := .finite negative 0 leastExponent

/-- The quotient `num / den` in units of `2 ^ exponent`, rounded. -/
def significandAt (num den : Nat) (exponent : Int) : Nat :=
  roundQuotient (num * Nat.pow 2 (-exponent).toNat) (den * Nat.pow 2 exponent.toNat)

/-- The exponent at which `num / den` has a significand of 53 bits, or the least exponent. -/
def exponentOf (num den : Nat) : Int :=
  let gap : Int := (num.log2 : Int) - (den.log2 : Int)
  let fits := decide (den * Nat.pow 2 gap.toNat ≤ num * Nat.pow 2 (-gap).toNat)
  max leastExponent (gap - if fits then 52 else 53)

/-- The double nearest to `num / den` with the given sign. -/
def nearest (negative : Bool) (num den : Nat) : Double :=
  let exponent := exponentOf num den
  let significand := significandAt num den exponent
  if significand = 0 then zero negative
  else
    let (significand, exponent) :=
      if significand = Nat.pow 2 53 then (Nat.pow 2 52, exponent + 1) else (significand, exponent)
    if greatestExponent < exponent then .infinite negative
    else .finite negative significand exponent

/-- The double nearest to an integer. -/
def ofInt (n : Int) : Double := nearest (decide (n < 0)) n.natAbs 1

/-- The double nearest to `digits * 10 ^ power`. Powers far outside the range are decided at once,
since the rounded value is then zero or infinite whatever the digits are. -/
def ofDecimal (negative : Bool) (digits : Nat) (power : Int) : Double :=
  if digits = 0 then zero negative
  else if 400 < power then .infinite negative
  else if power < -400 - (digits.log2 : Int) then zero negative
  else nearest negative (digits * Nat.pow 10 power.toNat) (Nat.pow 10 (-power).toNat)

/-- The magnitude of a finite double as a quotient of naturals. -/
def magnitude (significand : Nat) (exponent : Int) : Nat × Nat :=
  (significand * Nat.pow 2 exponent.toNat, Nat.pow 2 (-exponent).toNat)

/-- A finite double as a signed quotient; `none` for the infinities and for what is no number. -/
def toQuotient? : Double → Option (Int × Nat)
  | .finite negative significand exponent =>
    let (num, den) := magnitude significand exponent
    some (if negative then -(num : Int) else num, den)
  | _ => none

/-- What remains of a finite double without its fraction. -/
def truncate? : Double → Option Int
  | .finite negative significand exponent =>
    let (num, den) := magnitude significand exponent
    let whole : Int := (num / den : Nat)
    some (if negative then -whole else whole)
  | _ => none

/-- Whether a double is finite. -/
def isFinite : Double → Bool
  | .finite _ _ _ => true
  | _ => false

/-- The order of a double against an integer, where there is one. -/
def compareInt? (x : Double) (n : Int) : Option Ordering :=
  match x with
  | .nan => none
  | .infinite negative => some (if negative then .lt else .gt)
  | .finite negative significand exponent =>
    let (num, den) := magnitude significand exponent
    some (compare (if negative then -(num : Int) else (num : Int)) (n * (den : Int)))

/-- Numeric equality: the two zeros are equal, and what is no number equals nothing. -/
def same (x y : Double) : Bool :=
  match x.toQuotient?, y.toQuotient? with
  | some (a, b), some (c, d) => decide (a * (d : Int) = c * (b : Int))
  | none, none => decide (x = y) && decide (x ≠ .nan)
  | _, _ => false

/-- The difference of two doubles, rounded once. Equal operands give positive zero, except that
`-0 - 0` keeps the sign of its first operand. -/
def sub (x y : Double) : Double :=
  match x, y with
  | .finite a m p, .finite b n q =>
    let (u, v) := magnitude m p
    let (w, t) := magnitude n q
    let left : Int := (u : Int) * t
    let right : Int := (w : Int) * v
    let difference := (if a then -left else left) - (if b then -right else right)
    if difference = 0 then zero (a && !b && decide (m = 0))
    else nearest (decide (difference < 0)) difference.natAbs (v * t)
  | .infinite a, .infinite b => if a = b then .nan else .infinite a
  | .infinite a, .finite _ _ _ => .infinite a
  | .finite _ _ _, .infinite b => .infinite (!b)
  | _, _ => .nan

/-- A double divided by a positive natural, rounded once. -/
def divNat (x : Double) (k : Nat) : Double :=
  match x with
  | .finite negative significand exponent =>
    let (num, den) := magnitude significand exponent
    nearest negative num (den * k)
  | other => other

/-- A double multiplied by a natural, rounded once. -/
def mulNat (x : Double) (k : Nat) : Double :=
  match x with
  | .finite negative significand exponent =>
    let (num, den) := magnitude significand exponent
    nearest negative (num * k) den
  | other => other

/-- The double nearest to `x` rounded to `places` decimal places. The exact value of `x` is rounded,
a half to the even last digit, and the sign is kept, so that a small negative number gives `-0`. -/
def roundTo (x : Double) (places : Nat) : Double :=
  match x with
  | .finite negative significand exponent =>
    let (num, den) := magnitude significand exponent
    nearest negative (roundQuotient (num * Nat.pow 10 places) den) (Nat.pow 10 places)
  | other => other

/-- A double is false exactly when it is a zero. -/
def isZero : Double → Bool
  | .finite _ significand _ => decide (significand = 0)
  | _ => false

end Double

end UtilityClass
