import UtilityClass.Number.Numeral
import UtilityClass.Number.Shortest

/-!
# Decimal text of a given precision

Where the shortest text asks how few digits are enough, here their number is given. The exact value
is rounded once to the grid that has so many digits, a half to the even last digit. A value that
rounds up to a power of ten has one digit more before its point, so its grid is ten times coarser.

## Main definitions

* `Double.leadingDigits` : a number of significant digits
* `Double.fixed`, `Double.exponential`, `Double.general` : the numerals of a given precision
-/

namespace UtilityClass

namespace Double

/-- The first `size` significant digits of `num / den`, rounded, and the place of the point in them.
Zero has one digit before its point. -/
def leadingDigits (num den size : Nat) : List Char × Int :=
  if num = 0 then (List.replicate size '0', 1)
  else
    let point := decimalPoint num den
    let power := point - (size : Int)
    let rounded := roundQuotient (num * Nat.pow 10 (-power).toNat) (den * Nat.pow 10 power.toNat)
    if rounded = Nat.pow 10 size then ('1' :: List.replicate (size - 1) '0', point + 1)
    else (Nat.toDigits 10 rounded, point)

/-- The numeral with a number of digits behind the point. -/
def fixed (num den places : Nat) : Numeral :=
  let digits := paddedDigits (places + 1) (roundQuotient (num * Nat.pow 10 places) den)
  .positional digits ((digits.length : Int) - (places : Int))

/-- The numeral with an exponent and a number of digits behind the point. -/
def exponential (num den places : Nat) : Numeral :=
  let (digits, point) := leadingDigits num den (places + 1)
  .scientific digits point

/-- The numeral of a number of significant digits, in the way that suits its size. Zeros at the end
are kept only if asked for. -/
def general (num den size : Nat) (most : Int) (keepsZeros : Bool) : Numeral :=
  let (digits, point) := leadingDigits num den size
  .ofDigits most (if keepsZeros then digits else significantDigits digits) point

end Double

end UtilityClass
