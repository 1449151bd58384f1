/-!
# Blanks and digits

Tables of the Unicode standard, version 14: the characters that set words apart, and the decimal
digits of all scripts. The digits of a script follow on its zero in order.

## Main definitions

* `Unicode.isBlank` : whether a character is a blank
* `Unicode.digit?` : the value of a decimal digit
-/

namespace UtilityClass

namespace Unicode

/-- The code points of blanks, as closed ranges in increasing order. -/
def blankRanges : List (Nat × Nat) :=
  [(9, 13), (28, 32), (133, 133), (160, 160), (5760, 5760), (8192, 8202), (8232, 8233),
    (8239, 8239), (8287, 8287), (12288, 12288)]

/-- Whether a character is a blank. -/
def isBlank (c : Char) : Bool :=
  blankRanges.any fun (low, high) => decide (low ≤ c.toNat) && decide (c.toNat ≤ high)

/-- The code points of the zeros of all scripts. -/
def zeros : List Nat :=
  [48, 1632, 1776, 1984, 2406, 2534, 2662, 2790, 2918, 3046, 3174, 3302, 3430, 3558, 3664, 3792,
    3872, 4160, 4240, 6112, 6160, 6470, 6608, 6784, 6800, 6992, 7088, 7232, 7248, 42528, 43216,
    43264, 43472, 43504, 43600, 44016, 65296, 66720, 68912, 69734, 69872, 69942, 70096, 70384,
    70736, 70864, 71248, 71360, 71472, 71904, 72016, 72784, 73040, 73120, 92768, 92864, 93008,
    120782, 120792, 120802, 120812, 120822, 123200, 123632, 125264, 130032]

/-- The value of a decimal digit. -/
def digit? (c : Char) : Option Nat :=
  (zeros.find? fun first => decide (first ≤ c.toNat) && decide (c.toNat < first + 10)).map
    fun first => c.toNat - first

end Unicode

end UtilityClass
