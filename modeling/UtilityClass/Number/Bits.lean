/-!
# Bits of integers

Integers as endless rows of bits, where a negative integer has ones from some place on: the integer
`-(n + 1)` has a one wherever `n` has a zero.

## Main definitions

* `Bits.and`, `Bits.or`, `Bits.not` : bit by bit
* `Bits.length` : the number of bits that a value without its sign takes
-/

namespace UtilityClass

namespace Bits

/-- The bits of a number that another one has not. -/
def without (m n : Nat) : Nat := m - (m &&& n)

/-- The bits that both integers have. -/
def and : Int → Int → Int
  | .ofNat m, .ofNat n => .ofNat (m &&& n)
  | .ofNat m, .negSucc n => .ofNat (without m n)
  | .negSucc m, .ofNat n => .ofNat (without n m)
  | .negSucc m, .negSucc n => .negSucc (m ||| n)

/-- The bits that one of the integers has. -/
def or : Int → Int → Int
  | .ofNat m, .ofNat n => .ofNat (m ||| n)
  | .ofNat m, .negSucc n => .negSucc (without n m)
  | .negSucc m, .ofNat n => .negSucc (without m n)
  | .negSucc m, .negSucc n => .negSucc (m &&& n)

/-- The bits that the integer has not. -/
def not (m : Int) : Int := -m - 1

/-- The number of bits that a value without its sign takes. -/
def length (m : Int) : Nat := if m = 0 then 0 else Nat.log2 m.natAbs + 1

end Bits

end UtilityClass
