/-!
# Code points

Names, messages and whatever else is put together here consist of characters, which are the scalar
values of Unicode. What is logged may come from anywhere. Its texts consist of code points: a
surrogate is one of them although it is no character, and two surrogates next to each other are not
yet the character that they encode.

## Main definitions

* `CodePoint`, `Text`
* `Text.ofString` : a text of characters
* `Text.paired` : the text with pairs of surrogates put together
-/

namespace UtilityClass

/-- A character or a surrogate. -/
structure CodePoint where
  toNat : Nat
  isLt : toNat < 1114112
  deriving DecidableEq

namespace CodePoint

/-- The code point of a number. There is a last one, which stands for all greater numbers. -/
def ofNat (n : Nat) : CodePoint := ⟨min n 1114111, by omega⟩

theorem toNat_ofNat {n : Nat} (hn : n < 1114112) : (ofNat n).toNat = n :=
  Nat.min_eq_left (Nat.le_of_lt_succ hn)

@[simp] theorem ofNat_toNat (p : CodePoint) : ofNat p.toNat = p := by
  cases p with
  | mk n hn => simp only [ofNat, Nat.min_eq_left (Nat.le_of_lt_succ hn)]

/-- A character as a code point. -/
def ofChar (c : Char) : CodePoint := .ofNat c.toNat

@[simp] theorem toNat_ofChar (c : Char) : (ofChar c).toNat = c.toNat := by
  have hc : c.toNat < 55296 ∨ 57343 < c.toNat ∧ c.toNat < 1114112 := c.valid
  exact toNat_ofNat (by omega)

theorem ofChar_inj {c d : Char} (h : ofChar c = ofChar d) : c = d := by
  rw [← Char.ofNat_toNat c, ← toNat_ofChar, h, toNat_ofChar, Char.ofNat_toNat]

/-- Whether it is a surrogate that begins a pair. -/
def isHigh (p : CodePoint) : Bool := decide (55296 ≤ p.toNat ∧ p.toNat < 56320)

/-- Whether it is a surrogate that ends a pair. -/
def isLow (p : CodePoint) : Bool := decide (56320 ≤ p.toNat ∧ p.toNat < 57344)

theorem isHigh_iff {p : CodePoint} : p.isHigh = true ↔ 55296 ≤ p.toNat ∧ p.toNat < 56320 :=
  decide_eq_true_iff

theorem isLow_iff {p : CodePoint} : p.isLow = true ↔ 56320 ≤ p.toNat ∧ p.toNat < 57344 :=
  decide_eq_true_iff

/-- What a pair of surrogates encodes. -/
def join (high low : CodePoint) : CodePoint :=
  .ofNat (65536 + (high.toNat - 55296) * 1024 + (low.toNat - 56320))

end CodePoint

/-- A text, by its code points. -/
abbrev Text := List CodePoint

namespace Text

/-- A text of characters. -/
def ofString (s : String) : Text := s.toList.map .ofChar

instance : Coe String Text := ⟨ofString⟩

theorem ofString_inj {s t : String} : ofString s = ofString t ↔ s = t :=
  (List.map_inj_right fun _ _ => CodePoint.ofChar_inj).trans String.toList_inj

/-- The text with pairs of surrogates put together, from left to right. -/
def paired : Text → Text
  | [] => []
  | [p] => [p]
  | p :: q :: rest =>
    if p.isHigh && q.isLow then p.join q :: paired rest else p :: paired (q :: rest)

end Text

end UtilityClass
