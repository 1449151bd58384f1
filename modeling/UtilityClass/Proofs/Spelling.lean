import Mathlib.Data.List.Chain
import UtilityClass.Json.Printer
import UtilityClass.Json.Reader

/-!
# Printed strings and numbers

What a string becomes between quotes is read back as the string. Each code point is escaped into
pieces, and when the pieces are put together only one thing can happen to them: two surrogates next
to each other, which were two code points, become the character that they encode. So a string is
read back with its pairs of surrogates put together, and a string without pairs is read back as it
is. That is so of every text of the verifier itself, since these are sequences of Unicode scalar
values, among which there are no surrogates.

A number is printed as one token. What it means is left open; here is only said where the token ends
and that it is no word. All that is written for strings and numbers are printable ASCII characters.

## Main definitions

* `IsPlain` : a printable ASCII character
* `Text.IsUnpaired` : no two surrogates make a pair
* `Document.escapedPieces` : the pieces that a code point is escaped into
* `Document.IsToken` : a text that is read as one number token

## Main results

* `Text.paired_of_isUnpaired`, `Text.isUnpaired_ofString`
* `Document.readString_escaped` : strings are read back
* `Document.readAtom_of_token`, `Document.isToken_intText`, `Document.isToken_floatText` : numbers
-/

namespace UtilityClass

/-- A character is a printable one of ASCII. -/
def IsPlain (c : Char) : Prop := 32 ≤ c.toNat ∧ c.toNat < 127

instance (c : Char) : Decidable (IsPlain c) := inferInstanceAs (Decidable (_ ∧ _))

/-- The characters of a text can be looked at one by one. -/
theorem isPlain_of_all {text : List Char} (ht : text.all (decide <| IsPlain ·) = true) :
    ∀ c ∈ text, IsPlain c :=
  fun c hc => of_decide_eq_true (List.all_eq_true.1 ht c hc)

/-! ## Texts without pairs -/

namespace Text

/-- No surrogate that begins a pair stands directly before one that ends a pair. -/
def IsUnpaired (text : Text) : Prop := text.IsChain fun p q => (p.isHigh && q.isLow) = false

instance (text : Text) : Decidable text.IsUnpaired :=
  inferInstanceAs (Decidable (List.IsChain _ text))

theorem paired_of_isUnpaired {text : Text} (ht : text.IsUnpaired) : text.paired = text := by
  induction text using paired.induct with
  | case1 => rfl
  | case2 p => rfl
  | case3 p q rest hpair ih => exact absurd hpair (Bool.eq_false_iff.1 ht.rel)
  | case4 p q rest hpair ih => rw [paired, if_neg hpair, ih ht.tail]

/-- A character is no surrogate. -/
theorem isHigh_ofChar (c : Char) : (CodePoint.ofChar c).isHigh = false := by
  have hc : c.toNat < 55296 ∨ 57343 < c.toNat ∧ c.toNat < 1114112 := c.valid
  rw [← Bool.not_eq_true, CodePoint.isHigh_iff, CodePoint.toNat_ofChar]
  omega

/-- A text of characters holds no surrogates, and so no pairs of them. -/
theorem isUnpaired_ofString (s : String) : (ofString s).IsUnpaired := by
  rw [IsUnpaired, ofString, List.isChain_map]
  exact (List.pairwise_of_forall fun c d => by rw [isHigh_ofChar, Bool.false_and]).isChain

end Text

/-! ## Hexadecimal digits -/

theorem isPlain_digitChar {n : Nat} (hn : n < 16) : IsPlain n.digitChar := by
  revert n
  decide

theorem hexText_one {n : Nat} (hn : n < 16) : hexText 1 n = [n.digitChar] := by
  rw [hexText, Nat.toDigits_eq_if (by decide), if_pos hn]
  rfl

/-- The last digit of a hexadecimal text, and those in front of it. -/
theorem hexText_succ (width n : Nat) :
    hexText (width + 2) n = hexText (width + 1) (n / 16) ++ [(n % 16).digitChar] := by
  rw [hexText, Nat.toDigits_eq_if (by decide)]
  by_cases hn : n < 16
  · have hzero : n / 16 = 0 := Nat.div_eq_of_lt hn
    have hzeros : hexText (width + 1) 0 = List.replicate width '0' ++ ['0'] := rfl
    rw [if_pos hn, hzero, hzeros, Nat.mod_eq_of_lt hn, ← List.replicate_succ']
    rfl
  · have hlength (length : Nat) : width + 2 - (length + 1) = width + 1 - length :=
      Nat.add_sub_add_right (width + 1) 1 length
    simp only [if_neg hn, hexText, List.length_append, List.length_singleton, hlength,
      List.append_assoc]

/-- Four hexadecimal digits. -/
theorem hexText_four {n : Nat} (hn : n < 65536) :
    hexText 4 n = [(n / 16 / 16 / 16).digitChar, (n / 16 / 16 % 16).digitChar,
      (n / 16 % 16).digitChar, (n % 16).digitChar] := by
  have hfirst : n / 16 / 16 / 16 < 16 := by omega
  rw [hexText_succ, hexText_succ, hexText_succ, hexText_one hfirst]
  rfl

namespace Document

theorem hexValue?_digitChar {n : Nat} (hn : n < 16) : hexValue? n.digitChar = some n := by
  revert n
  decide

theorem unit?_digitChar {n : Nat} (hn : n < 65536) :
    unit? (n / 16 / 16 / 16).digitChar (n / 16 / 16 % 16).digitChar (n / 16 % 16).digitChar
      (n % 16).digitChar = some n := by
  have hfirst : n / 16 / 16 / 16 < 16 := by omega
  have hdigit (k : Nat) : k % 16 < 16 := Nat.mod_lt k (by decide)
  have hvalue : (((n / 16 / 16 / 16) * 16 + n / 16 / 16 % 16) * 16 + n / 16 % 16) * 16 + n % 16 =
      n := by omega
  simp only [unit?, hexValue?_digitChar hfirst, hexValue?_digitChar (hdigit _), hvalue]

/-! ## Strings -/

/-- Some pieces in front of those that are found in a text. -/
def Piece.ahead (front : List Piece) (found : List Piece × List Char) : List Piece × List Char :=
  (front ++ found.1, found.2)

theorem pieces_escapedUnit {n : Nat} (hn : n < 65536) (rest : List Char) :
    pieces (escapedUnit n ++ rest) = (pieces rest).map (Piece.ahead [.unit n]) := by
  rw [escapedUnit, hexText_four hn]
  simp only [List.cons_append, List.nil_append, pieces, unit?_digitChar hn]
  cases pieces rest <;> rfl

theorem pieces_shortEscape {letter c : Char} (hletter : letter ≠ 'u')
    (hshort : shortEscape? letter = some c) (rest : List Char) :
    pieces ('\\' :: letter :: rest) = (pieces rest).map (Piece.ahead [.char c]) := by
  rw [pieces, hshort]
  · cases pieces rest <;> rfl
  · simp [hletter]

theorem pieces_plain {c : Char} (hquote : c ≠ '"') (hslash : c ≠ '\\') (rest : List Char) :
    pieces (c :: rest) = (pieces rest).map (Piece.ahead [.char c]) := by
  rw [pieces]
  · cases pieces rest <;> rfl
  all_goals simp [hquote, hslash]

/-- A code point is written as a character, by itself or behind a backslash. -/
def IsLiteral (p : CodePoint) : Prop :=
  (shortLetters.lookup p.toNat).isSome ∨ 32 ≤ p.toNat ∧ p.toNat < 127

instance (p : CodePoint) : Decidable (IsLiteral p) := inferInstanceAs (Decidable (_ ∨ _))

/-- The pieces that a code point is escaped into. -/
def escapedPieces (p : CodePoint) : List Piece :=
  if IsLiteral p then [.char (Char.ofNat p.toNat)]
  else if p.toNat < 65536 then [.unit p.toNat]
  else [.unit (55296 + (p.toNat - 65536) / 1024), .unit (56320 + (p.toNat - 65536) % 1024)]

theorem mem_shortLetters_of_lookup {n : Nat} {letter : Char}
    (hn : shortLetters.lookup n = some letter) : (n, letter) ∈ shortLetters := by
  obtain ⟨before, after, hsplit, -⟩ := List.lookup_eq_some_iff.1 hn
  rw [hsplit]
  exact List.mem_append_right _ List.mem_cons_self

/-- A code point with a letter is a character of ASCII, the letter begins no unit, and it is read as
the code point. -/
theorem shortEscape?_of_mem {n : Nat} {letter : Char} (hn : (n, letter) ∈ shortLetters) :
    n < 127 ∧ letter ≠ 'u' ∧ IsPlain letter ∧ shortEscape? letter = some (Char.ofNat n) := by
  have hall : ∀ entry ∈ shortLetters, entry.1 < 127 ∧ entry.2 ≠ 'u' ∧ IsPlain entry.2 ∧
      shortEscape? entry.2 = some (Char.ofNat entry.1) := by decide
  exact hall _ hn

theorem toNat_lt_of_isLiteral {p : CodePoint} (hp : IsLiteral p) : p.toNat < 127 := by
  obtain hshort | ⟨-, hp⟩ := hp
  · obtain ⟨letter, hletter⟩ := Option.isSome_iff_exists.1 hshort
    exact (shortEscape?_of_mem (mem_shortLetters_of_lookup hletter)).1
  · exact hp

/-- A printable character of ASCII has the number that it is made of. -/
theorem toNat_ofNat_of_lt {n : Nat} (hn : n < 127) : (Char.ofNat n).toNat = n := by
  rw [Char.ofNat, dif_pos (.inl (by omega))]
  rfl

/-- A printable character that needs no letter is no quote and no backslash. -/
theorem ofNat_ne_of_lookup {n : Nat} (hn : n < 127) (hnone : shortLetters.lookup n = none)
    {c : Char} (hc : (shortLetters.lookup c.toNat).isSome) : Char.ofNat n ≠ c := by
  rintro rfl
  rw [toNat_ofNat_of_lt hn, hnone] at hc
  cases hc

/-- An escaped code point is read as its pieces. -/
theorem pieces_escaped (p : CodePoint) (rest : List Char) :
    pieces (escaped p ++ rest) = (pieces rest).map (Piece.ahead (escapedPieces p)) := by
  obtain ⟨found, hfound⟩ : ∃ found, shortLetters.lookup p.toNat = found := ⟨_, rfl⟩
  cases found with
  | some letter =>
    have hliteral : IsLiteral p := .inl (by rw [hfound]; rfl)
    obtain ⟨-, hletter, -, hescape⟩ := shortEscape?_of_mem (mem_shortLetters_of_lookup hfound)
    rw [escaped, hfound, escapedPieces, if_pos hliteral]
    exact pieces_shortEscape hletter hescape rest
  | none =>
    rw [escaped, hfound]
    by_cases hplain : 32 ≤ p.toNat ∧ p.toNat < 127
    · have hne {c : Char} := ofNat_ne_of_lookup (c := c) hplain.2 hfound
      have hliteral : IsLiteral p := .inr hplain
      rw [escapedPieces, if_pos hliteral]
      simp only [if_pos hplain]
      exact pieces_plain (hne rfl) (hne rfl) rest
    have hliteral : ¬IsLiteral p := by simp [IsLiteral, hfound, hplain]
    rw [escapedPieces, if_neg hliteral]
    by_cases hbasic : p.toNat < 65536
    · simp only [if_neg hplain, if_pos hbasic]
      exact pieces_escapedUnit hbasic rest
    · have hbound := p.isLt
      simp only [if_neg hplain, if_neg hbasic, List.append_assoc]
      rw [pieces_escapedUnit (by omega), pieces_escapedUnit (by omega)]
      cases pieces rest <;> rfl

/-! ### Pairs of surrogates -/

/-- Whether pieces begin with the unit of a surrogate that ends a pair. -/
def beginsLow : List Piece → Bool
  | .unit n :: _ => (CodePoint.ofNat n).isLow
  | _ => false

/-- A unit that makes no pair with what follows stands for itself. -/
theorem joinPieces_unit {n : Nat} {more : List Piece}
    (hn : ((CodePoint.ofNat n).isHigh && beginsLow more) = false) :
    joinPieces (.unit n :: more) = .ofNat n :: joinPieces more := by
  rcases more with _ | ⟨c | low, more⟩
  · rfl
  · rfl
  · rw [joinPieces, if_neg (by rw [← Bool.not_eq_true] at hn; exact hn)]

theorem ofChar_ofNat_of_lt {n : Nat} (hn : n < 127) :
    CodePoint.ofChar (Char.ofNat n) = .ofNat n := by
  rw [CodePoint.ofChar, toNat_ofNat_of_lt hn]

/-- The pieces of a code point that makes no pair with what follows are put together to it. -/
theorem joinPieces_escapedPieces {p : CodePoint} {more : List Piece}
    (hp : (p.isHigh && beginsLow more) = false) :
    joinPieces (escapedPieces p ++ more) = p :: joinPieces more := by
  unfold escapedPieces
  split
  · next hliteral =>
    rw [List.cons_append, List.nil_append, joinPieces,
      ofChar_ofNat_of_lt (toNat_lt_of_isLiteral hliteral), CodePoint.ofNat_toNat]
  split
  · have hfree : ((CodePoint.ofNat p.toNat).isHigh && beginsLow more) = false := by
      rwa [CodePoint.ofNat_toNat]
    have hjoin := joinPieces_unit hfree
    rwa [CodePoint.ofNat_toNat] at hjoin
  · have hbound := p.isLt
    have hpair : ((CodePoint.ofNat (55296 + (p.toNat - 65536) / 1024)).isHigh &&
        (CodePoint.ofNat (56320 + (p.toNat - 65536) % 1024)).isLow) = true := by
      rw [Bool.and_eq_true, CodePoint.isHigh_iff, CodePoint.isLow_iff,
        CodePoint.toNat_ofNat (by omega), CodePoint.toNat_ofNat (by omega)]
      omega
    have hvalue : (CodePoint.ofNat (55296 + (p.toNat - 65536) / 1024)).join
        (.ofNat (56320 + (p.toNat - 65536) % 1024)) = p := by
      have hsum : 65536 + (55296 + (p.toNat - 65536) / 1024 - 55296) * 1024 +
          (56320 + (p.toNat - 65536) % 1024 - 56320) = p.toNat := by omega
      rw [CodePoint.join, CodePoint.toNat_ofNat (by omega), CodePoint.toNat_ofNat (by omega), hsum,
        CodePoint.ofNat_toNat]
    rw [List.cons_append, List.cons_append, List.nil_append, joinPieces, if_pos hpair, hvalue]

/-- A surrogate is escaped into its unit. -/
theorem escapedPieces_of_surrogate {p : CodePoint} (hp : (p.isHigh || p.isLow) = true) :
    escapedPieces p = [.unit p.toNat] := by
  rw [Bool.or_eq_true, CodePoint.isHigh_iff, CodePoint.isLow_iff] at hp
  have hliteral : ¬IsLiteral p := fun h => by
    have hlt := toNat_lt_of_isLiteral h
    omega
  rw [escapedPieces, if_neg hliteral, if_pos (by omega)]

/-- What begins with a surrogate that ends a pair is escaped so that it does, and nothing else. -/
theorem beginsLow_flatMap (p : CodePoint) (text : Text) :
    beginsLow ((p :: text).flatMap escapedPieces) = p.isLow := by
  rw [List.flatMap_cons]
  by_cases hlow : p.isLow = true
  · rw [escapedPieces_of_surrogate (by rw [hlow, Bool.or_true]), hlow, List.cons_append, beginsLow,
      CodePoint.ofNat_toNat, hlow]
  rw [Bool.not_eq_true] at hlow
  rw [hlow]
  unfold escapedPieces
  split
  · rfl
  split
  · rw [List.cons_append, beginsLow, CodePoint.ofNat_toNat, hlow]
  · have hbound := p.isLt
    rw [List.cons_append, beginsLow, ← Bool.not_eq_true, CodePoint.isLow_iff,
      CodePoint.toNat_ofNat (by omega)]
    omega

/-- What is escaped is put together again, with its pairs of surrogates. -/
theorem joinPieces_flatMap (text : Text) :
    joinPieces (text.flatMap escapedPieces) = text.paired := by
  induction text using Text.paired.induct with
  | case1 => rfl
  | case2 p =>
    rw [List.flatMap_singleton, ← List.append_nil (escapedPieces p)]
    exact joinPieces_escapedPieces (Bool.and_false _)
  | case3 p q rest hpair ih =>
    obtain ⟨hhigh, hlow⟩ := Bool.and_eq_true_iff.1 hpair
    rw [List.flatMap_cons, List.flatMap_cons, escapedPieces_of_surrogate (by rw [hhigh]; rfl),
      escapedPieces_of_surrogate (by rw [hlow, Bool.or_true]), List.cons_append, List.cons_append,
      List.nil_append, List.nil_append, joinPieces, CodePoint.ofNat_toNat, CodePoint.ofNat_toNat,
      if_pos hpair, ih, Text.paired, if_pos hpair]
  | case4 p q rest hpair ih =>
    rw [List.flatMap_cons,
      joinPieces_escapedPieces (by rwa [beginsLow_flatMap, ← Bool.not_eq_true]), ih, Text.paired,
      if_neg hpair]

/-- **Strings are read back**, with their pairs of surrogates put together. -/
theorem readString_escaped (text : Text) (rest : List Char) :
    readString (text.flatMap escaped ++ '"' :: rest) = some (text.paired, rest) := by
  have hpieces (text : Text) : pieces (text.flatMap escaped ++ '"' :: rest) =
      some (text.flatMap escapedPieces, rest) := by
    induction text with
    | nil => rw [List.flatMap_nil, List.nil_append, pieces, List.flatMap_nil]
    | cons p text ih =>
      rw [List.flatMap_cons, List.append_assoc, pieces_escaped, ih, List.flatMap_cons]
      rfl
  simp only [readString, hpieces, Option.map_some, joinPieces_flatMap]

theorem isPlain_escapedUnit {n : Nat} (hn : n < 65536) : ∀ c ∈ escapedUnit n, IsPlain c := by
  have hfirst : n / 16 / 16 / 16 < 16 := by omega
  have hdigit (k : Nat) : k % 16 < 16 := Nat.mod_lt k (by decide)
  rw [escapedUnit, hexText_four hn]
  simp only [List.forall_mem_cons, isPlain_digitChar hfirst, isPlain_digitChar (hdigit _)]
  exact ⟨by decide, by decide, trivial, trivial, trivial, trivial, nofun⟩

theorem isPlain_escaped (p : CodePoint) : ∀ c ∈ escaped p, IsPlain c := by
  have hbound := p.isLt
  unfold escaped
  split
  · next letter hfound =>
    have hletter := (shortEscape?_of_mem (mem_shortLetters_of_lookup hfound)).2.2.1
    exact List.forall_mem_cons.2 ⟨by decide, List.forall_mem_singleton.2 hletter⟩
  split
  · next hplain =>
    rw [List.forall_mem_singleton, IsPlain, toNat_ofNat_of_lt hplain.2]
    exact hplain
  split
  · next hbasic => exact isPlain_escapedUnit hbasic
  · exact List.forall_mem_append.2
      ⟨isPlain_escapedUnit (by omega), isPlain_escapedUnit (by omega)⟩

theorem isPlain_quoted (text : Text) : ∀ c ∈ quoted text, IsPlain c := by
  have htext : ∀ c ∈ text.flatMap escaped, IsPlain c := by
    intro c hc
    obtain ⟨p, -, hp⟩ := List.mem_flatMap.1 hc
    exact isPlain_escaped p c hp
  rw [quoted, List.forall_mem_cons, List.forall_mem_append]
  exact ⟨by decide, htext, isPlain_of_all rfl⟩

/-! ## Number tokens -/

/-- A text is read as one number token. A sign alone is none, since it may begin a word. -/
structure IsToken (text : List Char) : Prop where
  chars : ∀ c ∈ text, isNumberChar c = true
  ne_nil : text ≠ []
  ne_sign : text ≠ ['-']

theorem isPlain_of_isNumberChar {c : Char} (hc : isNumberChar c = true) : IsPlain c := by
  simp only [isNumberChar, Bool.or_eq_true, Bool.and_eq_true, decide_eq_true_eq, beq_iff_eq] at hc
  obtain ((((⟨hlow, hhigh⟩ | rfl) | rfl) | rfl) | rfl) | rfl := hc
  · have hlow : 48 ≤ c.toNat := hlow
    have hhigh : c.toNat ≤ 57 := hhigh
    exact ⟨by omega, by omega⟩
  all_goals decide

theorem isNumberChar_of_isDigit {c : Char} (hc : c.isDigit = true) : isNumberChar c = true := by
  have hdigit : ('0' ≤ c && c ≤ '9') = true := hc
  simp only [isNumberChar, hdigit, Bool.true_or]

/-- A text begins with none of some characters. -/
def BeginsWithNo (p : Char → Bool) (text : List Char) : Prop := ∀ c ∈ text.head?, p c = false

namespace BeginsWithNo

variable {p : Char → Bool} {text : List Char}

theorem cons {c : Char} (hc : p c = false) (rest : List Char) : BeginsWithNo p (c :: rest) := by
  rintro _ ⟨⟩
  exact hc

theorem takeWhile_eq_nil (ht : BeginsWithNo p text) : text.takeWhile p = [] := by
  cases text with
  | nil => rfl
  | cons c rest => rw [List.takeWhile_cons, ht c rfl, if_neg Bool.false_ne_true]

theorem dropWhile_eq_self (ht : BeginsWithNo p text) : text.dropWhile p = text := by
  cases text with
  | nil => rfl
  | cons c rest => rw [List.dropWhile_cons, ht c rfl, if_neg Bool.false_ne_true]

end BeginsWithNo

/-- A number token is none of the words that stand for themselves. -/
theorem findSome?_words_of_token {text : List Char} (ht : IsToken text) (rest : List Char) :
    words.findSome? (fun (word, value) => (afterWord word (text ++ rest)).map (value, ·)) =
      none := by
  obtain ⟨hchars, hnil, hsign⟩ := ht
  rcases text with _ | ⟨first, more⟩
  · exact absurd rfl hnil
  have hfirst : isNumberChar first = true := hchars first List.mem_cons_self
  have hletter (c : Char) (hc : isNumberChar c = false) : ¬c = first := by
    rintro rfl
    exact absurd (hfirst.symm.trans hc) Bool.noConfusion
  have hword : afterWord "-Infinity".toList (first :: (more ++ rest)) = none := by
    show (if '-' = first then afterWord "Infinity".toList (more ++ rest) else none) = none
    split
    · next hminus =>
      rcases more with _ | ⟨second, more⟩
      · exact absurd (congrArg (fun c => [c]) hminus.symm) hsign
      · have hsecond := hchars second (List.mem_cons_of_mem _ List.mem_cons_self)
        have hne : ¬('I' = second) := by
          rintro rfl
          cases hsecond
        exact if_neg hne
    · rfl
  have hother (letter : Char) (word : List Char) (hl : isNumberChar letter = false) :
      afterWord (letter :: word) (first :: (more ++ rest)) = none := if_neg (hletter letter hl)
  rw [List.findSome?_eq_none_iff]
  intro entry hentry
  simp only [words, List.mem_cons, List.not_mem_nil, or_false] at hentry
  rw [Option.map_eq_none_iff]
  obtain rfl | rfl | rfl | rfl | rfl | rfl := hentry
  · exact hother 'n' "ull".toList rfl
  · exact hother 't' "rue".toList rfl
  · exact hother 'f' "alse".toList rfl
  · exact hother 'N' "aN".toList rfl
  · exact hother 'I' "nfinity".toList rfl
  · exact hword

/-- A number token is read through the meaning of tokens. -/
theorem readAtom_of_token (number : List Char → Option Document) {text : List Char}
    (ht : IsToken text) {rest : List Char} (hrest : BeginsWithNo isNumberChar rest) :
    readAtom number (text ++ rest) = (number text).map (·, rest) := by
  rw [readAtom, findSome?_words_of_token ht rest, List.takeWhile_append_of_pos ht.chars,
    hrest.takeWhile_eq_nil, List.append_nil, List.dropWhile_append_of_pos ht.chars,
    hrest.dropWhile_eq_self]

theorem isToken_of_digit {sign : List Char} (hs : ∀ c ∈ sign, isNumberChar c = true) {first : Char}
    (hf : first.isDigit = true) {more : List Char} (hm : ∀ c ∈ more, isNumberChar c = true) :
    IsToken (sign ++ first :: more) where
  chars := List.forall_mem_append.2
    ⟨hs, List.forall_mem_cons.2 ⟨isNumberChar_of_isDigit hf, hm⟩⟩
  ne_nil := by simp
  ne_sign h := by
    rcases sign with _ | ⟨s, sign⟩
    · cases h
      cases hf
    · simp at h

theorem isDigit_toDigits {n : Nat} : ∀ c ∈ Nat.toDigits 10 n, c.isDigit = true :=
  fun _ hc => Nat.isDigit_of_mem_toDigits (by decide) (by decide) hc

theorem isToken_intText (n : Int) : IsToken (intText n).toList := by
  obtain ⟨first, more, hdigits⟩ : ∃ first more, Nat.toDigits 10 n.natAbs = first :: more :=
    List.exists_cons_of_ne_nil Nat.toDigits_ne_nil
  have hall := isDigit_toDigits (n := n.natAbs)
  rw [hdigits, List.forall_mem_cons] at hall
  have htoken (sign : List Char) (hs : ∀ c ∈ sign, isNumberChar c = true) :
      IsToken (sign ++ first :: more) :=
    isToken_of_digit hs hall.1 fun c hc => isNumberChar_of_isDigit (hall.2 c hc)
  rw [intText, String.toList_ofList, hdigits]
  split
  · exact htoken ['-'] (by simp [isNumberChar])
  · exact htoken [] nofun

/-! ### Doubles -/

/-- All characters are digits, and there is one. -/
def IsDigits (text : List Char) : Prop := text ≠ [] ∧ ∀ c ∈ text, c.isDigit = true

theorem isDigits_zero : IsDigits ['0'] := ⟨by decide, by simp⟩

theorem isDigits_significantDigits {digits : List Char} (hd : ∀ c ∈ digits, c.isDigit = true) :
    IsDigits (significantDigits digits) := by
  have hdropped : ∀ c ∈ (digits.reverse.dropWhile (· == '0')).reverse, c.isDigit = true :=
    fun c hc => hd c (List.mem_reverse.1
      ((List.dropWhile_suffix _).subset (List.mem_reverse.1 hc)))
  unfold significantDigits
  split
  · exact isDigits_zero
  · next hne => exact ⟨hne, hdropped⟩

theorem isDigit_replicate_zero (n : Nat) : ∀ c ∈ List.replicate n '0', c.isDigit = true := by
  intro c hc
  rw [List.eq_of_mem_replicate hc]
  rfl

/-- Digits that are placed stay digits, and there is one before the point. -/
theorem isDigits_ofDigits (most point : Int) {digits : List Char} (hd : IsDigits digits) :
    IsDigits (Numeral.ofDigits most digits point).whole ∧
      ∀ c ∈ (Numeral.ofDigits most digits point).fraction, c.isDigit = true := by
  obtain ⟨hne, hd⟩ := hd
  have htake (n : Nat) : ∀ c ∈ digits.take n, c.isDigit = true :=
    fun c hc => hd c (List.mem_of_mem_take hc)
  have hdrop (n : Nat) : ∀ c ∈ digits.drop n, c.isDigit = true :=
    fun c hc => hd c (List.mem_of_mem_drop hc)
  have hfirst {n : Nat} (hn : n ≠ 0) : digits.take n ≠ [] := by simp [hne, hn]
  unfold Numeral.ofDigits
  split
  · unfold Numeral.positional
    split
    · exact ⟨isDigits_zero, List.forall_mem_append.2 ⟨isDigit_replicate_zero _, hd⟩⟩
    · next hpoint =>
      have hplaces : point.toNat ≠ 0 := by omega
      exact ⟨⟨List.append_ne_nil_of_left_ne_nil (hfirst hplaces) _,
        List.forall_mem_append.2 ⟨htake _, isDigit_replicate_zero _⟩⟩, hdrop _⟩
  · exact ⟨⟨hfirst (by decide), htake 1⟩, hdrop 1⟩

theorem isDigits_numeral (significand : Nat) (exponent : Int) :
    IsDigits (Double.numeral significand exponent).whole ∧
      ∀ c ∈ (Double.numeral significand exponent).fraction, c.isDigit = true := by
  have hfraction (n : Numeral) (hn : IsDigits n.whole ∧ ∀ c ∈ n.fraction, c.isDigit = true) :
      IsDigits n.withFraction.whole ∧ ∀ c ∈ n.withFraction.fraction, c.isDigit = true := by
    unfold Numeral.withFraction
    split
    · exact ⟨hn.1, isDigits_zero.2⟩
    · exact hn
  unfold Double.numeral
  split
  · exact hfraction _ (isDigits_ofDigits _ _ isDigits_zero)
  · exact hfraction _ (isDigits_ofDigits _ _ (isDigits_significantDigits isDigit_toDigits))

theorem isNumberChar_tail {n : Numeral} (hn : ∀ c ∈ n.fraction, c.isDigit = true) :
    ∀ c ∈ n.tail false 'e', isNumberChar c = true := by
  have hfraction : ∀ c ∈ (if n.fraction.isEmpty && !false then [] else '.' :: n.fraction),
      isNumberChar c = true := by
    split
    · nofun
    · exact List.forall_mem_cons.2 ⟨by decide, fun c hc => isNumberChar_of_isDigit (hn c hc)⟩
  have hexponent (power : Int) : ∀ c ∈ Numeral.exponentText 'e' power, isNumberChar c = true := by
    have hdigits : ∀ c ∈ paddedDigits 2 power.natAbs, isNumberChar c = true :=
      fun c hc => isNumberChar_of_isDigit (List.forall_mem_append.2
        ⟨isDigit_replicate_zero _, isDigit_toDigits⟩ c hc)
    refine List.forall_mem_cons.2 ⟨by decide, List.forall_mem_cons.2 ⟨?_, hdigits⟩⟩
    split <;> decide
  refine List.forall_mem_append.2 ⟨hfraction, ?_⟩
  cases n.exponent with
  | none => nofun
  | some power => exact hexponent power

theorem isToken_floatText {x : Double} (hx : x.isFinite = true) : IsToken (floatText x) := by
  rcases x with ⟨negative, significand, exponent⟩ | _ | _
  · obtain ⟨⟨hne, hwhole⟩, hfraction⟩ := isDigits_numeral significand exponent
    obtain ⟨first, more, hfirst⟩ := List.exists_cons_of_ne_nil hne
    rw [hfirst, List.forall_mem_cons] at hwhole
    have hmore : ∀ c ∈ more ++ (Double.numeral significand exponent).tail false 'e',
        isNumberChar c = true := List.forall_mem_append.2
      ⟨fun c hc => isNumberChar_of_isDigit (hwhole.2 c hc), isNumberChar_tail hfraction⟩
    have hsign : ∀ c ∈ (if negative then ['-'] else []), isNumberChar c = true := by
      cases negative <;> simp [isNumberChar]
    have htoken := isToken_of_digit hsign hwhole.1 hmore
    rw [floatText, Double.text, String.toList_ofList, hfirst, List.append_assoc]
    · exact htoken
    all_goals nofun
  · cases hx
  · cases hx

theorem isPlain_of_isToken {text : List Char} (ht : IsToken text) : ∀ c ∈ text, IsPlain c :=
  fun c hc => isPlain_of_isNumberChar (ht.chars c hc)

theorem isPlain_floatText (x : Double) : ∀ c ∈ floatText x, IsPlain c := by
  rcases x with ⟨negative, significand, exponent⟩ | negative | _
  · exact isPlain_of_isToken (isToken_floatText rfl)
  · cases negative <;> exact isPlain_of_all rfl
  · exact isPlain_of_all rfl

end Document

end UtilityClass
