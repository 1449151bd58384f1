import Mathlib.Data.List.TakeWhile
import UtilityClass.Proofs.Filling
import UtilityClass.Proofs.RunHistory

/-!
# Arguments are taken literally

A template may refer to its arguments in two ways, by counting them or by their numbers. Filling
does the same for both: each field finds the argument whose turn it is. What the two have in common
is that what stands between the braces of a field are digits only, and that it leads to the place of
the field in the template. From this follows what a template shows, and what is said of it if the
last argument is missing, whichever way it is written.

What an argument shows is never looked at again, so it does not matter what characters it has.

A number in a template is bounded. No list of arguments is so long that the bound would matter, but
a list of Lean may be.

## Main definitions

* `Template.Refers` : what is written into the fields of a template, one field after the other
* `Template.referring`, `Template.numbered` : the template of a text with such fields
* `Run.ShowsLiterally` : what becomes of adding an issue with such a template

## Main results

* `Template.fill_referring`, `Template.fill_referring_of_missing`
* `Run.perform_add_literally`
-/

namespace UtilityClass

/-! ## Numbers in a template -/

/-- A decimal digit has its value among the digits of all scripts. -/
theorem Unicode.digit?_of_isDigit {c : Char} (hc : c.isDigit = true) :
    digit? c = some (c.toNat - 48) := by
  obtain ⟨hlow, hhigh⟩ := Char.isDigit_iff_toNat.1 hc
  have hzero : (decide (48 ≤ c.toNat) && decide (c.toNat < 48 + 10)) = true := by
    rw [Bool.and_eq_true, decide_eq_true_iff, decide_eq_true_iff]
    exact ⟨hlow, Nat.lt_succ_of_le hhigh⟩
  rw [digit?, zeros, List.find?, hzero]
  rfl

namespace Template

theorem le_ofDigitChars (digits : List Char) (sofar : Nat) :
    sofar ≤ Nat.ofDigitChars 10 digits sofar := by
  rw [Nat.ofDigitChars_eq_ofDigitChars_zero]
  have hpower : 1 ≤ 10 ^ digits.length := Nat.one_le_pow _ _ (by decide)
  exact Nat.le_add_right_of_le (Nat.le_mul_of_pos_left sofar hpower)

/-- Digits denote their number, unless it is too large. -/
theorem position?_of_digits {digits : List Char} (hd : ∀ c ∈ digits, c.isDigit = true)
    {sofar : Nat} (hn : Nat.ofDigitChars 10 digits sofar ≤ Specification.greatestNumber) :
    position? sofar digits = .ok (some (Nat.ofDigitChars 10 digits sofar)) := by
  induction digits generalizing sofar with
  | nil => rfl
  | cons c digits ih =>
    obtain ⟨hc, hd⟩ := List.forall_mem_cons.1 hd
    rw [Nat.ofDigitChars_cons] at hn ⊢
    have hsmall : ¬Specification.greatestNumber < 10 * sofar + (c.toNat - 48) :=
      Nat.not_lt.2 (Nat.le_trans (le_ofDigitChars digits _) hn)
    rw [position?, Unicode.digit?_of_isDigit hc]
    dsimp only
    rw [if_neg hsmall]
    exact ih hd hn

/-! ## Fields -/

/-- What is written into the fields of a template, by the place of the field, and the numbering in
front of it: digits that lead to the argument in the same place. There are `count` such fields. -/
structure Refers (reference : Nat → List Char) (numbering : Nat → Numbering) (count : Nat) :
    Prop where
  unset : numbering 0 = .unset
  digits : ∀ n < count, ∀ c ∈ reference n, c.isDigit = true
  place : ∀ n < count, (numbering n).place (reference n) = .ok (some n, numbering (n + 1))

/-- Nothing is written into a field that counts. -/
theorem refers_counted (count : Nat) : Refers (fun _ => []) .counted count where
  unset := rfl
  digits _ _ _ hc := nomatch hc
  place n _ := Numbering.place_counted n

/-- The numbering in front of a field with its number in it. -/
def Numbering.given : Nat → Numbering
  | 0 => .unset
  | _ + 1 => .manual

theorem refers_given {count : Nat} (hcount : count ≤ Specification.greatestNumber) :
    Refers (Nat.toDigits 10) .given count where
  unset := rfl
  digits _ _ _ hc := Nat.isDigit_of_mem_toDigits (by decide) (by decide) hc
  place n hn := by
    have hdigits (c : Char) (hc : c ∈ Nat.toDigits 10 n) : c.isDigit = true :=
      Nat.isDigit_of_mem_toDigits (by decide) (by decide) hc
    have hposition : positionOf (Nat.toDigits 10 n) = .ok (some n) := by
      have hsmall : Nat.ofDigitChars 10 (Nat.toDigits 10 n) 0 ≤ Specification.greatestNumber := by
        rw [Nat.ofDigitChars_ten_toDigits]
        exact Nat.le_trans (Nat.le_of_lt hn) hcount
      rw [positionOf, if_neg (by simp [Nat.toDigits_ne_nil]), position?_of_digits hdigits hsmall,
        Nat.ofDigitChars_ten_toDigits]
    simp only [Numbering.place, hposition, Result.ok_bind]
    cases n <;> rfl

/-- The fields of a template, from a place on, and the texts behind them. -/
def fields (reference : Nat → List Char) : Nat → List String → List Char
  | _, [] => []
  | n, text :: texts =>
    '{' :: (reference n ++ '}' :: (escaped text.toList ++ fields reference (n + 1) texts))

/-- The template that shows a text, and behind it a field before each of some texts. -/
def referring (reference : Nat → List Char) (lead : String) (texts : List String) : String :=
  String.ofList (escaped lead.toList ++ fields reference 0 texts)

/-- The template with the numbers of the arguments in its fields. -/
def numbered (lead : String) (texts : List String) : String :=
  referring (Nat.toDigits 10) lead texts

theorem counting_eq_referring (lead : String) (texts : List String) :
    counting lead texts = referring (fun _ => []) lead texts := by
  have hfields (n : Nat) : fields (fun _ => []) n texts =
      texts.flatMap fun text => '{' :: '}' :: escaped text.toList := by
    induction texts generalizing n with
    | nil => rfl
    | cons text texts ih => simp [fields, ih]
  rw [counting, referring, hfields]

/-- Digits between braces are a reference. -/
theorem scan_reference {digits : List Char} (hd : ∀ c ∈ digits, c.isDigit = true)
    (sofar rest : List Char) (fresh : Bool) :
    scan (.reference sofar fresh) (digits ++ '}' :: rest) =
      .field ⟨sofar.reverse ++ digits, none, [], false⟩ :: scan .text rest := by
  induction digits generalizing sofar fresh with
  | nil => simp [scan]
  | cons c digits ih =>
    obtain ⟨hc, hd⟩ := List.forall_mem_cons.1 hd
    have hne {d : Char} (hdigit : d.isDigit = false) : c ≠ d := by
      rintro rfl
      cases hc.symm.trans hdigit
    rw [List.cons_append, scan, if_neg (hne rfl), if_neg (hne rfl), if_neg (hne rfl),
      if_neg (hne rfl), if_neg (hne rfl), ih hd]
    simp

section Filling

variable {reference : Nat → List Char} {numbering : Nat → Numbering} {count : Nat}
  (hrefers : Refers reference numbering count) {arguments : List Argument}
  {inner : List Char → Numbering → Except Error (List Char × Numbering)} {n : Nat}
include hrefers

theorem scan_fields (hn : n < count) (text : String) (texts : List String) :
    scan .text (fields reference n (text :: texts)) =
      .field ⟨reference n, none, [], false⟩ ::
        (text.toList.map .literal ++ scan .text (fields reference (n + 1) texts)) := by
  have hreference := scan_reference (hrefers.digits n hn) []
    (escaped text.toList ++ fields reference (n + 1) texts) true
  rw [scan_escaped_append] at hreference
  exact hreference

/-- A field looks for the argument in its own place. -/
theorem lookUp_referring (hn : n < count) :
    lookUp arguments (reference n) (numbering n) = match arguments[n]? with
      | some a => .ok (a, numbering (n + 1))
      | none => .error (.indexOutOfRange n) := by
  have hfirst : (reference n).takeWhile (fun c => !startsStep c) = reference n := by
    refine List.takeWhile_eq_self_iff.2 fun c hc => ?_
    have hdigit := hrefers.digits n hn c hc
    have hne {d : Char} (hd : d.isDigit = false) : (c == d) = false := by
      refine beq_false_of_ne ?_
      rintro rfl
      cases hdigit.symm.trans hd
    rw [startsStep, hne rfl, hne rfl]
    rfl
  simp only [lookUp, hfirst, hrefers.place n hn, List.drop_length, Result.ok_bind]
  cases arguments[n]? <;> rfl

/-- A field shows the plain text of the argument in its place. -/
theorem fillSegments_referring (hn : n < count) {a : Argument} {shown : String}
    (ha : arguments[n]? = some a) (hs : a.text = .ok shown) (rest : List Segment) :
    fillSegments arguments inner (.field ⟨reference n, none, [], false⟩ :: rest) (numbering n) =
      (fillSegments arguments inner rest (numbering (n + 1))).map fun (chars, after) =>
        (shown.toList ++ chars, after) := by
  have hout : layOut [] a = .ok shown.toList := by simp [layOut, hs, Except.map]
  rw [fillSegments, lookUp_referring hrefers hn, ha]
  simp only [bind, Except.bind, Bool.false_eq_true, if_false, hout]
  cases fillSegments arguments inner rest (numbering (n + 1)) <;> rfl

variable (inner) in
/-- Along the fields of a template the places go up by one for each; `before` holds the arguments
in front. -/
theorem fillSegments_fields (slots : List Slot) (texts : List String)
    (before surplus : List Argument) (hcount : before.length + slots.length ≤ count) :
    fillSegments (before ++ (slots.map Slot.argument ++ surplus)) inner
        (scan .text (fields reference before.length (slots.map Slot.text ++ texts)))
        (numbering before.length) =
      (fillSegments (before ++ (slots.map Slot.argument ++ surplus)) inner
        (scan .text (fields reference (before.length + slots.length) texts))
        (numbering (before.length + slots.length))).map fun (chars, after) =>
          ((slots.flatMap fun s => s.shown.toList ++ s.text.toList) ++ chars, after) := by
  induction slots generalizing before with
  | nil =>
    simp only [List.map_nil, List.nil_append, List.flatMap_nil, List.length_nil, Nat.add_zero]
    cases fillSegments (before ++ surplus) inner
      (scan .text (fields reference before.length texts)) (numbering before.length) <;> rfl
  | cons s slots ih =>
    have hturn : (before ++ ((s :: slots).map Slot.argument ++ surplus))[before.length]? =
        some s.argument := by simp
    have hlength : (before ++ [s.argument]).length + slots.length =
        before.length + (s :: slots).length := by
      simp only [List.length_append, List.length_cons, List.length_nil]
      omega
    have hplace : before.length < count := by
      rw [List.length_cons] at hcount
      omega
    -- the arguments behind the current one are those of the remaining fields
    have hrest := ih (before ++ [s.argument]) (by rw [hlength]; exact hcount)
    rw [hlength] at hrest
    simp only [List.append_assoc, List.singleton_append, List.length_append,
      List.length_singleton] at hrest
    simp only [List.map_cons, List.cons_append] at hturn ⊢
    rw [scan_fields hrefers hplace, fillSegments_referring hrefers hplace hturn s.shows,
      fillSegments_literals, hrest]
    cases fillSegments (before ++ s.argument :: (slots.map Slot.argument ++ surplus)) inner
      (scan .text (fields reference (before.length + (s :: slots).length) texts))
      (numbering (before.length + (s :: slots).length)) <;>
        simp [Except.map, List.flatMap_cons]

/-- The whole template, up to its last fields. -/
theorem fill_fields (lead : String) (slots : List Slot) (texts : List String)
    (surplus : List Argument) (hcount : slots.length ≤ count) :
    fill (referring reference lead (slots.map Slot.text ++ texts))
        (slots.map Slot.argument ++ surplus) =
      (fillSegments (slots.map Slot.argument ++ surplus)
        (fillWithin (slots.map Slot.argument ++ surplus) 1)
        (scan .text (fields reference slots.length texts)) (numbering slots.length)).map
          fun (chars, _) =>
            lead ++ String.join (slots.map fun s => s.shown ++ s.text) ++ String.ofList chars := by
  have hcount' : ([] : List Argument).length + slots.length ≤ count := by simpa using hcount
  have hslots := fillSegments_fields hrefers
    (fillWithin (slots.map Slot.argument ++ surplus) 1) slots texts [] surplus hcount'
  simp only [List.nil_append, List.length_nil, Nat.zero_add, hrefers.unset] at hslots
  have hscan : segments (referring reference lead (slots.map Slot.text ++ texts)).toList =
      lead.toList.map Segment.literal ++
        scan .text (fields reference 0 (slots.map Slot.text ++ texts)) := by
    rw [segments, referring, String.toList_ofList, scan_escaped_append]
  rw [fill, fillWithin, hscan, fillSegments_literals, hslots]
  cases fillSegments (slots.map Slot.argument ++ surplus)
    (fillWithin (slots.map Slot.argument ++ surplus) 1)
    (scan .text (fields reference slots.length texts)) (numbering slots.length) <;>
      simp [Except.map, String.ofList_append, ofList_flatMap_slots, String.append_assoc]

/-- **What a template shows** is its text with the arguments in between. Surplus arguments change
nothing. -/
theorem fill_referring (lead : String) (slots : List Slot) (surplus : List Argument)
    (hcount : slots.length ≤ count) :
    fill (referring reference lead (slots.map Slot.text)) (slots.map Slot.argument ++ surplus) =
      .ok (lead ++ String.join (slots.map fun s => s.shown ++ s.text)) := by
  have hfill := fill_fields hrefers lead slots [] surplus hcount
  rw [List.append_nil] at hfill
  rw [hfill]
  simp [fields, fillSegments, Except.map]

/-- Without an argument for its last field a template is not filled: the argument is missed. -/
theorem fill_referring_of_missing (lead : String) (slots : List Slot) (text : String)
    (hcount : slots.length < count) :
    fill (referring reference lead (slots.map Slot.text ++ [text])) (slots.map Slot.argument) =
      .error (.indexOutOfRange slots.length) := by
  have hfill := fill_fields hrefers lead slots [text] [] (Nat.le_of_lt hcount)
  rw [List.append_nil] at hfill
  have hmissing : (slots.map Slot.argument)[slots.length]? = none := by simp
  rw [hfill, scan_fields hrefers hcount, fillSegments, lookUp_referring hrefers hcount, hmissing]
  rfl

end Filling

end Template

/-! ## Adding issues -/

namespace Run

open Template (Slot Argument Refers counting numbered referring)

variable {r : Run} {template lead : String} {slots : List Slot}

/-- What becomes of adding an issue to an open run, with a template that shows a text and behind it
an argument before each of some other texts: the issue is just these texts and those of the
arguments, in their order. -/
structure ShowsLiterally (r : Run) (template lead : String) (slots : List Slot) : Prop where
  /-- The texts are added, and arguments behind the last field change nothing. -/
  shown (surplus : List Argument) :
    perform (.add template (slots.map Slot.argument ++ surplus)) r =
      (.ok (.issues (r.issues ++ [lead ++ String.join (slots.map fun s => s.shown ++ s.text)])),
        { r with
          issues := r.issues ++ [lead ++ String.join (slots.map fun s => s.shown ++ s.text)] })
  /-- If the last argument is missing, this is complained of, and the run stays as it was. -/
  missing : slots ≠ [] → ∃ f : Fault, f.kind = .indexError ∧
    perform (.add template (slots.map Slot.argument).dropLast) r = (.error f, r)

theorem showsLiterally_of_refers {reference : Nat → List Char}
    {numbering : Nat → Template.Numbering} (hrefers : Refers reference numbering slots.length)
    (hr : r.concluded = false) (lead : String) :
    ShowsLiterally r (referring reference lead (slots.map Slot.text)) lead slots where
  shown surplus := by
    have hfill := Template.fill_referring hrefers lead slots surplus (Nat.le_refl _)
    rw [perform, addIssue_of_filled hr hfill]
  missing hne := by
    obtain ⟨init, last, rfl⟩ := (List.eq_nil_or_concat' slots).resolve_left hne
    have hlast : init.length < (init ++ [last]).length := by simp
    have hfill := Template.fill_referring_of_missing hrefers lead init last.text hlast
    have htexts : init.map Slot.text ++ [last.text] = (init ++ [last]).map Slot.text := by simp
    have harguments : ((init ++ [last]).map Slot.argument).dropLast = init.map Slot.argument := by
      simp
    rw [htexts] at hfill
    exact ⟨_, rfl, by rw [harguments, perform, addIssue_of_unfilled hr hfill]⟩

/-- **Arguments are taken literally**, whether they are counted or given by their numbers, and
whatever characters they have. The numbers that a template knows go up to the greatest
length that a list of arguments can have, so the bound leaves no call out. -/
theorem perform_add_literally (hr : r.concluded = false) (lead : String) (slots : List Slot) :
    ShowsLiterally r (counting lead (slots.map Slot.text)) lead slots ∧
      (slots.length ≤ Template.Specification.greatestNumber →
        ShowsLiterally r (numbered lead (slots.map Slot.text)) lead slots) := by
  constructor
  · rw [Template.counting_eq_referring]
    exact showsLiterally_of_refers (Template.refers_counted _) hr lead
  · exact fun hlength => showsLiterally_of_refers (Template.refers_given hlength) hr lead

/-- Arguments that look like templates, one of them the name of a class. -/
theorem perform_add_literally_braces :
    let r := Run.start ⟨⟨.str "fake", .str "Holder"⟩, .ordinary, false, true⟩
    let name : QualifiedName := ⟨.str "m", .str "\x7b\x7d"⟩
    perform (.add "\x7b\x7b[\x7b0\x7d]\x7d\x7d\x7b1\x7d" [.data (.str "\x7b1\x7d"), .name name]) r =
        (.ok (.issues ["\x7b[\x7b1\x7d]\x7dm.\x7b\x7d"]),
          { r with issues := ["\x7b[\x7b1\x7d]\x7dm.\x7b\x7d"] }) ∧
      ∃ f : Fault, f.kind = .indexError ∧
        perform (.add "\x7b\x7b[\x7b0\x7d]\x7d\x7d\x7b1\x7d" [.data (.str "\x7b1\x7d")]) r =
          (.error f, r) := by
  intro r name
  let slots : List Slot := [⟨.data (.str "\x7b1\x7d"), "\x7b1\x7d", "]\x7d", rfl⟩,
    ⟨.name name, "m.\x7b\x7d", "", rfl⟩]
  have hliterally := (perform_add_literally (r := r) rfl "\x7b[" slots).2 (by decide)
  exact ⟨hliterally.shown [], hliterally.missing (by simp [slots])⟩

end Run

end UtilityClass
