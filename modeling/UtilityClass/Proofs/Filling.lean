import UtilityClass.Proofs.Results
import UtilityClass.Template.Render

/-!
# Filling counted fields

The templates of the issues refer to their arguments by counting alone: every field is an empty
pair of braces, without conversion and specification. For these templates filling is concatenation.
The text between the fields is shown as it is, each field shows the plain text of its argument, and
neither is scanned a second time, so that braces in an argument are as harmless as any other
character.

The induction runs over the fields. What it has to carry is how far the counting has come, and the
arguments that stand in front of the current one; arguments behind the last field are never looked
at.

## Main definitions

* `Template.counting` : the template of a text with counted fields
* `Template.Slot` : a field with its argument, the text that it shows, and the text behind it

## Main results

* `Template.fill_counting` : what such a template shows
-/

namespace UtilityClass

namespace Template

/-! ## Numbering -/

/-- The numbering after a number of counted fields. -/
def Numbering.counted : Nat → Numbering
  | 0 => .unset
  | n + 1 => .automatic (n + 1)

theorem Numbering.place_counted (n : Nat) :
    (Numbering.counted n).place [] = .ok (some n, Numbering.counted (n + 1)) := by
  cases n <;> rfl

/-- An empty reference leads to the argument whose turn it is. -/
theorem lookUp_counted {arguments : List Argument} {n : Nat} {a : Argument}
    (h : arguments[n]? = some a) :
    lookUp arguments [] (.counted n) = .ok (a, .counted (n + 1)) := by
  simp only [lookUp, List.takeWhile_nil, Numbering.place_counted, bind, Except.bind, h]
  rfl

/-! ## Templates -/

/-- The template that shows a text, and behind it a counted field before each of some texts. -/
def counting (lead : String) (texts : List String) : String :=
  String.ofList (escaped lead.toList ++ texts.flatMap fun text => '{' :: '}' :: escaped text.toList)

/-- A counted field: its argument, the text that it shows, and the text of the template behind
it. -/
structure Slot where
  argument : Argument
  shown : String
  text : String
  /-- The argument has a text, and it is the one that is shown. -/
  shows : argument.text = .ok shown

variable {arguments : List Argument}
  {inner : List Char → Numbering → Except Error (List Char × Numbering)}

theorem fillSegments_literals (text : List Char) (rest : List Segment) (numbering : Numbering) :
    fillSegments arguments inner (text.map .literal ++ rest) numbering =
      (fillSegments arguments inner rest numbering).map fun (chars, after) =>
        (text ++ chars, after) := by
  induction text with
  | nil =>
    cases h : fillSegments arguments inner rest numbering with
    | error e => simp [h, Except.map]
    | ok filled => simp [h, Except.map]
  | cons c text ih =>
    rw [List.map_cons, List.cons_append, fillSegments, ih]
    cases fillSegments arguments inner rest numbering <;> rfl

/-- A counted field shows the plain text of its argument. -/
theorem fillSegments_counted {n : Nat} {a : Argument} {shown : String}
    (ha : arguments[n]? = some a) (hs : a.text = .ok shown) (rest : List Segment) :
    fillSegments arguments inner (.field ⟨[], none, [], false⟩ :: rest) (.counted n) =
      (fillSegments arguments inner rest (.counted (n + 1))).map fun (chars, after) =>
        (shown.toList ++ chars, after) := by
  rw [fillSegments, lookUp_counted ha]
  have hout : layOut [] a = .ok shown.toList := by simp [layOut, hs, Except.map]
  simp only [bind, Except.bind, Bool.false_eq_true, if_false, hout]
  cases fillSegments arguments inner rest (.counted (n + 1)) <;> rfl

/-- Along the fields of a template the counting goes up by one for each; `before` holds the
arguments whose turn is over. -/
theorem fillSegments_slots (inner : List Char → Numbering → Except Error (List Char × Numbering))
    (slots : List Slot) (before surplus : List Argument) :
    fillSegments (before ++ (slots.map Slot.argument ++ surplus)) inner
        (scan .text ((slots.map Slot.text).flatMap fun text => '{' :: '}' :: escaped text.toList))
        (.counted before.length) =
      .ok (slots.flatMap fun s => s.shown.toList ++ s.text.toList,
        .counted (before.length + slots.length)) := by
  induction slots generalizing before with
  | nil => rfl
  | cons s slots ih =>
    have hturn : (before ++ ((s :: slots).map Slot.argument ++ surplus))[before.length]? =
        some s.argument := by simp
    -- the arguments behind the current one are those of the remaining fields
    have hrest := ih (before ++ [s.argument])
    simp only [List.append_assoc, List.singleton_append, List.length_append,
      List.length_singleton] at hrest
    simp only [List.map_cons, List.flatMap_cons, List.cons_append] at hturn ⊢
    rw [scan_empty_field, scan_escaped_append, fillSegments_counted hturn s.shows,
      fillSegments_literals, hrest]
    simp only [Except.map, List.append_assoc, List.length_cons]
    rw [Nat.add_assoc, Nat.add_comm 1]

theorem ofList_flatMap_slots (slots : List Slot) :
    String.ofList (slots.flatMap fun s => s.shown.toList ++ s.text.toList) =
      String.join (slots.map fun s => s.shown ++ s.text) := by
  induction slots with
  | nil => rfl
  | cons s slots ih =>
    rw [List.flatMap_cons, String.ofList_append, ih, List.map_cons, String.join_cons,
      String.ofList_append, String.ofList_toList, String.ofList_toList]

/-- **A template with counted fields shows its text with the arguments in between.** Surplus
arguments change nothing. -/
theorem fill_counting (lead : String) (slots : List Slot) (surplus : List Argument) :
    fill (counting lead (slots.map Slot.text)) (slots.map Slot.argument ++ surplus) =
      .ok (lead ++ String.join (slots.map fun s => s.shown ++ s.text)) := by
  have hslots := fillSegments_slots (fillWithin (slots.map Slot.argument ++ surplus) 1) slots []
    surplus
  simp only [List.nil_append, List.length_nil] at hslots
  have hscan : segments (counting lead (slots.map Slot.text)).toList =
      lead.toList.map Segment.literal ++ scan .text
        ((slots.map Slot.text).flatMap fun text => '{' :: '}' :: escaped text.toList) := by
    rw [segments, counting, String.toList_ofList, scan_escaped_append]
  have hunset : Numbering.unset = .counted 0 := rfl
  rw [fill, fillWithin, hscan, fillSegments_literals, hunset, hslots]
  simp only [Except.map, String.ofList_append, String.ofList_toList, ofList_flatMap_slots]

/-! ## Arguments without a text -/

theorem fillSegments_counted_of_error {n : Nat} {a : Argument} {e : Error}
    (ha : arguments[n]? = some a) (he : a.text = .error e) (rest : List Segment) :
    fillSegments arguments inner (.field ⟨[], none, [], false⟩ :: rest) (.counted n) =
      .error e := by
  rw [fillSegments, lookUp_counted ha]
  have hout : layOut [] a = .error e := by simp [layOut, he, Except.map]
  simp only [bind, Except.bind, Bool.false_eq_true, if_false, hout]

/-- Fields can be filled only if each of their arguments has a text. -/
theorem exists_text_of_fillSegments {texts : List String} (before : List Argument)
    {held : List Argument}
    (hl : held.length = texts.length) {filled : List Char × Numbering}
    (hf : fillSegments (before ++ held) inner
      (scan .text (texts.flatMap fun text => '{' :: '}' :: escaped text.toList))
      (.counted before.length) = .ok filled) :
    ∀ a ∈ held, ∃ shown, a.text = .ok shown := by
  induction held generalizing texts before filled with
  | nil => exact fun a ha => (nomatch ha)
  | cons a held ih =>
    cases texts with
    | nil => cases hl
    | cons text texts =>
      have hturn : (before ++ a :: held)[before.length]? = some a := by simp
      rw [List.flatMap_cons, List.cons_append, List.cons_append, scan_empty_field,
        scan_escaped_append] at hf
      cases ha : a.text with
      | error e =>
        rw [fillSegments_counted_of_error hturn ha] at hf
        cases hf
      | ok shown =>
        rw [fillSegments_counted hturn ha, fillSegments_literals, Result.map_eq_ok_iff] at hf
        obtain ⟨behind, hf, -⟩ := hf
        obtain ⟨rest, hrest, -⟩ := Result.map_eq_ok_iff.1 hf
        have hlength : before.length + 1 = (before ++ [a]).length := by simp
        rw [hlength, ← List.singleton_append, ← List.append_assoc] at hrest
        exact List.forall_mem_cons.2 ⟨⟨shown, ha⟩, ih (before ++ [a]) (Nat.succ.inj hl) hrest⟩

/-- Arguments that have texts are those of some fields. -/
theorem exists_slots {texts : List String} {held : List Argument}
    (hl : held.length = texts.length) (hheld : ∀ a ∈ held, ∃ shown, a.text = .ok shown) :
    ∃ slots : List Slot, slots.map Slot.argument = held ∧ slots.map Slot.text = texts := by
  induction held generalizing texts with
  | nil =>
    obtain rfl : texts = [] := List.length_eq_zero_iff.1 hl.symm
    exact ⟨[], rfl, rfl⟩
  | cons a held ih =>
    cases texts with
    | nil => cases hl
    | cons text texts =>
      obtain ⟨⟨shown, ha⟩, hheld⟩ := List.forall_mem_cons.1 hheld
      obtain ⟨slots, rfl, rfl⟩ := ih (Nat.succ.inj hl) hheld
      exact ⟨⟨a, shown, text, ha⟩ :: slots, rfl, rfl⟩

/-- A template with counted fields can be filled just if each of its arguments has a text. -/
theorem exists_fill_counting_iff {lead : String} {texts : List String} {held : List Argument}
    (hl : held.length = texts.length) :
    (∃ text, fill (counting lead texts) held = .ok text) ↔
      ∀ a ∈ held, ∃ shown, a.text = .ok shown := by
  constructor
  · rintro ⟨text, hf⟩
    have hscan : segments (counting lead texts).toList = lead.toList.map Segment.literal ++
        scan .text (texts.flatMap fun text => '{' :: '}' :: escaped text.toList) := by
      rw [segments, counting, String.toList_ofList, scan_escaped_append]
    rw [fill, fillWithin, hscan, fillSegments_literals, Result.map_eq_ok_iff] at hf
    obtain ⟨filled, hf, -⟩ := hf
    obtain ⟨filled, hf, -⟩ := Result.map_eq_ok_iff.1 hf
    exact exists_text_of_fillSegments [] hl hf
  · intro hheld
    obtain ⟨slots, rfl, rfl⟩ := exists_slots hl hheld
    have hfill := fill_counting lead slots []
    rw [List.append_nil] at hfill
    exact ⟨_, hfill⟩

end Template

end UtilityClass
