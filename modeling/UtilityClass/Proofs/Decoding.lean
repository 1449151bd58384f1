import UtilityClass.Proofs.CallTrace
import UtilityClass.Proofs.Spelling

/-!
# Events are read back

A printed value is read back as the value, in both layouts, with pairs of surrogates put together:
the texts in it are sequences of code points, while all texts outside of logged events are sequences
of Unicode scalar values. What is proved of a text is that it is read as a value wherever it stands:
with blanks in front, and behind it anything that does not go on with a number. This is closed under
putting texts together with commas and blanks between them, and the layouts only differ in these
blanks.

The numbers of a value are printed as tokens. All that is asked of the meaning of tokens is that it
is right about these.

## Main definitions

* `Document.numbers` : the numbers in a value that are printed as tokens
* `Document.IsReadAs` : a text is read as a value

## Main results

* `Document.readWith_print` : printed values are read back
* `Document.isPlain_compact` : a value on one line
* `Act.log_decodes` : an event in the journal
-/

namespace UtilityClass

namespace Document

mutual

/-- The numbers in a value that are printed as tokens. The others are printed as words. -/
def numbers : Document → List Document
  | .int n => [.int n]
  | .float x => if x.isFinite then [.float x] else []
  | .arr items => itemNumbers items
  | .obj fields => fieldNumbers fields
  | .null | .bool _ | .str _ => []

/-- Those of the items of a list. -/
def itemNumbers : List Document → List Document
  | [] => []
  | item :: rest => numbers item ++ itemNumbers rest

/-- Those of the fields of an object. -/
def fieldNumbers : List (Text × Document) → List Document
  | [] => []
  | (_, value) :: rest => numbers value ++ fieldNumbers rest

end

/-! ## What is left of a value -/

mutual

/-- A value as it is read back: pairs of surrogates have been put together, and an object keeps of
each name what it was given last. -/
def paired : Document → Document
  | .null => .null
  | .bool value => .bool value
  | .int n => .int n
  | .float x => .float x
  | .str text => .str text.paired
  | .arr items => .arr (pairedItems items)
  | .obj fields => .obj (collected (pairedFields fields))

/-- The items of a list. -/
def pairedItems : List Document → List Document
  | [] => []
  | item :: rest => paired item :: pairedItems rest

/-- The fields of an object, before it keeps them. -/
def pairedFields : List (Text × Document) → List (Text × Document)
  | [] => []
  | (name, value) :: rest => (name.paired, paired value) :: pairedFields rest

end

mutual

/-- A value without pairs of surrogates in its texts, whose objects name each field once. -/
def IsUnpaired : Document → Prop
  | .str text => text.IsUnpaired
  | .arr items => AreUnpaired items
  | .obj fields => (fields.map Prod.fst).Nodup ∧ AreFieldsUnpaired fields
  | .null | .bool _ | .int _ | .float _ => True

/-- Whether this holds for the items of a list. -/
def AreUnpaired : List Document → Prop
  | [] => True
  | item :: rest => IsUnpaired item ∧ AreUnpaired rest

/-- Whether this holds for the fields of an object, names included. -/
def AreFieldsUnpaired : List (Text × Document) → Prop
  | [] => True
  | (name, value) :: rest => name.IsUnpaired ∧ IsUnpaired value ∧ AreFieldsUnpaired rest

end

theorem put_of_not_mem {name : Text} {kept : List (Text × Document)}
    (hn : name ∉ kept.map Prod.fst) (value : Document) :
    put name value kept = kept ++ [(name, value)] := by
  induction kept with
  | nil => rfl
  | cons entry kept ih =>
    rw [List.map_cons, List.mem_cons, not_or] at hn
    rw [put, if_neg (Ne.symm hn.1), ih hn.2, List.cons_append]

/-- Fields that are named once each are kept as they are. -/
theorem collected_of_nodup {fields : List (Text × Document)} (hf : (fields.map Prod.fst).Nodup) :
    collected fields = fields := by
  have hstart (kept fields : List (Text × Document))
      (hall : ((kept ++ fields).map Prod.fst).Nodup) :
      fields.foldl (fun kept field => put field.1 field.2 kept) kept = kept ++ fields := by
    induction fields generalizing kept with
    | nil => rw [List.foldl_nil, List.append_nil]
    | cons field fields ih =>
      have hnew : field.1 ∉ kept.map Prod.fst := by
        rw [List.map_append, List.map_cons, List.nodup_append] at hall
        exact fun hmem => hall.2.2 _ hmem _ List.mem_cons_self rfl
      rw [List.foldl_cons, put_of_not_mem hnew, ih, List.append_assoc, List.singleton_append]
      rwa [List.append_assoc, List.singleton_append]
  exact hstart [] fields hf

mutual

/-- Such a value is read back as it is. -/
theorem paired_of_isUnpaired (value : Document) (hv : value.IsUnpaired) : value.paired = value :=
  match value, hv with
  | .null, _ | .bool _, _ | .int _, _ | .float _, _ => rfl
  | .str _, hv => congrArg Document.str (Text.paired_of_isUnpaired hv)
  | .arr items, hv => congrArg Document.arr (pairedItems_of_areUnpaired items hv)
  | .obj fields, hv => by
    rw [paired, pairedFields_of_areUnpaired fields hv.2, collected_of_nodup hv.1]

theorem pairedItems_of_areUnpaired (items : List Document) (hi : AreUnpaired items) :
    pairedItems items = items :=
  match items, hi with
  | [], _ => rfl
  | item :: rest, hi => by
    rw [pairedItems, paired_of_isUnpaired item hi.1, pairedItems_of_areUnpaired rest hi.2]

theorem pairedFields_of_areUnpaired (fields : List (Text × Document))
    (hf : AreFieldsUnpaired fields) : pairedFields fields = fields :=
  match fields, hf with
  | [], _ => rfl
  | (name, value) :: rest, hf => by
    rw [pairedFields, Text.paired_of_isUnpaired hf.1, paired_of_isUnpaired value hf.2.1,
      pairedFields_of_areUnpaired rest hf.2.2]

end

/-! ## Texts that are read as values -/

/-- All characters are blanks, tabs or line breaks. -/
def IsGap (text : List Char) : Prop := ∀ c ∈ text, isBlank c = true

theorem IsGap.skipBlanks_append {gap : List Char} (hgap : IsGap gap) (text : List Char) :
    skipBlanks (gap ++ text) = skipBlanks text := List.dropWhile_append_of_pos hgap

/-- A text is read as a value, wherever it stands. It cannot be mistaken for blanks or for the end
of a list. -/
structure IsReadAs (number : List Char → Option Document) (text : List Char) (value : Document) :
    Prop where
  begins : ∃ c rest, text = c :: rest ∧ isBlank c = false ∧ c ≠ ']'
  reads (fuel : Nat) (rest : List Char) : text.length ≤ fuel → BeginsWithNo isNumberChar rest →
    readValue number fuel (text ++ rest) = some (value, rest)

variable {number : List Char → Option Document}

theorem readValue_append_gap {gap : List Char} (hgap : IsGap gap) (fuel : Nat) (text : List Char) :
    readValue number fuel (gap ++ text) = readValue number fuel text := by
  cases fuel with
  | zero => rw [readValue, readValue]
  | succ fuel => rw [readValue, readValue, hgap.skipBlanks_append]

theorem skipBlanks_cons {c : Char} (hc : isBlank c = false) (rest : List Char) :
    skipBlanks (c :: rest) = c :: rest := by
  rw [skipBlanks, List.dropWhile_cons, hc, if_neg Bool.false_ne_true]

/-! ### Atoms -/

theorem readAtom_of_word {word : List Char} {value : Document} (hw : (word, value) ∈ words)
    (rest : List Char) : readAtom number (word ++ rest) = some (value, rest) := by
  simp only [words, List.mem_cons, Prod.mk.injEq, List.not_mem_nil, or_false] at hw
  obtain ⟨rfl, rfl⟩ | ⟨rfl, rfl⟩ | ⟨rfl, rfl⟩ | ⟨rfl, rfl⟩ | ⟨rfl, rfl⟩ | ⟨rfl, rfl⟩ := hw <;> rfl

/-- What begins neither with a blank nor with a quote or a bracket is read as an atom. -/
theorem readValue_of_atom (fuel : Nat) {c : Char} (hc : isBlank c = false)
    (hother : c ∉ ['"', '[', '{']) (rest : List Char) :
    readValue number (fuel + 1) (c :: rest) = readAtom number (c :: rest) := by
  simp only [List.mem_cons, List.not_mem_nil, or_false, not_or] at hother
  obtain ⟨hquote, hlist, hobject⟩ := hother
  rw [readValue, skipBlanks_cons hc]
  split
  · next heq => exact absurd (List.cons.inj heq).1 hquote
  · next heq => exact absurd (List.cons.inj heq).1 hlist
  · next heq => exact absurd (List.cons.inj heq).1 hobject
  · rfl

theorem isReadAs_of_atom {text : List Char} {value : Document} {c : Char} {more : List Char}
    (htext : text = c :: more) (hc : c ∉ [' ', '\n', '\r', '\t', '"', '[', '{', ']'])
    (hreads : ∀ rest, BeginsWithNo isNumberChar rest →
      readAtom number (text ++ rest) = some (value, rest)) :
    IsReadAs number text value := by
  simp only [List.mem_cons, List.not_mem_nil, or_false, not_or] at hc
  obtain ⟨hspace, hline, hreturn, htab, hquote, hlist, hobject, hend⟩ := hc
  have hblank : isBlank c = false := by simp [isBlank, hspace, hline, hreturn, htab]
  have hother : c ∉ ['"', '[', '{'] := by simp [hquote, hlist, hobject]
  subst htext
  refine ⟨⟨c, more, rfl, hblank, hend⟩, fun fuel rest hfuel hrest => ?_⟩
  cases fuel with
  | zero => exact absurd hfuel (Nat.not_succ_le_zero _)
  | succ fuel => exact (readValue_of_atom fuel hblank hother _).trans (hreads rest hrest)

theorem isReadAs_of_word {word : List Char} {value : Document} (hw : (word, value) ∈ words) :
    IsReadAs number word value := by
  have hreads (rest : List Char) (_ : BeginsWithNo isNumberChar rest) :
      readAtom number (word ++ rest) = some (value, rest) := readAtom_of_word hw rest
  simp only [words, List.mem_cons, Prod.mk.injEq, List.not_mem_nil, or_false] at hw
  obtain ⟨rfl, rfl⟩ | ⟨rfl, rfl⟩ | ⟨rfl, rfl⟩ | ⟨rfl, rfl⟩ | ⟨rfl, rfl⟩ | ⟨rfl, rfl⟩ := hw <;>
    exact isReadAs_of_atom rfl (by decide) hreads

theorem isReadAs_bool (value : Bool) : IsReadAs number (compact (.bool value)) (.bool value) := by
  cases value <;> exact isReadAs_of_word (by simp [words, compact])

theorem isReadAs_of_token {text : List Char} {value : Document} (ht : IsToken text)
    (hnumber : number text = some value) : IsReadAs number text value := by
  obtain ⟨c, more, htext⟩ := List.exists_cons_of_ne_nil ht.ne_nil
  have hchar : isNumberChar c = true := ht.chars c (htext ▸ List.mem_cons_self)
  have hc : c ∉ [' ', '\n', '\r', '\t', '"', '[', '{', ']'] := by
    intro hmem
    have hnone : ∀ d ∈ [' ', '\n', '\r', '\t', '"', '[', '{', ']'], isNumberChar d = false := by
      simp [isNumberChar]
    exact absurd (hchar.symm.trans (hnone c hmem)) Bool.noConfusion
  refine isReadAs_of_atom htext hc fun rest hrest => ?_
  rw [readAtom_of_token number ht hrest, hnumber]
  rfl

theorem isReadAs_floatText {x : Double}
    (hx : ∀ y ∈ (Document.float x).numbers, number y.compact = some y) :
    IsReadAs number (floatText x) (.float x) := by
  rcases x with ⟨negative, significand, exponent⟩ | negative | _
  · exact isReadAs_of_token (isToken_floatText rfl) (hx _ List.mem_cons_self)
  · cases negative <;> exact isReadAs_of_word (by simp [words, floatText])
  · exact isReadAs_of_word (by simp [words, floatText])

/-! ### Strings -/

theorem isReadAs_quoted (text : Text) : IsReadAs number (quoted text) (.str text.paired) := by
  refine ⟨⟨'"', _, rfl, rfl, by decide⟩, fun fuel rest hfuel _ => ?_⟩
  cases fuel with
  | zero => exact absurd hfuel (Nat.not_succ_le_zero _)
  | succ fuel =>
    have hskip : skipBlanks (quoted text ++ rest) =
        '"' :: (text.flatMap escaped ++ '"' :: rest) := by
      rw [quoted, List.cons_append, skipBlanks_cons rfl, List.append_assoc]
      rfl
    rw [readValue, hskip]
    simp only [readString_escaped, Option.map_some]

/-! ### Containers -/

/-- Blanks do not go on with a number, and neither does what closes a container or separates its
parts. -/
theorem beginsWithNo_append {gap : List Char} (hgap : IsGap gap) {c : Char}
    (hc : isNumberChar c = false) (rest : List Char) :
    BeginsWithNo isNumberChar (gap ++ c :: rest) := by
  rcases gap with _ | ⟨d, gap⟩
  · exact .cons hc rest
  · have hblank : isBlank d = true := hgap d List.mem_cons_self
    rintro _ ⟨⟩
    simp only [isBlank, Bool.or_eq_true, beq_iff_eq] at hblank
    obtain ((rfl | rfl) | rfl) | rfl := hblank <;> rfl

/-- A text is read as a field of an object. -/
def IsFieldReadAs (number : List Char → Option Document) (text : List Char)
    (field : Text × Document) : Prop :=
  ∃ name shown, text = quoted name ++ ':' :: ' ' :: shown ∧ Text.paired name = field.1 ∧
    IsReadAs number shown field.2

theorem readItems_append_gap {gap : List Char} (hgap : IsGap gap) (fuel : Nat) (text : List Char) :
    readItems number fuel (gap ++ text) = readItems number fuel text := by
  cases fuel with
  | zero => rw [readItems, readItems]
  | succ fuel => rw [readItems, readItems, readValue_append_gap hgap]

theorem readFields_append_gap {gap : List Char} (hgap : IsGap gap) (fuel : Nat)
    (text : List Char) : readFields number fuel (gap ++ text) = readFields number fuel text := by
  cases fuel with
  | zero => rw [readFields, readFields]
  | succ fuel => rw [readFields, readFields, hgap.skipBlanks_append]

/-- How reading an object goes on behind one of its fields. -/
def readFieldsBehind (number : List Char → Option Document) (fuel : Nat) (field : Text × Document)
    (rest : List Char) : Option (List (Text × Document) × List Char) :=
  match skipBlanks rest with
  | ',' :: rest => (readFields number fuel rest).map fun (fields, rest) => (field :: fields, rest)
  | '}' :: rest => some ([field], rest)
  | _ => none

/-- A value behind the colon of a field is read with what is behind it. -/
theorem readFields_of_field {text : List Char} {field : Text × Document}
    (ht : IsFieldReadAs number text field) (fuel : Nat) (hfuel : text.length ≤ fuel)
    {rest : List Char} (hrest : BeginsWithNo isNumberChar rest) :
    readFields number (fuel + 1) (text ++ rest) = readFieldsBehind number fuel field rest := by
  obtain ⟨paired, value⟩ := field
  obtain ⟨name, shown, rfl, rfl, hshown⟩ := ht
  have hname : skipBlanks (quoted name ++ ':' :: ' ' :: shown ++ rest) =
      '"' :: (name.flatMap escaped ++ '"' :: ':' :: ' ' :: (shown ++ rest)) := by
    rw [quoted, List.cons_append, List.cons_append, skipBlanks_cons rfl]
    simp only [List.append_assoc, List.cons_append, List.nil_append]
  have hblank : IsGap [' '] := by simp [IsGap, isBlank]
  have hlength : shown.length ≤ fuel := by
    simp only [List.length_append, List.length_cons] at hfuel
    omega
  have hvalue : readValue number fuel (' ' :: (shown ++ rest)) = some (value, rest) :=
    (readValue_append_gap hblank fuel _).trans (hshown.reads fuel rest hlength hrest)
  have hcolon : isBlank ':' = false := rfl
  rw [readFields, hname]
  simp only [readString_escaped, skipBlanks_cons hcolon, hvalue]
  rfl

section Containers

variable {gap trail : List Char} (hgap : IsGap gap) (htrail : IsGap trail)
include hgap htrail

/-- Items with commas and blanks between them are read one after the other. -/
theorem readItems_joined {part : List Char} {parts : List (List Char)} {item : Document}
    {items : List Document} (hpart : IsReadAs number part item)
    (hparts : List.Forall₂ (IsReadAs number) parts items) (fuel : Nat)
    (hfuel : (joined (',' :: gap) (part :: parts)).length + 1 ≤ fuel) (rest : List Char) :
    readItems number fuel (joined (',' :: gap) (part :: parts) ++ (trail ++ ']' :: rest)) =
      some (item :: items, rest) := by
  obtain ⟨fuel, rfl⟩ : ∃ k, fuel = k + 1 := Nat.exists_eq_succ_of_ne_zero (by omega)
  induction hparts generalizing part item fuel with
  | nil =>
    rw [joined_singleton] at hfuel ⊢
    rw [readItems, hpart.reads fuel _ (by omega) (beginsWithNo_append htrail rfl rest)]
    simp only [htrail.skipBlanks_append, skipBlanks_cons (c := ']') rfl]
  | @cons next _ parts _ hnext hparts ih =>
    rw [joined_cons_cons, List.length_append, List.length_append, List.length_cons] at hfuel
    obtain ⟨fuel, rfl⟩ : ∃ k, fuel = k + 1 := Nat.exists_eq_succ_of_ne_zero (by omega)
    rw [joined_cons_cons, List.append_assoc, List.append_assoc, List.cons_append, readItems,
      hpart.reads (fuel + 1) _ (by omega) (.cons rfl _)]
    simp only [skipBlanks_cons (c := ',') rfl, readItems_append_gap hgap,
      ih hnext fuel (by omega), Option.map_some]

/-- And so are fields. -/
theorem readFields_joined {part : List Char} {parts : List (List Char)} {field : Text × Document}
    {fields : List (Text × Document)} (hpart : IsFieldReadAs number part field)
    (hparts : List.Forall₂ (IsFieldReadAs number) parts fields) (fuel : Nat)
    (hfuel : (joined (',' :: gap) (part :: parts)).length + 1 ≤ fuel) (rest : List Char) :
    readFields number fuel (joined (',' :: gap) (part :: parts) ++ (trail ++ '}' :: rest)) =
      some (field :: fields, rest) := by
  obtain ⟨fuel, rfl⟩ : ∃ k, fuel = k + 1 := Nat.exists_eq_succ_of_ne_zero (by omega)
  induction hparts generalizing part field fuel with
  | nil =>
    rw [joined_singleton] at hfuel ⊢
    rw [readFields_of_field hpart fuel (by omega) (beginsWithNo_append htrail rfl rest)]
    simp only [readFieldsBehind, htrail.skipBlanks_append, skipBlanks_cons (c := '}') rfl]
  | @cons next _ parts _ hnext hparts ih =>
    rw [joined_cons_cons, List.length_append, List.length_append, List.length_cons] at hfuel
    obtain ⟨fuel, rfl⟩ : ∃ k, fuel = k + 1 := Nat.exists_eq_succ_of_ne_zero (by omega)
    rw [joined_cons_cons, List.append_assoc, List.append_assoc, List.cons_append,
      readFields_of_field hpart (fuel + 1) (by omega) (.cons rfl _)]
    simp only [readFieldsBehind, skipBlanks_cons (c := ',') rfl, readFields_append_gap hgap,
      ih hnext fuel (by omega), Option.map_some]

variable {lead : List Char} (hlead : IsGap lead)
include hlead

theorem isReadAs_array {part : List Char} {parts : List (List Char)} {item : Document}
    {items : List Document} (hpart : IsReadAs number part item)
    (hparts : List.Forall₂ (IsReadAs number) parts items) :
    IsReadAs number ('[' :: (lead ++ joined (',' :: gap) (part :: parts) ++ trail ++ [']']))
      (.arr (item :: items)) := by
  refine ⟨⟨'[', _, rfl, rfl, by decide⟩, fun fuel rest hfuel _ => ?_⟩
  simp only [List.length_cons, List.length_append] at hfuel
  obtain ⟨fuel, rfl⟩ : ∃ k, fuel = k + 1 := Nat.exists_eq_succ_of_ne_zero (by omega)
  have hitems := readItems_joined hgap htrail hpart hparts fuel (by omega) rest
  obtain ⟨c, more, rfl, hblank, hend⟩ := hpart.begins
  rw [readValue, List.cons_append, skipBlanks_cons rfl]
  simp only [joined_cons_eq, List.append_assoc, List.cons_append, List.nil_append,
    hlead.skipBlanks_append, skipBlanks_cons hblank] at hitems ⊢
  split
  · next heq => exact absurd (List.cons.inj heq).1 hend
  · rw [hitems, Option.map_some]

theorem isReadAs_object {part : List Char} {parts : List (List Char)} {field : Text × Document}
    {fields : List (Text × Document)} (hpart : IsFieldReadAs number part field)
    (hparts : List.Forall₂ (IsFieldReadAs number) parts fields) :
    IsReadAs number ('{' :: (lead ++ joined (',' :: gap) (part :: parts) ++ trail ++ ['}']))
      (.obj (collected (field :: fields))) := by
  refine ⟨⟨'{', _, rfl, rfl, by decide⟩, fun fuel rest hfuel _ => ?_⟩
  simp only [List.length_cons, List.length_append] at hfuel
  obtain ⟨fuel, rfl⟩ : ∃ k, fuel = k + 1 := Nat.exists_eq_succ_of_ne_zero (by omega)
  have hfields := readFields_joined hgap htrail hpart hparts fuel (by omega) rest
  obtain ⟨name, shown, rfl, -⟩ := hpart
  have hblank : isBlank '"' = false := rfl
  rw [readValue, List.cons_append, skipBlanks_cons rfl]
  simp only [joined_cons_eq, quoted, List.append_assoc, List.cons_append, List.nil_append,
    hlead.skipBlanks_append, skipBlanks_cons hblank] at hfields ⊢
  split
  · next heq => exact absurd (List.cons.inj heq).1 (by decide)
  · rw [hfields, Option.map_some]

end Containers

theorem isReadAs_emptyArray : IsReadAs number ['[', ']'] (.arr []) := by
  refine ⟨⟨'[', _, rfl, rfl, by decide⟩, fun fuel rest hfuel _ => ?_⟩
  cases fuel with
  | zero => exact absurd hfuel (Nat.not_succ_le_zero _)
  | succ fuel => rfl

theorem isReadAs_emptyObject : IsReadAs number ['{', '}'] (.obj []) := by
  refine ⟨⟨'{', _, rfl, rfl, by decide⟩, fun fuel rest hfuel _ => ?_⟩
  cases fuel with
  | zero => exact absurd hfuel (Nat.not_succ_le_zero _)
  | succ fuel => rfl

/-! ## Printed values -/

theorem isGap_lineAt (depth : Nat) : IsGap (lineAt depth) := by
  refine List.forall_mem_cons.2 ⟨rfl, fun c hc => ?_⟩
  rw [List.eq_of_mem_replicate hc]
  rfl

theorem isReadAs_block_items {parts : List (List Char)} {items : List Document}
    (hparts : List.Forall₂ (IsReadAs number) parts items) (depth : Nat) :
    IsReadAs number (block '[' ']' depth parts) (.arr items) := by
  cases hparts with
  | nil => exact isReadAs_emptyArray
  | cons hpart hparts =>
    exact isReadAs_array (isGap_lineAt _) (isGap_lineAt _) (isGap_lineAt _) hpart hparts

theorem isReadAs_block_fields {parts : List (List Char)} {fields : List (Text × Document)}
    (hparts : List.Forall₂ (IsFieldReadAs number) parts fields) (depth : Nat) :
    IsReadAs number (block '{' '}' depth parts) (.obj (collected fields)) := by
  cases hparts with
  | nil => exact isReadAs_emptyObject
  | cons hpart hparts =>
    exact isReadAs_object (isGap_lineAt _) (isGap_lineAt _) (isGap_lineAt _) hpart hparts

theorem isGap_nil : IsGap [] := nofun

theorem isGap_blank : IsGap [' '] := List.forall_mem_singleton.2 rfl

theorem isReadAs_line_items {parts : List (List Char)} {items : List Document}
    (hparts : List.Forall₂ (IsReadAs number) parts items) :
    IsReadAs number ('[' :: (joined [',', ' '] parts ++ [']'])) (.arr items) := by
  cases hparts with
  | nil => exact isReadAs_emptyArray
  | cons hpart hparts =>
    have harray := isReadAs_array isGap_blank isGap_nil isGap_nil hpart hparts
    rwa [List.nil_append, List.append_nil] at harray

theorem isReadAs_line_fields {parts : List (List Char)} {fields : List (Text × Document)}
    (hparts : List.Forall₂ (IsFieldReadAs number) parts fields) :
    IsReadAs number ('{' :: (joined [',', ' '] parts ++ ['}'])) (.obj (collected fields)) := by
  cases hparts with
  | nil => exact isReadAs_emptyObject
  | cons hpart hparts =>
    have hobject := isReadAs_object isGap_blank isGap_nil isGap_nil hpart hparts
    rwa [List.nil_append, List.append_nil] at hobject

/-- The meaning of tokens is right about the numbers in a value. -/
def ReadsNumbers (number : List Char → Option Document) (found : List Document) : Prop :=
  ∀ x ∈ found, number x.compact = some x

mutual

/-- A printed value is read as the value, in both layouts. -/
theorem isReadAs_print (value : Document) (hn : ReadsNumbers number value.numbers) :
    IsReadAs number value.compact value.paired ∧
      ∀ depth, IsReadAs number (indented depth value) value.paired :=
  match value, hn with
  | .null, _ => have h := isReadAs_of_word List.mem_cons_self; ⟨h, fun _ => h⟩
  | .bool value, _ => ⟨isReadAs_bool value, fun _ => isReadAs_bool value⟩
  | .int n, hn =>
    have h := isReadAs_of_token (isToken_intText n) (hn _ List.mem_cons_self)
    ⟨h, fun _ => h⟩
  | .float _, hn => ⟨isReadAs_floatText hn, fun _ => isReadAs_floatText hn⟩
  | .str text, _ => ⟨isReadAs_quoted text, fun _ => isReadAs_quoted text⟩
  | .arr items, hn =>
    have hitems := isReadAs_items items hn
    ⟨isReadAs_line_items hitems.1, fun depth => isReadAs_block_items (hitems.2 _) depth⟩
  | .obj fields, hn =>
    have hfields := isReadAs_fields fields hn
    ⟨isReadAs_line_fields hfields.1, fun depth => isReadAs_block_fields (hfields.2 _) depth⟩

theorem isReadAs_items (items : List Document) (hn : ReadsNumbers number (itemNumbers items)) :
    List.Forall₂ (IsReadAs number) (compactItems items) (pairedItems items) ∧
      ∀ depth, List.Forall₂ (IsReadAs number) (indentedItems depth items) (pairedItems items) :=
  match items, hn with
  | [], _ => ⟨.nil, fun _ => .nil⟩
  | item :: rest, hn =>
    have hitem := isReadAs_print item (List.forall_mem_append.1 hn).1
    have hrest := isReadAs_items rest (List.forall_mem_append.1 hn).2
    ⟨.cons hitem.1 hrest.1, fun depth => .cons (hitem.2 depth) (hrest.2 depth)⟩

theorem isReadAs_fields (fields : List (Text × Document))
    (hn : ReadsNumbers number (fieldNumbers fields)) :
    List.Forall₂ (IsFieldReadAs number) (compactFields fields) (pairedFields fields) ∧
      ∀ depth,
        List.Forall₂ (IsFieldReadAs number) (indentedFields depth fields) (pairedFields fields) :=
  match fields, hn with
  | [], _ => ⟨.nil, fun _ => .nil⟩
  | (_, value) :: rest, hn =>
    have hvalue := isReadAs_print value (List.forall_mem_append.1 hn).1
    have hrest := isReadAs_fields rest (List.forall_mem_append.1 hn).2
    ⟨.cons ⟨_, _, rfl, rfl, hvalue.1⟩ hrest.1,
      fun depth => .cons ⟨_, _, rfl, rfl, hvalue.2 depth⟩ (hrest.2 depth)⟩

end

/-- **Printed values are read back**, in both layouts, with the pairs in their texts put
together. -/
theorem readWith_print (layout : Layout) {value : Document}
    (hn : ReadsNumbers number value.numbers) :
    readWith number (print layout value) = some value.paired := by
  have hwhole (text : List Char) (ht : IsReadAs number text value.paired) :
      readWith number (String.ofList text) = some value.paired := by
    have hread := ht.reads (text.length + 1) [] (Nat.le_succ _) nofun
    rw [List.append_nil] at hread
    simp only [readWith, String.toList_ofList, hread]
    rfl
  cases layout with
  | compact => exact hwhole _ (isReadAs_print value hn).1
  | indented => exact hwhole _ ((isReadAs_print value hn).2 0)

/-! ### One line -/

theorem isPlain_joined {separator : List Char} (hs : ∀ c ∈ separator, IsPlain c)
    {parts : List (List Char)} (hp : ∀ part ∈ parts, ∀ c ∈ part, IsPlain c) :
    ∀ c ∈ joined separator parts, IsPlain c := by
  cases parts with
  | nil => nofun
  | cons part rest =>
    rw [List.forall_mem_cons] at hp
    rw [joined_cons_eq, List.forall_mem_append]
    refine ⟨hp.1, fun c hc => ?_⟩
    obtain ⟨next, hnext, hc⟩ := List.mem_flatMap.1 hc
    exact List.forall_mem_append.2 ⟨hs, hp.2 next hnext⟩ c hc

theorem isPlain_container {opening closing : Char} (ho : IsPlain opening) (hc : IsPlain closing)
    {parts : List (List Char)} (hp : ∀ part ∈ parts, ∀ c ∈ part, IsPlain c) :
    ∀ c ∈ opening :: (joined [',', ' '] parts ++ [closing]), IsPlain c :=
  List.forall_mem_cons.2 ⟨ho, List.forall_mem_append.2
    ⟨isPlain_joined (isPlain_of_all rfl) hp, List.forall_mem_singleton.2 hc⟩⟩

mutual

/-- A value on one line has printable ASCII characters only. -/
theorem isPlain_compact (value : Document) : ∀ c ∈ value.compact, IsPlain c :=
  match value with
  | .null => isPlain_of_all rfl
  | .bool true => isPlain_of_all rfl
  | .bool false => isPlain_of_all rfl
  | .int n => isPlain_of_isToken (isToken_intText n)
  | .float x => isPlain_floatText x
  | .str text => isPlain_quoted text
  | .arr items => isPlain_container (by decide) (by decide) (isPlain_compactItems items)
  | .obj fields => isPlain_container (by decide) (by decide) (isPlain_compactFields fields)

theorem isPlain_compactItems (items : List Document) :
    ∀ part ∈ compactItems items, ∀ c ∈ part, IsPlain c :=
  match items with
  | [] => nofun
  | item :: rest => List.forall_mem_cons.2 ⟨isPlain_compact item, isPlain_compactItems rest⟩

theorem isPlain_compactFields (fields : List (Text × Document)) :
    ∀ part ∈ compactFields fields, ∀ c ∈ part, IsPlain c :=
  match fields with
  | [] => nofun
  | (name, value) :: rest =>
    have hfield : ∀ c ∈ quoted name ++ ':' :: ' ' :: compact value, IsPlain c :=
      List.forall_mem_append.2 ⟨isPlain_quoted _, List.forall_mem_cons.2 ⟨by decide,
        List.forall_mem_cons.2 ⟨by decide, isPlain_compact value⟩⟩⟩
    List.forall_mem_cons.2 ⟨hfield, isPlain_compactFields rest⟩

end

end Document

/-! ## Events -/

namespace Event

/-- An event with a payload of data. -/
def ofData (name correlation level : Text) (payload : Document) : Event :=
  ⟨.str name, .str correlation, .whole (.data payload), .str level⟩

/-- What such an event says, if it is sent at the given time. -/
def said (name correlation level : Text) (payload : Document) (time : Double) : Document :=
  .obj [("timestamp", .float time), ("level", .str level), ("event", .str name),
    ("correlation_id", .str correlation), ("data", payload)]

variable (name correlation level : Text) (payload : Document) (time : Double)

theorem paired_said : (said name correlation level payload time).paired =
    said name.paired correlation.paired level.paired payload.paired time := by
  have hkey (key : String) : Text.paired key = key :=
    Text.paired_of_isUnpaired (Text.isUnpaired_ofString key)
  have hkeys : (["timestamp", "level", "event", "correlation_id", "data"] : List Text).Nodup := by
    decide
  rw [said, Document.paired, Document.collected_of_nodup]
  · simp only [Document.pairedFields, Document.paired, hkey, said]
  · simpa only [Document.pairedFields, List.map_cons, List.map_nil, hkey] using hkeys

theorem numbers_said : (said name correlation level payload time).numbers =
    (Document.float time).numbers ++ payload.numbers := by
  simp only [said, Document.numbers, Document.fieldNumbers, List.nil_append, List.append_nil]

end Event

/-- Sending an event leaves one record, the printed event, and takes one reading of the clock. -/
theorem Act.log_ofData (name correlation level : Text) (payload : Document) (w : World)
    (layout : Document.Layout) :
    log (.ofData name correlation level payload) { w with layout } =
      (.ok (), { w with
        layout
        readings := w.readings.afterTime
        journal := w.journal ++ [.event (if level = ("ERROR" : Text) then .error else .info)
          (Document.print layout
            (Event.said name correlation level payload w.readings.time))] }) := by
  have hdocument : (Event.ofData name correlation level payload).document w.readings.time =
      .ok (Event.said name correlation level payload w.readings.time) := rfl
  rw [log, bind_run_of_ok (readClock_run _)]
  dsimp only
  rw [hdocument]
  rfl

/-- **Events are read back**, in both layouts, from the one record that they leave: with the pairs
of surrogates in their texts put together, and so just as they were if there are none. A record is
an error just if the level says so, and nothing in an event can break its line. -/
theorem Act.log_decodes {number : List Char → Option Document} (name correlation level : Text)
    (payload : Document) (w : World)
    (hnumber : Document.ReadsNumbers number
      ((Document.float w.readings.time).numbers ++ payload.numbers)) (layout : Document.Layout) :
    ∃ text, log (.ofData name correlation level payload) { w with layout } =
        (.ok (), { w with
          layout
          readings := w.readings.afterTime
          journal := w.journal ++
            [.event (if level = ("ERROR" : Text) then .error else .info) text] }) ∧
      (layout = .compact → ∀ c ∈ text.toList, IsPlain c) ∧
      Document.readWith number text = some (Event.said name.paired correlation.paired level.paired
        payload.paired w.readings.time) ∧
      (name.IsUnpaired → correlation.IsUnpaired → level.IsUnpaired → payload.IsUnpaired →
        Document.readWith number text =
          some (Event.said name correlation level payload w.readings.time)) := by
  have hread : Document.readWith number
      (Document.print layout (Event.said name correlation level payload w.readings.time)) =
        some (Event.said name.paired correlation.paired level.paired payload.paired
          w.readings.time) := by
    rw [Document.readWith_print layout (by rwa [Event.numbers_said]), Event.paired_said]
  refine ⟨_, log_ofData name correlation level payload w layout, fun hlayout => ?_, hread,
    fun hname hcorrelation hlevel hpayload => ?_⟩
  · subst hlayout
    rw [Document.print, String.toList_ofList]
    exact Document.isPlain_compact _
  · rw [hread, Text.paired_of_isUnpaired hname, Text.paired_of_isUnpaired hcorrelation,
      Text.paired_of_isUnpaired hlevel, Document.paired_of_isUnpaired payload hpayload]

/-- A line break, quotes and lone surrogates in an event, a character beyond the basic plane, and
numbers of both kinds. -/
theorem Act.log_decodes_forged :
    let half := Double.finite false 4503599627370496 (-53)
    let name := Text.ofString "x\n\"," ++ ([.ofNat 0xDE00, .ofNat 0xD83D] : Text)
    let payload := Document.obj [("a\n\"", .arr [.int (-7), .float half, .str "😀"])]
    Document.ReadsNumbers Document.ofNumberToken
        ((Document.float (World.initial .initial).readings.time).numbers ++ payload.numbers) ∧
      (name.IsUnpaired ∧ payload.IsUnpaired) ∧
      ∃ text, log (.ofData name "id" "ERROR" payload) (.initial .initial) =
          (.ok (), { World.initial .initial with journal := [.event .error text] }) ∧
        (∀ c ∈ text.toList, IsPlain c) ∧
        Document.readWith Document.ofNumberToken text =
          some (Event.said name "id" "ERROR" payload (.zero false)) := by
  intro half name payload
  have hnumbers : Document.ReadsNumbers Document.ofNumberToken
      ((Document.float (World.initial .initial).readings.time).numbers ++ payload.numbers) := by
    have htime : (World.initial .initial).readings.time = .zero false := by decide
    have hfound : (Document.float (.zero false)).numbers ++ payload.numbers =
        [.float (.zero false), .int (-7), .float half] := rfl
    rw [htime, hfound, Document.ReadsNumbers, List.forall_mem_cons, List.forall_mem_cons,
      List.forall_mem_singleton]
    have htext : (Document.float half).compact = ['0', '.', '5'] := by decide +kernel
    have hhalf : Double.ofDecimal false 5 (-1) = half := by decide +kernel
    refine ⟨rfl, rfl, ?_⟩
    rw [htext, ← hhalf]
    rfl
  have hname : name.IsUnpaired := by decide
  have hpayload : payload.IsUnpaired := ⟨by decide, Text.isUnpaired_ofString _,
    ⟨trivial, trivial, Text.isUnpaired_ofString _, trivial⟩, trivial⟩
  obtain ⟨text, hlog, hplain, -, hread⟩ :=
    log_decodes name "id" "ERROR" payload (.initial .initial) hnumbers .compact
  exact ⟨hnumbers, ⟨hname, hpayload⟩, text, hlog, hplain rfl,
    hread hname (Text.isUnpaired_ofString _) (Text.isUnpaired_ofString _) hpayload⟩

/-- Two surrogates that make a pair leave the same record as the character that they encode, and are
read back as this character. -/
theorem Act.log_merges :
    let pair : Text := [.ofNat 0xD83D, .ofNat 0xDE00]
    pair ≠ ("😀" : Text) ∧
      ∀ layout : Document.Layout, ∃ text,
        (log (.ofData pair "id" "INFO" .null) { World.initial .initial with layout }).2.journal =
            [.event .info text] ∧
          (log (.ofData "😀" "id" "INFO" .null)
              { World.initial .initial with layout }).2.journal = [.event .info text] ∧
          Document.read? text = some (Event.said "😀" "id" "INFO" .null (.zero false)) ∧
          Document.read? text ≠ some (Event.said pair "id" "INFO" .null (.zero false)) := by
  intro pair
  have hdiffer : pair ≠ ("😀" : Text) := by decide
  have hquoted : Document.quoted pair = Document.quoted "😀" := by decide
  have hprint (layout : Document.Layout) :
      Document.print layout (Event.said pair "id" "INFO" .null (.zero false)) =
        Document.print layout (Event.said "😀" "id" "INFO" .null (.zero false)) := by
    cases layout <;>
      simp only [Event.said, Document.print, Document.compact, Document.compactFields,
        Document.indented, Document.indentedFields, hquoted]
  have hnumbers : Document.ReadsNumbers Document.ofNumberToken
      (Event.said pair "id" "INFO" .null (.zero false)).numbers := List.forall_mem_singleton.2 rfl
  have hpaired : (Event.said pair "id" "INFO" .null (.zero false)).paired =
      Event.said "😀" "id" "INFO" .null (.zero false) := by
    have hname : pair.paired = "😀" := by decide
    rw [Event.paired_said, hname, Text.paired_of_isUnpaired (Text.isUnpaired_ofString "id"),
      Text.paired_of_isUnpaired (Text.isUnpaired_ofString "INFO"), Document.paired]
  have hread (layout : Document.Layout) :
      Document.read? (Document.print layout (Event.said pair "id" "INFO" .null (.zero false))) =
        some (Event.said "😀" "id" "INFO" .null (.zero false)) := by
    rw [Document.read?, Document.readWith_print layout hnumbers, hpaired]
  refine ⟨hdiffer, fun layout =>
    ⟨Document.print layout (Event.said pair "id" "INFO" .null (.zero false)), ?_, ?_,
      hread layout, ?_⟩⟩
  · rw [log_ofData]
    rfl
  · rw [log_ofData, hprint]
    rfl
  · rw [hread]
    simpa [Event.said] using hdiffer.symm

end UtilityClass
