import UtilityClass.Proofs.Checking

/-!
# Messages as lists

The message of a report is one text, but nothing is lost in it. Its header names the class, and each
issue begins on a line of its own, behind a dash. If no line breaks stand in the name and in the
issues, then the places where an item begins are just those that the message itself has put there,
so the message can be split again: into the header and the issues, empty and repeated ones among
them. Two reports with the same message are therefore on classes of the same written name, and list
the same issues.

The argument is about any separator and any parts that lack its first character. The search for the
separator passes over a part, since it would have to begin with this character; behind the part the
separator is found, and the search begins anew.

## Main definitions

* `splitText` : the parts of a text between separators
* `Run.IsItemised` : a run with issues that stand on one line each

## Main results

* `splitText_join` : parts that have been put together with a separator are found again
* `Report.splitText_message` : the header and the issues are found in a message
* `Run.conclude_lossless` : the report of a run can be read off its message
-/

namespace UtilityClass

/-! ## Splitting -/

/-- The parts of a text in front of, between and behind the places where a separator stands. -/
def splitText (separator text : String) : List String :=
  (text.split separator).toList.map String.Slice.copy

section Splitting

open String.Slice.Pattern.Model

variable {s : String.Slice} {c : Char} {tail : String}

/-- Where a text goes on with another character than the separator, there is no separator. -/
theorem not_matchesAt_of_ne {p : s.Pos} {x : Char} {before rest : String} (hx : x ≠ c)
    (hp : p.Splits before (String.singleton x ++ rest)) :
    ¬MatchesAt (String.singleton c ++ tail) p := by
  rw [ForwardStringSearcher.matchesAt_iff_splits]
  rintro ⟨front, back, hmatch⟩
  have hsame := hp.eq_right hmatch
  rw [String.append_assoc, String.singleton_append_inj] at hsame
  exact hx hsame.1

/-- What lies between two positions. -/
theorem copy_subslice_of_splits {f q : s.Pos} (hq : f ≤ q) {before text rest : String}
    (hf : f.Splits before (text ++ rest)) (hs : q.Splits (before ++ text) rest) :
    (s.subslice f q hq).toSlice.copy = text := by
  obtain ⟨_, hcopy⟩ := String.Slice.copy_slice_eq_iff_splits.2 ⟨before, rest, hf, hs⟩
  exact hcopy

section Strict

variable (tail) [StrictPatternModel (String.singleton c ++ tail)]

/-- The search passes over a text that lacks the first character of the separator. -/
theorem exists_split_passed {f p : s.Pos} (hle : f ≤ p) {before text rest : String}
    (hc : c ∉ text.toList) (hp : p.Splits before (text ++ rest)) :
    ∃ (q : s.Pos) (hq : f ≤ q), q.Splits (before ++ text) rest ∧
      String.Slice.Pattern.Model.split (String.singleton c ++ tail) f p hle =
        String.Slice.Pattern.Model.split (String.singleton c ++ tail) f q hq := by
  obtain ⟨characters, rfl⟩ : ∃ l, text = String.ofList l := ⟨_, String.ofList_toList.symm⟩
  rw [String.toList_ofList] at hc
  induction characters generalizing p before with
  | nil =>
    rw [String.ofList_nil, String.empty_append] at hp
    exact ⟨p, hle, by rwa [String.ofList_nil, String.append_empty], rfl⟩
  | cons x characters ih =>
    have hx : x ≠ c := fun hx => hc (hx ▸ List.mem_cons_self)
    have hnext {h : p ≠ s.endPos} : f ≤ p.next h :=
      String.Slice.Pos.le_trans hle (Std.le_of_lt String.Slice.Pos.lt_next)
    rw [String.ofList_cons, String.append_assoc] at hp
    obtain ⟨q, hq, hs, heq⟩ := ih hnext (fun h => hc (List.mem_cons_of_mem _ h)) hp.next
    refine ⟨q, hq, ?_, ?_⟩
    · rwa [String.ofList_cons, ← String.append_assoc]
    · rw [split_eq_next_of_not_matchesAt hp.ne_endPos_of_singleton (not_matchesAt_of_ne hx hp), heq]

/-- Searched from where a part begins, a text is split into this part and the ones behind it. -/
theorem map_split_join {f : s.Pos} {before part : String} {parts : List String}
    (hpart : c ∉ part.toList) (hparts : ∀ next ∈ parts, c ∉ next.toList)
    (hf : f.Splits before
      (part ++ String.join (parts.map fun next => String.singleton c ++ tail ++ next))) :
    (String.Slice.Pattern.Model.split (String.singleton c ++ tail) f f
      (String.Slice.Pos.le_refl f)).map (fun piece => piece.toSlice.copy) = part :: parts := by
  induction parts generalizing f before part with
  | nil =>
    obtain ⟨q, hq, hs, heq⟩ := exists_split_passed tail (String.Slice.Pos.le_refl f) hpart hf
    obtain rfl : q = s.endPos := hs.eq_endPos_iff.2 rfl
    rw [heq, split_endPos, List.map_singleton, copy_subslice_of_splits hq hf hs]
  | cons next parts ih =>
    rw [List.map_cons, String.join_cons, String.append_assoc] at hf
    obtain ⟨q, hq, hs, heq⟩ := exists_split_passed tail (String.Slice.Pos.le_refl f) hpart hf
    -- the separator is there, and the next part begins where it ends
    have hmatches : MatchesAt (String.singleton c ++ tail) q :=
      ForwardStringSearcher.matchesAt_iff_splits.2 ⟨_, _, hs⟩
    obtain ⟨stop, hmatch⟩ := hmatches.exists_isLongestMatchAt
    obtain ⟨front, back, hfront, hstop⟩ :=
      ForwardStringSearcher.isLongestMatchAt_iff_splits.1 hmatch
    obtain ⟨rfl, hback⟩ := hfront.eq hs
    rw [String.append_right_inj] at hback
    rw [hback] at hstop
    rw [heq, split_eq_of_isLongestMatchAt hmatch, List.map_cons, copy_subslice_of_splits hq hf hs,
      ih (hparts next List.mem_cons_self)
        (fun other hother => hparts other (List.mem_cons_of_mem _ hother)) hstop]

end Strict

/-- **Parts are found again** that have been put together with a separator, if they lack its first
character. -/
theorem splitText_join {part : String} {parts : List String} (hpart : c ∉ part.toList)
    (hparts : ∀ next ∈ parts, c ∉ next.toList) :
    splitText (String.singleton c ++ tail)
      (part ++ String.join (parts.map fun next => String.singleton c ++ tail ++ next)) =
        part :: parts := by
  have hne : String.singleton c ++ tail ≠ "" := by simp
  have := ForwardStringSearcher.strictPatternModel hne
  have := ForwardStringSearcher.lawfulToForwardSearcherModel hne
  have hstart := String.Slice.splits_startPos (part ++ String.join
    (parts.map fun next => String.singleton c ++ tail ++ next)).toSlice
  rw [String.copy_toSlice] at hstart
  rw [splitText, String.split_eq_split_toSlice, String.Slice.toList_split_eq_splitToSubslice,
    String.Slice.Pattern.toList_splitToSubslice_eq_modelSplit, List.map_map]
  exact map_split_join tail hpart hparts hstart

end Splitting

/-! ## Messages -/

namespace Report

variable {name : String} {issues : List String}

/-- **The header and the issues** of a message are found in it, if none of them has a line break. -/
theorem splitText_message (hname : '\n' ∉ name.toList)
    (hissues : ∀ issue ∈ issues, '\n' ∉ issue.toList) :
    splitText "\n- " (message name issues) = header name :: issues := by
  have hheader : '\n' ∉ (header name).toList := by
    simp [header, hname]
  have hprefix : "\n- " = String.singleton '\n' ++ "- " := rfl
  rw [message, issuePrefix, hprefix]
  exact splitText_join hheader hissues

/-- The header tells the name. -/
theorem header_injective {name name' : String} (h : header name = header name') : name = name' := by
  rw [header, header, String.append_left_inj, String.append_right_inj] at h
  exact h

/-- The name and the issues can be read off a message. -/
theorem message_inj {name' : String} {issues' : List String} (hname : '\n' ∉ name.toList)
    (hissues : ∀ issue ∈ issues, '\n' ∉ issue.toList) (hname' : '\n' ∉ name'.toList)
    (hissues' : ∀ issue ∈ issues', '\n' ∉ issue.toList)
    (h : message name issues = message name' issues') : name = name' ∧ issues = issues' := by
  have hparts := congrArg (splitText "\n- ") h
  rw [splitText_message hname hissues, splitText_message hname' hissues', List.cons.injEq] at hparts
  exact ⟨header_injective hparts.1, hparts.2⟩

end Report

/-! ## Runs -/

/-- The report of a run lists issues, and the name of the class and all issues stand on one line
each. -/
structure Run.IsItemised (r : Run) (name : String) : Prop where
  text : r.subject.name.text = .ok name
  found : r.issues ≠ []
  nameLine : '\n' ∉ name.toList
  issueLines : ∀ issue ∈ r.issues, '\n' ∉ issue.toList

theorem Run.IsItemised.conclude_fst {r : Run} {name : String} (hr : r.IsItemised name) :
    r.conclude.1 = .ok (.failed r.subject.name r.issues (Report.message name r.issues)) := by
  rw [conclude, report_eq_verdict hr.text, verdict, if_neg hr.found]
  rfl

/-- Where verifying a class returns a report, this is the verdict on some issues. -/
theorem UseCase.exists_verdict_of_execute {m : Machinery} {u : UseCase} {c : ClassId} {w : World}
    {report : Report} (hr : (u.execute m (.ofClass c) w).1 = .ok report) :
    ∃ d name issues, d.name.text = .ok name ∧ report = Run.verdict d name issues := by
  obtain ⟨own, w₁, -, hexamine, -⟩ := Checker.completed_of_report hr
  obtain ⟨d, w₂, name, hd, hn⟩ := exists_descriptor_of_examine rfl (congrArg Prod.fst hexamine)
  rw [examine_run rfl hd hn] at hexamine
  obtain ⟨run, w₃, hrun, hclose⟩ := Act.bind_eq_ok_iff.1 hexamine
  obtain ⟨issues, rfl⟩ := exists_adding_of_checkFurther hn hrun
  rw [close_eq hn issues w₃] at hclose
  cases hclose
  exact ⟨d, name, issues, hn, rfl⟩

/-- A report that lists issues has the message that goes with its name and its issues. -/
theorem UseCase.exists_message_of_execute {m : Machinery} {u : UseCase} {c : ClassId} {w : World}
    {subject : QualifiedName} {issues : List String} {message : String}
    (hr : (u.execute m (.ofClass c) w).1 = .ok (.failed subject issues message)) :
    ∃ name, subject.text = .ok name ∧ message = Report.message name issues := by
  obtain ⟨d, name, found, hn, hverdict⟩ := exists_verdict_of_execute hr
  unfold Run.verdict at hverdict
  split at hverdict
  · cases hverdict
  · injection hverdict with hsubject hissues hmessage
    exact ⟨name, hsubject ▸ hn, hmessage.trans (by rw [hissues]; rfl)⟩

/-- **Nothing is lost in a message.** The report of a run with issues can be read off its message,
if no line breaks stand in the name of the class and in the issues: two such runs with the same
message are on classes of the same written name, and have the same issues. Hence the text of the
exception that a class is no utility class tells the same as the report. -/
theorem Run.conclude_lossless (n : Nat) :
    (∀ (r : Run) (name : String), r.IsItemised name → ∃ message,
      r.conclude.1 = .ok (.failed r.subject.name r.issues message) ∧
        splitText "\n- " message = Report.header name :: r.issues) ∧
    (∀ (r r' : Run) (name name' : String), r.IsItemised name → r'.IsItemised name' →
      ∀ subject issues subject' issues' message,
        r.conclude.1 = .ok (.failed subject issues message) →
        r'.conclude.1 = .ok (.failed subject' issues' message) →
          subject.text = subject'.text ∧ issues = issues') ∧
    ∀ (c : Checker) (w : World) (subject : QualifiedName) (issues : List String) (message : String),
      (c.check (.level (n + 1)) w).1 = .ok (.failed subject issues message) →
        (c.verify (.level (n + 1)) w).1 = .error (.violation message) ∧
        ((c.verify (.level (n + 1)) w).2.classes.KeepsLibrary →
          ((Machinery.level (n + 1)).textOf (Raised.violation message).error
            (c.verify (.level (n + 1)) w).2).1 = .ok message) ∧
        ∃ name, subject.text = .ok name ∧
          ('\n' ∉ name.toList → (∀ issue ∈ issues, '\n' ∉ issue.toList) →
            splitText "\n- " message = Report.header name :: issues) := by
  refine ⟨fun r name hr => ?_, fun r r' name name' hr hr' => ?_,
    fun c w subject issues message hr => ?_⟩
  · exact ⟨_, hr.conclude_fst, Report.splitText_message hr.nameLine hr.issueLines⟩
  · intro subject issues subject' issues' message hm hm'
    rw [hr.conclude_fst] at hm
    rw [hr'.conclude_fst] at hm'
    injection hm with hm
    injection hm with hsubject hissues hmessage
    injection hm' with hm'
    injection hm' with hsubject' hissues' hmessage'
    obtain ⟨rfl, hsame⟩ := Report.message_inj hr.nameLine hr.issueLines hr'.nameLine
      hr'.issueLines (hmessage.trans hmessage'.symm)
    rw [← hsubject, ← hsubject', hr.text, hr'.text, ← hissues, ← hissues']
    exact ⟨rfl, hsame⟩
  · have hagrees := Checker.agrees (.level n) c w
    obtain ⟨name, hname, rfl⟩ := UseCase.exists_message_of_execute hr
    refine ⟨hagrees.violates _ _ _ hr, fun hlibrary => ?_, name, hname, Report.splitText_message⟩
    exact congrArg Prod.fst (hagrees.tells _ hlibrary)

/-- The name of the subject and the issues of a report that has some. -/
def Report.failure? : Report → Option (Option String × List String)
  | .ok _ => none
  | .failed subject issues _ => some (subject.text.toOption, issues)

/-- Dashes, brackets and empty or repeated issues do no harm, and neither does a module that is not
written. -/
theorem Run.conclude_lossless_dashes :
    let subject (module : Json) : TypeDescriptor :=
      ⟨⟨module, .str "A- []"⟩, .ordinary, false, true⟩
    let r : Run := ⟨subject .null, ["- x", "", "[\x7b0\x7d]", "", "- x"], false⟩
    let r' : Run := ⟨subject (.str "builtins"), ["- x", "", "[\x7b0\x7d]", "", "- x"], true⟩
    let script := Script.make none [] .noDefaultConstructor
    let checker : Checker := ⟨LibraryClass.object, ⟨script.introspector, .standard⟩⟩
    (∃ message, r.conclude.1 = .ok (.failed r.subject.name r.issues message) ∧
      r'.conclude.1 = .ok (.failed r'.subject.name r'.issues message) ∧
      splitText "\n- " message = ["Class [A- []] does not validate as a utility class:",
        "- x", "", "[\x7b0\x7d]", "", "- x"]) ∧
    r.subject.name.text = r'.subject.name.text ∧
    ∃ message, (checker.verify (.level 1) (.initial .initial)).1 = .error (.violation message) ∧
      splitText "\n- " message = ["Class [fake.Holder] does not validate as a utility class:",
        "Class [fake.Holder] does not have a default constructor."] := by
  intro subject r r' script checker
  have hr : r.IsItemised "A- []" := ⟨rfl, by decide, by decide, by decide⟩
  have hr' : r'.IsItemised "A- []" := ⟨rfl, by decide, by decide, by decide⟩
  obtain ⟨message, hmessage, hparts⟩ := (conclude_lossless 0).1 r _ hr
  have hmessage' : r'.conclude.1 = .ok (.failed r'.subject.name r'.issues message) := by
    rw [hr.conclude_fst] at hmessage
    rw [hr'.conclude_fst]
    cases hmessage
    rfl
  have hsame := (conclude_lossless 0).2.1 r r' _ _ hr hr' _ _ _ _ _ hmessage hmessage'
  have hreport : (checker.check (.level 1) (.initial .initial)).1.toOption.bind Report.failure? =
      some (some "fake.Holder",
        ["Class [fake.Holder] does not have a default constructor."]) := by decide +kernel
  refine ⟨⟨message, hmessage, hmessage', hparts⟩, hsame.1, ?_⟩
  cases hcheck : (checker.check (.level 1) (.initial .initial)).1 with
  | error e =>
    rw [hcheck] at hreport
    cases hreport
  | ok report =>
    rw [hcheck] at hreport
    cases report with
    | ok subject => cases hreport
    | failed subject issues text =>
      obtain ⟨hverify, -, name, hname, hsplit⟩ :=
        (conclude_lossless 0).2.2 checker (.initial .initial) subject issues text hcheck
      rw [Except.toOption, Option.bind_some, Report.failure?, hname] at hreport
      cases hreport
      exact ⟨text, hverify, hsplit (by decide) (by decide)⟩

end UtilityClass
