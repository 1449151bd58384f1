import UtilityClass.Proofs.ErrorContract

/-!
# Reports on classes

A report that reflection makes on a class rests on few things: the description and the name of the
class, and if the class is concrete, the list of its constructors, the name of the blocking class,
and what has become of the construction. Here a report is taken apart into them, and put together
again, so that two reports can be compared by comparing what they rest on.

The issue that a class lacks a constructor without arguments tells itself from all others by its
first words. So where a report contains it, it is the outcome of the construction that said so.

## Main definitions

* `Reflection.Issued` : what a report rests on

## Main results

* `Reflection.execute_eq_ok_iff` : exactly these reports are returned
* `Reflection.Issued.of_lacking` : a report that says that a constructor is lacking
-/

namespace UtilityClass

open Result

namespace Reflection

variable {m : Machinery} {c blocking : ClassId} {d : TypeDescriptor} {own : String} {w : World}
  {report : Report}

/-- What a report on a class rests on. -/
inductive Issued (m : Machinery) (c blocking : ClassId) (w : World) : Report → Prop
  /-- The class is not looked at any further. -/
  | barred {d : TypeDescriptor} {own : String} (hd : w.classes.description c = .ok d)
      (hown : w.classes.nameText c = .ok own) (hb : d.isConcrete = false) :
      Issued m c blocking w (Run.verdict d own (classIssues d own))
  /-- The constructors of the class are looked at, and it is constructed. The names in the last
  issue are those of the blocking exception and of the one that was raised. -/
  | passed {d : TypeDescriptor} {own : String} {list : List ConstructorDescriptor}
      {q : QualifiedName} {outcome : Outcome} {w₁ w₂ : World} {isBlocking : Bool}
      {blockingName kind : String} (hd : w.classes.description c = .ok d)
      (hown : w.classes.nameText c = .ok own) (hc : d.isConcrete = true)
      (hlist : w.classes.listing c = .ok list) (hq : w.classes.nameOf blocking = .ok q)
      (hinvoke : invoke m (.ofClass c) (arrived d own c w) = (.ok outcome, w₁))
      (hblocked : (useCase m blocking).isBlocked outcome w₁ = (.ok isBlocking, w₂))
      (hjudge : ∀ r : Run, r.subject = d → r.concluded = false →
        r.checkOutcome w₂.classes q outcome isBlocking =
          .ok (r.adding (outcomeIssues own blockingName kind isBlocking outcome))) :
      Issued m c blocking w (Run.verdict d own
        (diagnosis d list outcome own blockingName kind isBlocking))

theorem diagnosis_of_concrete (hc : d.isConcrete = true) (list : List ConstructorDescriptor)
    (outcome : Outcome) (blocking kind : String) (isBlocking : Bool) :
    diagnosis d list outcome own blocking kind isBlocking =
      classIssues d own ++ (privacyIssues list ++ argumentIssues own list) ++
        outcomeIssues own blocking kind isBlocking outcome := by
  rw [diagnosis, if_pos hc]
  simp only [List.append_assoc]

/-- **A report on a class** is returned just if it rests on what the classes say. -/
theorem execute_eq_ok_iff :
    ((useCase m blocking).execute m (.ofClass c) w).1 = .ok report ↔
      Issued m c blocking w report := by
  have hmeasured : ((useCase m blocking).execute m (.ofClass c) w).1 = .ok report ↔
      (∃ own, w.classes.nameText c = .ok own) ∧ ((useCase m blocking).examine (.ofClass c)
        (w.begun "verify_utility_class" [.ofClass c])).1 = .ok report :=
    Act.measured_fst_eq_ok_iff fun _ => ⟨_, rfl⟩
  rw [hmeasured]
  constructor
  · rintro ⟨⟨own, hown⟩, he⟩
    obtain ⟨d, w₁, name, hdescribe, hn⟩ := UseCase.exists_descriptor_of_examine rfl he
    obtain ⟨hd, rfl⟩ := describe_begun_eq_ok_iff.1 hdescribe
    obtain rfl : name = own := by
      have hname := (Hierarchy.text_name_of_description hd).1 hn
      exact Except.ok.inj (hname.symm.trans hown)
    rw [UseCase.examine_run rfl hdescribe hn] at he
    obtain ⟨r, w₂, hr, hclose⟩ := Act.bind_fst_eq_ok_iff.1 he
    cases hconcrete : d.isConcrete with
    | false =>
      rw [UseCase.checkFurther_of_barred hconcrete] at hr
      cases hr
      rw [UseCase.close_eq hn] at hclose
      cases hclose
      exact .barred hd hown hconcrete
    | true =>
      obtain ⟨list, w₃, q, outcome, w₄, isBlocking, hlist, hq, hinvoke, hblocked, hjudge⟩ :=
        (UseCase.checkFurther_eq_ok_iff hn hconcrete).1 hr
      obtain ⟨hlisting, rfl⟩ := constructors_arrived_eq_ok_iff.1 hlist
      obtain ⟨blockingName, kind, hsame⟩ :=
        Run.exists_checkOutcome_eq (r := (Run.start d).adding _) hn rfl hjudge
      rw [hsame _ rfl rfl, Run.adding_adding] at hjudge
      cases hjudge
      rw [UseCase.close_eq hn, ← diagnosis_of_concrete hconcrete] at hclose
      cases hclose
      rw [arrived_classes] at hq
      exact .passed hd hown hconcrete hlisting hq hinvoke hblocked hsame
  · rintro (⟨hd, hown, hb⟩ | ⟨hd, hown, hc, hlist, hq, hinvoke, hblocked, hjudge⟩)
    · have hn := (Hierarchy.text_name_of_description hd).2 hown
      obtain ⟨w₁, hexamine⟩ := UseCase.examine_of_ok (u := useCase m blocking) rfl
        (describe_begun_eq_ok_iff.2 ⟨hd, rfl⟩) hn (UseCase.checkFurther_of_barred hb)
      exact ⟨⟨_, hown⟩, by rw [hexamine]⟩
    · have hn := (Hierarchy.text_name_of_description hd).2 hown
      have hfurther := (UseCase.checkFurther_eq_ok_iff (u := useCase m blocking) (s := .ofClass c)
        hn hc).2 ⟨_, _, _, _, _, _, constructors_arrived_eq_ok_iff.2 ⟨hlist, rfl⟩,
          by rw [arrived_classes]; exact hq, hinvoke, hblocked, hjudge _ rfl rfl⟩
      rw [Run.adding_adding, ← diagnosis_of_concrete hc] at hfurther
      obtain ⟨w₃, hexamine⟩ :=
        UseCase.examine_of_ok rfl (describe_begun_eq_ok_iff.2 ⟨hd, rfl⟩) hn hfurther
      exact ⟨⟨_, hown⟩, by rw [hexamine]⟩

/-! ## The issue that a constructor is lacking -/

/-- The issue that a class lacks a constructor without arguments. -/
def lackingIssue (own : String) : String :=
  "Class [" ++ own ++ "] does not have a default constructor."

section Beginnings

variable {list : List ConstructorDescriptor} {outcome : Outcome} {blocking kind issue : String}
  {isBlocking : Bool}

theorem take_of_mem_classIssues (hi : issue ∈ classIssues d own) :
    issue.toList.take 2 = ['E', 'x'] := by
  unfold classIssues at hi
  cases hk : d.classification with
  | interfaceLike | enumLike =>
    rw [hk] at hi
    obtain rfl := List.mem_singleton.1 hi
    simp [String.toList_append]
  | ordinary =>
    rw [hk] at hi
    cases ha : d.isAbstract <;> cases hf : d.isFinal <;> simp [ha, hf] at hi <;> subst hi <;>
      simp [String.toList_append]

theorem take_of_mem_privacyIssues (hi : issue ∈ privacyIssues list) :
    issue.toList.take 2 = ['C', 'o'] := by
  obtain ⟨k, -, rfl⟩ := List.mem_map.1 hi
  simp [String.toList_append]

theorem take_of_mem_argumentIssues (hi : issue ∈ argumentIssues own list) :
    issue.toList.take 2 = ['E', 'x'] := by
  obtain ⟨k, -, rfl⟩ := List.mem_map.1 hi
  simp [String.toList_append]

theorem take_of_mem_outcomeIssues
    (hi : issue ∈ outcomeIssues own blocking kind isBlocking outcome) :
    outcome = .noDefaultConstructor ∨ issue.toList.take 2 ∈ [['E', 'x'], ['C', 'a']] := by
  cases outcome with
  | noDefaultConstructor => exact .inl rfl
  | constructed made =>
    obtain rfl := List.mem_singleton.1 hi
    simp [String.toList_append]
  | failedWith error message =>
    cases isBlocking <;> simp [outcomeIssues] at hi
    subst hi
    simp [String.toList_append]
  | accessRefused error message =>
    obtain rfl := List.mem_singleton.1 hi
    simp [String.toList_append]
  | unknown value => cases hi

/-- No issue on another outcome begins like this one. -/
theorem of_lackingIssue_mem
    (hi : lackingIssue own ∈ diagnosis d list outcome own blocking kind isBlocking) :
    d.isConcrete = true ∧ outcome = .noDefaultConstructor := by
  have htext : (lackingIssue own).toList.take 2 = ['C', 'l'] := by
    simp [lackingIssue, String.toList_append]
  rw [diagnosis, List.mem_append] at hi
  obtain hi | hi := hi
  · simp [take_of_mem_classIssues hi] at htext
  cases hc : d.isConcrete with
  | false => simp [hc] at hi
  | true =>
    rw [hc, if_pos rfl, List.mem_append, List.mem_append] at hi
    obtain (hi | hi) | hi := hi
    · simp [take_of_mem_privacyIssues hi] at htext
    · simp [take_of_mem_argumentIssues hi] at htext
    · refine ⟨rfl, (take_of_mem_outcomeIssues hi).resolve_right fun hother => ?_⟩
      simp [htext] at hother

end Beginnings

/-- **A report that a constructor is lacking** says so because the construction did, and has the
issues on arguments as well. -/
theorem Issued.of_lacking (hr : Issued m c blocking w report)
    (hown : w.classes.nameText c = .ok own)
    (hi : lackingIssue own ∈ report.issues) :
    ∃ d list w', w.classes.listing c = .ok list ∧
      invoke m (.ofClass c) (arrived d own c w) = (.ok .noDefaultConstructor, w') ∧
      ∀ issue ∈ argumentIssues own list, issue ∈ report.issues := by
  obtain ⟨-, hown', hb⟩ | ⟨hd, hown', hc, hlist, -, hinvoke, -, -⟩ := hr
  · obtain rfl := Except.ok.inj (hown'.symm.trans hown)
    rw [Run.issues_verdict] at hi
    have htake := take_of_mem_classIssues hi
    simp [lackingIssue, String.toList_append] at htake
  · obtain rfl := Except.ok.inj (hown'.symm.trans hown)
    rw [Run.issues_verdict] at hi ⊢
    obtain ⟨-, rfl⟩ := of_lackingIssue_mem hi
    refine ⟨_, _, _, hlist, hinvoke, fun issue hissue => ?_⟩
    rw [diagnosis_of_concrete hc]
    exact List.mem_append_left _ (List.mem_append_right _ (List.mem_append_right _ hissue))

end Reflection

end UtilityClass
