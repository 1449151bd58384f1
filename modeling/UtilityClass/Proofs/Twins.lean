import UtilityClass.Proofs.BlindMachinery
import UtilityClass.Proofs.Issued

/-!
# Worlds that differ in marks

Two worlds are twins if they are the same once the marks are taken off, with one flag put into the
place of that of one class in both. An act that is blind to marks does in either of them what it
does without the marks, hence in both of them the same, and twins stay twins.

A verification is no such act, since it reads the marks. But it does so in two places only, when it
describes the class and when it lists the constructors, and all that is left is one construction and
the judgement on how it ended. So a report on a class goes with a report in the twin world which has
the same issues, apart from those that these two places bring.

## Main definitions

* `World.Twins`
* `Reflection.VerifiesNoClass`, `Reflection.MakesNoClass` : constructions that can be compared
* `Reflection.LooksAt` : the constructors that are looked at in a verification

## Main results

* `World.Twins.run` : acts that are blind to marks
* `Reflection.invoke_twins` : constructions
* `Reflection.Issued.twins` : reports
-/

namespace UtilityClass

open Act (BlindAt)

/-! ## Twins -/

namespace Hierarchy

variable {c : ClassId}

/-- What is told of a class whose flag is not exchanged. -/
theorem description_unmarked (h : Hierarchy) :
    (h.unmarked none).description c = h.description c := by
  rw [description, description, nameOf_unmarked, classify_unmarked,
    isAbstract_unmarked h, isFinal_unmarked h (by simp)]

/-- The list of constructors, but for their visibility. -/
theorem listing_unmarked (h : Hierarchy) (x : Option Flag) : (h.unmarked x).listing c =
    (h.listing c).map (List.map ConstructorDescriptor.unmarked) := by
  rw [listing, listing, reportedConstructors_unmarked, Result.bind_map, Result.map_bind]
  refine bind_congr fun reported => ?_
  rw [List.mapM_map, Result.map_mapM]
  exact Result.mapM_congr fun k _ => describeConstructor_unmarked h k.1 k.2

/-- Two flags that are put into the place of that of one class are the same if the classes are the
same then. -/
theorem flag_eq_of_unmarked_eq {h h' : Hierarchy} {x x' : Option Flag}
    (hx : x'.map Prod.fst = x.map Prod.fst) (hu : h'.unmarked x' = h.unmarked x) : x' = x := by
  cases x with
  | none => simpa using hx
  | some f =>
    obtain ⟨⟨d, flag'⟩, rfl, hd⟩ := Option.map_eq_some_iff.1 hx
    obtain ⟨c, flag⟩ := f
    obtain rfl : d = c := hd
    have hmembers : bareEntries (some (d, flag')) d (h'.info d).members =
        bareEntries (some (d, flag)) d (h.info d).members :=
      congrArg (fun g : Hierarchy => (g.info d).members) hu
    rw [bareEntries_self, bareEntries_self] at hmembers
    cases (List.cons_eq_cons.1 hmembers).1
    rfl

end Hierarchy

namespace World

/-- Two worlds are the same without marks, and what is done in them can be compared. -/
structure Twins (x : Option Flag) (w w' : World) : Prop where
  bare : w'.unmarked x = w.unmarked x
  fits : w.Fits x
  fits' : w'.Fits x

namespace Twins

variable {x : Option Flag} {w w' : World}

theorem symm (t : Twins x w w') : Twins x w' w := ⟨t.bare.symm, t.fits', t.fits⟩

theorem classes (t : Twins x w w') : w'.classes.unmarked x = w.classes.unmarked x :=
  congrArg World.classes t.bare

theorem readings (t : Twins x w w') : w'.readings = w.readings := by
  show (w'.unmarked x).readings = (w.unmarked x).readings
  rw [t.bare]

theorem layout (t : Twins x w w') : w'.layout = w.layout := by
  show (w'.unmarked x).layout = (w.unmarked x).layout
  rw [t.bare]

theorem journal (t : Twins x w w') : w'.journal = w.journal := by
  show (w'.unmarked x).journal = (w.unmarked x).journal
  rw [t.bare]

theorem nameOf (t : Twins x w w') (c : ClassId) : w'.classes.nameOf c = w.classes.nameOf c := by
  rw [← Hierarchy.nameOf_unmarked, t.classes, Hierarchy.nameOf_unmarked]

theorem nameText (t : Twins x w w') (c : ClassId) :
    w'.classes.nameText c = w.classes.nameText c := by
  rw [← Hierarchy.nameText_unmarked, t.classes, Hierarchy.nameText_unmarked]

theorem listing (t : Twins x w w') (c : ClassId) :
    (w'.classes.listing c).map (List.map ConstructorDescriptor.unmarked) =
      (w.classes.listing c).map (List.map ConstructorDescriptor.unmarked) := by
  rw [← Hierarchy.listing_unmarked _ x, t.classes, Hierarchy.listing_unmarked]

theorem subjectName (t : Twins x w w') (s : Subject) : s.name w'.classes = s.name w.classes := by
  rw [← Subject.name_unmarked, t.classes, Subject.name_unmarked]

/-- What belongs to observers may be exchanged in both worlds. -/
theorem observed (t : Twins x w w') (readings : Readings) (journal : List Record) :
    Twins x { w with readings, journal } { w' with readings, journal } where
  bare := congrArg (fun w : World => { w with readings, journal }) t.bare
  fits := ⟨t.fits.classes, t.fits.labels, t.fits.flag⟩
  fits' := ⟨t.fits'.classes, t.fits'.labels, t.fits'.flag⟩

/-- **Twins stay twins** in an act that is blind to marks, and the results are the same. -/
theorem run {α : Type} [HasMarks α] {act : Act α} (t : Twins x w w')
    (hb : ∀ w, BlindAt x w act act) (hw : ¬w.Exceeds x (act w).2)
    (hw' : ¬w'.Exceeds x (act w').2) :
    (act w').1.map HasMarks.unmarked = (act w).1.map HasMarks.unmarked ∧
      ∃ x', x'.map Prod.fst = x.map Prod.fst ∧ Twins x' (act w).2 (act w').2 := by
  obtain ⟨x₁, ha⟩ := ((hb w).agree t.fits).resolve_left hw
  obtain ⟨x₂, ha'⟩ := ((hb w').agree t.fits').resolve_left hw'
  rw [t.bare] at ha'
  have hworld : (act w').2.unmarked x₂ = (act w).2.unmarked x₁ := ha'.world.symm.trans ha.world
  obtain rfl : x₂ = x₁ := Hierarchy.flag_eq_of_unmarked_eq (ha'.flag.trans ha.flag.symm)
    (congrArg World.classes hworld)
  exact ⟨ha'.result.symm.trans ha.result, x₂, ha.flag, hworld, ha.fits, ha'.fits⟩

end Twins

end World

/-! ## Runs on the same class -/

namespace Run

variable {r : Run} {d : TypeDescriptor}

theorem addIssue_about (hr : r.concluded = false) (template : String)
    (arguments : List Template.Argument) :
    ({ r with subject := d } : Run).addIssue template arguments =
      (r.addIssue template arguments).map ({ · with subject := d }) := by
  simp only [addIssue, hr, Bool.false_eq_true, if_false]
  cases Template.fill template arguments <;> rfl

/-- The check of the construction asks of the class nothing but its name. -/
theorem checkOutcome_about (hr : r.concluded = false) (hd : d.name = r.subject.name)
    (h : Hierarchy) (q : QualifiedName) (outcome : Outcome) (isBlocking : Bool) :
    ({ r with subject := d } : Run).checkOutcome h q outcome isBlocking =
      (r.checkOutcome h q outcome isBlocking).map ({ · with subject := d }) := by
  have hadd (template : String) (arguments : List Template.Argument) :=
    addIssue_about (d := d) hr template arguments
  unfold checkOutcome
  dsimp only
  rw [hd]
  cases outcome with
  | failedWith error message =>
    cases isBlocking with
    | true => rfl
    | false =>
      dsimp only
      rw [if_neg Bool.false_ne_true, if_neg Bool.false_ne_true, Result.map_bind]
      exact bind_congr fun kind => hadd _ _
  | accessRefused error message =>
    dsimp only
    rw [Result.map_bind]
    exact bind_congr fun kind => hadd _ _
  | constructed made => exact hadd _ _
  | noDefaultConstructor => exact hadd _ _
  | unknown value => rfl

end Run

theorem argumentIssues_of_unmarked {list list' : List ConstructorDescriptor}
    (hl : list'.map ConstructorDescriptor.unmarked = list.map ConstructorDescriptor.unmarked)
    (own : String) : argumentIssues own list' = argumentIssues own list := by
  have hbare (list : List ConstructorDescriptor) : argumentIssues own list =
      argumentIssues own (list.map ConstructorDescriptor.unmarked) := by
    rw [argumentIssues, argumentIssues, List.filter_map, List.map_map]
    rfl
  rw [hbare list', hl, ← hbare]

/-! ## Constructions -/

namespace World

/-- An act that only asks questions goes beyond nothing. -/
theorem not_exceeds_of_onlyAsks {α : Type} {act : Act α} (ha : Act.OnlyAsks act)
    (x : Option Flag) (w : World) : ¬w.Exceeds x (act w).2 := by
  have hdeclared := congrArg Hierarchy.declared (ha.keeps w.classes)
  rw [ha.run w]
  rintro (hjournal | ⟨-, hclasses⟩)
  · exact absurd hjournal (Nat.lt_irrefl _)
  · dsimp only at hclasses
    exact absurd (Nat.lt_of_lt_of_eq hclasses hdeclared) (Nat.lt_irrefl _)

end World

namespace Reflection

variable {m : Machinery} {c blocking : ClassId} {x : Option Flag} {w w' : World}

/-- Constructing a class verifies no class: it leaves no trace in the journal, whatever belongs to
the observers. -/
def VerifiesNoClass (m : Machinery) (s : Handle) (w : World) : Prop :=
  ∀ w', w.setting = w'.setting → (invoke m s w').2.journal = w'.journal

/-- Constructing a class makes no class. -/
def MakesNoClass (m : Machinery) (s : Handle) (w : World) : Prop :=
  ∀ w', w.setting = w'.setting → (invoke m s w').2.classes.declared = w'.classes.declared

/-- A construction does nothing that is not compared. -/
def StaysWithin (m : Machinery) (x : Option Flag) (s : Handle) (w : World) : Prop :=
  VerifiesNoClass m s w ∧ (x.isSome → MakesNoClass m s w)

theorem StaysWithin.not_exceeds {s : Handle} (hs : StaysWithin m x s w)
    (hw : w.setting = w'.setting) : ¬w'.Exceeds x (invoke m s w').2 := by
  rintro (hjournal | ⟨hx, hclasses⟩)
  · rw [hs.1 w' hw] at hjournal
    exact absurd hjournal (Nat.lt_irrefl _)
  · rw [hs.2 hx w' hw] at hclasses
    exact absurd hclasses (Nat.lt_irrefl _)

/-- **Constructing a class** in twin worlds comes to the same. -/
theorem invoke_twins (hm : m.IsBlind) (t : World.Twins x w w') {s : Handle}
    (hs : ∀ w, Act.BlindAt x w s.shown s.shown)
    (hw : StaysWithin m x s w) (hw' : StaysWithin m x s w') :
    (invoke m s w').1.map Outcome.unmarked = (invoke m s w).1.map Outcome.unmarked ∧
      ∃ x', x'.map Prod.fst = x.map Prod.fst ∧
        World.Twins x' (invoke m s w).2 (invoke m s w').2 :=
  t.run (fun w => invoke_blind hm (hs w)) (hw.not_exceeds rfl) (hw'.not_exceeds rfl)

theorem StaysWithin.of_setting {s : Handle} (hs : StaysWithin m x s w)
    (hw : w.setting = w'.setting) : StaysWithin m x s w' :=
  ⟨fun w'' h => hs.1 w'' (hw.trans h), fun hx w'' h => hs.2 hx w'' (hw.trans h)⟩

/-! ## Reports -/

/-- Outcomes that are the same without marks differ at most in what was constructed. -/
theorem eq_or_constructed_of_unmarked {outcome outcome' : Outcome}
    (ho : outcome'.unmarked = outcome.unmarked) :
    outcome' = outcome ∨
      ∃ made made', outcome = .constructed made ∧ outcome' = .constructed made' := by
  cases outcome
  case constructed made =>
    cases outcome'
    case constructed made' => exact .inr ⟨made, made', rfl, rfl⟩
    all_goals cases ho
  all_goals
    cases outcome'
    case constructed => cases ho
    all_goals exact .inl ho

section Outcomes

variable {outcome outcome' : Outcome} (ho : outcome'.unmarked = outcome.unmarked)
include ho

theorem isBlocked_of_unmarked (u : UseCase) : u.isBlocked outcome' = u.isBlocked outcome := by
  obtain rfl | ⟨made, made', rfl, rfl⟩ := eq_or_constructed_of_unmarked ho <;> rfl

theorem outcomeIssues_of_unmarked (own blocking kind : String) (isBlocking : Bool) :
    outcomeIssues own blocking kind isBlocking outcome' =
      outcomeIssues own blocking kind isBlocking outcome := by
  obtain rfl | ⟨made, made', rfl, rfl⟩ := eq_or_constructed_of_unmarked ho <;> rfl

theorem checkOutcome_of_unmarked {h h' : Hierarchy} (hnames : ∀ s : Subject, s.name h' = s.name h)
    (q : QualifiedName) (isBlocking : Bool) (r : Run) :
    r.checkOutcome h' q outcome' isBlocking = r.checkOutcome h q outcome isBlocking := by
  obtain rfl | ⟨made, made', rfl, rfl⟩ := eq_or_constructed_of_unmarked ho
  · cases outcome' <;> simp only [Run.checkOutcome, hnames]
  · rfl

end Outcomes

theorem isBlocked_blind (u : UseCase) (outcome : Outcome) :
    BlindAt x w (u.isBlocked outcome) (u.isBlocked outcome) := by
  cases outcome with
  | failedWith error message =>
    refine .classes_bind ?_
    rw [w.classes.hook?_unmarked "__subclasscheck__" (by simp)]
    cases error with
    | ofClass c => exact .isSubclass c _
    | plain value =>
      cases w.classes.hook? u.policy.blocking "__subclasscheck__" with
      | none => exact .fail _
      | some hook =>
        refine .same_bind (w.classes.tryHook_unmarked hook 1) fun _ _ => ?_
        exact .pure rfl fun _ => trivial
  | constructed _ => exact .pure rfl fun _ => trivial
  | noDefaultConstructor => exact .pure rfl fun _ => trivial
  | accessRefused _ _ => exact .pure rfl fun _ => trivial
  | unknown _ => exact .pure rfl fun _ => trivial

/-- Where an exception stands to the blocking one is asked in twin worlds with the same answer. -/
theorem isBlocked_twins (t : World.Twins x w w') {u : UseCase} {outcome outcome' : Outcome}
    (ho : outcome'.unmarked = outcome.unmarked) {isBlocking : Bool} {w₁ : World}
    (hb : u.isBlocked outcome w = (.ok isBlocking, w₁)) :
    ∃ x' w₁', u.isBlocked outcome' w' = (.ok isBlocking, w₁') ∧ World.Twins x' w₁ w₁' := by
  have hasks := u.isBlocked_onlyAsks outcome
  obtain ⟨hresult, x', -, t'⟩ := t.run (fun _ => isBlocked_blind u outcome)
    (World.not_exceeds_of_onlyAsks hasks x w) (World.not_exceeds_of_onlyAsks hasks x w')
  rw [hb] at hresult t'
  refine ⟨x', _, ?_, t'⟩
  rw [isBlocked_of_unmarked ho]
  refine Prod.ext ?_ rfl
  obtain ⟨b, hb', heq⟩ := Result.map_eq_ok_iff.1 hresult
  exact hb'.trans (congrArg Except.ok heq)

/-- The constructors that are looked at in the verification of a class: all that are listed, if the
class is concrete. -/
def LooksAt (h : Hierarchy) (c : ClassId) (d : TypeDescriptor)
    (list : List ConstructorDescriptor) : Prop :=
  if d.isConcrete then h.listing c = .ok list else list = []

variable {d d' : TypeDescriptor} {own : String} {report : Report}

/-- The two descriptors tell the same of a class, but perhaps for its being final. -/
structure AgreesButFinal (d d' : TypeDescriptor) : Prop where
  name : d'.name = d.name
  classification : d'.classification = d.classification
  isAbstract : d'.isAbstract = d.isAbstract

theorem AgreesButFinal.isConcrete (hd : AgreesButFinal d d') : d'.isConcrete = d.isConcrete := by
  rw [TypeDescriptor.isConcrete, hd.classification, hd.isAbstract, TypeDescriptor.isConcrete]

/-- The verification of a class comes to its construction in twin worlds. -/
theorem arrived_twins (t : World.Twins x w w') (hown : w.classes.nameText c = .ok own)
    (hd : AgreesButFinal d d') :
    World.Twins x (arrived d own c w) (arrived d' own c w') := by
  have hn : w.classes.targetName [.ofClass c] = .ok own := hown
  have hn' : w'.classes.targetName [.ofClass c] = .ok own := (t.nameText c).trans hown
  have hreadings := t.readings
  have hlayout := t.layout
  have hjournal := t.journal
  rw [arrived, arrived, Act.begun_eq_started hn, Act.begun_eq_started hn', UseCase.remarked,
    UseCase.remarked, hd.classification]
  cases w'
  cases hreadings
  cases hlayout
  cases hjournal
  exact t.observed _ _

theorem setting_arrived (hown : w.classes.nameText c = .ok own) :
    w.setting = (arrived d own c w).setting := by
  have hn : w.classes.targetName [.ofClass c] = .ok own := hown
  rw [arrived, Act.begun_eq_started hn]
  rfl

/-- **A report on a class** in one of two twin worlds goes with a report in the other one: the
issues on what the class is and on private constructors may differ, and all others are the same. -/
theorem Issued.twins (hm : m.IsBlind) (t : World.Twins x w w')
    (hw : StaysWithin m x (.ofClass c) w) (hw' : StaysWithin m x (.ofClass c) w')
    (hdescribed : ∀ d, w.classes.description c = .ok d →
      ∃ d', w'.classes.description c = .ok d' ∧ AgreesButFinal d d')
    (hr : Issued m c blocking w report) :
    ∃ d d' own list list' rest, w.classes.description c = .ok d ∧
      w'.classes.description c = .ok d' ∧ w.classes.nameText c = .ok own ∧
      LooksAt w.classes c d list ∧ LooksAt w'.classes c d' list' ∧
      report = Run.verdict d own (classIssues d own ++ privacyIssues list ++ rest) ∧
      Issued m c blocking w'
        (Run.verdict d' own (classIssues d' own ++ privacyIssues list' ++ rest)) := by
  cases hr with
  | @barred d own hd hown hb =>
    obtain ⟨d', hd', hagree⟩ := hdescribed d hd
    have hb' : d'.isConcrete = false := hagree.isConcrete.trans hb
    refine ⟨d, d', own, [], [], [], hd, hd', hown, ?_, ?_, ?_, ?_⟩
    · rw [LooksAt, hb]
      rfl
    · rw [LooksAt, hb']
      rfl
    · simp [privacyIssues]
    · have hissued : Issued m c blocking w' (Run.verdict d' own (classIssues d' own)) :=
        .barred hd' ((t.nameText c).trans hown) hb'
      simpa [privacyIssues] using hissued
  | @passed d own list q outcome w₁ w₂ isBlocking blockingName kind hd hown hc hlist hq hinvoke
      hblocked hjudge =>
    obtain ⟨d', hd', hagree⟩ := hdescribed d hd
    have hc' : d'.isConcrete = true := hagree.isConcrete.trans hc
    have ta : World.Twins x (arrived d own c w) (arrived d' own c w') := arrived_twins t hown hagree
    obtain ⟨list', hlist', hbare⟩ :=
      Result.map_eq_ok_iff.1 ((t.listing c).trans (by rw [hlist]; rfl))
    -- the construction, and the question about what it came to
    obtain ⟨hresult, x₁, -, t₁⟩ := invoke_twins hm ta
      (fun _ => Handle.shown_ofClass_blind c) (hw.of_setting (setting_arrived hown))
      (hw'.of_setting (setting_arrived ((t.nameText c).trans hown)))
    rw [hinvoke] at hresult t₁
    obtain ⟨outcome', hinvoke', ho⟩ := Result.map_eq_ok_iff.1 hresult
    obtain ⟨x₂, w₂', hblocked', t₂⟩ := isBlocked_twins t₁ ho hblocked
    have hjudge' (r : Run) (hs : r.subject = d') (hr : r.concluded = false) :
        r.checkOutcome w₂'.classes q outcome' isBlocking =
          .ok (r.adding (outcomeIssues own blockingName kind isBlocking outcome')) := by
      have hback : r = { ({ r with subject := d } : Run) with subject := d' } := by
        rw [← hs]
      rw [checkOutcome_of_unmarked ho t₂.subjectName, outcomeIssues_of_unmarked ho, hback,
        Run.checkOutcome_about (r := { r with subject := d }) hr hagree.name,
        hjudge { r with subject := d } rfl hr]
      rfl
    have hissued := Issued.passed hd' ((t.nameText c).trans hown) hc' hlist'
      ((t.nameOf blocking).trans hq) (Prod.ext hinvoke' rfl) hblocked' hjudge'
    rw [diagnosis_of_concrete hc', argumentIssues_of_unmarked hbare,
      outcomeIssues_of_unmarked ho] at hissued
    refine ⟨d, d', own, list, list', argumentIssues own list ++
      outcomeIssues own blockingName kind isBlocking outcome, hd, hd', hown, ?_, ?_, ?_, ?_⟩
    · rw [LooksAt, hc]
      exact hlist
    · rw [LooksAt, hc']
      exact hlist'
    · rw [diagnosis_of_concrete hc]
      simp only [List.append_assoc]
    · simpa only [List.append_assoc] using hissued

end Reflection

end UtilityClass
