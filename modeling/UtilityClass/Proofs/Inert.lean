import UtilityClass.Proofs.Flagging
import UtilityClass.Proofs.Marking
import UtilityClass.Proofs.Twins

/-!
# Marks are inert

What is put on classes for the verifier is seen by the verifier alone. Private marks on constructors
show in the visibility of these constructors and in the issues that they are not private; the final
flag of a class shows in whether this class is final and in the issue that it ought to be. All other
answers and all other issues stay as they are: worlds before and behind are twins, and twins give
the same answers but for what reads the marks.

There are limits to this. Programs can read the marks, too, by verifying a class while an object is
constructed, and then the construction may end in another way. The flag is an attribute besides, and
it counts for a program that makes classes and takes the name of the flag for that of an abstract
method. And a class can show something else in the place of its namespace, where marks are not seen
at all.

Behind the flag, the comparison therefore ends where a construction makes a class, whatever the
methods of this class are, and it is asked of the world as a whole that nobody gives back a class
that has been there before to have its abstract methods noted anew.

## Main definitions

* `Reflection.PrivateMarksInert` : what private marks leave alone, and what they change
* `Reflection.FinalFlagInert` : what the final flag leaves alone, and what it changes
* `Reflection.IsSecluded` : constructions for which the flag does not count

## Main results

* `Reflection.privateMarks_inert`, `Reflection.finalFlag_inert`
* `Reflection.markers_inert` : both
* `Reflection.markers_observed` : the limits
-/

namespace UtilityClass

namespace Hierarchy

/-- Among the descriptors of declared constructors, those whose constructors have not been
marked. -/
def withoutHidden (marks : ClassId → String → List Mark) (c : ClassId)
    (declared : List (String × Constructor)) (list : List ConstructorDescriptor) :
    List ConstructorDescriptor :=
  ((declared.zip list).filter fun listed => !hidesEntry marks c listed.1).map Prod.snd

/-- The descriptors of declared constructors, those of marked ones private. -/
def withHidden (marks : ClassId → String → List Mark) (c : ClassId)
    (declared : List (String × Constructor)) (list : List ConstructorDescriptor) :
    List ConstructorDescriptor :=
  List.zipWith (fun entry d => d.hiddenIf (hidesEntry marks c entry)) declared list

variable {marks : ClassId → String → List Mark} {c : ClassId}

theorem privacyIssues_withHidden (declared : List (String × Constructor))
    (list : List ConstructorDescriptor) :
    privacyIssues (withHidden marks c declared list) =
      privacyIssues (withoutHidden marks c declared list) := by
  induction declared generalizing list with
  | nil => rfl
  | cons entry declared ih =>
    cases list with
    | nil => rfl
    | cons d list =>
      have hcons (d : ConstructorDescriptor) (list : List ConstructorDescriptor) :
          privacyIssues (d :: list) = privacyIssues [d] ++ privacyIssues list := by
        cases hd : d.isPrivate <;> simp [privacyIssues, hd]
      have hwith : withHidden marks c (entry :: declared) (d :: list) =
          d.hiddenIf (hidesEntry marks c entry) :: withHidden marks c declared list := rfl
      rw [hwith, hcons, ih]
      cases hh : hidesEntry marks c entry with
      | true => simp [withoutHidden, hh, privacyIssues]
      | false =>
        have hwithout : withoutHidden marks c (entry :: declared) (d :: list) =
            d :: withoutHidden marks c declared list := by
          simp [withoutHidden, hh]
        rw [hwithout, hcons d]
        rfl

end Hierarchy

/-! ## Where the library is as it was -/

namespace LibraryClass

/-- All classes of the library. -/
def all : List LibraryClass :=
  referable ++ [.blockingIOError, .connectionError, .brokenPipeError, .childProcessError,
    .connectionAbortedError, .connectionRefusedError, .connectionResetError, .fileExistsError,
    .interruptedError, .isADirectoryError, .notADirectoryError, .processLookupError, .timeoutError,
    .overflowError, .frozenInstanceError, .invalidOperation, .generator, .callableIterator,
    .listIterator, .textIterator, .asciiIterator, .keyIterator]

theorem mem_all (l : LibraryClass) : l ∈ all := by
  cases l <;> decide

end LibraryClass

namespace Hierarchy.KeepsLibrary

variable {h : Hierarchy} (hk : h.KeepsLibrary)
include hk

/-- No class of the library has an attribute of this name by being a class. -/
theorem hasPlainFlags (hdeclared : ∀ n m, ("__final__", m) ∈ (h.info (.declared n)).members →
    m.isField = false) : h.HasPlainFlags := by
  have hlibrary : ∀ l ∈ LibraryClass.all, ∀ entry ∈ l.info.members,
      entry.1 = "__final__" → entry.2.isField = false := by decide +kernel
  rintro (l | n) m hm
  · rw [hk.members] at hm
    exact hlibrary l l.mem_all _ hm rfl
  · exact hdeclared n m hm

/-- Behind the metaclass that keeps track of abstract methods there is only what creates classes,
unless a declared metaclass is derived from it. -/
theorem makesAfresh (hdeclared : ∀ n, h.derives (.declared n) LibraryClass.abcMeta = false) :
    h.MakesAfresh := by
  have hlibrary : ∀ l ∈ LibraryClass.all, ∀ d ∈ initial.orderAfter l LibraryClass.abcMeta,
      ∀ entry ∈ (initial.info d).members,
        entry.1 = "__new__" → entry.2.createsAfresh = true := by decide +kernel
  rintro (l | n) hderives d hd m hm
  · have horder : h.orderAfter l LibraryClass.abcMeta =
        initial.orderAfter l LibraryClass.abcMeta := by
      rw [orderAfter, hk.order]
      rfl
    rw [horder] at hd
    have hmem : d ∈ l.info.order := (List.dropWhile_sublist _).subset (List.mem_of_mem_drop hd)
    obtain ⟨k, rfl⟩ := exists_library_of_mem_order l hmem
    rw [hk.members] at hm
    exact hlibrary l l.mem_all _ hd _ hm rfl
  · rw [hdeclared] at hderives
    cases hderives

end Hierarchy.KeepsLibrary

namespace Reflection

open Hierarchy (withHidden withoutHidden finalFlag)

/-- The answers to a question, but for the visibility of constructors. -/
def bareListing (answer : Except Raised (List ConstructorDescriptor)) :
    Except Raised (List ConstructorDescriptor) :=
  answer.map (List.map ConstructorDescriptor.unmarked)

/-! ## Private marks -/

/-- Marks on constructors are inert: of the answers before and behind them only the visibility of
constructors is not the same. It is compared what becomes of constructions that verify no class.

Where a class declares constructors, those that have been marked are private behind, and the report
on the class lacks the issues that they are not. All others are there, in the same order, and
without any issue the report is a good one. -/
structure PrivateMarksInert (m : Machinery) (marks : ClassId → String → List Mark)
    (w w' : World) : Prop where
  describe (s : Subject) : (describe s w').1 = (describe s w).1
  invoke (s : Subject) : VerifiesNoClass m s w → VerifiesNoClass m s w' →
    (invoke m s w').1.map Outcome.unmarked = (invoke m s w).1.map Outcome.unmarked
  constructors (s : Subject) : bareListing (constructors s w').1 = bareListing (constructors s w).1
  declared (c : ClassId) (declared : List (String × Constructor)) :
    w.classes.declaredConstructors c = .ok declared → declared ≠ [] →
      (Reflection.constructors (.ofClass c) w').1 =
        (Reflection.constructors (.ofClass c) w).1.map (withHidden marks c declared)
  reports (c blocking : ClassId) : VerifiesNoClass m (.ofClass c) w →
    VerifiesNoClass m (.ofClass c) w' →
      ((∃ report, ((useCase m blocking).execute m (.ofClass c) w').1 = .ok report) ↔
        ∃ report, ((useCase m blocking).execute m (.ofClass c) w).1 = .ok report)
  issues (c blocking : ClassId) (declared : List (String × Constructor)) (report : Report) :
    w.classes.declaredConstructors c = .ok declared → declared ≠ [] →
    VerifiesNoClass m (.ofClass c) w → VerifiesNoClass m (.ofClass c) w' →
    ((useCase m blocking).execute m (.ofClass c) w).1 = .ok report →
      ∃ d own list rest, w.classes.description c = .ok d ∧ w.classes.nameText c = .ok own ∧
        LooksAt w.classes c d list ∧
        report = Run.verdict d own (classIssues d own ++ privacyIssues list ++ rest) ∧
        ((useCase m blocking).execute m (.ofClass c) w').1 = .ok (Run.verdict d own
          (classIssues d own ++ privacyIssues (withoutHidden marks c declared list) ++ rest))

section Answers

variable {w w' : World} {c : ClassId}

/-- What is told of a class does not touch the world. -/
theorem describe_fst (c : ClassId) (w : World) :
    (describe (.ofClass c) w).1 = (w.classes.description c).mapError Fault.raised := by
  rw [describe_run, Act.ofExcept_run]

theorem constructors_fst (c : ClassId) (w : World) :
    (constructors (.ofClass c) w).1 = (w.classes.listing c).mapError Fault.raised := by
  rw [constructors_run, Act.ofExcept_run]

/-- Plain data is refused in the same way in all worlds. -/
theorem refuse_data_fst {α : Type} (complaint : String → Fault) (value : Json) (w w' : World) :
    (Handle.refuse complaint (Act.ofExcept value.shown) w').1 =
      (Handle.refuse complaint (Act.ofExcept value.shown) w : Except Raised α × World).1 := by
  cases value.shown <;> rfl

theorem describe_data_fst (value : Json) (w w' : World) :
    (describe (Value.data value) w').1 = (describe (Value.data value) w).1 := by
  rw [Value.handle_data, describe_value]
  exact refuse_data_fst _ value w w'

theorem constructors_data_fst (value : Json) (w w' : World) :
    (constructors (Value.data value) w').1 = (constructors (Value.data value) w).1 := by
  rw [Value.handle_data, constructors_value]
  exact refuse_data_fst _ value w w'

/-- Without another flag, twins are described in the same way. -/
theorem description_twins (t : World.Twins none w w') (c : ClassId) :
    w'.classes.description c = w.classes.description c := by
  rw [← Hierarchy.description_unmarked, t.classes, Hierarchy.description_unmarked]

theorem describe_twins (t : World.Twins none w w') (s : Subject) :
    (describe s w').1 = (describe s w).1 := by
  cases s with
  | plain value => exact describe_data_fst value w w'
  | ofClass c =>
    show (describe (.ofClass c) w').1 = (describe (.ofClass c) w).1
    rw [describe_fst, describe_fst, description_twins t]

theorem constructors_twins {x : Option Flag} (t : World.Twins x w w') (s : Subject) :
    bareListing (constructors s w').1 = bareListing (constructors s w).1 := by
  have hmap (r : Except Fault (List ConstructorDescriptor)) :
      bareListing (r.mapError Fault.raised) =
        (r.map (List.map ConstructorDescriptor.unmarked)).mapError Fault.raised := by
    cases r <;> rfl
  cases s with
  | plain value => exact congrArg bareListing (constructors_data_fst value w w')
  | ofClass c =>
    show bareListing (constructors (.ofClass c) w').1 =
      bareListing (constructors (.ofClass c) w).1
    rw [constructors_fst, constructors_fst, hmap, hmap, t.listing]

end Answers

/-- Reports on twins are there together. -/
theorem exists_report_twins {m : Machinery} (hm : m.IsBlind) {x : Option Flag} {w w' : World}
    (t : World.Twins x w w') {c blocking : ClassId} (hw : StaysWithin m x (.ofClass c) w)
    (hw' : StaysWithin m x (.ofClass c) w')
    (hdescribed : ∀ d, w.classes.description c = .ok d →
      ∃ d', w'.classes.description c = .ok d' ∧ AgreesButFinal d d')
    (hr : ∃ report, ((useCase m blocking).execute m (.ofClass c) w).1 = .ok report) :
    ∃ report, ((useCase m blocking).execute m (.ofClass c) w').1 = .ok report := by
  obtain ⟨report, hr⟩ := hr
  obtain ⟨d, d', own, list, list', rest, -, -, -, -, -, -, hissued⟩ :=
    (execute_eq_ok_iff.1 hr).twins hm t hw hw' hdescribed
  exact ⟨_, execute_eq_ok_iff.2 hissued⟩

theorem looksAt_unique {h : Hierarchy} {c : ClassId} {d : TypeDescriptor}
    {list list' : List ConstructorDescriptor} (hl : LooksAt h c d list)
    (hl' : LooksAt h c d list') : list' = list := by
  unfold LooksAt at hl hl'
  split at hl
  · rw [if_pos ‹_›, hl] at hl'
    exact (Except.ok.inj hl').symm
  · rw [if_neg ‹_›] at hl'
    rw [hl, hl']

section Private

variable (w : World) (marks : ClassId → String → List Mark)

theorem twins_mark : World.Twins none w { w with classes := w.classes.mark marks } where
  bare := congrArg (fun h : Hierarchy => { w with classes := h, labels := unmarkedNamed w.labels })
    (w.classes.unmarked_mark marks)
  fits := .of_none _
  fits' := .of_none _

/-- The constructors that are looked at, of a class that declares some. -/
theorem privacyIssues_of_looksAt {c : ClassId} {d : TypeDescriptor}
    {declared : List (String × Constructor)} {list list' : List ConstructorDescriptor}
    (hd : w.classes.declaredConstructors c = .ok declared) (hne : declared ≠ [])
    (hl : LooksAt w.classes c d list) (hl' : LooksAt (w.classes.mark marks) c d list') :
    privacyIssues list' = privacyIssues (withoutHidden marks c declared list) := by
  rw [← Hierarchy.privacyIssues_withHidden]
  unfold LooksAt at hl hl'
  split at hl
  · have hmarked : (w.classes.mark marks).listing c =
        (w.classes.listing c).map (withHidden marks c declared) :=
      w.classes.listing_mark marks hd hne
    rw [if_pos ‹_›, hmarked, hl] at hl'
    rw [← Except.ok.inj hl']
  · rw [if_neg ‹_›] at hl'
    subst hl hl'
    cases declared <;> rfl

/-- **Marks on constructors are inert.** -/
theorem privateMarks_inert {m : Machinery} (hm : m.IsBlind) :
    PrivateMarksInert m marks w { w with classes := w.classes.mark marks } := by
  have t := twins_mark w marks
  have hwithin {s : Handle} {w : World} (hs : VerifiesNoClass m s w) : StaysWithin m none s w :=
    ⟨hs, nofun⟩
  have hdescribed {w w' : World} (t : World.Twins none w w') (c : ClassId) (d : TypeDescriptor)
      (hd : w.classes.description c = .ok d) :
      ∃ d', w'.classes.description c = .ok d' ∧ AgreesButFinal d d' :=
    ⟨d, (description_twins t c).trans hd, rfl, rfl, rfl⟩
  exact {
    describe := describe_twins t
    invoke := fun s hw hw' =>
      (invoke_twins hm t (fun _ => Handle.shown_blind s.value) (hwithin hw) (hwithin hw')).1
    constructors := constructors_twins t
    declared := fun c declared hd hne => by
      have hmarked : (w.classes.mark marks).listing c =
          (w.classes.listing c).map (withHidden marks c declared) :=
        w.classes.listing_mark marks hd hne
      rw [constructors_fst, constructors_fst, hmarked]
      cases w.classes.listing c <;> rfl
    reports := fun c blocking hw hw' =>
      ⟨exists_report_twins hm t.symm (hwithin hw') (hwithin hw) (hdescribed t.symm c),
        exists_report_twins hm t (hwithin hw) (hwithin hw') (hdescribed t c)⟩
    issues := fun c blocking declared report hd hne hw hw' hr => by
      obtain ⟨d, d', own, list, list', rest, hdesc, hdesc', hown, hlist, hlist', hreport,
        hissued⟩ := (execute_eq_ok_iff.1 hr).twins hm t (hwithin hw) (hwithin hw') (hdescribed t c)
      obtain rfl : d' = d := by
        rw [description_twins t, hdesc] at hdesc'
        exact (Except.ok.inj hdesc').symm
      refine ⟨d', own, list, rest, hdesc, hown, hlist, hreport, ?_⟩
      rw [← privacyIssues_of_looksAt w marks hd hne hlist hlist']
      exact execute_eq_ok_iff.2 hissued }

end Private

/-! ## Final flags -/

/-- What holds of worlds between constructions, as far as the comparison needs it: no attribute of
the name of the flag is one that classes have by being classes, and no label stands for a class
under way. -/
structure IsSettled (w : World) : Prop where
  flag : w.classes.HasPlainFlags
  labels : ∀ entry ∈ w.labels, entry.2.IsFinished

theorem isSettled_initial : IsSettled (.initial .initial) where
  flag := Hierarchy.keepsLibrary_initial.hasPlainFlags fun _ _ hm => nomatch hm
  labels _ he := nomatch he

/-- Constructing a class verifies no class and makes none, be it with abstract methods or without.
The last part is about all metaclasses of the world and not only about this construction: there is
none that could give back a class that has been there before to the one that keeps track of abstract
methods, which would note them anew. -/
structure IsSecluded (m : Machinery) (s : Subject) (w : World) : Prop where
  verifies : VerifiesNoClass m s w
  makes : MakesNoClass m s w
  afresh : w.classes.MakesAfresh

/-- The final flag of a class is inert: of the answers before and behind it only that is not the
same whether the class is final, and the report on the class lacks the issue that it is not. What
becomes of constructions is compared where they are secluded, in both worlds. -/
structure FinalFlagInert (m : Machinery) (c : ClassId) (w w' : World) : Prop where
  describe (s : Subject) : s ≠ .ofClass c → (describe s w').1 = (describe s w).1
  described : ∃ d, (Reflection.describe (.ofClass c) w).1 = .ok d ∧
    (Reflection.describe (.ofClass c) w').1 = .ok { d with isFinal := true }
  constructors (s : Subject) : (constructors s w').1 = (constructors s w).1
  invoke (s : Subject) : IsSecluded m s w → IsSecluded m s w' →
    (invoke m s w').1.map Outcome.unmarked = (invoke m s w).1.map Outcome.unmarked
  reports (e blocking : ClassId) (report : Report) : e ≠ c →
    IsSecluded m (.ofClass e) w → IsSecluded m (.ofClass e) w' →
      (((useCase m blocking).execute m (.ofClass e) w').1 = .ok report ↔
        ((useCase m blocking).execute m (.ofClass e) w).1 = .ok report)
  reported (blocking : ClassId) : IsSecluded m (.ofClass c) w → IsSecluded m (.ofClass c) w' →
    ((∃ report, ((useCase m blocking).execute m (.ofClass c) w').1 = .ok report) ↔
      ∃ report, ((useCase m blocking).execute m (.ofClass c) w).1 = .ok report)
  issues (blocking : ClassId) (report : Report) :
    IsSecluded m (.ofClass c) w → IsSecluded m (.ofClass c) w' →
    ((useCase m blocking).execute m (.ofClass c) w).1 = .ok report →
      ∃ d own rest, w.classes.description c = .ok d ∧ w.classes.nameText c = .ok own ∧
        report = Run.verdict d own (classIssues d own ++ rest) ∧
        ((useCase m blocking).execute m (.ofClass c) w').1 =
          .ok (Run.verdict d own (classIssues { d with isFinal := true } own ++ rest))

section Final

variable {w : World} {c : ClassId}

theorem isAbstract_of_isConcrete {d : TypeDescriptor} (hd : d.isConcrete = true) :
    d.isAbstract = false := by
  unfold TypeDescriptor.isConcrete at hd
  split at hd
  · simpa using hd
  · cases hd

theorem twins_flagged (hw : IsSettled w) (hs : w.classes.IsSettled)
    (hs' : (w.classes.flagged c).IsSettled) :
    World.Twins (some (c, finalFlag)) w { w with classes := w.classes.flagged c } where
  bare := congrArg (fun h : Hierarchy => { w with classes := h, labels := unmarkedNamed w.labels })
    (w.classes.unmarked_flagged finalFlag)
  fits := ⟨fun _ => hs, fun _ => hw.labels, by rintro _ ⟨⟩; rfl⟩
  fits' := ⟨fun _ => hs', fun _ => hw.labels, by rintro _ ⟨⟩; rfl⟩

theorem exists_agreesButFinal {h h' : Hierarchy} {d₀ d₀' : TypeDescriptor}
    (hd₀ : h.description c = .ok d₀) (hd₀' : h'.description c = .ok d₀')
    (hagree : AgreesButFinal d₀ d₀') (d : TypeDescriptor) (hd : h.description c = .ok d) :
    ∃ d', h'.description c = .ok d' ∧ AgreesButFinal d d' := by
  rw [hd₀] at hd
  cases hd
  exact ⟨d₀', hd₀', hagree⟩

/-- Reports on twins that are described in the same way, with the same constructors. -/
theorem execute_twins {m : Machinery} (hm : m.IsBlind) {x : Option Flag} {w w' : World}
    (t : World.Twins x w w') {e blocking : ClassId} (hw : StaysWithin m x (.ofClass e) w)
    (hw' : StaysWithin m x (.ofClass e) w')
    (hdescribed : w'.classes.description e = w.classes.description e)
    (hlisted : w'.classes.listing e = w.classes.listing e) {report : Report}
    (hr : ((useCase m blocking).execute m (.ofClass e) w).1 = .ok report) :
    ((useCase m blocking).execute m (.ofClass e) w').1 = .ok report := by
  obtain ⟨d, d', own, list, list', rest, hd, hd', -, hl, hl', rfl, hissued⟩ :=
    (execute_eq_ok_iff.1 hr).twins hm t hw hw' fun d hd =>
      ⟨d, hdescribed.trans hd, rfl, rfl, rfl⟩
  rw [hdescribed, hd] at hd'
  cases hd'
  rw [LooksAt, hlisted, ← LooksAt] at hl'
  rw [looksAt_unique hl hl'] at hissued
  exact execute_eq_ok_iff.2 hissued

/-- **The final flag is inert** for a concrete class that takes it, where no class notes it among
its abstract methods. -/
theorem finalFlag_inert {m : Machinery} (hm : m.IsBlind) (hw : IsSettled w) {h' : Hierarchy}
    (ht : w.classes.TakesFlag c h') (hnoted : w.classes.NotesNoFlag) {d₀ : TypeDescriptor}
    (hd₀ : w.classes.description c = .ok d₀) (hconcrete : d₀.isConcrete = true) :
    FinalFlagInert m c w { w with classes := h' } := by
  obtain ⟨entries, hshown⟩ := ht.shown
  have hkeeps := ht.keeps
  obtain rfl := ht.eq_flagged hw.flag
  -- both worlds are the same with one flag in this place, whatever flag there was before
  have htwins {s : Subject} (hs : IsSecluded m s w) :
      World.Twins (some (c, finalFlag)) w { w with classes := w.classes.flagged c } :=
    have hsettled : w.classes.IsSettled := ⟨hs.afresh, hw.flag⟩
    twins_flagged hw hsettled (hsettled.of_keeps hkeeps)
  have hwithin {s : Subject} {w : World} (hs : IsSecluded m s w) :
      StaysWithin m (some (c, finalFlag)) s w := ⟨hs.verifies, fun _ => hs.makes⟩
  have hflagged : (w.classes.flagged c).description c = .ok { d₀ with isFinal := true } :=
    Hierarchy.description_flagged_self hnoted hshown hd₀ (isAbstract_of_isConcrete hconcrete)
  have hdescribed := exists_agreesButFinal hd₀ hflagged ⟨rfl, rfl, rfl⟩
  have hdescribed' := exists_agreesButFinal hflagged hd₀ ⟨rfl, rfl, rfl⟩
  exact {
    describe := fun s hs => by
      cases s with
      | plain value => exact describe_data_fst value _ _
      | ofClass e =>
        have he : e ≠ c := fun he => hs (congrArg Subject.ofClass he)
        show (describe (.ofClass e) _).1 = (describe (.ofClass e) w).1
        rw [describe_fst, describe_fst, Hierarchy.description_flagged_of_ne hnoted he]
    described := ⟨d₀, by rw [describe_fst, hd₀]; rfl, by rw [describe_fst, hflagged]; rfl⟩
    constructors := fun s => by
      cases s with
      | plain value => exact constructors_data_fst value _ _
      | ofClass e =>
        show (constructors (.ofClass e) _).1 = (constructors (.ofClass e) w).1
        rw [constructors_fst, constructors_fst, Hierarchy.listing_flagged]
    invoke := fun s hs hs' => (invoke_twins hm (htwins hs) (fun _ => Handle.shown_blind s.value)
      (hwithin hs) (hwithin hs')).1
    reports := fun e blocking report he hs hs' => by
      have hdesc := Hierarchy.description_flagged_of_ne hnoted he
      have hlist := w.classes.listing_flagged (c := c) (d := e)
      have t := htwins hs
      exact ⟨execute_twins hm t.symm (hwithin hs') (hwithin hs) hdesc.symm hlist.symm,
        execute_twins hm t (hwithin hs) (hwithin hs') hdesc hlist⟩
    reported := fun blocking hs hs' =>
      have t := htwins hs
      ⟨exists_report_twins hm t.symm (hwithin hs') (hwithin hs) hdescribed',
        exists_report_twins hm t (hwithin hs) (hwithin hs') hdescribed⟩
    issues := fun blocking report hs hs' hr => by
      obtain ⟨d, d', own, list, list', rest, hd, hd', hown, hl, hl', rfl, hissued⟩ :=
        (execute_eq_ok_iff.1 hr).twins hm (htwins hs) (hwithin hs) (hwithin hs') hdescribed
      obtain rfl := Except.ok.inj (hd₀.symm.trans hd)
      obtain rfl := Except.ok.inj (hd'.symm.trans hflagged)
      -- the flag is not looked at when constructors are listed, so both lists are the same
      have hlooks : LooksAt w.classes c d₀ list' := by
        rw [LooksAt, Hierarchy.listing_flagged] at hl'
        exact hl'
      rw [looksAt_unique hl hlooks] at hissued
      refine ⟨d₀, own, privacyIssues list ++ rest, hd₀, hown, by rw [List.append_assoc], ?_⟩
      rw [← List.append_assoc]
      exact execute_eq_ok_iff.2 hissued }

end Final

/-! ## Marks with and without consequences -/

/-- **Markers are inert** but for what they declare. What is marked stands in its place with the
mark. Private marks on any constructors, and the final flag of a concrete class that takes it, leave
the answers about all classes as they are, but for the visibility of the marked constructors and for
the class with the flag being final. Reports lack the issues on these two, and no others.

It is not compared what becomes of constructions that verify a class and, behind the flag, of those
that make one, nor, behind the flag, of any construction in a world where a class that has been
there before could be given back to have its abstract methods noted; and no class is to note the
name of the flag among them. -/
theorem markers_inert (n : Nat) {w : World} (hw : IsSettled w) :
    (∀ (k : Mark) (m : Member) (b : Bearer), m.bearer? k = some b →
      ∃ b', b.mark (.level n) w = (.ok b', w) ∧ (m.mark k).bearer? k = some b') ∧
    (∀ marks, PrivateMarksInert (.level n) marks w { w with classes := w.classes.mark marks }) ∧
      ∀ (c : ClassId) (h' : Hierarchy) (d : TypeDescriptor), w.classes.TakesFlag c h' →
        w.classes.NotesNoFlag → w.classes.description c = .ok d → d.isConcrete = true →
          FinalFlagInert (.level n) c w { w with classes := h' } :=
  ⟨fun _ _ _ hb => Bearer.mark_of_bearer? hb (.level n) w,
    fun marks => privateMarks_inert w marks (Machinery.level_isBlind n),
    fun _ _ _ ht hnoted hd hconcrete =>
      finalFlag_inert (Machinery.level_isBlind n) hw ht hnoted hd hconcrete⟩

/-! ### A class that its constructor blocks -/

/-- The world in which the flag of a class has been set. -/
def withFlag (w : World) (c : ClassId) : World :=
  { w with
    classes := ((w.classes.assign c "__final__" finalFlag).toOption).getD w.classes }

/-- One mark on all constructors of a class. -/
def marksOn (k : Mark) (c d : ClassId) (_name : String) : List Mark := if d = c then [k] else []

/-- The world in which the constructors of a class have been marked. -/
def withMark (k : Mark) (w : World) (c : ClassId) : World :=
  { w with classes := w.classes.mark (marksOn k c) }

/-- A function of an object with a body. -/
def drafted (body : List Statement) : FunctionDraft where
  form := .plain
  outer := {
    parameters := [.bare .plain "self"]
    result := none
    marker := none
    signatureValue := none }
  inner := []
  marksWrapper := false
  body

namespace Watched

/-- A function that raises the exception that blocks a class. -/
def blocking : FunctionDraft := drafted [.raise (.ofClass LibraryClass.typeError) none]

/-- A class with this function as its constructor. -/
def blocked : Declaration :=
  { Declaration.bare "P" with initialiser := some (.function blocking) }

/-- A class whose constructor verifies the first one. -/
def verifying : Declaration :=
  { Declaration.bare "A" with
    initialiser := some (.function (drafted [.verify (.ofClass (.declared 0))])) }

/-- The world in which both are declared. -/
def world : World :=
  ((do discard (blocked.declare .standard); verifying.declare .standard) (.initial .initial)).2

/-- The first class. -/
def target : ClassId := .declared 0

/-- The second class. -/
def verifier : ClassId := .declared 1

theorem keepsLibrary : world.classes.KeepsLibrary := ⟨fun _ => rfl, fun _ => rfl, fun _ => rfl⟩

theorem isSettled : IsSettled world where
  flag := keepsLibrary.hasPlainFlags fun n m hm => by
    have hdeclared : ∀ c ∈ [target, verifier], ∀ entry ∈ (world.classes.info c).members,
        entry.1 = "__final__" → entry.2.isField = false := by decide +kernel
    rcases n with _ | _ | n
    · exact hdeclared target (by simp) _ hm rfl
    · exact hdeclared verifier (by simp) _ hm rfl
    · cases hm
  labels _ he := nomatch he

theorem makesAfresh : world.classes.MakesAfresh :=
  keepsLibrary.makesAfresh fun n => by rcases n with _ | _ | n <;> rfl

/-- Whether a name is that of the flag. -/
def isFlagName : Json → Bool
  | .str name => name == "__final__"
  | _ => false

theorem notesNoFlag : world.classes.NotesNoFlag := by
  have hlibrary : ∀ l ∈ LibraryClass.all, ((world.classes.notedNames l).toOption.all
      fun names => !names.any isFlagName) = true := by decide +kernel
  have hdeclared (n : Nat) : ((world.classes.notedNames (.declared n)).toOption.all
      fun names => !names.any isFlagName) = true := by
    rcases n with _ | _ | n <;> rfl
  intro c names hnames hmem
  have hall : ((world.classes.notedNames c).toOption.all
      fun names => !names.any isFlagName) = true := by
    cases c with
    | library l => exact hlibrary l l.mem_all
    | declared n => exact hdeclared n
  have hany : names.any isFlagName = true := List.any_eq_true.2 ⟨_, hmem, rfl⟩
  rw [hnames] at hall
  simp [Except.toOption, hany] at hall

theorem takesFlag : world.classes.TakesFlag target (withFlag world target).classes :=
  ⟨rfl, rfl, _, rfl⟩

/-- A construction that leaves each world as it is. -/
theorem isSecluded_of_run {s : Subject} {w : World} (ha : w.classes.MakesAfresh)
    (hrun : ∀ w', w.setting = w'.setting → (invoke (.level 2) s w').2 = w') :
    IsSecluded (.level 2) s w where
  verifies w' hw := congrArg World.journal (hrun w' hw)
  makes w' hw := congrArg (·.classes.declared) (hrun w' hw)
  afresh := ha

theorem isSecluded : IsSecluded (.level 2) (.ofClass target) world := by
  refine isSecluded_of_run makesAfresh fun w' hw => ?_
  cases w'
  cases hw
  rfl

theorem isSecluded_withFlag :
    IsSecluded (.level 2) (.ofClass target) (withFlag world target) := by
  have hsettled : world.classes.IsSettled := ⟨makesAfresh, isSettled.flag⟩
  refine isSecluded_of_run (hsettled.of_keeps takesFlag.keeps).afresh fun w' hw => ?_
  cases w'
  cases hw
  rfl

theorem verifiesNoClass_withMark :
    VerifiesNoClass (.level 2) (.ofClass target) (withMark .inside world target) := by
  intro w' hw
  cases w'
  cases hw
  rfl

end Watched

open Watched in
/-- All that is taken for granted is there in the world of a class that its constructor blocks, with
a private mark or the flag as well as without. -/
theorem markers_inert_blocked :
    IsSettled world ∧
    (∃ b, (Bearer.function none).mark (.level 2) world = (.ok b, world) ∧
      ((Member.function (blocking.function target "P" "__init__")).mark .inside).bearer? .inside =
        some b) ∧
    (VerifiesNoClass (.level 2) (.ofClass target) world ∧
      VerifiesNoClass (.level 2) (.ofClass target) (withMark .inside world target) ∧
      PrivateMarksInert (.level 2) (marksOn .inside target) world (withMark .inside world target)) ∧
    (∃ d, world.classes.TakesFlag target (withFlag world target).classes ∧
      world.classes.NotesNoFlag ∧ world.classes.description target = .ok d ∧
      d.isConcrete = true) ∧
    IsSecluded (.level 2) (.ofClass target) world ∧
    IsSecluded (.level 2) (.ofClass target) (withFlag world target) ∧
    FinalFlagInert (.level 2) target world (withFlag world target) := by
  obtain ⟨hmarked, hprivate, hfinal⟩ := markers_inert 2 isSettled
  exact ⟨isSettled, hmarked .inside (.function _) (.function none) rfl,
    ⟨isSecluded.verifies, verifiesNoClass_withMark, hprivate _⟩,
    ⟨_, takesFlag, notesNoFlag, rfl, rfl⟩, isSecluded, isSecluded_withFlag,
    hfinal target _ _ takesFlag notesNoFlag rfl rfl⟩

/-! ### Where marks are seen -/

/-- Whether a class passes the gate of verifications and takes the flag as an attribute. -/
def takesMarkers (w : World) (c : ClassId) : Bool :=
  match w.classes.description c, w.classes.assign c "__final__" finalFlag with
  | .ok d, .ok h => d.isConcrete && (h.own? c "__final__").isSome
  | _, _ => false

namespace Making

/-- A metaclass of enumerations that keep track of their abstract methods. -/
def metaclass : Declaration :=
  { Declaration.bare "M" with
    bases := [.ofClass LibraryClass.abcMeta, .ofClass LibraryClass.enumType] }

/-- A class to derive enumerations from. -/
def base : Declaration :=
  { Declaration.bare "C" with attributes := [("_boundary_", .null), ("__new_member__", .null)] }

/-- A function that notes the name of the flag among the abstract methods of its class. -/
def noting : FunctionDraft :=
  { drafted [.assign "__abstractmethods__" (.arr [.str "__final__"])] with
    outer := { (drafted []).outer with
      parameters := [.bare .plain "self", .bare .rest "a"] } }

/-- An enumeration whose members are initialised by this function. -/
def enumeration : Declaration :=
  { Declaration.bare "E" with
    bases := [.ofClass (.declared 1), .ofClass LibraryClass.enumeration]
    metaclass := some (.ofClass (.declared 0))
    initialiser := some (.function noting) }

/-- A class whose constructor makes an enumeration from it. -/
def making : Declaration :=
  { Declaration.bare "A" with
    initialiser := some (.function
      (drafted [.callClass (.ofClass (.declared 2)) [.str "N", .str "X Y"]])) }

/-- The world in which all four are declared, and the metaclass answers for attributes that it does
not have with something that cannot be called. -/
def world : World :=
  let w := ((do
    discard (metaclass.declare .standard)
    discard (base.declare .standard)
    discard (enumeration.declare .standard)
    making.declare .standard) (.initial .initial)).2
  { w with
    classes := ((w.classes.assign (.declared 0) "__getattr__" (.data (.int 5))).toOption).getD
      w.classes }

end Making

namespace Veiled

/-- A metaclass whose classes show something else in the place of their namespaces. -/
def metaclass : Declaration :=
  { Declaration.bare "M" with
    bases := [.ofClass LibraryClass.type]
    attributes := [("__dict__", .obj [])] }

/-- A class of this metaclass that shows something else as well. -/
def declaration : Declaration :=
  { Declaration.bare "C" with
    metaclass := some (.ofClass (.declared 0))
    attributes := [("__dict__", .obj [])]
    initialiser := some (.function { drafted [] with form := .classwise }) }

/-- The world in which both are declared. -/
def world : World :=
  ((do discard (metaclass.declare .standard); declaration.declare .standard)
    (.initial .initial)).2

end Veiled

namespace Noting

/-- A class with an abstract method of the name of the flag. -/
def noting : Declaration :=
  { Declaration.bare "B" with
    bases := [.ofClass LibraryClass.abc]
    methods := [("__final__", true)] }

/-- A class that is derived from another one and, behind it, from this one. -/
def derived : Declaration :=
  { Declaration.bare "D" with bases := [.ofClass (.declared 1), .ofClass (.declared 0)] }

/-- The world in which all three are declared, and the last one has forgotten which methods it noted
as abstract. -/
def world : World :=
  let w := ((do
    discard (noting.declare .standard)
    discard ((Declaration.bare "C").declare .standard)
    derived.declare .standard) (.initial .initial)).2
  { w with
    classes := ((w.classes.delete (.declared 2) "__abstractmethods__").toOption).getD w.classes }

end Noting

/-- The message of a construction that has failed. -/
def failureMessage? (answer : Except Raised Outcome) : Option String :=
  match answer with
  | .ok (.failedWith _ message) => message
  | _ => none

/-- Markers are seen where constructors verify a class or make one, and where the name of the flag
is noted as that of an abstract method. They are not seen where a class shows something else in the
place of its namespace. -/
theorem markers_observed :
    (takesMarkers Watched.world Watched.target = true ∧
      failureMessage? (invoke .standard (.ofClass Watched.verifier) Watched.world).1 = some
        ("Class [spec.P] does not validate as a utility class:\n" ++
          "- Expected class [spec.P] to be final.\n" ++
          "- Constructor [spec.P.__init__(self)] is not private.") ∧
      failureMessage? (invoke .standard (.ofClass Watched.verifier)
        (withMark .inside Watched.world Watched.target)).1 = some
        ("Class [spec.P] does not validate as a utility class:\n" ++
          "- Expected class [spec.P] to be final.") ∧
      failureMessage? (invoke .standard (.ofClass Watched.verifier)
        (withFlag Watched.world Watched.target)).1 = some
        ("Class [spec.P] does not validate as a utility class:\n" ++
          "- Constructor [spec.P.__init__(self)] is not private.")) ∧
    (takesMarkers Making.world (.declared 1) = true ∧
      failureMessage? (invoke .standard (.ofClass (.declared 3)) Making.world).1 =
        some "'int' object is not callable" ∧
      failureMessage? (invoke .standard (.ofClass (.declared 3))
        (withFlag Making.world (.declared 1))).1 = none) ∧
    (takesMarkers Veiled.world (.declared 1) = true ∧
      ((withFlag Veiled.world (.declared 1)).classes.description (.declared 1)).toOption.map
        (·.isFinal) = some false ∧
      (constructors (.ofClass (.declared 1))
        (withMark .outside Veiled.world (.declared 1))).1.toOption.map
          (List.map (·.isPrivate)) = some [false]) ∧
    takesMarkers Noting.world (.declared 1) = true ∧
      (Noting.world.classes.description (.declared 2)).toOption.map (·.isAbstract) = some true ∧
      ((withFlag Noting.world (.declared 1)).classes.description (.declared 2)).toOption.map
        (·.isAbstract) = some false := by
  refine ⟨?_, ?_, ?_, ?_⟩ <;> decide +kernel

end Reflection

end UtilityClass
