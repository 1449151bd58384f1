import UtilityClass.Proofs.CallTrace
import UtilityClass.Proofs.Discretion
import UtilityClass.Proofs.Habits
import UtilityClass.Proofs.PlainReading

/-!
# Exceptions of the library

A fault becomes an exception of the library. As long as nobody changes the library, such an
exception is an ordinary one and its class is what it seems to be: whoever catches it finds it as it
is, its class has a name that can be printed, and it has a text. No function runs for any of this.

An act that only complains fails with such exceptions alone. Observed calls keep this, since what
they do about a complaint can neither fail nor change anything.

## Main definitions

* `Fault.kinds`, `libraryErrors` : the classes of the exceptions that faults become, and of all
  exceptions that come from the library
* `Raised.IsOfFault` : an exception that a fault has become
* `Act.OnlyComplains` : acts that fail with such exceptions only

## Main results

* `Hierarchy.KeepsLibrary.isSubclass_self`, `Hierarchy.KeepsLibrary.loggedName_eq`,
  `Hierarchy.KeepsLibrary.textOf_run` : what is found of an exception of such a class
* `Act.OnlyComplains.measured` : observed calls
-/

namespace UtilityClass

namespace Fault

/-- The classes of the exceptions that faults become. -/
def kinds : List LibraryClass :=
  [.typeError, .valueError, .overflowError, .assertionError, .indexError, .lookupError,
    .runtimeError, .zeroDivisionError, .invalidOperation, .keyError, .attributeError,
    .recursionError, .frozenInstanceError, .verificationError, .introspectionError]

theorem kind_mem (f : Fault) : f.kind ∈ kinds := by
  cases f with
  | name e => cases e <;> simp [kind, NameError.kind, kinds]
  | template e =>
    cases e with
    | unnamed cause => cases cause <;> simp [kind, Template.Error.kind, kinds, NameError.kind]
    | _ => simp [kind, Template.Error.kind, kinds]
  | declaration e => cases e <;> simp [kind, DeclarationError.kind, kinds]
  | change e => cases e <;> simp [kind, ChangeError.kind, kinds]
  | refusal r =>
    cases r with
    | complaint k message => cases k <;> simp [kind, Refusal.kind, ComplaintKind.library, kinds]
    | _ => simp [kind, Refusal.kind, kinds]
  | _ => simp [kind, kinds]

end Fault

/-- The classes of all exceptions that come from the library itself. -/
def libraryErrors : List LibraryClass := .utilityClassViolation :: Fault.kinds

theorem contains_of_kind {l d : LibraryClass} (hl : l ∈ libraryErrors) (hd : d ∈ [l, .exception]) :
    l.info.order.contains (.library d) = true := by
  have hall : ∀ l ∈ libraryErrors, ∀ d ∈ [l, LibraryClass.exception],
      l.info.order.contains (.library d) = true := by decide
  exact hall l hl d hd

theorem metaclass_of_kind {l : LibraryClass} (hl : l ∈ libraryErrors) :
    l.info.metaclass = .library .type := by
  revert l
  decide

/-- The text of such an exception is given by a native function. -/
theorem exists_describer_of_kind {l : LibraryClass} (hl : l ∈ libraryErrors) :
    ∃ k, Hierarchy.initial.resolve? l "__str__" = some (.library k, .native (.describe k)) ∧
      ClassId.library k ∈ l.info.order := by
  simp only [libraryErrors, Fault.kinds, List.mem_cons, List.not_mem_nil, or_false] at hl
  obtain rfl | rfl | rfl | rfl | rfl | rfl | rfl | rfl | rfl | rfl | rfl | rfl | rfl | rfl | rfl |
    rfl := hl <;> exact ⟨_, rfl, by decide⟩

namespace Hierarchy.KeepsLibrary

open Act (bind_run_of_ok)

variable {w : World} (hlibrary : w.classes.KeepsLibrary) {l : LibraryClass}
  (hl : l ∈ libraryErrors)
include hlibrary hl

theorem isException_eq : w.classes.isException l = true := by
  rw [isException, derives, hlibrary.order]
  exact contains_of_kind hl (by simp)

/-- Such a class says of itself that it derives from itself. -/
theorem isSubclass_self : Act.isSubclass l l w = (.ok true, w) := by
  have hcheck : ∃ m, w.classes.resolve? (w.classes.info l).metaclass "__subclasscheck__" =
      some (.library .type, m) := by
    rw [hlibrary.metaclass, metaclass_of_kind hl]
    exact ⟨_, (hlibrary.resolve?_eq .type _).trans rfl⟩
  obtain ⟨m, hcheck⟩ := hcheck
  have hself : w.classes.derives l l = true := by
    rw [derives, hlibrary.order]
    exact contains_of_kind hl (by simp)
  rw [Act.isSubclass_run hcheck, hself]

/-- Its name can be printed. -/
theorem loggedName_eq : w.classes.loggedName l = .ok (.data (.str (w.classes.info l).name)) := by
  have hmeta : (w.classes.info l).metaclass = .library .type :=
    (hlibrary.metaclass l).trans (metaclass_of_kind hl)
  have hread : w.classes.read l "__name__" = .ok ⟨.native (.field "__name__"), true⟩ := by
    rw [read, hlibrary.read?_eq List.mem_cons_self hmeta,
      hlibrary.lookUp?_field List.mem_cons_self hmeta List.mem_cons_self]
    rfl
  rw [loggedName, hread]
  rfl

/-- An exception of such a class has a text, and no function runs for it. -/
theorem textOf_run (m : Machinery) {i : Instance} (hi : i.type = .library l) {k : LibraryClass}
    (hk : Hierarchy.initial.resolve? l "__str__" = some (.library k, .native (.describe k))) :
    Construction.textOf m i w = (.ok (i.describe k), w) := by
  obtain ⟨k', hk', horder⟩ := exists_describer_of_kind hl
  obtain rfl : k' = k := by
    rw [hk] at hk'
    cases hk'
    rfl
  have htext : w.classes.resolve? i.type "__str__" =
      some (.library k', .native (.describe k')) := by
    rw [hi, hlibrary.resolve?_eq, hk]
  have hof : (Value.object i).isOf w.classes k' = true := by
    show w.classes.derives i.type k' = true
    rw [hi, derives, hlibrary.order, List.contains_iff_mem]
    exact horder
  have happly : Construction.applyNative m (.describe k') [.object i] [] w =
      (.ok (.data (.str (i.describe k')), .object i), w) := by
    rw [Construction.applyNative, bind_run_of_ok (Act.classes_run w)]
    dsimp only
    rw [hof]
    rfl
  have hon : Construction.applyOn m (.native (.describe k')) (.object i) [] [] w =
      (.ok (.data (.str (i.describe k'))), w) := by
    rw [Construction.applyOn, bind_run_of_ok (Act.classes_run w)]
    exact bind_run_of_ok happly
  rw [Construction.textOf, bind_run_of_ok (Act.classes_run w), htext]
  exact bind_run_of_ok hon

/-- What such a class says of its exceptions, and of their traces, is what these keep themselves. -/
theorem readOn?_eq {i : Instance} (hi : i.type = .library l) {name : String}
    (hn : name ∈ ["args", "__traceback__"]) : ∃ (k : LibraryClass) (m : Member),
      w.classes.readOn? (.object i) name = .ok (some (.library k, m)) := by
  have hinitial : (∃ k m, initial.resolve? l name = some (.library k, m) ∧ m.isPlace = false) ∧
      ∃ k m, initial.resolve? l "__getattribute__" = some (.library k, m) := by
    simp only [libraryErrors, Fault.kinds, List.mem_cons, List.not_mem_nil, or_false] at hl hn
    obtain rfl | rfl := hn <;>
      obtain rfl | rfl | rfl | rfl | rfl | rfl | rfl | rfl | rfl | rfl | rfl | rfl | rfl | rfl |
        rfl | rfl := hl <;> exact ⟨⟨_, _, rfl, rfl⟩, _, _, rfl⟩
  obtain ⟨⟨k, m, hm, hplace⟩, d, hook, hhook⟩ := hinitial
  refine ⟨k, m, ?_⟩
  rw [readOn?]
  simp only [Value.type, hi, hlibrary.resolve?_eq, hm, hhook, Option.filter_some, hplace]
  rfl

theorem leftBody_eq {e : Raised} (he : e.error.type = .library l) :
    Reflection.leftBody w.classes e = .ok (decide (0 < e.frames)) := by
  have hname : "__traceback__" ∈ ["args", "__traceback__"] := by decide
  obtain ⟨k, m, hread⟩ := hlibrary.readOn?_eq hl he hname
  rw [Reflection.leftBody, hread]
  rfl

/-- The message of such an exception is its text, unless it carries nothing. -/
theorem messageOf_run (m : Machinery) {e : Raised} (he : e.error.type = .library l)
    {k : LibraryClass}
    (hk : Hierarchy.initial.resolve? l "__str__" = some (.library k, .native (.describe k))) :
    Reflection.messageOf m.above e w =
      (.ok (if e.error.arguments.isEmpty then none else some (e.error.describe k)), w) := by
  have hname : "args" ∈ ["args", "__traceback__"] := List.mem_cons_self
  obtain ⟨d, member, hread⟩ := hlibrary.readOn?_eq hl he hname
  have hcarries : Reflection.carries w.classes e.error = .ok (!e.error.arguments.isEmpty) := by
    rw [Reflection.carries, hread]
    rfl
  have htext : m.above.textOf e.error w = (.ok (e.error.describe k), w) :=
    hlibrary.textOf_run hl m he hk
  rw [Reflection.messageOf, bind_run_of_ok (Act.classes_run w), hcarries,
    bind_run_of_ok (Act.ofExcept_ok_run _ w)]
  cases e.error.arguments with
  | nil => rfl
  | cons argument rest => exact bind_run_of_ok htext

end Hierarchy.KeepsLibrary

/-! ## Complaints -/

namespace Raised

/-- An exception is one that a fault has become. It may have left functions since. -/
def IsOfFault (e : Raised) : Prop := ∃ (f : Fault) (frames : Nat), e = { f.raised with frames }

theorem isOfFault_raised (f : Fault) : f.raised.IsOfFault := ⟨f, 0, rfl⟩

namespace IsOfFault

variable {e : Raised} (he : e.IsOfFault) {w : World} (hlibrary : w.classes.KeepsLibrary)
include he

theorem exists_kind :
    ∃ l ∈ libraryErrors, e.error.type = .library l ∧ e.raisedAs = .library l := by
  obtain ⟨f, frames, rfl⟩ := he
  exact ⟨f.kind, List.mem_cons_of_mem _ f.kind_mem, rfl, rfl⟩

/-- The verdict on a class is no fault. -/
theorem ne_violation : e.error.type ≠ LibraryClass.utilityClassViolation := by
  obtain ⟨f, frames, rfl⟩ := he
  intro hkind
  have hmem : LibraryClass.utilityClassViolation ∈ Fault.kinds := by
    rw [← ClassId.library.inj hkind]
    exact f.kind_mem
  revert hmem
  decide

theorem settled_eq : e.settled = e := by
  obtain ⟨l, -, htype, has⟩ := he.exists_kind
  rw [Raised.settled, htype, ← has]

include hlibrary

theorem isException_eq : w.classes.isException e.error.type = true := by
  obtain ⟨l, hl, htype, -⟩ := he.exists_kind
  rw [htype]
  exact hlibrary.isException_eq hl

theorem isSubclass_run : Act.isSubclass e.error.type e.raisedAs w = (.ok true, w) := by
  obtain ⟨l, hl, htype, has⟩ := he.exists_kind
  rw [htype, has]
  exact hlibrary.isSubclass_self hl

/-- Whoever catches it finds it as it is. -/
theorem settle_run (m : Machinery) : e.settle m w = (.ok e, w) := by
  rw [Act.settle_of_isSubclass m (he.isSubclass_run hlibrary), he.settled_eq]

theorem loggedName_eq :
    w.classes.loggedName e.error.type = .ok (.data (.str (w.classes.info e.error.type).name)) := by
  obtain ⟨l, hl, htype, -⟩ := he.exists_kind
  rw [htype]
  exact hlibrary.loggedName_eq hl

omit hlibrary in
/-- It has the same text in all worlds. -/
theorem exists_textOf_run (m : Machinery) : ∃ text, ∀ w : World, w.classes.KeepsLibrary →
    Construction.textOf m e.error w = (.ok text, w) := by
  obtain ⟨l, hl, htype, -⟩ := he.exists_kind
  obtain ⟨k, hk, -⟩ := exists_describer_of_kind hl
  exact ⟨_, fun w hlibrary => hlibrary.textOf_run hl m htype hk⟩

end IsOfFault

end Raised

namespace Hierarchy

variable {h h' : Hierarchy} (he : h'.withoutAnswers = h.withoutAnswers)
include he

theorem name_of_withoutAnswers (c : ClassId) : (h'.info c).name = (h.info c).name := by
  have hnames := congrArg (fun k : Hierarchy => (k.info c).name) he
  exact hnames

theorem KeepsLibrary.of_withoutAnswers (hlibrary : h.KeepsLibrary) : h'.KeepsLibrary where
  order l := (congrArg (fun k : Hierarchy => (k.info l).order) he).trans (hlibrary.order l)
  metaclass l :=
    (congrArg (fun k : Hierarchy => (k.info l).metaclass) he).trans (hlibrary.metaclass l)
  members l := (congrArg (fun k : Hierarchy => (k.info l).members) he).trans (hlibrary.members l)

end Hierarchy

namespace Act

variable {α β γ : Type}

/-- From worlds that have a property, an act leads to such worlds, and if it fails there, it does so
by complaining. -/
structure OnlyComplains (S : World → Prop) (act : Act α) : Prop where
  keeps (w : World) : S w → S (act w).2
  fails (w : World) (e : Raised) : S w → (act w).1 = .error e → e.IsOfFault

namespace OnlyComplains

variable {S : World → Prop}

theorem ofExcept (x : Except Fault α) : OnlyComplains S (ofExcept x) where
  keeps w hw := by
    rw [ofExcept_run]
    exact hw
  fails w e _ he := by
    cases x with
    | ok a => cases he
    | error f =>
      cases he
      exact Raised.isOfFault_raised f

theorem throw {e : Raised} (he : e.IsOfFault) : OnlyComplains S (throw e : Act α) where
  keeps w hw := hw
  fails w e' _ hthrown := by
    rw [throw_run] at hthrown
    obtain rfl := Except.error.inj hthrown
    exact he

theorem bind {act : Act α} {f : α → Act β} (hact : OnlyComplains S act)
    (hf : ∀ a, OnlyComplains S (f a)) : OnlyComplains S (act >>= f) where
  keeps w hw := by
    have h := hact.keeps w hw
    rcases hr : act w with ⟨e | a, w'⟩ <;> rw [hr] at h
    · rw [bind_run_of_error hr]
      exact h
    · rw [bind_run_of_ok hr]
      exact (hf a).keeps w' h
  fails w e hw he := by
    have h := hact.keeps w hw
    rcases hr : act w with ⟨e' | a, w'⟩ <;> rw [hr] at h
    · rw [bind_run_of_error hr] at he
      cases he
      exact hact.fails w e hw (by rw [hr])
    · rw [bind_run_of_ok hr] at he
      exact (hf a).fails w' e h he

theorem inFrame {act : Act α} (hact : OnlyComplains S act) : OnlyComplains S (inFrame act) where
  keeps w hw := by
    have h := hact.keeps w hw
    unfold Act.inFrame
    rcases hr : act w with ⟨e | a, w'⟩ <;> rw [hr] at h <;> exact h
  fails w e hw he := by
    have h := hact.fails w
    unfold Act.inFrame at he
    rcases hr : act w with ⟨e' | a, w'⟩ <;> rw [hr] at h he <;> cases he
    obtain ⟨f, frames, rfl⟩ := h e' hw rfl
    exact ⟨f, frames + 1, rfl⟩

/-- An act that does not fail. -/
theorem of_ok {act : Act α} (hact : ∀ w, S w → ∃ a w', act w = (.ok a, w') ∧ S w') :
    OnlyComplains S act where
  keeps w hw := by
    obtain ⟨a, w', hr, hw'⟩ := hact w hw
    rw [hr]
    exact hw'
  fails w e hw he := by
    obtain ⟨a, w', hr, -⟩ := hact w hw
    rw [hr] at he
    cases he

/-- An act that does not fail, and whose values have a property on which what follows relies. -/
theorem bind_of_ok {act : Act α} {f : α → Act β} (Q : α → Prop)
    (hact : ∀ w, S w → ∃ a w', act w = (.ok a, w') ∧ S w' ∧ Q a)
    (hf : ∀ a, Q a → OnlyComplains S (f a)) : OnlyComplains S (act >>= f) where
  keeps w hw := by
    obtain ⟨a, w', hr, hw', ha⟩ := hact w hw
    rw [bind_run_of_ok hr]
    exact (hf a ha).keeps w' hw'
  fails w e hw he := by
    obtain ⟨a, w', hr, hw', ha⟩ := hact w hw
    rw [bind_run_of_ok hr] at he
    exact (hf a ha).fails w' e hw' he

theorem classes : OnlyComplains S Act.classes := of_ok fun w hw => ⟨_, w, rfl, hw⟩

end OnlyComplains

/-- Where classes are asked, they stay what they are up to the answers that they keep. -/
theorem isAskingHabit_onlyComplains (h : Hierarchy) :
    IsAskingHabit (OnlyComplains fun w => w.classes.withoutAnswers = h.withoutAnswers) where
  ofExcept := .ofExcept
  classes := .classes
  keepAnswer keeper c answer := {
    keeps := fun w hw => by
      rw [(OnlyAsks.setClasses_of_keepAnswer keeper c answer).run w]
      exact ((OnlyAsks.setClasses_of_keepAnswer keeper c answer).keeps w.classes).trans hw
    fails := fun w e _ he => by
      rw [bind_run_of_ok (classes_run w), bind_run, ofExcept_run] at he
      cases hkept : w.classes.keepAnswer keeper c answer <;> rw [hkept] at he <;> cases he
      exact Raised.isOfFault_raised _ }
  bind h hf := h.bind hf
  inFrame h := h.inFrame

/-- Whoever catches a complaint finds it as it is. -/
theorem OnlyComplains.catching_run {S : World → Prop} {act : Act α} (hact : OnlyComplains S act)
    (hlibrary : ∀ w, S w → w.classes.KeepsLibrary) (m : Machinery) (w : World) (hw : S w) :
    ∃ result w', catching m act w = (.ok result, w') ∧ S w' ∧
      ∀ e, result = .error e → e.IsOfFault := by
  have hkeeps := hact.keeps w hw
  rcases hr : act w with ⟨e | a, w'⟩ <;> rw [hr] at hkeeps
  · have he := hact.fails w e hw (by rw [hr])
    have hfinds := he.settle_run (hlibrary w' hkeeps) m
    refine ⟨.error e, w', catching_eq_error_iff.2 ⟨e, w', hr, hfinds⟩, hkeeps, ?_⟩
    rintro e' ⟨⟩
    exact he
  · refine ⟨.ok a, w', catching_of_ok m hr, hkeeps, ?_⟩
    rintro e' ⟨⟩

/-! ## Complaints in observed calls -/

section Observed

variable {S : World → Prop} (hS : ∀ w w' : World, w.setting = w'.setting → S w → S w')
include hS

namespace OnlyComplains

theorem of_reading {r : Act γ} (hr : IsReading r) : OnlyComplains S r :=
  of_ok fun w hw => by
    obtain ⟨c, readings, hc⟩ := hr w
    exact ⟨c, _, hc, hS w _ rfl hw⟩

theorem record (r : Record) : OnlyComplains S (record r) :=
  of_ok fun w hw => ⟨(), _, rfl, hS w _ rfl hw⟩

theorem log (e : Event) : OnlyComplains S (log e) := by
  refine (of_reading hS readClock_isReading).bind fun time => ?_
  split
  · exact (of_ok fun w hw => ⟨_, w, rfl, hw⟩ : OnlyComplains S (get : Act World)).bind fun w =>
      record hS _
  · exact ofExcept (.error _)

theorem begin (operation : String) (arguments : List Handle) :
    OnlyComplains S (begin operation arguments) := by
  have htarget : OnlyComplains S (target arguments) := by
    unfold target
    split
    · exact classes.bind fun _ => ofExcept _
    · exact ofExcept (.ok _)
  exact (of_reading hS readClock_isReading).bind fun _ =>
    (of_reading hS memoryInUse_isReading).bind fun _ =>
    (of_reading hS takeIdentifier_isReading).bind fun _ => htarget.bind fun _ =>
    (log hS _).bind fun _ => ofExcept (.ok _)

variable {operation : String} {verdict : α → Loggable} {x : Act α}

theorem finish (hx : OnlyComplains S x) (b : Beginning) :
    OnlyComplains S (finish operation verdict x b) :=
  hx.bind fun value => (of_reading hS readClock_isReading).bind fun _ =>
    (of_reading hS memoryInUse_isReading).bind fun _ => (log hS _).bind fun _ =>
    ofExcept (.ok value)

variable (hlibrary : ∀ w, S w → w.classes.KeepsLibrary) (m : Machinery)
include hlibrary

theorem giveUp (b : Beginning) {e : Raised} (he : e.IsOfFault) :
    OnlyComplains S (giveUp m.above operation b e) := by
  have htext : OnlyComplains S (m.above.textOf e.error) := by
    obtain ⟨text, ht⟩ := he.exists_textOf_run m
    exact of_ok fun w hw => ⟨text, w, ht w (hlibrary w hw), hw⟩
  have hname : OnlyComplains S (errorName e) := by
    refine classes.bind fun h => (ofExcept _).bind fun a => ?_
    split
    · exact ofExcept (.ok _)
    · exact classes.bind fun _ => ofExcept (.ok _)
    · exact ofExcept (.ok _)
  refine classes.bind fun h => ?_
  split
  · exact (of_reading hS readClock_isReading).bind fun _ =>
      (of_reading hS memoryInUse_isReading).bind fun _ => hname.bind fun _ => htext.bind fun _ =>
      log hS _
  · exact ofExcept (.ok ())

/-- A complaint comes out of an observed call as it is. -/
theorem measured (hx : OnlyComplains S x) (arguments : List Handle) :
    OnlyComplains S (measured m.above operation arguments verdict x) := by
  rw [measured_eq]
  refine (begin hS operation arguments).bind fun b =>
    bind_of_ok (fun result => ∀ e, result = .error e → e.IsOfFault)
      ((finish hS hx b).catching_run hlibrary m.above) fun result hresult => ?_
  cases result with
  | ok a => exact ofExcept (.ok a)
  | error e =>
    have he := hresult e rfl
    exact (giveUp hS hlibrary m b he).bind fun _ => throw he

end OnlyComplains

theorem isHabit_onlyComplains : IsHabit (OnlyComplains S) where
  ofExcept := .ofExcept
  classes := .classes
  record := .record hS
  bind h hf := h.bind hf

theorem isObservedHabit_onlyComplains (hlibrary : ∀ w, S w → w.classes.KeepsLibrary)
    (m : Machinery) : IsObservedHabit m.above (OnlyComplains S) where
  toIsHabit := isHabit_onlyComplains hS
  measured _ arguments _ h := h.measured hS hlibrary m arguments

end Observed

end Act

/-- An introspector with fixed answers counts only. -/
theorem Script.introspector_onlyComplains (script : Script) {S : World → Prop}
    (hS : ∀ w w' : World, w.setting = w'.setting → S w → S w') :
    script.introspector.Acts (Act.OnlyComplains S) where
  describe _ := .of_ok fun w hw => ⟨script.descriptor, _, rfl, hS w _ rfl hw⟩
  constructors _ := .of_ok fun w hw => ⟨script.constructors, _, rfl, hS w _ rfl hw⟩
  invoke _ := .of_ok fun w hw => ⟨script.outcome, _, rfl, hS w _ rfl hw⟩

/-- That classes are what they were, up to the answers that they keep, is no matter of observers. -/
theorem Hierarchy.withoutAnswers_of_setting (h : Hierarchy) (w w' : World)
    (hw : w.setting = w'.setting) (hh : w.classes.withoutAnswers = h.withoutAnswers) :
    w'.classes.withoutAnswers = h.withoutAnswers := by
  rwa [← World.classes_eq_of_setting hw]

/-- All that a verification asks over fixed answers. -/
theorem UseCase.acts_onlyComplains {u : UseCase} {script : Script}
    (hu : u.introspector = script.introspector) (h : Hierarchy) :
    u.Acts (Act.OnlyComplains fun w => w.classes.withoutAnswers = h.withoutAnswers) where
  toActs := by
    rw [hu]
    exact script.introspector_onlyComplains h.withoutAnswers_of_setting
  isSubclass c := Act.isSubclass_habit (Act.isAskingHabit_onlyComplains h) c _

end UtilityClass
