import UtilityClass.Proofs.ErrorContract
import UtilityClass.Proofs.Lineage
import UtilityClass.Proofs.Outcomes

/-!
# Blocking exceptions are caught

Three places decide what becomes of an exception that a constructor raises: a policy is made of a
class of ordinary exceptions only, the construction is caught if the exception is an ordinary one,
and the report asks whether its class derives from the blocking class. All three cut the classes of
exceptions at the same point. Ordinary is what derives from the root of ordinary exceptions, and so
a class that derives from a blocking one is ordinary, even if it derives from the class of a signal
as well and stands before or behind it. For this the order of the class has to be the one that its
bases give it, which holds of all classes that a program makes.

So no exception that a policy has in view escapes from a verification, and what does escape is
blocking under no policy. An exception has to be read for this: its message, its traces and, if it
is reported, its name. Where this fails, the complaint about it escapes.

## Main definitions

* `Reflection.Raises` : the body of a constructor raises an exception
* `Reflection.IsLegible` : the exception can be read
* `Reflection.Captures`

## Main results

* `Reflection.blocking_captured` : what can be configured, what is captured and what escapes
-/

namespace UtilityClass

namespace Reflection

variable {m : Machinery} {p p' : VerificationPolicy} {b : Handle} {c : ClassId}
  {d : TypeDescriptor} {own : String} {e : Raised} {w w₁ w₂ : World}

/-- A class is verified and constructed, and an exception is found that has left the body of a
constructor. Its class has the order that its bases give it, and no class of ordinary exceptions
that was there before has got another order meanwhile. -/
structure Raises (m : Machinery) (blocking c : ClassId) (d : TypeDescriptor) (own : String)
    (e : Raised) (w w₁ : World) : Prop extends IsReached w.classes c blocking d own where
  found : Act.catching m (m.construct c) (arrived d own c w) = (.ok (.error e), w₁)
  left : 0 < e.frames
  isLinear : w₁.classes.IsLinear e.error.type
  keeps (a : ClassId) : w.classes.isException a = true →
    (w₁.classes.info a).order = (w.classes.info a).order

/-- An exception can be read: it tells its message, its traces are looked at without a complaint,
and whether it is a blocking one is decided by the order of its class. -/
structure IsLegible (m : Machinery) (blocking : ClassId) (e : Raised) (w₁ w₂ : World) : Prop where
  tells : ∃ message, Tells m e w₁ message w₂
  traces : ∃ left, leftBody w₂.classes e = .ok left
  answers : (Act.isSubclass e.error.type blocking w₂).1 =
    .ok (w₁.classes.derives e.error.type blocking)

/-- Traces that can be read do not hide that a body has been left. -/
theorem leftBody_eq_true {h : Hierarchy} {left : Bool} (hl : leftBody h e = .ok left)
    (he : 0 < e.frames) : leftBody h e = .ok true := by
  rw [leftBody] at hl ⊢
  cases hread : h.readOn? (.object e.error) "__traceback__" with
  | error f =>
    rw [hread] at hl
    cases hl
  | ok found =>
    rw [hread] at hl
    simp only [Result.ok_bind, decide_eq_true he] at hl ⊢
    split at hl
    · rfl
    · cases hl
    · cases hl
    · rfl
    · cases hl

namespace Raises

variable (hr : Raises m p.blocking c d own e w w₁)
include hr

/-- An exception that is blocking under some policy is an ordinary one. -/
theorem isException (hp : (VerificationPolicy.make b w).1 = .ok p')
    (hb : w₁.classes.derives e.error.type p'.blocking = true) :
    w₁.classes.isException e.error.type = true := by
  have hblocking : w₁.classes.derives p'.blocking LibraryClass.exception = true := by
    have hordinary := (VerificationPolicy.make_fst_eq_ok_iff.1 hp).2
    rw [Hierarchy.derives, hr.keeps _ hordinary]
    exact hordinary
  exact hr.isLinear.derives_trans hb hblocking

/-- An ordinary exception that can be read is a failure of the constructor. -/
theorem exists_failsWith (he : w₁.classes.isException e.error.type = true)
    (hl : IsLegible m p.blocking e w₁ w₂) :
    ∃ message, FailsWith m c (arrived d own c w) e message w₂ ∧
      leftBody w₂.classes e = .ok true := by
  obtain ⟨message, htells⟩ := hl.tells
  refine ⟨message, ⟨?_, w₁, hr.found, he, messageOf_eq_ok_iff.2 htells⟩, ?_⟩
  · rw [arrived_classes]
    exact hr.accepts
  · obtain ⟨left, hleft⟩ := hl.traces
    exact leftBody_eq_true hleft hr.left

/-- A report is returned on an ordinary exception that can be read, whether it is blocking or not.
Only in the second case it is named. -/
theorem exists_report (he : w₁.classes.isException e.error.type = true)
    (hl : IsLegible m p.blocking e w₁ w₂)
    (hblocking : ∃ text, w.classes.nameText p.blocking = .ok text)
    (hkind : w₁.classes.derives e.error.type p.blocking = false →
      ∃ kind, w₂.classes.nameText e.error.type = .ok kind) :
    ∃ report, ((useCase m p.blocking).execute m (.ofClass c) w).1 = .ok report := by
  obtain ⟨message, hf, hleft⟩ := hr.exists_failsWith he hl
  obtain ⟨text, hname⟩ := hblocking
  obtain ⟨q, hq, htext⟩ := Hierarchy.nameText_eq_ok_iff.1 hname
  refine exists_execute_iff.2 ⟨d, own, hr.describes, hr.names, fun _ => ⟨hr.lists, q, hq, ?_⟩⟩
  cases hb : w₁.classes.derives e.error.type p.blocking with
  | true => exact .blocked hf hleft (hl.answers.trans (congrArg _ hb))
  | false => exact .unblocked hf hleft (hl.answers.trans (congrArg _ hb)) ⟨text, htext⟩ (hkind hb)

end Raises

/-- What can be configured as blocking, and what becomes of it. -/
structure Captures (m : Machinery) (w : World) : Prop where
  /-- Just the classes of ordinary exceptions can be configured. -/
  configurable (b : Handle) : (∃ p, (VerificationPolicy.make b w).1 = .ok p) ↔
    ∃ a, b = .ofClass a ∧ w.classes.isException a = true
  /-- An exception of a class that derives from the blocking one is captured: the issues of the
  report are those of the class and of the list of its constructors. -/
  captured (b : Handle) (p : VerificationPolicy) (c : ClassId) (d : TypeDescriptor) (own : String)
    (e : Raised) (w₁ w₂ : World) : (VerificationPolicy.make b w).1 = .ok p →
    Raises m p.blocking c d own e w w₁ → w₁.classes.derives e.error.type p.blocking = true →
    IsLegible m p.blocking e w₁ w₂ → ∃ list, w.classes.listing c = .ok list ∧
      ((useCase m p.blocking).execute m (.ofClass c) w).1 =
        .ok (Run.verdict d own
          (classIssues d own ++ (privacyIssues list ++ argumentIssues own list)))
  /-- Where an exception comes out, the one that was raised is blocking under no policy, unless it
  is an ordinary one that cannot be read, or named where it is reported. -/
  escaped (p : VerificationPolicy) (c : ClassId) (d : TypeDescriptor) (own : String)
    (e e' : Raised) (w₁ : World) : (∃ text, w.classes.nameText p.blocking = .ok text) →
    Raises m p.blocking c d own e w w₁ →
    (w₁.classes.isException e.error.type = true → ∃ w₂, IsLegible m p.blocking e w₁ w₂ ∧
      (w₁.classes.derives e.error.type p.blocking = false →
        ∃ kind, w₂.classes.nameText e.error.type = .ok kind)) →
    ((useCase m p.blocking).execute m (.ofClass c) w).1 = .error e' →
      ∀ b' p', (VerificationPolicy.make b' w).1 = .ok p' →
        w₁.classes.derives e.error.type p'.blocking = false
  /-- In no case does the construction let an ordinary exception through: what comes out in its
  place was raised by its text, or is a complaint of the verifier. -/
  displaced (c : ClassId) (e e' : Raised) (w₁ w' : World) :
    w.classes.acceptsNoArguments c = .ok true →
    Act.catching m (m.construct c) w = (.ok (.error e), w₁) →
    w₁.classes.isException e.error.type = true → invoke m (.ofClass c) w = (.error e', w') →
      (∃ w₂, messageOf m e w₁ = (.error e', w₂)) ∨ ∃ f : Fault, e' = f.raised
  /-- The classes of the library have orders that are merged, and any class that is made of such
  ones has one again, whatever its bases are. So have all classes that come about in a program. -/
  hierarchies : (∀ l : LibraryClass, Hierarchy.initial.IsLinear l) ∧
    (∀ (h h' : Hierarchy) (metaclass : ClassId) (name : String) (bases : List ClassId)
      (blueprint : Blueprint), h.make metaclass name bases blueprint = .ok h' →
      (∀ a ∈ ClassId.library .object :: bases,
        h.IsLinear a ∧ blueprint.self ∉ (h.info a).order) → h'.IsLinear blueprint.self) ∧
    ∀ (h : Hierarchy) (made : List ClassId), h.Arises made →
      ∀ a, Hierarchy.IsThere made a → h.IsLinear a

/-- **Whatever can be configured as blocking is captured**, and what escapes cannot be
configured. -/
theorem blocking_captured (m : Machinery) (w : World) : Captures m w where
  configurable b := by
    simp only [VerificationPolicy.make_fst_eq_ok_iff]
    exact ⟨fun ⟨p, hp⟩ => ⟨p.blocking, hp⟩, fun ⟨a, ha⟩ => ⟨⟨a⟩, ha⟩⟩
  captured b p c d own e w₁ w₂ hp hr hb hl := by
    obtain ⟨message, hf, hleft⟩ := hr.exists_failsWith (hr.isException hp hb) hl
    exact execute_of_blocked hr.toIsReached hf hleft (hl.answers.trans (congrArg _ hb))
  escaped p c d own e e' w₁ hname hr hlegible hexecute b' p' hp' := by
    -- were it blocking under a policy, it would be ordinary, and there would be a report
    by_contra hb
    have he := hr.isException hp' (Bool.not_eq_false _ ▸ hb)
    obtain ⟨w₂, hl, hkind⟩ := hlegible he
    obtain ⟨report, hreport⟩ := hr.exists_report he hl hname hkind
    cases hreport.symm.trans hexecute
  displaced c e e' w₁ w' ha hc he hinvoke := by
    rw [invoke_of_accepted ha, Act.bind_run_of_ok hc] at hinvoke
    exact message_or_fault_of_outcomeOf he hinvoke
  hierarchies := ⟨Hierarchy.isLinear_library (fun _ => rfl) fun _ => rfl,
    fun _ _ _ _ _ _ => Hierarchy.IsLinear.make,
    fun _ _ harises _ ha => (harises.isLinear_and_isThere ha).1⟩

/-! ## A class between signals and ordinary exceptions -/

namespace Crossing

/-- A class that derives from the class of a signal, and behind it from one of ordinary
exceptions. -/
def error : Declaration :=
  { Declaration.bare "E" with
    bases := [.ofClass LibraryClass.keyboardInterrupt, .ofClass LibraryClass.valueError] }

/-- The world in which this class is declared, and a utility class whose constructor raises it. -/
def world : World :=
  ((do discard (error.declare .standard); Textless.declaration.declare .standard)
    (.initial .initial)).2

def utility : ClassId := .declared 1

/-- What is described of the utility class. -/
def descriptor : TypeDescriptor := ⟨⟨.str "spec", .str "A"⟩, .ordinary, false, true⟩

/-- The world in which the exception is found. -/
def found : World := arrived descriptor "spec.A" utility world

@[simp] theorem found_classes : found.classes = world.classes := arrived_classes _ _ _ _

theorem isLinear_error : world.classes.IsLinear (.declared 0) := by
  have hlibrary (l : LibraryClass) : world.classes.IsLinear l :=
    Hierarchy.isLinear_library (fun _ => rfl) (fun _ => rfl) l
  exact .ofBases rfl (List.forall_mem_cons.2 ⟨hlibrary _, List.forall_mem_singleton.2 (hlibrary _)⟩)

theorem catching_raised :
    Act.catching .standard (Machinery.standard.construct utility) found =
      (.ok (.error Textless.raised), found) := by
  obtain ⟨readings, journal, hbegun⟩ := world.begun_eq "verify_utility_class" [.ofClass utility]
  rw [found, arrived, hbegun]
  rfl

theorem raises : Raises .standard LibraryClass.valueError utility descriptor "spec.A"
    Textless.raised world found where
  describes := rfl
  names := rfl
  isConcrete := rfl
  lists := ⟨_, rfl⟩
  namesBlocking := ⟨_, rfl⟩
  accepts := rfl
  found := catching_raised
  left := by decide
  isLinear := by
    rw [found_classes]
    exact isLinear_error
  keeps _ _ := by rw [found_classes]

theorem isLegible :
    IsLegible .standard LibraryClass.valueError Textless.raised found found := by
  obtain ⟨readings, journal, hbegun⟩ := world.begun_eq "verify_utility_class" [.ofClass utility]
  rw [found, arrived, hbegun]
  exact ⟨⟨_, .text rfl rfl⟩, ⟨true, rfl⟩, rfl⟩

end Crossing

/-- The body of a constructor may raise a mere signal as well. -/
theorem Specimens.exists_raises : ∃ d own, Raises .standard LibraryClass.typeError interrupted d own
    interruption world (arrived d own interrupted world) := by
  obtain ⟨d, own, hreached⟩ :
      ∃ d own, IsReached world.classes interrupted LibraryClass.typeError d own :=
    ⟨_, _, rfl, rfl, rfl, ⟨_, rfl⟩, ⟨_, rfl⟩, rfl⟩
  have hlinear : world.classes.IsLinear LibraryClass.keyboardInterrupt :=
    Hierarchy.isLinear_library (fun _ => rfl) (fun _ => rfl) _
  refine ⟨d, own, hreached, catching_interrupted d own, by decide, ?_, ?_⟩
  · rw [arrived_classes]
    exact hlinear
  · intro a _
    rw [arrived_classes]

open Crossing in
/-- A class that stands between signals and ordinary exceptions is captured under a policy for the
latter, and the report is good. The signal itself cannot be configured; it escapes, and is blocking
under no policy. -/
theorem blocking_captured_crossing :
    (∃ p, (VerificationPolicy.make (.ofClass LibraryClass.valueError) world).1 = .ok p) ∧
      (¬∃ p, (VerificationPolicy.make (.ofClass LibraryClass.keyboardInterrupt) world).1 =
        .ok p) ∧
      ((useCase .standard LibraryClass.valueError).execute .standard (.ofClass utility) world).1 =
        .ok (.ok descriptor.name) ∧
      ((useCase .standard LibraryClass.typeError).execute .standard
        (.ofClass Specimens.interrupted) Specimens.world).1 = .error Specimens.interruption ∧
      ∀ b p, (VerificationPolicy.make b Specimens.world).1 = .ok p →
        Specimens.world.classes.derives LibraryClass.keyboardInterrupt p.blocking = false := by
  have hcaptures := blocking_captured .standard world
  obtain ⟨d, own, hraises⟩ := Specimens.exists_raises
  have hescapes := execute_of_signal hraises.toIsReached hraises.found rfl rfl
  refine ⟨(hcaptures.configurable _).2 ⟨_, rfl, rfl⟩, fun hp => ?_, ?_, hescapes, fun b p hp => ?_⟩
  · obtain ⟨a, ⟨⟩, ha⟩ := (hcaptures.configurable _).1 hp
    exact nomatch (show world.classes.isException _ = false from rfl).symm.trans ha
  · obtain ⟨list, hlist, hexecute⟩ := hcaptures.captured (.ofClass LibraryClass.valueError)
      ⟨LibraryClass.valueError⟩ utility descriptor "spec.A" Textless.raised found found rfl raises
      (by rw [found_classes]; rfl) isLegible
    obtain rfl := Except.ok.inj ((show world.classes.listing utility =
      .ok [⟨"spec.A.__init__(self)", .int 0, .isPrivate⟩] from rfl).symm.trans hlist)
    exact hexecute
  · have hescaped := (blocking_captured .standard Specimens.world).escaped
      ⟨LibraryClass.typeError⟩ _ d own _ _ _ ⟨_, rfl⟩ hraises (fun he => nomatch he) hescapes b p hp
    rwa [arrived_classes] at hescaped

/-! ## Texts that are missing -/

open Textless in
/-- An exception that derives from the blocking class and leaves the body of the constructor is not
captured where its text cannot be read: there is no report. Nor is there one where a constructor
cannot be written, whatever it raises. -/
theorem blocking_captured_textless :
    (VerificationPolicy.make (.ofClass LibraryClass.typeError) world).1 = .ok .standard ∧
      IsReached world.classes textless LibraryClass.typeError Crossing.descriptor "spec.A" ∧
      Act.catching .standard (Machinery.standard.construct textless)
          (arrived Crossing.descriptor "spec.A" textless world) =
        (.ok (.error raised), arrived Crossing.descriptor "spec.A" textless world) ∧
      0 < raised.frames ∧
      world.classes.derives raised.error.type LibraryClass.typeError = true ∧
      (¬∃ report, ((useCase .standard LibraryClass.typeError).execute .standard
        (.ofClass textless) world).1 = .ok report) ∧
      IsBlocked .standard Checker.Unwritable.utility LibraryClass.typeError
        Checker.Unwritable.world ∧
      ¬∃ report, ((useCase .standard LibraryClass.typeError).execute .standard
        (.ofClass Checker.Unwritable.utility) Checker.Unwritable.world).1 = .ok report := by
  have hnone {c : ClassId} {w : World} (hfails : ((useCase .standard LibraryClass.typeError).execute
      .standard (.ofClass c) w).1.isOk = false) :
      ¬∃ report, ((useCase .standard LibraryClass.typeError).execute .standard (.ofClass c) w).1 =
        .ok report := by
    rintro ⟨report, hreport⟩
    rw [hreport] at hfails
    cases hfails
  refine ⟨rfl, ⟨rfl, rfl, rfl, ⟨_, rfl⟩, ⟨_, rfl⟩, rfl⟩, ?_, by decide, rfl,
    hnone (by decide +kernel), Checker.Unwritable.isBlocked _ _, hnone (by decide +kernel)⟩
  obtain ⟨readings, journal, hbegun⟩ := world.begun_eq "verify_utility_class" [.ofClass textless]
  rw [arrived, hbegun]
  rfl

end Reflection

end UtilityClass
