import UtilityClass.Proofs.Captured
import UtilityClass.Proofs.Diagnosis
import UtilityClass.Proofs.Lineage

/-!
# Wider policies

A policy decides about one issue only, the one about the default constructor: whether it is there
where the construction has failed, and which exception it names. Everything else that a report says
is said under every policy.

An exception counts as blocking if its class derives from the blocking class. Where classes have the
orders that their bases give them, this is a transitive relation, so what is blocking under a policy
is blocking under a wider one: going to a wider policy may take the issue about the default
constructor away, and cannot bring it in. It is taken away just where the construction failed with
an exception that only the wider policy has in view.

The two verifications may be of different worlds, as long as the classes are the same.

## Main definitions

* `standingIssues`, `defaultIssues` : the issues of a report without a policy, and the one with it
* `Hierarchy.DecidesByOrder` : classes that leave it to orders what derives from them
* `Widens` : two reports on a class, the second under a wider policy

## Main results

* `UseCase.execute_reports_of_order` : the report, with blocked failures by the order of classes
* `UseCase.execute_widens` : two reports
-/

namespace UtilityClass

/-! ## The issue that depends on the policy -/

/-- The issues about the class and about the list of its constructors. -/
def standingIssues (d : TypeDescriptor) (constructors : List ConstructorDescriptor)
    (name : String) : List String :=
  classIssues d name ++
    if d.isConcrete then privacyIssues constructors ++ argumentIssues name constructors else []

/-- The issue about the default constructor, if there is one. -/
def defaultIssues (d : TypeDescriptor) (outcome : Outcome) (name blocking kind : String)
    (isBlocking : Bool) : List String :=
  if d.isConcrete then outcomeIssues name blocking kind isBlocking outcome else []

section Issues

variable {d : TypeDescriptor} {constructors : List ConstructorDescriptor} {outcome : Outcome}
  {name blocking blocking' kind : String} {isBlocking isBlocking' : Bool}

theorem diagnosis_eq : diagnosis d constructors outcome name blocking kind isBlocking =
    standingIssues d constructors name ++
      defaultIssues d outcome name blocking kind isBlocking := by
  rw [diagnosis, standingIssues, defaultIssues]
  cases d.isConcrete <;> simp

theorem length_outcomeIssues :
    (outcomeIssues name blocking kind isBlocking outcome).length ≤ 1 := by
  cases outcome with
  | failedWith error message => cases isBlocking <;> simp [outcomeIssues]
  | _ => simp [outcomeIssues]

theorem length_defaultIssues :
    (defaultIssues d outcome name blocking kind isBlocking).length ≤ 1 := by
  rw [defaultIssues]
  split
  · exact length_outcomeIssues
  · exact Nat.zero_le 1

/-- Only a failure of the construction is judged by whether it is a blocking one. -/
theorem defaultIssues_eq_nil_iff (hknown : outcome.isKnown = true) :
    defaultIssues d outcome name blocking kind isBlocking = [] ↔
      d.isConcrete = true →
        isBlocking = true ∧ ∃ error message, outcome = .failedWith error message := by
  rw [defaultIssues]
  cases d.isConcrete with
  | false => simp
  | true =>
    cases outcome with
    | failedWith error message => cases isBlocking <;> simp [outcomeIssues]
    | unknown value => cases hknown
    | _ => simp [outcomeIssues]

end Issues

/-! ## Blocking exceptions -/

namespace Hierarchy

/-- Whether another class derives from this one is decided by the order of the other class. -/
def DecidesByOrder (h : Hierarchy) (b : ClassId) : Prop :=
  ∀ c, (Act.isSubclass c b (.initial h)).1 = .ok (h.derives c b)

/-- This is so of every class whose metaclass has nothing to say about it. -/
theorem decidesByOrder_of_resolve? {h : Hierarchy} {b : ClassId} {m : Member}
    (hm : h.resolve? (h.info b).metaclass "__subclasscheck__" = some (.library .type, m)) :
    h.DecidesByOrder b := by
  intro c
  rw [Act.isSubclass_run (w := .initial h) hm]
  rfl

end Hierarchy

namespace Outcome

/-- Whether an outcome is a failure with an exception of a class. -/
def isFailureOf (h : Hierarchy) (b : ClassId) : Outcome → Bool
  | .failedWith (.ofClass e) _ => h.derives e b
  | _ => false

variable {h : Hierarchy} {narrow wide : ClassId} {outcome : Outcome}

theorem exists_of_isFailureOf (hf : outcome.isFailureOf h wide = true) :
    ∃ e message, outcome = .failedWith (.ofClass e) message ∧ h.derives e wide = true := by
  cases outcome with
  | failedWith error message =>
    cases error with
    | ofClass e => exact ⟨e, message, rfl, hf⟩
    | plain value => cases hf
  | _ => cases hf

/-- A failure that a policy has in view is in view under a wider one. -/
theorem isFailureOf_mono
    (hlinear : ∀ e message, outcome = .failedWith (.ofClass e) message → h.IsLinear e)
    (hwide : h.derives narrow wide = true) (hf : outcome.isFailureOf h narrow = true) :
    outcome.isFailureOf h wide = true := by
  obtain ⟨e, message, rfl, he⟩ := exists_of_isFailureOf hf
  exact (hlinear e message rfl).derives_trans he hwide

end Outcome

/-- A verification asks for just this, where the exceptions are those of classes. -/
theorem UseCase.isBlocked_eq {u : UseCase} {h : Hierarchy} {outcome : Outcome}
    (hasks : h.DecidesByOrder u.policy.blocking)
    (hclass : ∀ value message, outcome ≠ .failedWith (.plain value) message) :
    (u.isBlocked outcome (.initial h)).1 = .ok (outcome.isFailureOf h u.policy.blocking) := by
  cases outcome with
  | failedWith error message =>
    cases error with
    | ofClass e =>
      rw [isBlocked, VerificationPolicy.isBlocking_ofClass, hasks e]
      rfl
    | plain value => exact absurd rfl (hclass value message)
  | _ => rfl

/-- **Blocked failures, by the order of classes.** The report lists the issues of `diagnosis`, where
a failure is blocked just if the class of its exception derives from the blocking one. -/
theorem UseCase.execute_reports_of_order {m : Machinery} {u : UseCase} {c : ClassId}
    {d : TypeDescriptor} {cs : List ConstructorDescriptor} {outcome : Outcome} {w : World}
    {h : Hierarchy} {own name blocking kind : String} (hown : w.classes.nameText c = .ok own)
    (hblocking : w.classes.nameText u.policy.blocking = .ok blocking)
    (hanswers : u.introspector.Answers (.ofClass c) w.classes h d cs outcome)
    (hname : d.name.text = .ok name) (hknown : outcome.isKnown = true)
    (hkind : ∀ error, outcome.error? = some error →
      ∃ q, error.name h = .ok q ∧ q.text = .ok kind)
    (hasks : h.DecidesByOrder u.policy.blocking) :
    (u.execute m (.ofClass c) w).1 = .ok (Run.verdict d name
      (diagnosis d cs outcome name blocking kind
        (outcome.isFailureOf h u.policy.blocking))) := by
  -- what is no class has no name
  have hclass (value : Json) (message : Option String) :
      outcome ≠ .failedWith (.plain value) message := by
    rintro rfl
    obtain ⟨q, hq, -⟩ := hkind _ rfl
    cases hq
  exact execute_eq_verdict hown hblocking hanswers hname hknown hkind fun _ =>
    isBlocked_eq hasks hclass

/-! ## Two reports -/

/-- Two reports on a class, of which the second is made under a wider policy: `standing` are the
issues that both have, `defaults` and `defaults'` what each of them says about the default
constructor. -/
structure Widens (h : Hierarchy) (narrow wide : ClassId) (outcome : Outcome)
    (standing defaults defaults' : List String) (report report' : Report) : Prop where
  issues : report.issues = standing ++ defaults
  wideIssues : report'.issues = standing ++ defaults'
  /-- There is at most one issue about the default constructor. -/
  length : defaults.length ≤ 1 ∧ defaults'.length ≤ 1
  isValid : report.isValid = true → report'.isValid = true
  present : defaults' ≠ [] → defaults ≠ []
  /-- Where just one of the reports has this issue, the construction has failed with an exception
  that only the wider policy has in view. -/
  differs : ¬(defaults = [] ↔ defaults' = []) → ∃ e message,
    outcome = .failedWith (.ofClass e) message ∧ h.derives e wide = true ∧
      h.derives e narrow = false

namespace UseCase

variable {i : Introspector} {p p' : VerificationPolicy} {c : ClassId} {d : TypeDescriptor}
  {cs : List ConstructorDescriptor} {outcome : Outcome} {own name blocking blocking' kind : String}

/-- **Widening a policy** leaves the issues of the class and of its constructors alone, and can only
take the issue about the default constructor away.

The introspector answers the same under both policies, whatever it answers; `h` are the classes
behind the construction, where the class of an exception has the order that its bases give it. -/
theorem execute_widens (m m' : Machinery) {w w' : World} {h : Hierarchy}
    (hsame : w'.classes = w.classes) (hown : w.classes.nameText c = .ok own)
    (hblocking : w.classes.nameText p.blocking = .ok blocking)
    (hblocking' : w.classes.nameText p'.blocking = .ok blocking')
    (hanswers : i.Answers (.ofClass c) w.classes h d cs outcome)
    (hname : d.name.text = .ok name) (hknown : outcome.isKnown = true)
    (hkind : ∀ error, outcome.error? = some error →
      ∃ q, error.name h = .ok q ∧ q.text = .ok kind)
    (hasks : h.DecidesByOrder p.blocking) (hasks' : h.DecidesByOrder p'.blocking)
    (hlinear : ∀ e message, outcome = .failedWith (.ofClass e) message → h.IsLinear e)
    (hwide : h.derives p.blocking p'.blocking = true) :
    ∃ report report', (execute ⟨i, p⟩ m (.ofClass c) w).1 = .ok report ∧
      (execute ⟨i, p'⟩ m' (.ofClass c) w').1 = .ok report' ∧
      Widens h p.blocking p'.blocking outcome (standingIssues d cs name)
        (defaultIssues d outcome name blocking kind (outcome.isFailureOf h p.blocking))
        (defaultIssues d outcome name blocking' kind (outcome.isFailureOf h p'.blocking))
        report report' := by
  have hreport := execute_reports_of_order (m := m) (u := ⟨i, p⟩) hown hblocking hanswers hname
    hknown hkind hasks
  rw [← hsame] at hown hblocking' hanswers
  have hreport' := execute_reports_of_order (m := m') (u := ⟨i, p'⟩) hown hblocking' hanswers hname
    hknown hkind hasks'
  rw [diagnosis_eq] at hreport hreport'
  have hmono : defaultIssues d outcome name blocking kind (outcome.isFailureOf h p.blocking) = [] →
      defaultIssues d outcome name blocking' kind (outcome.isFailureOf h p'.blocking) = [] := by
    simp only [defaultIssues_eq_nil_iff hknown]
    rintro hnil hconcrete
    obtain ⟨hf, hfailed⟩ := hnil hconcrete
    exact ⟨Outcome.isFailureOf_mono hlinear hwide hf, hfailed⟩
  refine ⟨_, _, hreport, hreport', Run.issues_verdict _ _ _, Run.issues_verdict _ _ _,
    ⟨length_defaultIssues, length_defaultIssues⟩, fun hvalid => ?_, mt hmono, fun hdiffers => ?_⟩
  · obtain ⟨hstanding, hdefault⟩ := List.append_eq_nil_iff.1 (isValid_verdict_iff.1 hvalid)
    exact isValid_verdict_iff.2 (List.append_eq_nil_iff.2 ⟨hstanding, hmono hdefault⟩)
  · -- the issue is there under the narrower policy only, so the class is concrete
    have hthere : ¬_ := fun hnil => hdiffers ⟨hmono, fun _ => hnil⟩
    have hgone := Classical.byContradiction fun hthere' =>
      hdiffers ⟨hmono, fun hnil => absurd hnil hthere'⟩
    rw [defaultIssues_eq_nil_iff hknown] at hthere hgone
    obtain ⟨hconcrete, hnarrow⟩ := Classical.not_imp.1 hthere
    obtain ⟨hf, hfailed⟩ := hgone hconcrete
    obtain ⟨e, message, rfl, he⟩ := Outcome.exists_of_isFailureOf hf
    exact ⟨e, message, rfl, he, Bool.eq_false_iff.2 fun hn => hnarrow ⟨hn, hfailed⟩⟩

open Reflection.Crossing (world isLinear_error) in
/-- An exception between signals and ordinary exceptions is none that the usual policy has in view,
but one that the widest policy has. -/
theorem execute_widens_crossing :
    let script := Script.make none [] (.failedWith (.ofClass (.declared 0)) (some "x"))
    ∃ report report',
      (execute ⟨script.introspector, .standard⟩ .standard (.ofClass LibraryClass.object) world).1 =
        .ok report ∧
      (execute ⟨script.introspector, ⟨LibraryClass.exception⟩⟩ .standard
        (.ofClass LibraryClass.object) world).1 = .ok report' ∧
      Widens world.classes LibraryClass.typeError LibraryClass.exception script.outcome []
        ["Expected class [fake.Holder] default constructor to throw TypeError when invoked, but " ++
          "instead it threw [spec.E] with message [x]."] [] report report' := by
  intro script
  have hown : world.classes.nameText LibraryClass.object = .ok "object" := rfl
  have hblocking : world.classes.nameText VerificationPolicy.standard.blocking =
      .ok "TypeError" := rfl
  have hblocking' : world.classes.nameText (ClassId.library .exception) =
      .ok "Exception" := rfl
  have hname : script.descriptor.name.text = .ok "fake.Holder" := rfl
  have hkind (error : Subject) (he : script.outcome.error? = some error) :
      ∃ q, error.name world.classes = .ok q ∧ q.text = .ok "spec.E" := by
    cases he
    exact ⟨_, rfl, rfl⟩
  have hlinear (e : ClassId) (message : Option String)
      (he : script.outcome = .failedWith (.ofClass e) message) : world.classes.IsLinear e := by
    cases he
    exact isLinear_error
  exact execute_widens .standard .standard rfl hown hblocking hblocking'
    (script.introspector_answers _ _) hname rfl hkind (Hierarchy.decidesByOrder_of_resolve? rfl)
    (Hierarchy.decidesByOrder_of_resolve? rfl) hlinear rfl

end UseCase

end UtilityClass
