import UtilityClass.Construction.Declare
import UtilityClass.Proofs.Handed
import UtilityClass.Proofs.Invoked
import UtilityClass.Proofs.Reflected
import UtilityClass.Proofs.Returning

/-!
# Good verdicts

A verification ends with a good report just if none of its checks adds an issue and nothing in it
fails. For an arbitrary introspector this is a statement about its answers: the class is ordinary,
concrete and final, its constructors are private and take no arguments, and constructing it fails
with a blocking exception.

With the introspector that looks at the classes themselves, every answer can in turn be read off the
class and off one construction of it. What remains are conditions on attributes, on signatures, and
on the exception that leaves the constructor.

Checks can only add issues, so a run that ends without issues was without them all along; this is
what makes it possible to go back from the report to each single check.

## Main definitions

* `Hierarchy.IsUtilityClass` : what can be read off the class
* `Reflection.IsBlocked` : what constructing the class shows

## Main results

* `UseCase.execute_isValid_iff` : good reports, by the answers of an introspector
* `Checker.check_isValid_iff` : good reports, by the class
-/

namespace UtilityClass

/-! ## Runs without issues -/

theorem classIssues_eq_nil_iff {d : TypeDescriptor} {name : String} :
    classIssues d name = [] ↔
      d.classification = .ordinary ∧ d.isAbstract = false ∧ d.isFinal = true := by
  unfold classIssues
  cases d.classification <;> cases d.isAbstract <;> cases d.isFinal <;> simp

theorem privacyIssues_eq_nil_iff {cs : List ConstructorDescriptor} :
    privacyIssues cs = [] ↔ ∀ c ∈ cs, c.isPrivate = true := by
  simp [privacyIssues]

theorem argumentIssues_eq_nil_iff {name : String} {cs : List ConstructorDescriptor} :
    argumentIssues name cs = [] ↔ ∀ c ∈ cs, c.takesArguments = false := by
  simp [argumentIssues]

theorem isValid_verdict_iff {d : TypeDescriptor} {name : String} {issues : List String} :
    (Run.verdict d name issues).isValid = true ↔ issues = [] := by
  unfold Run.verdict
  split <;> simp_all [Report.isValid]

/-! ## Good reports -/

namespace UseCase

open Act (bind_run_of_ok bind_run_of_error bind_fst_eq_ok_iff bind_eq_ok_iff)

variable {u : UseCase} {m : Machinery} {c : ClassId} {s : Handle} {w : World}

/-- The answers of an introspector on a utility class, one after the other, each in the world that
the one before leaves behind. -/
structure Conformity (u : UseCase) (s : Handle) (w : World) where
  descriptor : TypeDescriptor
  described : World
  name : String
  list : List ConstructorDescriptor
  listed : World
  error : Subject
  message : Option String
  constructed : World
  describes : u.introspector.describe s w = (.ok descriptor, described)
  names : descriptor.name.text = .ok name
  isOrdinary : descriptor.classification = .ordinary
  isConcrete : descriptor.isAbstract = false
  isFinal : descriptor.isFinal = true
  lists : u.introspector.constructors s (remarked descriptor name described) = (.ok list, listed)
  conform : ∀ c ∈ list, c.isPrivate = true ∧ c.takesArguments = false
  namesBlocking : ∃ q, listed.classes.nameOf u.policy.blocking = .ok q
  fails : u.introspector.invoke s listed = (.ok (.failedWith error message), constructed)
  isBlocking : (u.policy.isBlocking error constructed).1 = .ok true

variable {d : TypeDescriptor} {name : String}

theorem isValid_of_examine {report : Report} (hs : s.class? = some c)
    (he : (u.examine s w).1 = .ok report) (hv : report.isValid = true) :
    Nonempty (u.Conformity s w) := by
  obtain ⟨d, w₁, name, hd, hn⟩ := exists_descriptor_of_examine hs he
  rw [examine_run hs hd hn] at he
  obtain ⟨r, w₂, hr, hclose⟩ := bind_fst_eq_ok_iff.1 he
  have hnone {issues : List String} (hi : r = (Run.start d).adding issues) : issues = [] := by
    obtain ⟨w₃, hw₃⟩ := close_run hn issues w₂
    rw [hi, hw₃] at hclose
    cases hclose
    exact isValid_verdict_iff.1 hv
  cases hconcrete : d.isConcrete with
  | false =>
    rw [checkFurther_of_barred hconcrete] at hr
    cases hr
    obtain ⟨hord, habs, -⟩ := classIssues_eq_nil_iff.1 (hnone rfl)
    simp [TypeDescriptor.isConcrete, hord, habs] at hconcrete
  | true =>
    obtain ⟨cs, w₃, q, outcome, w₄, isBlocking, hcs, hq, hinv, hb, ho⟩ :=
      (checkFurther_eq_ok_iff hn hconcrete).1 hr
    obtain ⟨rfl, rfl, error, message, rfl⟩ | ⟨text, rfl⟩ := Run.checkOutcome_eq_ok ho
    · have hissues := hnone rfl
      simp only [List.append_eq_nil_iff, classIssues_eq_nil_iff, privacyIssues_eq_nil_iff,
        argumentIssues_eq_nil_iff] at hissues
      obtain ⟨⟨hord, habs, hfin⟩, hprivate, harguments⟩ := hissues
      exact ⟨⟨d, w₁, name, cs, w₃, error, message, w₄, hd, hn, hord, habs, hfin, hcs,
        fun c hc => ⟨hprivate c hc, harguments c hc⟩, ⟨q, hq⟩, hinv, congrArg Prod.fst hb⟩⟩
    · rw [Run.adding_adding] at hnone
      have hissues := hnone rfl
      simp at hissues

/-- Where all answers conform, no check adds an issue. -/
theorem Conformity.checkFurther (k : u.Conformity s w) :
    ∃ w', u.checkFurther s k.descriptor k.name (remarked k.descriptor k.name k.described) =
      (.ok ((Run.start k.descriptor).adding []), w') := by
  have hconcrete : k.descriptor.isConcrete = true := by
    simp [TypeDescriptor.isConcrete, k.isOrdinary, k.isConcrete]
  have hclass : classIssues k.descriptor k.name = [] :=
    classIssues_eq_nil_iff.2 ⟨k.isOrdinary, k.isConcrete, k.isFinal⟩
  have hprivate : privacyIssues k.list = [] :=
    privacyIssues_eq_nil_iff.2 fun c hc => (k.conform c hc).1
  have harguments : argumentIssues k.name k.list = [] :=
    argumentIssues_eq_nil_iff.2 fun c hc => (k.conform c hc).2
  obtain ⟨q, hq⟩ := k.namesBlocking
  have hblocked : u.isBlocked (.failedWith k.error k.message) k.constructed =
      (.ok true, (u.policy.isBlocking k.error k.constructed).2) := Prod.ext k.isBlocking rfl
  refine ⟨(u.policy.isBlocking k.error k.constructed).2, ?_⟩
  rw [checkFurther_of_concrete hconcrete, hclass,
    checkConstructors_run k.names rfl k.lists hq k.fails, judge, bind_run_of_ok hblocked, hprivate,
    harguments]
  rfl

/-- **Good reports, by the answers of an introspector.** -/
theorem execute_isValid_iff {own : String} (hown : w.classes.nameText c = .ok own) :
    (∃ report, (u.execute m (.ofClass c) w).1 = .ok report ∧ report.isValid = true) ↔
      Nonempty (u.Conformity (.ofClass c) (w.begun "verify_utility_class" [.ofClass c])) := by
  have htarget : w.classes.targetName [.ofClass c] = .ok own := hown
  constructor
  · rintro ⟨report, hreport, hv⟩
    have hexamine := (Act.measured_fst_eq_ok_iff fun report => ⟨_, rfl⟩).1 hreport
    exact isValid_of_examine rfl hexamine.2 hv
  · rintro ⟨k⟩
    obtain ⟨w', hw'⟩ := k.checkFurther
    obtain ⟨w'', hw''⟩ := examine_of_ok rfl k.describes k.names hw'
    exact ⟨_, Act.measured_of_ok m htarget hw'' rfl, isValid_verdict_iff.2 rfl⟩

end UseCase

/-! ## By the class -/

/-- What can be read off a utility class. Reading each of the attributes has to succeed. -/
structure Hierarchy.IsUtilityClass (h : Hierarchy) (c : ClassId) : Prop where
  notProtocol : h.readTruth c "_is_protocol" = .ok false
  notEnumeration : h.isEnumeration c = false
  noAbstractMethods : h.hasAbstractMethods c = .ok false
  noAbstractBase : h.readContains c "__bases__" (h.info c).bases (.library .abc) = .ok false
  isFinal : h.IsMarkedOrSealed c
  /-- The reported constructors are marked as private, and where a signature can be read it takes
  no arguments beyond the receiver. -/
  constructors : ∃ reported, h.reportedConstructors c = .ok reported ∧ ∀ k ∈ reported, k.2.Conforms
  /-- The effective constructors would do with the one argument that they work on. -/
  arguments : ∃ effective, h.effectiveConstructors c = .ok effective ∧
    ∀ k ∈ effective, ∀ s, (Constructor.looked k.2).signature? = some s → s.accepts 1 = true

namespace Hierarchy

variable {h : Hierarchy} {c : ClassId} {own : String}

theorem acceptsNoArguments_eq_true_iff :
    h.acceptsNoArguments c = .ok true ↔ ∃ effective, h.effectiveConstructors c = .ok effective ∧
      ∀ k ∈ effective, ∀ s, (Constructor.looked k.2).signature? = some s → s.accepts 1 = true := by
  rw [acceptsNoArguments, Result.bind_eq_ok_iff]
  refine exists_congr fun effective => and_congr_right fun _ => ?_
  simp only [pure, Except.pure, Except.ok.injEq, List.all_eq_true]
  refine forall_congr' fun k => forall_congr' fun _ => ?_
  cases (Constructor.looked k.2).signature? <;> simp

/-- The list of the constructors conforms just if the reported constructors do, and can be
written. -/
theorem exists_conforming_listing_iff (hc : h.nameText c = .ok own) :
    (∃ list, h.listing c = .ok list ∧ ∀ d ∈ list, d.isPrivate = true ∧ d.takesArguments = false) ↔
      (∃ reported, h.reportedConstructors c = .ok reported ∧ ∀ k ∈ reported, k.2.Conforms) ∧
        h.WritesConstructors c := by
  have hk (k : Constructor) :
      (k.isMarked = true ∧ (k.signature?.any fun s => decide (0 < s.arity)) = false) ↔
        k.Conforms := by
    rw [Constructor.Conforms]
    cases k.signature? <;> simp
  rw [exists_listing_iff hc (P := fun marked takes => marked = true ∧ takes = false),
    WritesConstructors]
  cases h.reportedConstructors c with
  | error f => simp
  | ok reported =>
    simp only [hk, Except.ok.injEq, exists_eq_left', forall_eq']
    exact ⟨fun hall => ⟨fun k hmem => (hall k hmem).2, fun k hmem => (hall k hmem).1⟩,
      fun ⟨hconforms, hwrites⟩ k hmem => ⟨hwrites k hmem, hconforms k hmem⟩⟩

end Hierarchy

namespace Reflection

variable {m : Machinery} {c : ClassId} {w : World}

/-- Constructing a class fails as it should. The exception, as whoever catches it finds it, is an
ordinary one, it has a message if it carries anything, and it has left the body of a function; the
blocking class says that it is one of its own. -/
def IsBlocked (m : Machinery) (c blocking : ClassId) (w : World) : Prop :=
  ∃ e w₁ message w₂, Act.catching m (m.construct c) w = (.ok (.error e), w₁) ∧
    w₁.classes.isException e.error.type = true ∧ messageOf m e w₁ = (.ok message, w₂) ∧
    leftBody w₂.classes e = .ok true ∧ (Act.isSubclass e.error.type blocking w₂).1 = .ok true

theorem invoke_eq_failedWith_iff {error : Subject} {message : Option String} {w' : World} :
    invoke m (.ofClass c) w = (.ok (.failedWith error message), w') ↔
      w.classes.acceptsNoArguments c = .ok true ∧
        ∃ e w₁, Act.catching m (m.construct c) w = (.ok (.error e), w₁) ∧
          w₁.classes.isException e.error.type = true ∧ messageOf m e w₁ = (.ok message, w') ∧
          leftBody w'.classes e = .ok true ∧ error = .ofClass e.error.type := by
  rw [invoke_eq_ok_iff]
  simp only [reduceCtorEq, false_and, and_false, exists_false, false_or, outcomeOf_eq_ok_iff,
    judgement_eq_ok_iff, or_false, Outcome.failedWith.injEq]
  refine and_congr_right fun _ => exists_congr fun e => exists_congr fun w₁ =>
    and_congr_right fun _ => and_congr_right fun _ => ?_
  constructor
  · rintro ⟨text, hm, hl, he, rfl⟩
    exact ⟨hm, hl, he⟩
  · rintro ⟨hm, hl, he⟩
    exact ⟨message, hm, hl, he, rfl⟩

/-- The world in which a class that conforms so far is constructed: a remark names the class. -/
def announced (name : String) (w : World) : World :=
  { w with journal := w.journal ++
      [.remark ("Verificando " ++ name ++ " (" ++ Classification.ordinary.word ++ ")")] }

@[simp] theorem announced_classes (name : String) (w : World) :
    (announced name w).classes = w.classes := rfl

theorem remarked_of_ordinary {d : TypeDescriptor} (hd : d.classification = .ordinary)
    (name : String) (w : World) : UseCase.remarked d name w = announced name w := by
  rw [UseCase.remarked, hd]
  rfl

/-- The answers of reflection conform just if the class does, and blocks its construction. -/
theorem nonempty_conformity_iff {blocking : ClassId} {name blockingName : String}
    (hname : w.classes.nameText c = .ok name)
    (hblocking : w.classes.nameText blocking = .ok blockingName) :
    Nonempty (UseCase.Conformity ⟨introspector m, ⟨blocking⟩⟩ (.ofClass c) w) ↔
      w.classes.IsUtilityClass c ∧ w.classes.WritesConstructors c ∧
        IsBlocked m c blocking (announced name w) := by
  obtain ⟨q, hq, hqtext⟩ := Hierarchy.nameText_eq_ok_iff.1 hname
  obtain ⟨qb, hqb, -⟩ := Hierarchy.nameText_eq_ok_iff.1 hblocking
  constructor
  · rintro ⟨d, w₁, name', list, w₂, error, message, w₃, hdescribe, hn, hord, hconcrete, hfinal,
      hlists, hall, -, hinvoke, hblocks⟩
    obtain ⟨hd, rfl⟩ := Act.ofExcept_eq_ok_iff.1 ((describe_run c w).symm.trans hdescribe)
    obtain ⟨hdname, hkind, habstract, hdfinal⟩ := Hierarchy.description_eq_ok_iff.1 hd
    obtain rfl : name' = name := by
      rw [hq] at hdname
      cases hdname
      rw [hqtext] at hn
      cases hn
      rfl
    rw [remarked_of_ordinary hord] at hlists
    obtain ⟨hlist, rfl⟩ := Act.ofExcept_eq_ok_iff.1 ((constructors_run c _).symm.trans hlists)
    obtain ⟨haccepts, e, w₂, hcatch, he, hmessage, hleft, rfl⟩ := invoke_eq_failedWith_iff.1 hinvoke
    rw [announced_classes] at hlist haccepts
    rw [VerificationPolicy.isBlocking_ofClass] at hblocks
    rw [hord, Hierarchy.classify_eq_ordinary_iff] at hkind
    rw [hconcrete, Hierarchy.isAbstract_eq_false_iff] at habstract
    rw [hfinal, Hierarchy.isFinal_eq_true_iff] at hdfinal
    obtain ⟨hconstructors, hwrites⟩ :=
      (Hierarchy.exists_conforming_listing_iff hname).1 ⟨list, hlist, hall⟩
    exact ⟨⟨hkind.1, hkind.2, habstract.1, habstract.2, hdfinal, hconstructors,
      Hierarchy.acceptsNoArguments_eq_true_iff.1 haccepts⟩,
      hwrites, e, w₂, message, w₃, hcatch, he, hmessage, hleft, hblocks⟩
  · rintro ⟨hc, hwrites, e, w₂, message, w₃, hcatch, he, hmessage, hleft, hsub⟩
    obtain ⟨list, hlist, hall⟩ :=
      (Hierarchy.exists_conforming_listing_iff hname).2 ⟨hc.constructors, hwrites⟩
    have hd : w.classes.description c = .ok ⟨q, .ordinary, false, true⟩ :=
      Hierarchy.description_eq_ok_iff.2 ⟨hq,
        Hierarchy.classify_eq_ordinary_iff.2 ⟨hc.notProtocol, hc.notEnumeration⟩,
        Hierarchy.isAbstract_eq_false_iff.2 ⟨hc.noAbstractMethods, hc.noAbstractBase⟩,
        Hierarchy.isFinal_eq_true_iff.2 hc.isFinal⟩
    have hdescribe : describe (.ofClass c) w = (.ok ⟨q, .ordinary, false, true⟩, w) := by
      rw [describe_run, hd, Act.ofExcept_ok_run]
    have hlists : constructors (.ofClass c) (announced name w) = (.ok list, announced name w) := by
      rw [constructors_run, announced_classes, hlist, Act.ofExcept_ok_run]
    have hinvoke : invoke m (.ofClass c) (announced name w) =
        (.ok (.failedWith (.ofClass e.error.type) message), w₃) := by
      rw [invoke_eq_failedWith_iff, announced_classes, Hierarchy.acceptsNoArguments_eq_true_iff]
      exact ⟨hc.arguments, e, w₂, hcatch, he, hmessage, hleft, rfl⟩
    rw [← remarked_of_ordinary (d := ⟨q, .ordinary, false, true⟩) rfl] at hlists
    have hqb' : (announced name w).classes.nameOf blocking = .ok qb := by
      rw [announced_classes, hqb]
    rw [← VerificationPolicy.isBlocking_ofClass ⟨blocking⟩] at hsub
    exact ⟨⟨_, _, _, _, _, _, _, _, hdescribe, hqtext, rfl, rfl, rfl, hlists, hall, ⟨qb, hqb'⟩,
      hinvoke, hsub⟩⟩

/-- Constructing the verifier's own class fails as it should. -/
theorem verifier_isBlocked (readings : Readings) (journal : List Record) :
    IsBlocked .standard LibraryClass.utilClassVerifier LibraryClass.typeError
      { World.initial .initial with readings, journal } := by
  let refusal := "UtilClassVerifier es una clase utilitaria y no puede instanciarse."
  let error : Instance := { Instance.bare LibraryClass.typeError with arguments := [.str refusal] }
  let w := { World.initial .initial with readings, journal }
  refine ⟨⟨error, LibraryClass.typeError, 1⟩, w, some refusal, w, ?_, ?_, ?_, ?_, ?_⟩
  all_goals rfl

end Reflection

namespace Checker

namespace Unwritable

/-- A class whose module is no text. -/
def numbered : Declaration where
  name := .str "P"
  qualname := .str "P"
  module := .int 5
  bases := []
  metaclass := none
  isFinal := false
  attributes := []
  methods := []
  creator := none
  initialiser := none
  describer := none
  caller := none
  members := []

/-- The initialising function of a utility class, with an annotation that is the class before. -/
def draft : FunctionDraft where
  form := .plain
  outer := {
    parameters := [.bare .plain "self",
      { Parameter.bare .rest "args" with annotation := some (.ofClass (.declared 0)) }]
    result := none
    marker := some (.bool true)
    signatureValue := none }
  inner := []
  marksWrapper := false
  body := [.raise (.ofClass LibraryClass.typeError) none]

/-- A utility class with this function. -/
def annotated : Declaration :=
  { numbered with
    name := .str "A"
    qualname := .str "A"
    module := .str "spec"
    isFinal := true
    initialiser := some (.function draft) }

/-- The world in which both classes are declared. -/
def world : World :=
  ((do discard (numbered.declare .standard); annotated.declare .standard) (.initial .initial)).2

/-- The utility class. -/
def utility : ClassId := .declared 1

/-- Its initialising function. -/
def initialiser : Function := draft.function utility "A" "__init__"

theorem isUtilityClass : world.classes.IsUtilityClass utility := by
  have hreported : world.classes.reportedConstructors utility =
      .ok [("__init__", .raw (.function initialiser))] := rfl
  have heffective : world.classes.effectiveConstructors utility =
      .ok [("__init__", .function initialiser)] := rfl
  refine ⟨rfl, rfl, rfl, rfl, ⟨_, _, rfl, rfl, .inl ⟨_, rfl, rfl⟩⟩, ⟨_, hreported, ?_⟩,
    ⟨_, heffective, ?_⟩⟩
  · rintro k (_ | ⟨_, ⟨⟩⟩)
    exact ⟨rfl, by rintro s ⟨⟩; rfl⟩
  · rintro k (_ | ⟨_, ⟨⟩⟩) s ⟨⟩
    rfl

theorem isBlocked (readings : Readings) (journal : List Record) :
    Reflection.IsBlocked .standard utility LibraryClass.typeError
      { world with readings, journal } := by
  let w := { world with readings, journal }
  refine ⟨⟨Instance.bare LibraryClass.typeError, LibraryClass.typeError, 1⟩, w, none, w, ?_, ?_, ?_,
    ?_, ?_⟩
  all_goals rfl

end Unwritable

end Checker

end UtilityClass
