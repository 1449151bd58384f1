import UtilityClass.Proofs.Completed
import UtilityClass.Proofs.DiscreetMachinery
import UtilityClass.Proofs.Enlisted
import UtilityClass.Proofs.Issued

/-!
# Counting arguments and doing without them

Two questions are asked of the signature of a constructor, and by different means. The list counts
the parameters behind the receiver, leaving out those that collect surplus arguments. The check
before construction places one argument, minding defaults. If nothing is counted, the argument can
be placed, provided that there is a place for a receiver at all.

So a class whose effective constructors are functions and are all listed, and where nothing is
counted, is constructed. It can still be said to lack a constructor without arguments, but only by a
complaint about types that has left no body, and only if the construction has put something else in
the place of the functions. A report therefore has an issue on arguments along with the one that a
constructor is lacking, unless the construction changes the class.

## Main definitions

* `Signature.HasPlace` : there is a place for a receiver
* `Hierarchy.ListsEffective` : all effective constructors are functions and are listed
* `Reflection.Misjudged` : a construction that is judged by other constructors

## Main results

* `Signature.accepts_one_iff` : the two questions about a signature
* `Hierarchy.listed_of_shows` : which classes list all of their effective constructors
* `Reflection.arity_consistent`
-/

namespace UtilityClass

open Result

/-! ## Signatures -/

namespace Signature

/-- There is a place for a receiver: the first parameter takes an argument by position, or one
collects all surplus ones. -/
def HasPlace (s : Signature) : Prop :=
  (∃ p ∈ s.parameters.head?, p.isPositional = true) ∨ ∃ p ∈ s.parameters, p.kind = .rest

/-- **Counting and placing.** If no arguments are counted, a receiver can be placed just if there is
a place for it. -/
theorem accepts_one_iff {s : Signature}
    (ho : s.parameters.Pairwise fun p q => p.kind.rank ≤ q.kind.rank) (hz : s.arity = 0) :
    s.accepts 1 = true ↔ s.HasPlace := by
  obtain ⟨parameters, result⟩ := s
  -- all parameters behind the receiver collect arguments
  have hvariadic : ∀ p ∈ dropReceiver parameters, p.isVariadic = true := by
    simpa [arity] using hz
  have hno {p : Parameter} (hp : p.isVariadic = true) :
      p.isPositional = false ∧ p.kind ≠ .named := by
    revert hp
    unfold Parameter.isVariadic Parameter.isPositional
    cases p.kind <;> simp
  show placeable 1 parameters = true ↔ _
  rw [placeable_iff ho]
  cases parameters with
  | nil => simp [HasPlace]
  | cons p rest =>
    by_cases hp : p.isPositional = true
    · have hrest : ∀ q ∈ rest, q.isVariadic = true := by simpa [dropReceiver, hp] using hvariadic
      have hfilter : rest.filter (·.isPositional) = [] :=
        List.filter_eq_nil_iff.2 fun q hq => by simp [(hno (hrest q hq)).1]
      have hnamed : p.kind ≠ .named := by
        intro hk
        simp [Parameter.isPositional, hk] at hp
      have hplace : HasPlace ⟨p :: rest, result⟩ := .inl ⟨p, rfl, hp⟩
      refine iff_of_true ⟨.inl (by simp [hp]), by simp [hp, hfilter], ?_⟩ hplace
      intro q hq hk
      obtain rfl | hq := List.mem_cons.1 hq
      · exact absurd hk hnamed
      · exact absurd hk (hno (hrest q hq)).2
    · have hall : ∀ q ∈ p :: rest, q.isVariadic = true := by
        simpa [dropReceiver, hp] using hvariadic
      have hfilter : (p :: rest).filter (·.isPositional) = [] :=
        List.filter_eq_nil_iff.2 fun q hq => by simp [(hno (hall q hq)).1]
      have hnamed : ∀ q ∈ p :: rest, q.kind = .named → q.default.isSome = true :=
        fun q hq hk => absurd hk (hno (hall q hq)).2
      rw [hfilter]
      constructor
      · rintro ⟨hfits, -⟩
        exact .inr (hfits.resolve_left (by simp))
      · rintro (⟨q, hq, hpos⟩ | hrest)
        · obtain rfl : p = q := by simpa using hq
          exact absurd hpos hp
        · exact ⟨.inr hrest, by simp, hnamed⟩

end Signature

/-! ## Constructors -/

namespace Member

/-- The function of a member that a lookup on the class gives as it stands in the namespace. -/
def unbound? : Member → Option Function
  | .function f | .static f _ => some f
  | _ => none

variable {m : Member} {f : Function}

theorem signature?_of_unbound (hf : m.unbound? = some f) :
    (Constructor.raw m).signature? = f.readable ∧
      (Constructor.looked m).signature? = f.readable := by
  cases m <;> cases hf <;> exact ⟨rfl, rfl⟩

theorem isFunction_of_unbound (hf : m.unbound? = some f) : m.isFunction = true := by
  cases m <;> cases hf <;> rfl

end Member

namespace Hierarchy

variable {h : Hierarchy} {c : ClassId} {effective : List (String × Member)}
  {reported : List (String × Constructor)} {list : List ConstructorDescriptor}

/-- The effective constructors of a class are functions that have a place for a receiver, and each
of them is listed, either as it stands in the namespace or as it is found. -/
structure ListsEffective (h : Hierarchy) (c : ClassId) (effective : List (String × Member))
    (reported : List (String × Constructor)) : Prop where
  reads : h.effectiveConstructors c = .ok effective
  reports : h.reportedConstructors c = .ok reported
  functions : ∀ k ∈ effective, ∃ f, k.2.unbound? = some f ∧
    ∀ s, f.readable = some s → Parameter.InOrder s.parameters ∧ s.HasPlace
  listed : ∀ k ∈ effective, (k.1, .raw k.2) ∈ reported ∨ (k.1, .looked k.2) ∈ reported

/-- The effective constructors are listed if the class declares all of them, and if it declares no
constructor. -/
theorem listed_of_shows (hc : h.ShowsConstructors c)
    (he : h.effectiveConstructors c = .ok effective)
    (hown : (∀ k ∈ effective, h.own? c k.1 = some k.2) ∨
      ∀ name ∈ constructorNames, h.own? c name = none) :
    ∃ reported, h.reportedConstructors c = .ok reported ∧
      ∀ k ∈ effective, (k.1, .raw k.2) ∈ reported ∨ (k.1, .looked k.2) ∈ reported := by
  obtain ⟨effective', he', hfound⟩ := effectiveConstructors_of_shows hc
  obtain rfl := Except.ok.inj (he'.symm.trans he)
  refine ⟨_, reportedConstructors_of_shows hc, fun k hk => ?_⟩
  obtain hown | hnone := hown
  · have hname : k.1 ∈ constructorNames :=
      (names_of_effective he).subset (List.mem_map_of_mem hk)
    have hmem : (k.1, .raw k.2) ∈ h.ownConstructors c :=
      List.mem_filterMap.2 ⟨k.1, hname, by simp [hown k hk]⟩
    rw [if_pos (by simpa using List.ne_nil_of_mem hmem)]
    exact .inl hmem
  · have hmem : (k.1, .looked k.2) ∈ h.foundConstructors c := by
      rw [hfound]
      exact List.mem_map.2 ⟨k, hk, rfl⟩
    have hempty : h.ownConstructors c = [] := by
      simp only [ownConstructors, List.filterMap_eq_nil_iff]
      intro name hname
      rw [hnone name hname]
      rfl
    rw [if_neg (by simp [hempty]), if_neg (by simpa using List.ne_nil_of_mem hmem)]
    exact .inr hmem

theorem parameterCount_of_described {name : String} {k : Constructor} {d : ConstructorDescriptor}
    (hd : h.describeConstructor c name k = .ok d) : d.parameterCount = .int k.count := by
  cases hc : h.nameText c with
  | error f =>
    rw [describeConstructor_of_error hc] at hd
    cases hd
  | ok own =>
    rw [describeConstructor_eq hc, map_eq_ok_iff] at hd
    obtain ⟨text, -, rfl⟩ := hd
    rfl

/-- Each reported constructor of a list that counts no arguments has none. -/
theorem count_of_listed (hr : h.reportedConstructors c = .ok reported) (hl : h.listing c = .ok list)
    (hz : ∀ d ∈ list, d.parameterCount = .int 0) : ∀ k ∈ reported, k.2.count = 0 := by
  obtain ⟨reported', hr', hl⟩ := bind_eq_ok_iff.1 hl
  obtain rfl := Except.ok.inj (hr.symm.trans hr')
  intro k hk
  obtain ⟨d, hd, hcount⟩ := exists_mapM_iff.1 ⟨list, hl, hz⟩ k hk
  have hzero : Json.int k.2.count = .int 0 := (parameterCount_of_described hd).symm.trans hcount
  simpa using hzero

namespace ListsEffective

variable (hc : h.ListsEffective c effective reported)
include hc

/-- A class that lists its constructors without arguments is constructed without arguments. -/
theorem hasDefault (hl : h.listing c = .ok list) (hz : ∀ d ∈ list, d.parameterCount = .int 0) :
    h.HasDefault c := by
  refine ⟨effective, hc.reads, fun k hk s hs => ?_⟩
  obtain ⟨f, hf, hplace⟩ := hc.functions k hk
  obtain ⟨hraw, hlooked⟩ := Member.signature?_of_unbound hf
  have hreadable : f.readable = some s := hlooked.symm.trans hs
  obtain ⟨horder, hplace⟩ := hplace s hreadable
  have harity : s.arity = 0 := by
    obtain hmem | hmem := hc.listed k hk
    · have hcount := count_of_listed hc.reports hl hz _ hmem
      simpa [Constructor.count, hraw, hreadable] using hcount
    · have hcount := count_of_listed hc.reports hl hz _ hmem
      simpa [Constructor.count, hs] using hcount
  exact (Signature.accepts_one_iff horder.ordered harity).2 hplace

theorem not_hasNative : ¬h.HasNative c := by
  rintro ⟨effective', he, k, hk, hnative⟩
  obtain rfl := Except.ok.inj (hc.reads.symm.trans he)
  obtain ⟨f, hf, -⟩ := hc.functions k hk
  rw [Member.isFunction_of_unbound hf] at hnative
  cases hnative

end ListsEffective

end Hierarchy

/-! ## Constructions -/

namespace Reflection

variable {m : Machinery} {c : ClassId} {effective : List (String × Member)}
  {reported : List (String × Constructor)} {list : List ConstructorDescriptor} {w w' : World}

/-- The construction of a class, all of whose effective constructors are functions, ends with a
complaint about types that has left no body of a function, and afterwards there is an effective
constructor that is no function. -/
structure Misjudged (m : Machinery) (c : ClassId) (w w' : World) : Prop where
  before : ¬w.classes.HasNative c
  complains : ∃ e w₁, Act.catching m (m.construct c) w = (.ok (.error e), w₁) ∧
    leftBody w'.classes e = .ok false ∧
    w'.classes.derives e.error.type LibraryClass.typeError = true
  after : w'.classes.HasNative c

/-- Once a class is constructed, only a complaint about types makes it lack a constructor. -/
theorem misjudged_of_lacking (hd : w.classes.HasDefault c) (hn : ¬w.classes.HasNative c)
    (hi : invoke m (.ofClass c) w = (.ok .noDefaultConstructor, w')) : Misjudged m c w w' := by
  obtain ⟨ha, -, -⟩ | ⟨-, ⟨made, -, ho⟩ | ⟨e, w₁, hcatch, ho⟩⟩ := invoke_eq_ok_iff.1 hi
  · exact nomatch (Hierarchy.hasDefault_iff.1 hd).symm.trans ha
  · cases ho
  · obtain ⟨-, message, -, hj⟩ := outcomeOf_eq_ok_iff.1 ho
    obtain ⟨-, ho⟩ | ⟨hl, ⟨hr, -⟩ | ⟨-, ho⟩⟩ := judgement_eq_ok_iff.1 hj
    · cases ho
    · rw [refusesArguments] at hr
      by_cases htype : w'.classes.derives e.error.type LibraryClass.typeError = true
      · rw [if_pos htype] at hr
        exact ⟨hn, ⟨e, w₁, hcatch, hl, htype⟩, Hierarchy.hasNative_iff.2 hr⟩
      · rw [if_neg htype] at hr
        cases hr
    · cases ho

/-- The count of arguments agrees with what becomes of a construction without arguments. -/
structure Consistent (m : Machinery) (c : ClassId) (list : List ConstructorDescriptor) (w : World) :
    Prop where
  /-- Where no arguments are counted, the class is constructed, once, and what follows depends only
  on how that has ended. -/
  attempted : (∀ d ∈ list, d.parameterCount = .int 0) →
    ∃ answer : Except Raised Value → Act Outcome, ∀ construct : ClassId → Act Value,
      invoke { m with construct } (.ofClass c) w = (Act.attempt (construct c) >>= answer) w
  /-- It is then not said to lack a constructor, unless the construction is misjudged. -/
  lacking : (∀ d ∈ list, d.parameterCount = .int 0) → ∀ w',
    invoke m (.ofClass c) w = (.ok .noDefaultConstructor, w') → Misjudged m c w w'
  /-- A report that a constructor is lacking has an issue on arguments, with the same exception. -/
  reported : ∀ blocking own report, w.classes.nameText c = .ok own →
    ((useCase m blocking).execute m (.ofClass c) w).1 = .ok report →
    lackingIssue own ∈ report.issues →
      (argumentIssues own list ≠ [] ∧ ∀ issue ∈ argumentIssues own list, issue ∈ report.issues) ∨
        ∃ d w', Misjudged m c (arrived d own c w) w'

/-- Each listed constructor that takes arguments is an issue. -/
theorem parameterCount_of_argumentIssues {own : String} (hl : w.classes.listing c = .ok list)
    (hnone : argumentIssues own list = []) : ∀ d ∈ list, d.parameterCount = .int 0 := by
  obtain ⟨reported, -, hl⟩ := bind_eq_ok_iff.1 hl
  have hcounts : ∀ d ∈ list, ∃ n : Nat, d.parameterCount = .int n :=
    forall_of_mapM_eq_ok (fun k d hd => ⟨_, Hierarchy.parameterCount_of_described hd⟩) hl
  intro d hd
  obtain ⟨n, hn⟩ := hcounts d hd
  by_contra hne
  have htakes : d.takesArguments = true := by
    unfold ConstructorDescriptor.takesArguments
    rw [hn]
    cases n with
    | zero => exact absurd hn hne
    | succ n => rfl
  have hmem : d ∈ list.filter fun c => c.takesArguments := List.mem_filter.2 ⟨hd, htakes⟩
  exact List.ne_nil_of_mem hmem (List.map_eq_nil_iff.1 hnone)

/-- **Counting arguments and doing without them are consistent**, for a class whose effective
constructors are functions and are all listed. -/
theorem arity_consistent (hc : w.classes.ListsEffective c effective reported)
    (hl : w.classes.listing c = .ok list) : Consistent m c list w where
  attempted hz := ⟨answer m c, fun construct => by
    rw [invoke_of_hasDefault (hc.hasDefault hl hz), answer_construct construct]⟩
  lacking hz w' hi := misjudged_of_lacking (hc.hasDefault hl hz) hc.not_hasNative hi
  reported blocking own report hown he hi := by
    obtain ⟨d, list', w', hl', hinvoke, hissues⟩ :=
      (execute_eq_ok_iff.1 he).of_lacking hown hi
    obtain rfl := Except.ok.inj (hl.symm.trans hl')
    by_cases hnone : argumentIssues own list = []
    · have hz := parameterCount_of_argumentIssues hl hnone
      refine .inr ⟨d, w', misjudged_of_lacking ?_ ?_ hinvoke⟩ <;> rw [arrived_classes]
      · exact hc.hasDefault hl hz
      · exact hc.not_hasNative
    · exact .inl ⟨hnone, hissues⟩

/-! ## A constructor that replaces itself -/

namespace Replaced

/-- An initialising function that takes any number of arguments. It puts a number in its own place,
and gives one back. -/
def draft : FunctionDraft where
  form := .plain
  outer := {
    parameters := [.bare .positional "self", .bare .rest "args"]
    result := none
    marker := none
    signatureValue := none }
  inner := []
  marksWrapper := false
  body := [.assign "__init__" (.int 5), .give (.int 1)]

/-- A class with this function. -/
def declaration : Declaration :=
  { Declaration.bare "A" with initialiser := some (.function draft) }

/-- The world in which the class is declared. -/
def world : World := (declaration.declare .standard (.initial .initial)).2

def replaced : ClassId := .declared 0

/-- The one effective constructor. -/
def initialiser : Member := .function (draft.function replaced "A" "__init__")

/-- What is said of the class. -/
def described : TypeDescriptor := ⟨⟨.str "spec", .str "A"⟩, .ordinary, false, false⟩

/-- The list of the class. -/
def listed : List ConstructorDescriptor :=
  [⟨"spec.A.__init__(self, /, *args)", .int 0, .nonPrivate⟩]

theorem showsConstructors : world.classes.ShowsConstructors replaced :=
  Hierarchy.KeepsLibrary.showsConstructors ⟨fun _ => rfl, fun _ => rfl, fun _ => rfl⟩
    (l := .type) List.mem_cons_self rfl (List.mem_cons_of_mem _ List.mem_cons_self)

theorem exists_listsEffective :
    ∃ reported, world.classes.ListsEffective replaced [("__init__", initialiser)] reported := by
  have heffective : world.classes.effectiveConstructors replaced =
      .ok [("__init__", initialiser)] := rfl
  have hown (k : String × Member) (hk : k ∈ [("__init__", initialiser)]) :
      world.classes.own? replaced k.1 = some k.2 := by
    obtain rfl := List.mem_singleton.1 hk
    rfl
  obtain ⟨reported, hreported, hlisted⟩ :=
    Hierarchy.listed_of_shows showsConstructors heffective (.inl hown)
  refine ⟨reported, heffective, hreported, fun k hk => ?_, hlisted⟩
  obtain rfl := List.mem_singleton.1 hk
  refine ⟨_, rfl, fun s hs => ?_⟩
  cases hs
  exact ⟨⟨by decide, by decide, by decide⟩, .inl ⟨_, rfl, rfl⟩⟩

theorem listing_eq : world.classes.listing replaced = .ok listed := rfl

end Replaced

open Replaced in
theorem arity_consistent_replaced :
    world.classes.listing replaced = .ok listed ∧ Consistent .standard replaced listed world := by
  obtain ⟨reported, hlists⟩ := exists_listsEffective
  exact ⟨listing_eq, arity_consistent hlists listing_eq⟩

open Replaced in
/-- No arguments are counted, the body runs, and the class is said to lack a constructor without
arguments. So does its report, which has no issue on arguments. -/
theorem arity_inconsistent :
    (∃ reported, world.classes.ListsEffective replaced [("__init__", initialiser)] reported) ∧
      world.classes.listing replaced = .ok listed ∧
      (invoke .standard (.ofClass replaced) world).1 = .ok .noDefaultConstructor ∧
      ∃ report, ((useCase .standard LibraryClass.typeError).execute .standard (.ofClass replaced)
          world).1 = .ok report ∧
        lackingIssue "spec.A" ∈ report.issues ∧ argumentIssues "spec.A" listed = [] := by
  obtain ⟨readings, journal, hbegun⟩ :=
    world.begun_eq "verify_utility_class" [.ofClass replaced]
  have hlacks : (invoke .standard (.ofClass replaced) world).1 = .ok .noDefaultConstructor := rfl
  -- what is remarked on beforehand has no say in the construction
  have hsetting : (arrived described "spec.A" replaced world).setting = world.setting := by
    rw [arrived, hbegun]
    rfl
  have hdiscreet : Machinery.standard.IsDiscreet := Machinery.level_isDiscreet _
  have harrived := ((invoke_isDiscreet hdiscreet
    (Act.isHabit_isDiscreet.shown_ofClass replaced)).alike hsetting).1
  obtain ⟨w', hinvoke⟩ : ∃ w', invoke .standard (.ofClass replaced)
      (arrived described "spec.A" replaced world) = (.ok .noDefaultConstructor, w') :=
    ⟨_, Prod.ext (harrived.trans hlacks) rfl⟩
  have hname : described.name.text = .ok "spec.A" := rfl
  have hissued : Issued .standard replaced LibraryClass.typeError world
      (Run.verdict described "spec.A"
        (diagnosis described listed .noDefaultConstructor "spec.A" "" "" false)) :=
    .passed rfl rfl rfl listing_eq rfl hinvoke rfl fun r hs hr =>
      Run.addIssue_name (by rw [hs]; exact hname) hr Issue.noDefault_eq
  refine ⟨exists_listsEffective, listing_eq, hlacks, _, execute_eq_ok_iff.2 hissued, ?_, rfl⟩
  rw [Run.issues_verdict]
  exact List.mem_append_right _ (List.mem_append_right _ List.mem_cons_self)

end Reflection

end UtilityClass
