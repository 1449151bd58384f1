import UtilityClass.Construction.Declare
import UtilityClass.Construction.Level
import UtilityClass.Proofs.Invoked
import UtilityClass.Proofs.LibraryErrors
import UtilityClass.Proofs.Receiver

/-!
# The check before construction

Before a class is constructed, its effective constructors are asked whether they would do with the
one argument that they work on. What is asked is what a lookup on the class finds. For a function
that works on the object this is the function itself, and the argument stands for the object. A
function that works on nothing is found as it is, although no argument will be handed to it. One
that works on the class is found with the class already handed over, and so the argument is one too
many again.

Here the check is compared with the construction, for classes whose objects the root creates and a
function initialises. For a function that works on the object both agree. In a wrapper they agree
just if one more argument makes no difference to the function.

## Main definitions

* `Hierarchy.CreatedByRoot`, `Hierarchy.InitialisedBy` : how objects of a class come about
* `Member.wouldDo` : what is asked of a constructor
* `Reflection.Agrees` : the check agrees with the construction

## Main results

* `Reflection.precheck_agrees` : when it does
-/

namespace UtilityClass

open Result

namespace Member

/-- The function of a member, perhaps in a wrapper. -/
def function? : Member → Option Function
  | .function f | .static f _ | .classwise f _ => some f
  | _ => none

/-- What a lookup on an object of a class hands to a function in front of all arguments. -/
def handed (m : Member) (c : ClassId) : List Value :=
  (m.onObject (.object (Instance.bare c)) c).2

/-- Whether the constructor, as a lookup on the class finds it, would do with one argument. One
whose signature cannot be read is not asked. -/
def wouldDo (m : Member) : Bool :=
  match (Constructor.looked m).signature? with
  | some s => s.accepts 1
  | none => true

variable {m : Member} {f : Function}

theorem wouldDo_of_signature {s : Signature} (hs : (Constructor.looked m).signature? = some s) :
    m.wouldDo = s.accepts 1 := by
  rw [wouldDo, hs]

theorem onObject_of_function (hf : m.function? = some f) (c : ClassId) :
    m.onObject (.object (Instance.bare c)) c = (.function f, m.handed c) := by
  cases m <;> cases hf <;> rfl

theorem isFunction_of_function (hf : m.function? = some f) : m.isFunction = true := by
  cases m <;> cases hf <;> rfl

theorem isRoot_of_function (hf : m.function? = some f) (name : String) : m.isRoot name = false := by
  cases m <;> cases hf <;> rfl

end Member

namespace Hierarchy

/-- The root creates the objects of a class, and does not refuse to. -/
structure CreatedByRoot (h : Hierarchy) (c : ClassId) : Prop where
  reads : ∃ a, h.read c "__new__" = .ok a ∧ a.member.isRoot "__new__" = true
  creates : h.createsAsRoot c = true
  notBarred : (h.info c).isBarred = false
  /-- An object of the class is one. -/
  derives : h.derives c c = true

/-- A function, perhaps in a wrapper, initialises the objects of a class. It is found along the
order of the class, and that is what is read. -/
structure InitialisedBy (h : Hierarchy) (c : ClassId) (m : Member) (f : Function) : Prop where
  found : ∃ d, h.resolve? c "__init__" = some (d, m)
  reads : h.read c "__init__" = .ok ⟨m, false⟩
  wraps : m.function? = some f

variable {h : Hierarchy} {c : ClassId} {m : Member} {f : Function}

theorem effectiveConstructors_of_function (hc : h.CreatedByRoot c) (hi : h.InitialisedBy c m f) :
    h.effectiveConstructors c = .ok [("__init__", m)] := by
  obtain ⟨a, ha, hroot⟩ := hc.reads
  rw [effectiveConstructors_of_read ha hi.reads]
  simp [hroot, Member.isRoot_of_function hi.wraps]

theorem acceptsNoArguments_of_function (hc : h.CreatedByRoot c) (hi : h.InitialisedBy c m f) :
    h.acceptsNoArguments c = .ok m.wouldDo := by
  rw [acceptsNoArguments, effectiveConstructors_of_function hc hi, ok_bind]
  simp only [List.all_cons, List.all_nil, Bool.and_true]
  rfl

theorem hasNativeConstructor_of_function (hc : h.CreatedByRoot c) (hi : h.InitialisedBy c m f) :
    h.hasNativeConstructor c = .ok false := by
  rw [hasNativeConstructor, effectiveConstructors_of_function hc hi, ok_bind]
  simp only [List.any_cons, List.any_nil, Member.isFunction_of_function hi.wraps]
  rfl

end Hierarchy

/-! ## Constructing -/

namespace Construction

open Act (bind_run_of_ok bind_run_of_error)

variable {m : Machinery} {c : ClassId} {k : Member} {f : Function} {w : World}

/-- The root creates a bare object. -/
theorem create_of_root (hc : w.classes.CreatedByRoot c) :
    create m c [] [] w = (.ok (.object (Instance.bare c)), w) := by
  have hcreator : (w.classes.info c).creator = some .object := by
    simpa [Hierarchy.createsAsRoot] using hc.creates
  have hroot : w.classes.createRoot c false = .ok () := by
    simp [Hierarchy.createRoot, hc.notBarred, pure, Except.pure]
  have hnative : w.classes.createNative .object c [] [] = .ok (.object (Instance.bare c)) := by
    have hfamily : LibraryClass.creationFamily .object = .object := rfl
    rw [Hierarchy.createNative, hfamily]
    exact bind_eq_ok_iff.2 ⟨(), hroot, rfl⟩
  rw [create, bind_run_of_ok (Act.classes_run w), hcreator]
  show createNatively m .object c [] [] w = _
  rw [createNatively, if_neg (by decide), bind_run_of_ok (Act.classes_run w), hnative]
  rfl

/-- Constructing calls the function that is found to initialise what has been created, and nothing
may be given back. -/
theorem construct_of_found {made : Value} {given : List Value} {d : ClassId} {w₁ : World}
    (hne : c ≠ LibraryClass.type) (hcreate : create m c [] [] w = (.ok made, w₁))
    (hof : made.isOf w₁.classes c = true)
    (hfound : w₁.classes.resolve? (made.type w₁.classes) "__init__" = some (d, k))
    (hon : k.onObject made (made.type w₁.classes) = (.function f, given)) :
    m.above.construct c w = (do
      let (value, first) ← callFunction m f 0 given []
      if ¬value.isNull then Act.refuse (.notNull (value.kind (← Act.classes)))
      return if k.takesObject then first else made : Act Value) w₁ := by
  show constructWith m c [] [] w = _
  unfold constructWith
  rw [if_neg hne]
  dsimp only
  rw [bind_run_of_ok hcreate, bind_run_of_ok (Act.classes_run w₁), hof, if_pos rfl, initialise,
    bind_run_of_ok (Act.classes_run w₁), hfound]
  dsimp only
  rw [hon, List.append_nil]
  rfl

theorem construct_of_function (hlibrary : w.classes.KeepsLibrary) (hc : w.classes.CreatedByRoot c)
    (hi : w.classes.InitialisedBy c k f) :
    m.above.construct c w = (do
      let (value, first) ← callFunction m f 0 (k.handed c) []
      if ¬value.isNull then Act.refuse (.notNull (value.kind (← Act.classes)))
      return if k.takesObject then first else .object (Instance.bare c) : Act Value) w := by
  obtain ⟨d, hfound⟩ := hi.found
  have hne : c ≠ LibraryClass.type := by
    rintro rfl
    rw [hlibrary.resolve?_eq] at hfound
    have hinitial : Hierarchy.initial.resolve? LibraryClass.type "__init__" =
        some (.library .type, .native (.initialise .type)) := rfl
    rw [hinitial] at hfound
    cases hfound
    cases hi.wraps
  exact construct_of_found hne (create_of_root hc) hc.derives hfound
    (Member.onObject_of_function hi.wraps c)

/-- Arguments that do not fit are refused before the body is entered. -/
theorem callFunction_of_error {given : List Value} {e : CallError}
    (he : Signature.pass f.parameters given.length [] = .error e) :
    callFunction m f 0 given [] w = (.error (Fault.call f.qualname e).raised, w) := by
  rw [callFunction, List.map_nil, he]
  rfl

/-- Arguments that fit are worked on by the body. -/
theorem callFunction_of_ok {given : List Value} {result : Value × Value} {w' : World}
    (hp : Signature.pass f.parameters given.length [] = .ok ())
    (hbody : runBody m f 0 given [] w = (.ok result, w')) :
    callFunction m f 0 given [] w = (.ok result, w') := by
  rw [callFunction, List.map_nil, hp]
  show Act.inFrame (runBody m f 0 given []) w = _
  rw [Act.inFrame, hbody]

end Construction

/-! ## Outcomes -/

namespace Reflection

open Act (bind_run_of_ok bind_run_of_error)

variable {m : Machinery} {c : ClassId} {k : Member} {f : Function} {w w' : World}

/-- A complaint about types that has not left the body of a function is taken for a refusal to do
without arguments if native code takes part, and otherwise for what keeps the class from being
constructed. -/
theorem outcomeOf_complaint_run (hlibrary : w.classes.KeepsLibrary) {fault : Fault}
    (hkind : fault.kind = .typeError) {text : String} (htext : fault.argument = .str text) :
    outcomeOf m.above c fault.raised w =
      Act.ofExcept ((w.classes.hasNativeConstructor c).map fun isNative =>
        if isNative then .noDefaultConstructor
        else .accessRefused (.ofClass LibraryClass.typeError) (some text)) w := by
  have htype : fault.raised.error.type = LibraryClass.typeError := by rw [← hkind]; rfl
  have hmem : LibraryClass.typeError ∈ libraryErrors := by decide
  have hexception : w.classes.isException fault.raised.error.type = true := by
    rw [htype]
    exact hlibrary.isException_eq hmem
  have hmessage : messageOf m.above fault.raised w = (.ok (some text), w) := by
    rw [hlibrary.messageOf_run hmem m htype rfl]
    simp only [Fault.raised, Instance.raised, htext]
    rfl
  have hleft : leftBody w.classes fault.raised = .ok false := hlibrary.leftBody_eq hmem htype
  have hderives : w.classes.derives LibraryClass.typeError LibraryClass.typeError = true := by
    rw [Hierarchy.derives, hlibrary.order]
    decide
  rw [outcomeOf_of_exception hexception, bind_run_of_ok hmessage,
    bind_run_of_ok (Act.classes_run w), judgement, hleft, ok_bind, refusesArguments, htype,
    if_pos hderives]
  cases w.classes.hasNativeConstructor c with
  | error f => rfl
  | ok isNative => cases isNative <;> rfl

theorem outcomeOf_of_complaint (hlibrary : w.classes.KeepsLibrary) {fault : Fault}
    (hkind : fault.kind = .typeError) {text : String} (htext : fault.argument = .str text)
    (hnative : w.classes.hasNativeConstructor c = .ok false) :
    outcomeOf m.above c fault.raised w =
      (.ok (.accessRefused (.ofClass LibraryClass.typeError) (some text)), w) := by
  rw [outcomeOf_complaint_run hlibrary hkind htext, hnative]
  rfl

/-- The complaint about arguments that do not fit a function. -/
def unfit (f : Function) (e : CallError) : Raised := (Fault.call f.qualname e).raised

section Function

variable (hlibrary : w.classes.KeepsLibrary) (hc : w.classes.CreatedByRoot c)
  (hi : w.classes.InitialisedBy c k f)
include hlibrary hc hi

theorem construct_of_unfit {e : CallError}
    (he : Signature.pass f.parameters (k.handed c).length [] = .error e) :
    m.above.construct c w = (.error (unfit f e), w) := by
  rw [Construction.construct_of_function hlibrary hc hi,
    bind_run_of_error (Construction.callFunction_of_error he)]
  rfl

theorem construct_of_fit (hp : Signature.pass f.parameters (k.handed c).length [] = .ok ())
    {first : Value}
    (hbody : Construction.runBody m f 0 (k.handed c) [] w = (.ok (.null, first), w')) :
    m.above.construct c w =
      (.ok (if k.takesObject then first else .object (Instance.bare c)), w') := by
  rw [Construction.construct_of_function hlibrary hc hi,
    bind_run_of_ok (Construction.callFunction_of_ok hp hbody)]
  rfl

theorem invoke_of_unfit (hdo : k.wouldDo = true) {e : CallError}
    (he : Signature.pass f.parameters (k.handed c).length [] = .error e) :
    invoke m.above (.ofClass c) w =
      (.ok (.accessRefused (.ofClass LibraryClass.typeError)
        (some (e.message f.qualname))), w) := by
  have haccepts : w.classes.acceptsNoArguments c = .ok true := by
    rw [Hierarchy.acceptsNoArguments_of_function hc hi, hdo]
  have hfault : (unfit f e).IsOfFault := Raised.isOfFault_raised _
  have hcatch : Act.catching m.above (m.above.construct c) w = (.ok (.error (unfit f e)), w) :=
    Act.catching_eq_error_iff.2
      ⟨_, w, construct_of_unfit hlibrary hc hi he, hfault.settle_run hlibrary m.above⟩
  rw [invoke_of_accepted haccepts, bind_run_of_ok hcatch]
  exact outcomeOf_of_complaint hlibrary rfl rfl (Hierarchy.hasNativeConstructor_of_function hc hi)

theorem invoke_of_fit (hdo : k.wouldDo = true)
    (hp : Signature.pass f.parameters (k.handed c).length [] = .ok ()) {first : Value}
    (hbody : Construction.runBody m f 0 (k.handed c) [] w = (.ok (.null, first), w')) :
    invoke m.above (.ofClass c) w =
      (.ok (.constructed (if k.takesObject then first else .object (Instance.bare c))), w') := by
  have haccepts : w.classes.acceptsNoArguments c = .ok true := by
    rw [Hierarchy.acceptsNoArguments_of_function hc hi, hdo]
  rw [invoke_of_accepted haccepts,
    bind_run_of_ok (Act.catching_of_ok m.above (construct_of_fit hlibrary hc hi hp hbody))]
  rfl

end Function

/-! ## Agreement -/

/-- The check of a class agrees with its construction. It says that there is no constructor without
arguments just if the arguments of the construction do not fit the function, and otherwise the
object that is constructed is the outcome. -/
structure Agrees (m : Machinery) (c : ClassId) (f : Function) (w : World) : Prop where
  refused_iff : (invoke m (.ofClass c) w).1 = .ok .noDefaultConstructor ↔
    ∃ e, (m.construct c w).1 = .error (unfit f e)
  constructed : (¬∃ e, (m.construct c w).1 = .error (unfit f e)) →
    ∃ made w', m.construct c w = (.ok made, w') ∧
      invoke m (.ofClass c) w = (.ok (.constructed made), w')

section Function

variable (hlibrary : w.classes.KeepsLibrary) (hc : w.classes.CreatedByRoot c)
  (hi : w.classes.InitialisedBy c k f)
include hc hi

theorem invoke_of_lacking (hdo : k.wouldDo = false) :
    invoke m (.ofClass c) w = (.ok .noDefaultConstructor, w) :=
  invoke_of_refused (by rw [Hierarchy.acceptsNoArguments_of_function hc hi, hdo])

include hlibrary

/-- Arguments that do not fit have to be foreseen. -/
theorem agrees_iff_of_unfit {e : CallError}
    (he : Signature.pass f.parameters (k.handed c).length [] = .error e) :
    Agrees m.above c f w ↔ k.wouldDo = false := by
  have hrefused : ∃ e, (m.above.construct c w).1 = .error (unfit f e) :=
    ⟨e, by rw [construct_of_unfit hlibrary hc hi he]⟩
  constructor
  · intro ha
    refine Bool.eq_false_iff.2 fun hdo => ?_
    have hlacks := ha.refused_iff.2 hrefused
    rw [invoke_of_unfit hlibrary hc hi hdo he] at hlacks
    cases hlacks
  · intro hdo
    exact ⟨iff_of_true (by rw [invoke_of_lacking hc hi hdo]) hrefused,
      fun hfits => absurd hrefused hfits⟩

/-- Where they fit, the class must not be said to lack a constructor. -/
theorem agrees_iff_of_fit (hp : Signature.pass f.parameters (k.handed c).length [] = .ok ())
    {first : Value}
    (hbody : Construction.runBody m f 0 (k.handed c) [] w = (.ok (.null, first), w')) :
    Agrees m.above c f w ↔ k.wouldDo = true := by
  have hconstruct := construct_of_fit hlibrary hc hi hp hbody
  have hfits : ¬∃ e, (m.above.construct c w).1 = .error (unfit f e) := by
    rintro ⟨e, he⟩
    rw [hconstruct] at he
    cases he
  constructor
  · intro ha
    refine (Bool.not_eq_false _).mp fun hdo => hfits (ha.refused_iff.1 ?_)
    rw [invoke_of_lacking hc hi hdo]
  · intro hdo
    have hinvoke := invoke_of_fit hlibrary hc hi hdo hp hbody
    refine ⟨iff_of_false (fun hlacks => ?_) hfits, fun _ => ⟨_, w', hconstruct, hinvoke⟩⟩
    rw [hinvoke] at hlacks
    cases hlacks

end Function

/-- What the check and the construction make of a class whose objects a function initialises that
gives nothing back. -/
structure Prechecked (m : Machinery) (c : ClassId) (k : Member) (f : Function) (w : World) :
    Prop where
  /-- Where one argument would not do, the class lacks a constructor without arguments. -/
  lacking : k.wouldDo = false → invoke m (.ofClass c) w = (.ok .noDefaultConstructor, w)
  /-- Otherwise the class is constructed. Arguments that do not fit the function are complained
  of. -/
  refused (e : CallError) : k.wouldDo = true →
    Signature.pass f.parameters (k.handed c).length [] = .error e →
      invoke m (.ofClass c) w =
        (.ok (.accessRefused (.ofClass LibraryClass.typeError) (some (e.message f.qualname))), w)
  /-- If they fit, the object is the outcome. -/
  constructed : k.wouldDo = true → Signature.pass f.parameters (k.handed c).length [] = .ok () →
    ∃ made w', m.construct c w = (.ok made, w') ∧
      invoke m (.ofClass c) w = (.ok (.constructed made), w')
  /-- The check agrees just if one argument would do where the arguments fit, and only there. -/
  agrees_iff : Agrees m c f w ↔
    (k.wouldDo = true ↔ Signature.pass f.parameters (k.handed c).length [] = .ok ())

theorem prechecked (hlibrary : w.classes.KeepsLibrary) (hc : w.classes.CreatedByRoot c)
    (hi : w.classes.InitialisedBy c k f)
    (hbody : Signature.pass f.parameters (k.handed c).length [] = .ok () →
      ∃ first w', Construction.runBody m f 0 (k.handed c) [] w = (.ok (.null, first), w')) :
    Prechecked m.above c k f w where
  lacking := invoke_of_lacking hc hi
  refused _ hdo he := invoke_of_unfit hlibrary hc hi hdo he
  constructed hdo hp := by
    obtain ⟨first, w', hbody⟩ := hbody hp
    exact ⟨_, w', construct_of_fit hlibrary hc hi hp hbody,
      invoke_of_fit hlibrary hc hi hdo hp hbody⟩
  agrees_iff := by
    cases hp : Signature.pass f.parameters (k.handed c).length [] with
    | error e => simpa using agrees_iff_of_unfit (m := m) hlibrary hc hi hp
    | ok _ =>
      obtain ⟨first, w', hbody⟩ := hbody hp
      simpa using agrees_iff_of_fit hlibrary hc hi hp hbody

end Reflection

namespace Member

/-- That one more argument is tried than is handed over makes no difference to a member whose
function has a signature. Only in a wrapper one more is tried. -/
def TakesOneMore (k : Member) (s : Signature) : Prop :=
  match k with
  | .static _ _ => s.accepts 1 = s.accepts 0
  | .classwise _ _ => s.bound?.isSome = true ∧ s.accepts 2 = s.accepts 1
  | _ => True

/-- Where a function shows its own parameters, one argument would do just if one more than those
that are handed over would, or the same in case of a function that works on the object. -/
theorem wouldDo_iff_pass_iff {k : Member} {f : Function} (hf : k.function? = some f)
    {s : Signature} (hs : f.readable = some s) (hown : s.parameters = f.parameters)
    (ho : Parameter.InOrder f.parameters) (c : ClassId) :
    (k.wouldDo = true ↔ Signature.pass f.parameters (k.handed c).length [] = .ok ()) ↔
      k.TakesOneMore s := by
  rw [Signature.pass_eq_ok_iff_placeable ho, ← hown]
  cases k with
  | function g =>
    cases hf
    have hdo : wouldDo (.function f) = s.accepts 1 := wouldDo_of_signature hs
    exact iff_of_true (by rw [hdo]; rfl) trivial
  | static g marker =>
    cases hf
    have hdo : wouldDo (.static f marker) = s.accepts 1 := wouldDo_of_signature hs
    rw [hdo]
    exact Bool.eq_iff_iff.symm
  | classwise g marker =>
    cases hf
    have hlooked : (Constructor.looked (.classwise f marker)).signature? = s.bound? := by
      show f.readable.bind (·.bound?) = s.bound?
      rw [hs]
      rfl
    cases hb : s.bound? with
    | none =>
      have hdo : wouldDo (.classwise f marker) = true := by
        rw [wouldDo, hlooked, hb]
      have hunfit : ¬s.accepts 1 = true := by rw [Signature.accepts_of_unbound hb]; decide
      refine iff_of_false (fun h => hunfit (h.1 hdo)) fun h => ?_
      exact absurd h.1 (by rw [hb]; decide)
    | some s' =>
      rw [wouldDo_of_signature (hlooked.trans hb), Signature.accepts_of_bound hb, TakesOneMore,
        ← Bool.eq_iff_iff, hb]
      exact (and_iff_right rfl).symm
  | _ => cases hf

end Member

namespace Reflection

variable {m : Machinery} {c : ClassId} {k : Member} {f : Function} {w : World}

/-- **The check before construction**, of a class whose objects the root creates and a function
initialises that gives nothing back. It agrees with the construction just if one argument would do
where the arguments that are handed over fit. Where the function shows its own parameters, this is
so for a function that works on the object, and in a wrapper just if one more argument makes no
difference. -/
theorem precheck_agrees (hlibrary : w.classes.KeepsLibrary) (hc : w.classes.CreatedByRoot c)
    (hi : w.classes.InitialisedBy c k f)
    (hbody : Signature.pass f.parameters (k.handed c).length [] = .ok () →
      ∃ first w', Construction.runBody m f 0 (k.handed c) [] w = (.ok (.null, first), w')) :
    Prechecked m.above c k f w ∧
      ∀ s, f.readable = some s → s.parameters = f.parameters → Parameter.InOrder f.parameters →
        (Agrees m.above c f w ↔ k.TakesOneMore s) := by
  have hprechecked := prechecked hlibrary hc hi hbody
  exact ⟨hprechecked, fun s hs hown ho =>
    hprechecked.agrees_iff.trans (Member.wouldDo_iff_pass_iff hi.wraps hs hown ho c)⟩

/-! ## A class that is said to lack a constructor -/

namespace Overasked

/-- An initialising function that works on the class and takes no arguments. -/
def draft : FunctionDraft where
  form := .classwise
  outer := {
    parameters := [.bare .plain "cls"]
    result := none
    marker := none
    signatureValue := none }
  inner := []
  marksWrapper := false
  body := []

/-- A class with this function. -/
def declaration : Declaration :=
  { Declaration.bare "A" with initialiser := some (.function draft) }

/-- The world in which the class is declared. -/
def world : World := (declaration.declare .standard (.initial .initial)).2

def overasked : ClassId := .declared 0

def function : Function := draft.function overasked "A" "__init__"

theorem keepsLibrary : world.classes.KeepsLibrary := ⟨fun _ => rfl, fun _ => rfl, fun _ => rfl⟩

theorem createdByRoot : world.classes.CreatedByRoot overasked := ⟨⟨_, rfl, rfl⟩, rfl, rfl, rfl⟩

theorem initialisedBy : world.classes.InitialisedBy overasked (.classwise function none) function :=
  ⟨⟨_, rfl⟩, rfl, rfl⟩

theorem inOrder : Parameter.InOrder function.parameters := ⟨by decide, by decide, by decide⟩

end Overasked

open Overasked in
/-- The check of such a class does not agree with its construction. -/
theorem precheck_agrees_classwise :
    Prechecked .standard overasked (.classwise function none) function world ∧
      ¬Agrees .standard overasked function world := by
  have hbody (_ : Signature.pass function.parameters
      (Member.handed (.classwise function none) overasked).length [] = .ok ()) :
      ∃ first w', Construction.runBody (.level 999) function 0
        (Member.handed (.classwise function none) overasked) [] world =
          (.ok (.null, first), w') := ⟨_, _, rfl⟩
  obtain ⟨hprechecked, hagrees⟩ :=
    precheck_agrees (m := .level 999) keepsLibrary createdByRoot initialisedBy hbody
  refine ⟨hprechecked, fun ha => ?_⟩
  obtain ⟨-, hmore⟩ := (hagrees ⟨function.parameters, none⟩ rfl rfl inOrder).1 ha
  revert hmore
  decide

open Overasked in
/-- It is constructed without arguments, but is said to lack a constructor that takes none. -/
theorem precheck_differs :
    (∃ made w', Machinery.standard.construct overasked world = (.ok made, w') ∧
      made.isOf w'.classes overasked = true) ∧
      invoke .standard (.ofClass overasked) world = (.ok .noDefaultConstructor, world) :=
  ⟨⟨_, _, rfl, rfl⟩, rfl⟩

end Reflection

end UtilityClass
