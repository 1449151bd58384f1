import UtilityClass.Proofs.Outcomes
import UtilityClass.Proofs.Precheck

/-!
# Constructors that come to their end

An object is created, a function that takes nothing else is found to initialise it, and the body of
the function comes to its end. If it gives nothing back, the object is constructed. Anything else is
refused after the body has run, and the refusal is a complaint about types that has not left the
body of a function, like the complaint of native code that it does not do without arguments. Which
of the two it is taken for does not depend on where it comes from: it counts as the second one as
soon as some effective constructor is no function, be it the one that has just created the object.

## Main definitions

* `Construction.Reaches` : a construction reaches a function that initialises the object
* `Hierarchy.HasNative` : some effective constructor is no function
* `Reflection.Completed` : what is answered once the body has come to its end

## Main results

* `Reflection.invoke_completed`
-/

namespace UtilityClass

open Result

/-! ## Constructing -/

namespace Construction

open Act (bind_run_of_ok)

variable {m : Machinery} {c : ClassId} {f : Function} {made value first : Value} {w w₁ w₂ : World}

/-- The construction of an object of a class without arguments creates one and finds a function to
initialise it. -/
structure Reaches (m : Machinery) (c : ClassId) (w : World) (f : Function) (made : Value)
    (w₁ : World) : Prop where
  /-- The class of all classes does not do without arguments. -/
  notType : c ≠ LibraryClass.type
  creates : create m c [] [] w = (.ok made, w₁)
  isOf : made.isOf w₁.classes c = true
  found : ∃ d, w₁.classes.resolve? (made.type w₁.classes) "__init__" = some (d, .function f)

/-- The function is called with the object alone, and may give nothing back. -/
theorem construct_of_reaches (hr : Reaches m c w f made w₁) :
    m.above.construct c w = (do
      let (value, first) ← callFunction m f 0 [made] []
      if ¬value.isNull then Act.refuse (.notNull (value.kind (← Act.classes)))
      return first : Act Value) w₁ := by
  obtain ⟨d, hfound⟩ := hr.found
  exact construct_of_found hr.notType hr.creates hr.isOf hfound rfl

section Body

variable (hr : Reaches m c w f made w₁) (hpass : Signature.pass f.parameters 1 [] = .ok ())
  (hbody : runBody m f 0 [made] [] w₁ = (.ok (value, first), w₂))
include hr hpass hbody

theorem construct_of_null (hvalue : value.isNull = true) :
    m.above.construct c w = (.ok first, w₂) := by
  rw [construct_of_reaches hr, bind_run_of_ok (callFunction_of_ok hpass hbody)]
  dsimp only
  rw [hvalue]
  rfl

theorem construct_of_value (hvalue : value.isNull = false) :
    m.above.construct c w =
      (.error (Fault.refusal (.notNull (value.kind w₂.classes))).raised, w₂) := by
  rw [construct_of_reaches hr, bind_run_of_ok (callFunction_of_ok hpass hbody)]
  dsimp only
  rw [hvalue]
  rfl

end Body

end Construction

/-! ## Outcomes -/

namespace Hierarchy

variable {h : Hierarchy} {c : ClassId}

/-- Some effective constructor is no function. -/
def HasNative (h : Hierarchy) (c : ClassId) : Prop :=
  ∃ effective, h.effectiveConstructors c = .ok effective ∧ ∃ k ∈ effective, k.2.isFunction = false

theorem hasNative_iff : h.HasNative c ↔ h.hasNativeConstructor c = .ok true := by
  rw [hasNativeConstructor, bind_eq_ok_iff]
  simp only [pure, Except.pure, Except.ok.injEq, List.any_eq_true, Bool.not_eq_true']
  rfl

end Hierarchy

namespace Reflection

open Act (bind_run_of_ok)
open Construction (Reaches runBody)

variable {m : Machinery} {c : ClassId} {f : Function} {made value first : Value} {w w₁ w₂ : World}

/-- What is said of a value that an initialising function gives back. -/
def refusalText (kind : String) : String :=
  "__init__() should return None, not '" ++ kind ++ "'"

/-- What is answered on a class, if the body of the function that initialises its object comes to
its end with a value. The object is then the first argument, as it has become. -/
structure Completed (m : Machinery) (c : ClassId) (w : World) (value first : Value) (w₂ : World) :
    Prop where
  /-- Where some constructor would not do with its receiver, the body is not even entered. -/
  lacking : w.classes.LacksDefault c → invoke m (.ofClass c) w = (.ok .noDefaultConstructor, w)
  constructed : w.classes.HasDefault c → value.isNull = true →
    invoke m (.ofClass c) w = (.ok (.constructed first), w₂)
  /-- A value that is refused is judged by the effective constructors, as they are afterwards. -/
  refused : w.classes.HasDefault c → value.isNull = false →
    invoke m (.ofClass c) w =
      Act.ofExcept ((w₂.classes.hasNativeConstructor c).map fun isNative =>
        if isNative then .noDefaultConstructor
        else .accessRefused (.ofClass LibraryClass.typeError)
          (some (refusalText (value.kind w₂.classes)))) w₂
  /-- The class is said to lack a constructor in these cases alone. -/
  lacking_iff : (invoke m (.ofClass c) w).1 = .ok .noDefaultConstructor ↔
    w.classes.LacksDefault c ∨
      (w.classes.HasDefault c ∧ value.isNull = false ∧ w₂.classes.HasNative c)

section Body

variable (hr : Reaches m c w f made w₁) (hpass : Signature.pass f.parameters 1 [] = .ok ())
  (hbody : runBody m f 0 [made] [] w₁ = (.ok (value, first), w₂))
  (hlibrary : w₂.classes.KeepsLibrary)
include hr hpass hbody

theorem invoke_of_null (hd : w.classes.HasDefault c) (hvalue : value.isNull = true) :
    invoke m.above (.ofClass c) w = (.ok (.constructed first), w₂) := by
  have hconstruct := Construction.construct_of_null hr hpass hbody hvalue
  rw [invoke_of_accepted (Hierarchy.hasDefault_iff.1 hd),
    bind_run_of_ok (Act.catching_of_ok m.above hconstruct)]
  rfl

include hlibrary

theorem invoke_of_value (hd : w.classes.HasDefault c) (hvalue : value.isNull = false) :
    invoke m.above (.ofClass c) w =
      Act.ofExcept ((w₂.classes.hasNativeConstructor c).map fun isNative =>
        if isNative then .noDefaultConstructor
        else .accessRefused (.ofClass LibraryClass.typeError)
          (some (refusalText (value.kind w₂.classes)))) w₂ := by
  have hconstruct := Construction.construct_of_value hr hpass hbody hvalue
  have hcatch : Act.catching m.above (m.above.construct c) w = (.ok (.error _), w₂) :=
    Act.catching_eq_error_iff.2
      ⟨_, w₂, hconstruct, (Raised.isOfFault_raised _).settle_run hlibrary m.above⟩
  rw [invoke_of_accepted (Hierarchy.hasDefault_iff.1 hd), bind_run_of_ok hcatch]
  exact outcomeOf_complaint_run hlibrary rfl rfl

/-- **A constructor whose body comes to its end.** The class is said to lack a constructor without
arguments if its constructors say so beforehand, and also where the body gives something back and
some effective constructor is no function. -/
theorem invoke_completed : Completed m.above c w value first w₂ where
  lacking hl := invoke_of_refused (Hierarchy.lacksDefault_iff.1 hl)
  constructed := invoke_of_null hr hpass hbody
  refused := invoke_of_value hr hpass hbody hlibrary
  lacking_iff := by
    rw [Hierarchy.hasNative_iff, Hierarchy.lacksDefault_iff, Hierarchy.hasDefault_iff]
    rcases ha : w.classes.acceptsNoArguments c with fault | _ | _
    · rw [invoke_of_unknown ha]
      simp
    · rw [invoke_of_refused ha]
      simp
    · have hd : w.classes.HasDefault c := Hierarchy.hasDefault_iff.2 ha
      cases hvalue : value.isNull with
      | true =>
        rw [invoke_of_null hr hpass hbody hd hvalue]
        simp
      | false =>
        rw [invoke_of_value hr hpass hbody hlibrary hd hvalue]
        rcases w₂.classes.hasNativeConstructor c with fault | _ | _ <;> simp [Except.map]

end Body

/-! ## A dictionary that gives something back -/

namespace Overgenerous

/-- An initialising function that works on the object and gives a number back. -/
def draft : FunctionDraft where
  form := .plain
  outer := {
    parameters := [.bare .plain "self"]
    result := none
    marker := none
    signatureValue := none }
  inner := []
  marksWrapper := false
  body := [.give (.int 1)]

/-- A class of dictionaries with this function. -/
def declaration : Declaration :=
  { Declaration.bare "A" with
    bases := [.ofClass LibraryClass.dict]
    initialiser := some (.function draft) }

/-- The world in which the class is declared. -/
def world : World := (declaration.declare .standard (.initial .initial)).2

def overgenerous : ClassId := .declared 0

def function : Function := draft.function overgenerous "A" "__init__"

/-- The dictionary that is created. -/
def dictionary : Value := .standingFor .dict overgenerous (.obj [])

theorem keepsLibrary : world.classes.KeepsLibrary := ⟨fun _ => rfl, fun _ => rfl, fun _ => rfl⟩

theorem reaches : Reaches (.level 999) overgenerous world function dictionary world :=
  ⟨by decide, rfl, rfl, ⟨_, rfl⟩⟩

theorem ends : runBody (.level 999) function 0 [dictionary] [] world =
    (.ok (.data (.int 1), dictionary), world) :=
  rfl

end Overgenerous

open Overgenerous in
theorem invoke_completed_dictionary :
    Completed .standard overgenerous world (.data (.int 1)) dictionary world :=
  invoke_completed (m := .level 999) reaches rfl ends keepsLibrary

open Overgenerous in
/-- Nothing is wrong with its constructors beforehand, its body comes to its end, and it is said to
lack a constructor without arguments. -/
theorem dictionary_misjudged :
    world.classes.HasDefault overgenerous ∧
      Reaches (.level 999) overgenerous world function dictionary world ∧
      runBody (.level 999) function 0 [dictionary] [] world =
        (.ok (.data (.int 1), dictionary), world) ∧
      invoke .standard (.ofClass overgenerous) world = (.ok .noDefaultConstructor, world) :=
  ⟨Hierarchy.hasDefault_iff.2 rfl, reaches, rfl, rfl⟩

end Reflection

end UtilityClass
