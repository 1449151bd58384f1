import Mathlib.Data.List.Flatten
import Mathlib.Data.List.Nodup
import UtilityClass.Proofs.Results
import UtilityClass.Signature.Call

/-!
# Signatures and the receiver

Two questions about a signature depend on its first parameter, the one for the receiver.

The first is how it is written once the receiver has been given. Unless the first parameter collects
positional arguments, a signature whose parameters have names is then written differently: it lacks
a name, or there is none to write any more.

The second is whether it would do with a number of positional arguments. Whoever looks from outside
places the arguments one by one, and whoever calls passes them all at once and complains of what is
surplus or missing. For parameters in the order that a declaration demands the two agree.

## Main definitions

* `Parameter.InOrder` : parameters as a declaration can have them

## Main results

* `Signature.text_ne_of_bound`, `Signature.text_ne_unreadable` : written forms with and without the
  receiver
* `Signature.pass_eq_ok_iff_placeable` : passing and placing agree
-/

namespace UtilityClass

open Result

/-! ## Joined texts -/

section Joined

variable (separator : List Char)

theorem joined_sublist (parts : List (List Char)) :
    (joined separator parts).Sublist (parts.flatMap (separator ++ ·)) := by
  cases parts with
  | nil => exact List.nil_sublist _
  | cons part rest =>
    rw [joined_cons_eq, List.flatMap_cons]
    exact (List.sublist_append_right separator part).append_right _

/-- Leaving out parts, among them a first one that is not empty, makes a joined text shorter. -/
theorem length_joined_lt {part : List Char} (hpart : part ≠ []) {parts rest : List (List Char)}
    (hs : parts.Sublist rest) :
    (joined separator parts).length < (joined separator (part :: rest)).length := by
  have hsub : (joined separator parts).Sublist (rest.flatMap (separator ++ ·)) :=
    (joined_sublist separator parts).trans (hs.flatMap _)
  have hle := hsub.length_le
  have hpos : 0 < part.length := List.length_pos_iff.2 hpart
  rw [joined_cons_eq, List.length_append]
  omega

end Joined

namespace Signature

variable {ε : Type} {annotationText : Annotation → Except ε String}

/-! ## Written forms -/

/-- A parameter is written as its name, with stars in front where it collects arguments. -/
theorem exists_parameterText_eq {p : Parameter} {text : String}
    (ht : parameterText annotationText p = .ok text) :
    ∃ tail, text.toList = (match p.kind with
      | .rest => ['*']
      | .namedRest => ['*', '*']
      | _ => []) ++ (p.name.toList ++ tail) := by
  unfold parameterText at ht
  cases ha : p.annotation with
  | none =>
    rw [ha] at ht
    cases hd : p.default <;> rw [hd] at ht <;> cases ht <;> cases p.kind <;>
      simp [String.toList_append]
  | some a =>
    rw [ha] at ht
    obtain ⟨note, -, ht⟩ := bind_eq_ok_iff.1 ht
    cases note <;> cases hd : p.default <;> rw [hd] at ht <;> cases ht <;> cases p.kind <;>
      simp [String.toList_append]

/-- A parameter that has a name is written by some characters. -/
theorem parameterText_ne_nil {p : Parameter} (hp : p.name ≠ "") {text : String}
    (ht : parameterText annotationText p = .ok text) : text.toList ≠ [] := by
  obtain ⟨tail, htext⟩ := exists_parameterText_eq ht
  have hname : p.name.toList ≠ [] := by simpa using hp
  simp [htext, hname]

/-- Whether a closing mark is due before the written parameters can only add the mark. -/
theorem exists_partsText_sublist {closing opening : Bool} {parameters : List Parameter}
    {parts : List String}
    (hp : partsText annotationText closing opening parameters = .ok parts) :
    ∃ parts', partsText annotationText false opening parameters = .ok parts' ∧
      parts'.Sublist parts := by
  cases closing with
  | false => exact ⟨parts, hp, List.Sublist.refl parts⟩
  | true =>
    cases parameters with
    | nil =>
      cases hp
      exact ⟨[], rfl, List.nil_sublist _⟩
    | cons p rest =>
      rw [partsText] at hp ⊢
      obtain ⟨text, ht, hp⟩ := bind_eq_ok_iff.1 hp
      rw [ht, ok_bind]
      cases hk : p.kind <;> rw [hk] at hp <;>
        obtain ⟨parts', hrest, hp⟩ := bind_eq_ok_iff.1 hp <;> cases hp <;>
        simp [hrest, pure, Except.pure]

/-- The written form consists of the joined parameters in brackets and of what follows them, which
depends on the result alone. -/
theorem exists_text_eq (s : Signature) {written : String}
    (ht : s.text annotationText = .ok written) :
    ∃ parts tail, partsText annotationText false true s.parameters = .ok parts ∧
      written.toList = '(' :: joined [',', ' '] (parts.map String.toList) ++ ')' :: tail ∧
      ∀ parameters parts', partsText annotationText false true parameters = .ok parts' →
        ∃ written', Signature.text annotationText ⟨parameters, s.result⟩ = .ok written' ∧
          written'.toList = '(' :: joined [',', ' '] (parts'.map String.toList) ++ ')' :: tail := by
  unfold text at ht ⊢
  obtain ⟨parts, hparts, ht⟩ := bind_eq_ok_iff.1 ht
  cases hr : s.result with
  | none =>
    rw [hr] at ht
    cases ht
    refine ⟨parts, [], hparts, by simp [joinText, String.toList_append], fun parameters parts' hp =>
      ⟨"(" ++ joinText ", " parts' ++ ")", ?_, by simp [joinText, String.toList_append]⟩⟩
    rw [hp]
    rfl
  | some a =>
    rw [hr] at ht
    obtain ⟨result, hresult, ht⟩ := bind_eq_ok_iff.1 ht
    cases ht
    refine ⟨parts, " -> ".toList ++ result.toList, hparts,
      by simp [joinText, String.toList_append], fun parameters parts' hp =>
      ⟨"(" ++ joinText ", " parts' ++ ")" ++ " -> " ++ result, ?_,
        by simp [joinText, String.toList_append]⟩⟩
    rw [hp, ok_bind]
    simp [hresult, pure, Except.pure]

/-- What remains of a signature whose receiver has been given is the signature itself just if the
first parameter collects positional arguments. -/
theorem bound?_eq_self_iff {s : Signature} :
    s.bound? = some s ↔ ∃ p rest, s.parameters = p :: rest ∧ p.kind = .rest := by
  obtain ⟨parameters, result⟩ := s
  cases parameters with
  | nil => simp [bound?]
  | cons p rest => cases hk : p.kind <;> simp [bound?, hk]

/-- Giving the receiver leaves no more arguments to be counted. -/
theorem arity_le_of_bound {s s' : Signature} (hb : s.bound? = some s') : s'.arity ≤ s.arity := by
  obtain ⟨parameters, result⟩ := s
  unfold bound? at hb
  cases parameters with
  | nil => cases hb
  | cons p rest =>
    have hdrop : (dropReceiver rest).Sublist rest := by
      unfold dropReceiver
      split
      · exact List.Sublist.refl _
      · split
        · exact List.sublist_cons_self _ _
        · exact List.Sublist.refl _
    cases hk : p.kind with
    | positional | plain =>
      simp only [hk, Option.some.injEq] at hb
      subst hb
      have hpos : p.isPositional = true := by simp [Parameter.isPositional, hk]
      simp only [arity, dropReceiver, hpos, if_true]
      exact hdrop.countP_le
    | rest =>
      simp only [hk, Option.some.injEq] at hb
      subst hb
      exact Nat.le_refl _
    | named | namedRest => simp [hk] at hb

/-- A signature that lacks the parameter for its receiver is written, and written differently. -/
theorem text_ne_of_bound {s s' : Signature} (hb : s.bound? = some s') (hne : s' ≠ s)
    (hnames : ∀ p ∈ s.parameters, p.name ≠ "") {written : String}
    (ht : s.text annotationText = .ok written) :
    ∃ written', s'.text annotationText = .ok written' ∧ written' ≠ written := by
  obtain ⟨parts, tail, hparts, hwritten, hother⟩ := s.exists_text_eq ht
  obtain ⟨parameters, result⟩ := s
  cases parameters with
  | nil => cases hb
  | cons p rest =>
    have hname := hnames p List.mem_cons_self
    have hshorter (closing : Bool) (text : String) (others : List String)
        (htext : parameterText annotationText p = .ok text)
        (hothers : partsText annotationText closing true rest = .ok others)
        (heq : parts = text :: others) (hs' : s' = ⟨rest, result⟩) :
        ∃ written', s'.text annotationText = .ok written' ∧ written' ≠ written := by
      obtain ⟨fewer, hfewer, hsub⟩ := exists_partsText_sublist hothers
      obtain ⟨written', ht', hwritten'⟩ := hother rest fewer hfewer
      refine ⟨written', hs' ▸ ht', fun hsame => ?_⟩
      have hlength := congrArg List.length (hwritten'.symm.trans (hsame ▸ hwritten))
      have hlt := length_joined_lt [',', ' '] (parameterText_ne_nil hname htext)
        (hsub.map String.toList)
      rw [heq] at hlength
      simp only [List.length_append, List.length_cons, List.map_cons] at hlength hlt
      omega
    rw [partsText] at hparts
    obtain ⟨text, htext, hparts⟩ := bind_eq_ok_iff.1 hparts
    unfold bound? at hb
    cases hk : p.kind with
    | positional | plain =>
      simp only [hk, Option.some.injEq] at hb
      rw [hk] at hparts
      obtain ⟨others, hothers, hparts⟩ := bind_eq_ok_iff.1 hparts
      cases hparts
      exact hshorter _ text others htext hothers rfl hb.symm
    | rest =>
      simp only [hk, Option.some.injEq] at hb
      exact absurd hb.symm hne
    | named | namedRest => simp [hk] at hb

/-- A signature without a parameter for its receiver is not written like one that cannot be read. -/
theorem text_ne_unreadable {s : Signature} (hb : s.bound? = none) {written : String}
    (ht : s.text annotationText = .ok written) : written ≠ "(...)" := by
  obtain ⟨parts, tail, hparts, hwritten, -⟩ := s.exists_text_eq ht
  obtain ⟨parameters, result⟩ := s
  rintro rfl
  cases parameters with
  | nil =>
    cases hparts
    cases hwritten
  | cons p rest =>
    rw [partsText] at hparts
    obtain ⟨text, htext, hparts⟩ := bind_eq_ok_iff.1 hparts
    unfold bound? at hb
    cases hk : p.kind with
    | positional | plain | rest => simp [hk] at hb
    | named =>
      rw [hk] at hparts
      obtain ⟨others, -, hparts⟩ := bind_eq_ok_iff.1 hparts
      cases hparts
      simp [joined] at hwritten
    | namedRest =>
      rw [hk] at hparts
      obtain ⟨others, -, hparts⟩ := bind_eq_ok_iff.1 hparts
      cases hparts
      obtain ⟨rest', htext⟩ := exists_parameterText_eq htext
      rw [hk] at htext
      cases others <;> simp [joined, htext] at hwritten

/-! ## Placing and passing arguments -/

/-- Giving the receiver leaves one argument less to be placed. -/
theorem accepts_of_bound {s s' : Signature} (hb : s.bound? = some s') :
    s'.accepts 1 = s.accepts 2 := by
  obtain ⟨parameters, result⟩ := s
  unfold bound? at hb
  cases parameters with
  | nil => cases hb
  | cons p rest =>
    cases hk : p.kind <;> simp only [hk, Option.some.injEq, reduceCtorEq] at hb <;> subst hb <;>
      simp [accepts, placeable, hk]

/-- Where no receiver can be given, no argument can be. -/
theorem accepts_of_unbound {s : Signature} (hb : s.bound? = none) (given : Nat) :
    s.accepts (given + 1) = false := by
  obtain ⟨parameters, result⟩ := s
  unfold bound? at hb
  cases parameters with
  | nil => rfl
  | cons p rest => cases hk : p.kind <;> simp_all [accepts, placeable]

end Signature

/-- The place of a kind of parameter in a declaration. -/
def ParameterKind.rank : ParameterKind → Nat
  | .positional => 0
  | .plain => 1
  | .rest => 2
  | .named => 3
  | .namedRest => 4

/-- Parameters as a declaration can have them: each has a name, no two have the same one, and the
kinds follow each other. -/
structure Parameter.InOrder (parameters : List Parameter) : Prop where
  named : ∀ p ∈ parameters, p.name ≠ ""
  distinct : (parameters.map (·.name)).Nodup
  ordered : parameters.Pairwise fun p q => p.kind.rank ≤ q.kind.rank

theorem Parameter.isPositional_iff {p : Parameter} : p.isPositional = true ↔ p.kind.rank < 2 := by
  unfold isPositional
  cases p.kind <;> decide

namespace Signature

/-- Arguments can be placed just if the positional parameters suffice for them or some parameter
collects what is surplus, and each parameter that gets none has a default. -/
theorem placeable_iff {parameters : List Parameter}
    (ho : parameters.Pairwise fun p q => p.kind.rank ≤ q.kind.rank) {given : Nat} :
    placeable given parameters = true ↔
      (given ≤ (parameters.filter (·.isPositional)).length ∨
        ∃ p ∈ parameters, p.kind = .rest) ∧
      (∀ p ∈ (parameters.filter (·.isPositional)).drop given, p.default.isSome = true) ∧
      ∀ p ∈ parameters, p.kind = .named → p.default.isSome = true := by
  induction parameters generalizing given with
  | nil => simp [placeable]
  | cons p rest ih =>
    obtain ⟨hp, ho⟩ := List.pairwise_cons.1 ho
    -- behind a parameter that takes no positional argument there is no positional one
    have hnone (hk : 2 ≤ p.kind.rank) : rest.filter (·.isPositional) = [] :=
      List.filter_eq_nil_iff.2 fun q hq hq' =>
        absurd (Nat.le_trans hk (hp q hq)) (Nat.not_le.2 (Parameter.isPositional_iff.1 hq'))
    have hnorest (hk : 3 ≤ p.kind.rank) : ¬∃ q ∈ rest, q.kind = .rest := by
      rintro ⟨q, hq, hrest⟩
      have hle := Nat.le_trans hk (hp q hq)
      rw [hrest] at hle
      exact absurd hle (by decide)
    cases hk : p.kind with
    | positional | plain =>
      have hpos : p.isPositional = true := by simp [Parameter.isPositional, hk]
      cases given with
      | zero => simp [placeable, hpos, hk, ih ho, and_assoc]
      | succ given => simp [placeable, hpos, hk, ih ho]
    | rest =>
      have hpos : p.isPositional = false := by simp [Parameter.isPositional, hk]
      have hnone := hnone (by simp [hk, ParameterKind.rank])
      simp [placeable, hpos, hk, ih ho, hnone]
    | named | namedRest =>
      have hpos : p.isPositional = false := by simp [Parameter.isPositional, hk]
      have hnone := hnone (by simp [hk, ParameterKind.rank])
      have hnorest := hnorest (by simp [hk, ParameterKind.rank])
      cases given with
      | zero => simp [placeable, hpos, hk, ih ho, hnone]
      | succ given =>
        refine iff_of_false (by simp [placeable, hk]) fun ⟨hfits, _⟩ => ?_
        obtain hle | ⟨q, hq, hrest⟩ := hfits
        · simp [hpos, hnone] at hle
        · obtain rfl | hq := List.mem_cons.1 hq
          · simp [hk] at hrest
          · exact hnorest ⟨q, hq, hrest⟩

/-- Arguments are passed just if the positional parameters suffice for them or some parameter
collects what is surplus, and each parameter that gets none has a default. -/
theorem pass_eq_ok_iff {parameters : List Parameter} (hd : (parameters.map (·.name)).Nodup)
    {given : Nat} :
    pass parameters given [] = .ok () ↔
      (given ≤ (parameters.filter (·.isPositional)).length ∨
        ∃ p ∈ parameters, p.kind = .rest) ∧
      (∀ p ∈ (parameters.filter (·.isPositional)).drop given, p.default.isSome = true) ∧
      ∀ p ∈ parameters, p.kind = .named → p.default.isSome = true := by
  -- a parameter that is left over has another name than those that have been given an argument
  have hlacks (p : Parameter) (hp : p ∈ parameters)
      (hleft : p ∉ (parameters.filter (·.isPositional)).take given) :
      (((parameters.filter (·.isPositional)).take given).map (·.name)).contains p.name = false := by
    refine Bool.eq_false_iff.2 fun hfilled => hleft ?_
    obtain ⟨q, hq, hname⟩ := List.mem_map.1 (List.contains_iff_mem.1 hfilled)
    have hmem : q ∈ parameters := (List.mem_filter.1 (List.mem_of_mem_take hq)).1
    rwa [List.inj_on_of_nodup_map hd hp hmem hname.symm]
  have hdrop (p : Parameter) (hp : p ∈ (parameters.filter (·.isPositional)).drop given) :
      p ∈ parameters ∧ p ∉ (parameters.filter (·.isPositional)).take given :=
    ⟨(List.mem_filter.1 (List.mem_of_mem_drop hp)).1, fun htake =>
      List.disjoint_take_drop ((List.Nodup.of_map _ hd).filter _) (Nat.le_refl _) htake hp⟩
  have hnamed (p : Parameter) (hk : p.kind = .named) :
      p ∉ (parameters.filter (·.isPositional)).take given := fun htake => by
    have hpos := (List.mem_filter.1 (List.mem_of_mem_take htake)).2
    simp [Parameter.isPositional, hk] at hpos
  rw [pass]
  simp only [passNamed, ok_bind, ite_error_eq_ok_iff, List.isEmpty_iff, not_not,
    List.map_eq_nil_iff, List.filter_eq_nil_iff]
  refine and_congr ?_ (and_congr ?_ ?_)
  · simp only [not_and, not_not, List.any_eq_true, beq_iff_eq, ← Nat.not_le, or_iff_not_imp_left]
  · refine forall₂_congr fun p hp => ?_
    rw [hlacks p (hdrop p hp).1 (hdrop p hp).2]
    cases p.default <;> simp
  · simp only [List.mem_filter, beq_iff_eq, and_true, and_imp]
    refine forall_congr' fun p => forall₂_congr fun hp hk => ?_
    rw [hlacks p hp (hnamed p hk)]
    cases p.default <;> simp

/-- **Passing and placing agree** for parameters as a declaration can have them. -/
theorem pass_eq_ok_iff_placeable {parameters : List Parameter} (hp : Parameter.InOrder parameters)
    {given : Nat} : pass parameters given [] = .ok () ↔ placeable given parameters = true :=
  (pass_eq_ok_iff hp.distinct).trans (placeable_iff hp.ordered).symm

end Signature

end UtilityClass
