import Mathlib.Data.List.Forall2

/-!
# Results

Whether a computation with results succeeds is read off its parts: a chain succeeds just if all of
its links do, and a list of results is there just if each of them is. The statements say it with the
value in hand, or only that there is one.

## Main results

* `Result.bind_eq_ok_iff`, `Result.exists_bind_iff`
* `Result.exists_mapM_iff`, `Result.mapM_eq_ok_iff` : a list of results, each with a property
-/

namespace UtilityClass

namespace Result

variable {ε ε' α β γ : Type} {x : Except ε α}

/-! ## Chains -/

@[simp] theorem ok_bind (a : α) (f : α → Except ε β) : (Except.ok a >>= f) = f a := rfl

theorem bind_eq_ok_iff {f : α → Except ε β} {b : β} :
    (x >>= f) = .ok b ↔ ∃ a, x = .ok a ∧ f a = .ok b := by
  cases x with
  | error e => exact ⟨fun h => (nomatch h), fun ⟨_, h, _⟩ => nomatch h⟩
  | ok a => exact ⟨fun h => ⟨a, rfl, h⟩, fun ⟨_, h, hf⟩ => by cases h; exact hf⟩

theorem exists_bind_iff {f : α → Except ε β} :
    (∃ b, (x >>= f) = .ok b) ↔ ∃ a, x = .ok a ∧ ∃ b, f a = .ok b := by
  simp only [bind_eq_ok_iff]
  exact ⟨fun ⟨b, a, ha, hb⟩ => ⟨a, ha, b, hb⟩, fun ⟨a, ha, b, hb⟩ => ⟨b, a, ha, hb⟩⟩

theorem map_eq_ok_iff {f : α → β} {b : β} : x.map f = .ok b ↔ ∃ a, x = .ok a ∧ f a = b := by
  cases x <;> simp [Except.map]

theorem exists_map_iff {f : α → β} : (∃ b, x.map f = .ok b) ↔ ∃ a, x = .ok a := by
  cases x <;> simp [Except.map]

theorem bind_map (f : α → β) (g : β → Except ε γ) :
    (x.map f >>= g) = x >>= fun a => g (f a) := by
  cases x <;> rfl

theorem map_bind (f : α → Except ε β) (g : β → γ) :
    (x >>= f).map g = x >>= fun a => (f a).map g := by
  cases x <;> rfl

theorem mapError_eq_ok_iff {f : ε → ε'} {a : α} : x.mapError f = .ok a ↔ x = .ok a := by
  constructor
  · intro h
    cases x <;> cases h
    rfl
  · rintro rfl
    rfl

/-- A condition that is complained of does not hold where there is a result. -/
theorem ite_error_eq_ok_iff {P : Prop} [Decidable P] {e : ε} {f : α → Except ε β}
    {rest : Except ε β} {b : β} :
    (if P then .error e >>= f else rest) = .ok b ↔ ¬P ∧ rest = .ok b := by
  by_cases hP : P
  · rw [if_pos hP]
    exact ⟨fun h => (nomatch h), fun h => absurd hP h.1⟩
  · rw [if_neg hP]
    exact ⟨fun h => ⟨hP, h⟩, fun h => h.2⟩

/-! ## Lists -/

theorem exists_mapM_iff {f : α → Except ε β} {P : β → Prop} {list : List α} :
    (∃ made, list.mapM f = .ok made ∧ ∀ b ∈ made, P b) ↔ ∀ a ∈ list, ∃ b, f a = .ok b ∧ P b := by
  induction list with
  | nil => exact ⟨fun _ _ h => (nomatch h), fun _ => ⟨[], rfl, fun _ h => (nomatch h)⟩⟩
  | cons a list ih =>
    rw [List.forall_mem_cons, ← ih, List.mapM_cons]
    constructor
    · rintro ⟨made, hmade, hP⟩
      obtain ⟨b, hb, hrest⟩ := bind_eq_ok_iff.1 hmade
      obtain ⟨rest, hr, hcons⟩ := bind_eq_ok_iff.1 hrest
      cases hcons
      exact ⟨⟨b, hb, hP b List.mem_cons_self⟩, rest, hr,
        fun b' hb' => hP b' (List.mem_cons_of_mem b hb')⟩
    · rintro ⟨⟨b, hb, hPb⟩, rest, hr, hP⟩
      exact ⟨b :: rest, by rw [hb, hr]; rfl, List.forall_mem_cons.2 ⟨hPb, hP⟩⟩

theorem exists_mapM_ok_iff {f : α → Except ε β} {list : List α} :
    (∃ made, list.mapM f = .ok made) ↔ ∀ a ∈ list, ∃ b, f a = .ok b := by
  have hmade : (∃ made, list.mapM f = .ok made ∧ ∀ b ∈ made, True) ↔
      ∀ a ∈ list, ∃ b, f a = .ok b ∧ True := exists_mapM_iff
  simpa using hmade

/-- What is made of a list is made entry by entry. -/
theorem mapM_eq_ok_iff {f : α → Except ε β} {list : List α} {made : List β} :
    list.mapM f = .ok made ↔ List.Forall₂ (fun a b => f a = .ok b) list made := by
  induction list generalizing made with
  | nil => cases made <;> simp [pure, Except.pure]
  | cons a list ih =>
    simp only [List.mapM_cons, bind_eq_ok_iff, ih, List.forall₂_cons_left_iff]
    constructor
    · rintro ⟨b, hb, rest, hrest, hmade⟩
      cases hmade
      exact ⟨b, rest, hb, hrest, rfl⟩
    · rintro ⟨b, rest, hb, hrest, rfl⟩
      exact ⟨b, hb, rest, hrest, rfl⟩

/-- If each entry tells what it is made of, so does the list. -/
theorem map_of_mapM_eq_ok {f : α → Except ε β} {g : β → α} (hg : ∀ a b, f a = .ok b → g b = a)
    {list : List α} {made : List β} (hm : list.mapM f = .ok made) : made.map g = list := by
  have hall := mapM_eq_ok_iff.1 hm
  clear hm
  induction hall with
  | nil => rfl
  | cons hfirst _ ih => rw [List.map_cons, hg _ _ hfirst, ih]

/-- What holds of all that is made of an entry holds throughout the list that is made. -/
theorem forall_of_mapM_eq_ok {f : α → Except ε β} {P : β → Prop} (hP : ∀ a b, f a = .ok b → P b)
    {list : List α} {made : List β} (hm : list.mapM f = .ok made) : ∀ b ∈ made, P b := by
  have hall := mapM_eq_ok_iff.1 hm
  clear hm
  induction hall with
  | nil => exact fun _ hb => (nomatch hb)
  | cons hfirst _ ih => exact List.forall_mem_cons.2 ⟨hP _ _ hfirst, ih⟩

theorem mapM_congr {f g : α → Except ε β} {list : List α} (h : ∀ a ∈ list, f a = g a) :
    list.mapM f = list.mapM g := by
  induction list with
  | nil => rfl
  | cons a list ih =>
    obtain ⟨ha, hlist⟩ := List.forall_mem_cons.1 h
    rw [List.mapM_cons, List.mapM_cons, ha, ih hlist]

theorem map_mapM (f : α → Except ε β) (g : β → γ) (list : List α) :
    (list.mapM f).map (List.map g) = list.mapM fun a => (f a).map g := by
  induction list with
  | nil => rfl
  | cons a list ih =>
    rw [List.mapM_cons, List.mapM_cons, ← ih, map_bind, bind_map]
    refine bind_congr fun b => ?_
    rw [map_bind, bind_map]
    rfl

theorem filterAuxM_congr {p q : α → Except ε Bool} {list : List α} (h : ∀ a ∈ list, p a = q a)
    (acc : List α) : list.filterAuxM p acc = list.filterAuxM q acc := by
  induction list generalizing acc with
  | nil => rfl
  | cons a list ih =>
    rw [List.filterAuxM, List.filterAuxM, h a (.head _)]
    exact congrArg _ (funext fun _ => ih (fun b hb => h b (.tail a hb)) _)

theorem filterM_congr {p q : α → Except ε Bool} {list : List α} (h : ∀ a ∈ list, p a = q a) :
    list.filterM p = list.filterM q := by
  rw [List.filterM, List.filterM, filterAuxM_congr h]

theorem anyM_congr {p q : α → Except ε Bool} {list : List α} (h : ∀ a ∈ list, p a = q a) :
    list.anyM p = list.anyM q := by
  induction list with
  | nil => rfl
  | cons a list ih =>
    rw [List.anyM, List.anyM, h a (.head _), ih fun b hb => h b (.tail a hb)]

theorem exists_filterAuxM {p : α → Except ε Bool} {list acc kept : List α}
    (hk : list.filterAuxM p acc = .ok kept) :
    ∃ more : List α, kept = more.reverse ++ acc ∧ more.Sublist list := by
  induction list generalizing acc with
  | nil =>
    cases hk
    exact ⟨[], rfl, List.nil_sublist _⟩
  | cons a list ih =>
    obtain ⟨keeps, -, hrest⟩ := bind_eq_ok_iff.1 hk
    obtain ⟨more, rfl, hsub⟩ := ih hrest
    cases keeps with
    | true => exact ⟨a :: more, by simp, hsub.cons_cons a⟩
    | false => exact ⟨more, rfl, hsub.cons a⟩

/-- What is kept of a list is a part of it, in order. -/
theorem sublist_of_filterM {p : α → Except ε Bool} {list kept : List α}
    (hk : list.filterM p = .ok kept) : kept.Sublist list := by
  obtain ⟨reversed, hr, hk⟩ := bind_eq_ok_iff.1 hk
  cases hk
  obtain ⟨more, rfl, hsub⟩ := exists_filterAuxM hr
  simpa using hsub
end Result

end UtilityClass
