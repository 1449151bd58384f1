import UtilityClass.Class.Creation
import UtilityClass.Construction.Call
import UtilityClass.Proofs.Keeping
import UtilityClass.Proofs.PlainReading

/-!
# Orders and subclasses

A class is a subclass of the classes of its order, and its order is the merge of the orders of its
bases with the list of the bases. A merge holds just what the merged lists hold. So the order of a
class that comes about in this way all the way up contains the orders of all its classes, and a
subclass of a subclass is a subclass, whatever the bases are and however they are arranged.

What is made by `Hierarchy.make` of such classes is such a class again, and changes of classes leave
bases and orders alone. So whatever a program makes out of the classes of the library, one class
after the other, has such an order.

## Main definitions

* `Hierarchy.IsLinear` : the order of a class is merged from those of its bases, all the way up
* `Hierarchy.Arises` : how the classes of a program come about

## Main results

* `ClassOrder.mem_mergeWithin_iff` : the members of a merge
* `Hierarchy.IsLinear.derives_trans` : a subclass of a subclass is a subclass
* `Hierarchy.IsLinear.make`, `Hierarchy.isLinear_library` : classes that are made, and those of the
  library
* `Hierarchy.Arises.isLinear_and_isThere` : the orders of a program
* `Construction.createClass_arises` : the native function that makes classes goes on in this way
-/

namespace UtilityClass

namespace ClassOrder

variable {lists : List (List ClassId)} {merged : List ClassId} {c d : ClassId}

theorem mem_heads_iff : c ∈ heads lists ↔ ∃ list ∈ lists, list.head? = some c := by
  rw [heads, List.mem_eraseDups, List.mem_filterMap]

theorem eq_nil_of_heads (hl : (heads lists).isEmpty = true) : ∀ list ∈ lists, list = [] := by
  intro list hlist
  cases list with
  | nil => rfl
  | cons c rest =>
    have hc : c ∈ heads lists := mem_heads_iff.2 ⟨c :: rest, hlist, rfl⟩
    rw [List.isEmpty_iff.1 hl] at hc
    cases hc

theorem exists_mem_advance_iff : (∃ list ∈ advance d lists, c ∈ list) ↔
    ∃ list ∈ lists, c ∈ if list.head? = some d then list.tail else list := by
  rw [advance]
  constructor
  · rintro ⟨_, hmem, hc⟩
    obtain ⟨list, hlist, rfl⟩ := List.mem_map.1 hmem
    exact ⟨list, hlist, hc⟩
  · rintro ⟨list, hlist, hc⟩
    exact ⟨_, List.mem_map_of_mem hlist, hc⟩

/-- A class that is taken from the heads is all that the lists lose. -/
theorem exists_mem_iff_advance (hd : d ∈ heads lists) :
    (∃ list ∈ lists, c ∈ list) ↔ c = d ∨ ∃ list ∈ advance d lists, c ∈ list := by
  rw [exists_mem_advance_iff]
  constructor
  · rintro ⟨list, hlist, hc⟩
    by_cases hhead : list.head? = some d
    · obtain ⟨rest, rfl⟩ := List.head?_eq_some_iff.1 hhead
      obtain rfl | hrest := List.mem_cons.1 hc
      · exact .inl rfl
      · exact .inr ⟨_, hlist, by rwa [if_pos hhead]⟩
    · exact .inr ⟨list, hlist, by rwa [if_neg hhead]⟩
  · rintro (rfl | ⟨list, hlist, hc⟩)
    · obtain ⟨list, hlist, hhead⟩ := mem_heads_iff.1 hd
      exact ⟨list, hlist, List.mem_of_head? hhead⟩
    · refine ⟨list, hlist, ?_⟩
      split at hc
      · exact List.mem_of_mem_tail hc
      · exact hc

/-- A merge holds just what the merged lists hold. -/
theorem mem_mergeWithin_iff {fuel : Nat} (hm : mergeWithin fuel lists = .ok merged) :
    c ∈ merged ↔ ∃ list ∈ lists, c ∈ list := by
  have hnone {lists : List (List ClassId)} (hl : (heads lists).isEmpty = true) :
      c ∈ ([] : List ClassId) ↔ ∃ list ∈ lists, c ∈ list := by
    constructor
    · exact nofun
    · rintro ⟨list, hlist, hc⟩
      rwa [eq_nil_of_heads hl list hlist] at hc
  -- the merge may end before the fuel does, so both cases ask whether there are heads left
  induction fuel generalizing lists merged with
  | zero =>
    rw [mergeWithin] at hm
    split at hm
    · next hl =>
      cases hm
      exact hnone hl
    · cases hm
  | succ fuel ih =>
    rw [mergeWithin] at hm
    split at hm
    · next hl =>
      cases hm
      exact hnone hl
    · split at hm
      · next d hd =>
        obtain ⟨rest, hrest, rfl⟩ := Result.map_eq_ok_iff.1 hm
        have hheads : d ∈ heads lists := List.mem_of_find?_eq_some hd
        exact List.mem_cons.trans
          ((or_congr_right (ih hrest)).trans (exists_mem_iff_advance hheads).symm)
      · cases hm

end ClassOrder

namespace Hierarchy

open Result

variable {h h' : Hierarchy} {a b c : ClassId}

theorem derives_iff_mem : h.derives a b = true ↔ b ∈ (h.info a).order := List.contains_iff_mem

/-- The order of a new class holds the class itself, its bases, and the orders of these. -/
theorem mem_orderOf_iff {bases order : List ClassId} (ho : h.orderOf a bases = .ok order) :
    c ∈ order ↔ c = a ∨ c ∈ bases ∨ ∃ b ∈ bases, c ∈ (h.info b).order := by
  rw [orderOf] at ho
  split at ho
  · cases ho
  · split at ho
    · next rest hm =>
      cases ho
      rw [List.mem_cons, ClassOrder.mem_mergeWithin_iff hm]
      refine or_congr_right ⟨?_, ?_⟩
      · rintro ⟨list, hlist, hc⟩
        obtain hlist | hlist := List.mem_append.1 hlist
        · obtain ⟨b, hb, rfl⟩ := List.mem_map.1 hlist
          exact .inr ⟨b, hb, hc⟩
        · obtain rfl := List.mem_singleton.1 hlist
          exact .inl hc
      · rintro (hc | ⟨b, hb, hc⟩)
        · exact ⟨bases, List.mem_append_right _ List.mem_cons_self, hc⟩
        · exact ⟨_, List.mem_append_left _ (List.mem_map_of_mem hb), hc⟩
    · cases ho

/-- What the order of a new class is depends on the orders of its bases only. -/
theorem orderOf_congr {bases order : List ClassId}
    (heq : ∀ b ∈ bases, (h'.info b).order = (h.info b).order)
    (ho : h.orderOf a bases = .ok order) : h'.orderOf a bases = .ok order := by
  have horders : bases.map (fun c => (h'.info c).order) = bases.map fun c => (h.info c).order :=
    List.map_congr_left heq
  rw [orderOf] at ho ⊢
  rw [horders]
  cases hduplicate : firstDuplicate? bases with
  | some c =>
    rw [hduplicate] at ho
    cases ho
  | none =>
    rw [hduplicate] at ho
    cases hm : ClassOrder.merge (bases.map (fun c => (h.info c).order) ++ [bases]) with
    | error heads =>
      rw [hm] at ho
      cases ho
    | ok rest =>
      rw [hm] at ho
      exact ho

/-! ## Classes that are made -/

/-- Noting which function creates the objects of a class changes nothing else. -/
theorem info_withCreator {β : Type} {f : ClassInfo → β}
    (hf : ∀ i : ClassInfo, f { i with creator := none } = f i) :
    f ((h.withCreator a).info c) = f (h.info c) := by
  rw [withCreator]
  split
  · rfl
  · by_cases hc : c = a
    · rw [hc, modify_info_self, hf]
    · rw [modify_info_of_ne h hc]

theorem bases_withCreator : ((h.withCreator a).info c).bases = (h.info c).bases :=
  info_withCreator fun _ => rfl

theorem order_withCreator : ((h.withCreator a).info c).order = (h.info c).order :=
  info_withCreator fun _ => rfl

section Make

variable {metaclass : ClassId} {name : String} {bases : List ClassId} {b : Blueprint}

/-- What is made is one class, with the order that its bases give it. -/
theorem exists_info_of_make (hm : h.make metaclass name bases b = .ok h') : ∃ info : ClassInfo,
    h' = (h.modify b.self fun _ => info).withCreator b.self ∧
      info.bases ⊆ ClassId.library .object :: bases ∧
        h.orderOf b.self info.bases = .ok info.order := by
  obtain ⟨primary, -, hm⟩ := bind_eq_ok_iff.1 hm
  obtain ⟨slots, -, hm⟩ := bind_eq_ok_iff.1 hm
  obtain ⟨-, hm⟩ := ite_error_eq_ok_iff.1 hm
  obtain ⟨qualname, -, hm⟩ := bind_eq_ok_iff.1 hm
  obtain ⟨-, -, hm⟩ := bind_eq_ok_iff.1 hm
  obtain ⟨-, -, hm⟩ := bind_eq_ok_iff.1 hm
  obtain ⟨order, ho, hm⟩ := bind_eq_ok_iff.1 hm
  cases hm
  refine ⟨_, rfl, ?_, mapError_eq_ok_iff.1 ho⟩
  dsimp only
  split
  · exact List.cons_subset_cons _ (List.nil_subset _)
  · exact List.subset_cons_self _ _

theorem info_of_make (hm : h.make metaclass name bases b = .ok h') :
    (h'.info b.self).bases ⊆ ClassId.library .object :: bases ∧
      h.orderOf b.self (h'.info b.self).bases = .ok (h'.info b.self).order := by
  obtain ⟨info, rfl, hsub, ho⟩ := exists_info_of_make hm
  rw [bases_withCreator, order_withCreator, modify_info_self]
  exact ⟨hsub, ho⟩

/-- All other classes stay where they are. -/
theorem info_of_make_of_ne (hm : h.make metaclass name bases b = .ok h') (hc : c ≠ b.self) :
    (h'.info c).bases = (h.info c).bases ∧ (h'.info c).order = (h.info c).order := by
  obtain ⟨info, rfl, -, -⟩ := exists_info_of_make hm
  rw [bases_withCreator, order_withCreator, modify_info_of_ne h hc]
  exact ⟨rfl, rfl⟩

end Make

/-! ## Orders that are merged -/

/-- The order of a class is merged from those of its bases, and so are theirs. -/
inductive IsLinear (h : Hierarchy) : ClassId → Prop
  | ofBases {c : ClassId} (ho : h.orderOf c (h.info c).bases = .ok (h.info c).order)
      (hb : ∀ b ∈ (h.info c).bases, IsLinear h b) : IsLinear h c

namespace IsLinear

theorem mem_order_iff (hc : h.IsLinear c) : a ∈ (h.info c).order ↔
    a = c ∨ a ∈ (h.info c).bases ∨ ∃ b ∈ (h.info c).bases, a ∈ (h.info b).order := by
  obtain ⟨ho, -⟩ := hc
  exact mem_orderOf_iff ho

/-- The order of a class contains the order of each of its classes. -/
theorem order_subset (hc : h.IsLinear c) (ha : a ∈ (h.info c).order) :
    (h.info a).order ⊆ (h.info c).order := by
  induction hc with
  | @ofBases c ho hb ih =>
    have hbase {b : ClassId} (hmem : b ∈ (h.info c).bases) :
        (h.info b).order ⊆ (h.info c).order :=
      fun d hd => (mem_orderOf_iff ho).2 (.inr (.inr ⟨b, hmem, hd⟩))
    obtain rfl | hbases | ⟨b, hmem, horder⟩ := (mem_orderOf_iff ho).1 ha
    · exact List.Subset.refl _
    · exact hbase hbases
    · exact List.Subset.trans (ih b hmem horder) (hbase hmem)

/-- A subclass of a subclass is a subclass. -/
theorem derives_trans (ha : h.IsLinear a) (hab : h.derives a b = true)
    (hbc : h.derives b c = true) : h.derives a c = true := by
  rw [derives_iff_mem] at *
  exact ha.order_subset hab hbc

/-- Whether a class is linear is decided by the bases and the orders of the classes of its order. -/
theorem congr (hc : h.IsLinear c)
    (heq : ∀ a ∈ (h.info c).order, (h'.info a).bases = (h.info a).bases ∧
      (h'.info a).order = (h.info a).order) : h'.IsLinear c := by
  induction hc with
  | @ofBases c ho hb ih =>
    have hself : c ∈ (h.info c).order := (mem_orderOf_iff ho).2 (.inl rfl)
    have hbase {b : ClassId} (hmem : b ∈ (h.info c).bases) : b ∈ (h.info c).order :=
      (mem_orderOf_iff ho).2 (.inr (.inl hmem))
    obtain ⟨hbases, horder⟩ := heq c hself
    refine .ofBases ?_ fun b hmem => ?_
    · rw [hbases, horder]
      exact orderOf_congr (fun b hmem => (heq b (hbase hmem)).2) ho
    · -- what is known of the order of `c` is known of the order of a base, which lies within it
      rw [hbases] at hmem
      refine ih b hmem fun a ha => heq a ?_
      exact (IsLinear.ofBases ho hb).order_subset (hbase hmem) ha

/-- A class that is made of linear classes is linear. It has not been an ancestor of any of them. -/
theorem make {metaclass : ClassId} {name : String} {bases : List ClassId} {b : Blueprint}
    (hm : h.make metaclass name bases b = .ok h')
    (hbases : ∀ a ∈ ClassId.library .object :: bases,
      h.IsLinear a ∧ b.self ∉ (h.info a).order) : h'.IsLinear b.self := by
  obtain ⟨hsub, ho⟩ := info_of_make hm
  -- the new class is no ancestor of its bases, so all that their orders rest on has been left alone
  refine .ofBases (orderOf_congr (fun a ha => (info_of_make_of_ne hm ?_).2) ho) fun a ha => ?_
  · rintro rfl
    obtain ⟨hlinear, hself⟩ := hbases _ (hsub ha)
    exact hself (hlinear.mem_order_iff.2 (.inl rfl))
  · obtain ⟨hlinear, hself⟩ := hbases a (hsub ha)
    refine hlinear.congr fun d hd => info_of_make_of_ne hm ?_
    rintro rfl
    exact hself hd

end IsLinear

end Hierarchy

/-! ## The classes of the library -/

namespace LibraryClass

theorem orderOf_initial (l : LibraryClass) :
    Hierarchy.initial.orderOf l l.info.bases = .ok l.info.order := by
  cases l <;> rfl

theorem length_lt_of_mem_bases {l k : LibraryClass} (hb : ClassId.library k ∈ l.info.bases) :
    k.info.order.length < l.info.order.length := by
  have hall : (l.info.bases.all fun b =>
      decide ((Hierarchy.initial.info b).order.length < l.info.order.length)) = true := by
    cases l <;> rfl
  exact of_decide_eq_true (List.all_eq_true.1 hall _ hb)

end LibraryClass

/-- The classes of the library are linear, as long as they are what they were. -/
theorem Hierarchy.isLinear_library {h : Hierarchy}
    (hbases : ∀ l : LibraryClass, (h.info l).bases = l.info.bases)
    (horder : ∀ l : LibraryClass, (h.info l).order = l.info.order) (l : LibraryClass) :
    h.IsLinear l := by
  have hlibrary {b : ClassId} (hb : b ∈ l.info.bases) : ∃ k : LibraryClass, b = k :=
    exists_library_of_mem_order l ((mem_orderOf_iff l.orderOf_initial).2 (.inr (.inl hb)))
  refine .ofBases ?_ fun b hb => ?_
  · rw [hbases, horder]
    refine orderOf_congr (fun b hb => ?_) l.orderOf_initial
    obtain ⟨k, rfl⟩ := hlibrary hb
    exact horder k
  · rw [hbases] at hb
    obtain ⟨k, rfl⟩ := hlibrary hb
    have hlt := LibraryClass.length_lt_of_mem_bases hb
    exact isLinear_library hbases horder k
termination_by l.info.order.length

/-! ## Runs -/

namespace Hierarchy

variable {h h' : Hierarchy} {made : List ClassId} {c : ClassId}

/-- The classes that there are: those of the library, and those that have been made. -/
def IsThere (made : List ClassId) (c : ClassId) : Prop := c ∈ made ∨ ∃ l : LibraryClass, c = l

theorem isThere_cons_iff {d : ClassId} : IsThere (d :: made) c ↔ c = d ∨ IsThere made c := by
  rw [IsThere, List.mem_cons, or_assoc, IsThere]

/-- How the classes of a program come about, step by step from those of the library. The list holds
those that have been made. -/
inductive Arises : Hierarchy → List ClassId → Prop
  | initial : Arises .initial []
  /-- The number of a class is taken. -/
  | taken {h : Hierarchy} {made : List ClassId} (ha : Arises h made) :
      Arises { h with declared := h.declared + 1 } made
  /-- Classes are changed. -/
  | changed {h h' : Hierarchy} {made : List ClassId} (ha : Arises h made) (hk : h.Keeps h') :
      Arises h' made
  /-- A class is made of others, and only once. -/
  | made {h h' : Hierarchy} {made : List ClassId} {metaclass : ClassId} {name : String}
      {bases : List ClassId} {b : Blueprint} (ha : Arises h made)
      (hm : h.make metaclass name bases b = .ok h') (hbases : ∀ a ∈ bases, IsThere made a)
      (hnew : ¬IsThere made b.self) : Arises h' (b.self :: made)

/-- **Orders are merged in each run**, and they hold no class that is not there. -/
theorem Arises.isLinear_and_isThere (ha : Arises h made) (hc : IsThere made c) :
    h.IsLinear c ∧ ∀ a ∈ (h.info c).order, IsThere made a := by
  induction ha generalizing c with
  | initial =>
    obtain ⟨l, rfl⟩ := hc.resolve_left List.not_mem_nil
    exact ⟨isLinear_library (fun _ => rfl) (fun _ => rfl) l,
      fun a ha => .inr (exists_library_of_mem_order l ha)⟩
  | taken _ ih =>
    obtain ⟨hlinear, hthere⟩ := ih hc
    exact ⟨hlinear.congr fun _ _ => ⟨rfl, rfl⟩, hthere⟩
  | changed _ hk ih =>
    obtain ⟨hlinear, hthere⟩ := ih hc
    rw [hk.order]
    exact ⟨hlinear.congr fun a _ => ⟨hk.bases a, hk.order a⟩, hthere⟩
  | @made h h' made metaclass name bases b _ hm hbases hnew ih =>
    -- the new class stands in no order, so all classes that have been there are left alone
    have hother {a : ClassId} (ha : IsThere made a) : (h'.info a).bases = (h.info a).bases ∧
        (h'.info a).order = (h.info a).order :=
      info_of_make_of_ne hm fun heq => hnew (heq ▸ ha)
    have hbase (a : ClassId) (ha : a ∈ ClassId.library .object :: bases) : IsThere made a :=
      (List.mem_cons.1 ha).elim (fun heq => .inr ⟨_, heq⟩) (hbases a)
    have hold {a : ClassId} (ha : IsThere made a) :
        h'.IsLinear a ∧ ∀ d ∈ (h'.info a).order, IsThere made d := by
      obtain ⟨hlinear, hthere⟩ := ih ha
      rw [(hother ha).2]
      exact ⟨hlinear.congr fun d hd => hother (hthere d hd), hthere⟩
    simp only [isThere_cons_iff] at hc ⊢
    obtain rfl | hc := hc
    · have hlinear : h'.IsLinear b.self := .make hm fun a ha =>
        ⟨(ih (hbase a ha)).1, fun hself => hnew ((ih (hbase a ha)).2 _ hself)⟩
      obtain ⟨hsub, -⟩ := info_of_make hm
      refine ⟨hlinear, fun a ha => ?_⟩
      obtain rfl | hmem | ⟨d, hmem, horder⟩ := hlinear.mem_order_iff.1 ha
      · exact .inl rfl
      · exact .inr (hbase a (hsub hmem))
      · exact .inr ((hold (hbase d (hsub hmem))).2 a horder)
    · obtain ⟨hlinear, hthere⟩ := hold hc
      exact ⟨hlinear, fun a ha => .inr (hthere a ha)⟩

end Hierarchy

open Hierarchy in
/-- What creates classes makes such a step, whether the bases complain of the new class or not;
unless the class cannot be made, and then nothing has happened. -/
theorem Construction.createClass_arises {m : Machinery} {made : List ClassId} {metaclass : ClassId}
    {name : String} {bases : List Subject} {b : Blueprint} {w : World}
    (ha : Arises w.classes made) (hplan : b.plan = none)
    (hbases : ∀ a ∈ bases.filterMap Subject.class?, IsThere made a)
    (hnew : ¬IsThere made b.self) :
    let creation := createClass m metaclass [.data (.str name), .tuple bases, .blueprint b]
    Arises (creation w).2.classes (b.self :: made) ∨ ∃ e, creation w = (.error e, w) := by
  intro creation
  have hrun : creation w = (do
      Act.setClasses (← Act.ofExcept
        (w.classes.make metaclass name (bases.filterMap Subject.class?) b))
      Act.setClasses (← Act.ofExcept ((← Act.classes).tellBases b.self))
      return Value.ofClass b.self) w := by
    show createClass _ _ _ w = _
    rw [createClass, Act.bind_run_of_ok (Act.classes_run w)]
    simp only [hplan]
  rw [hrun]
  cases hm : w.classes.make metaclass name (bases.filterMap Subject.class?) b with
  | error f => exact .inr ⟨f.raised, rfl⟩
  | ok h =>
    have hmade : Arises h (b.self :: made) := ha.made hm hbases hnew
    left
    show Arises ((Act.ofExcept (h.tellBases b.self) >>= fun h => do
      Act.setClasses h
      return Value.ofClass b.self) { w with classes := h }).2.classes _
    cases ht : h.tellBases b.self with
    | error f => exact hmade
    | ok h' => exact hmade.changed (keeps_of_tellBases ht)

end UtilityClass
