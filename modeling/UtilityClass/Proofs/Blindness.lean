import UtilityClass.Proofs.Discretion
import UtilityClass.Proofs.Finished
import UtilityClass.Proofs.Keeping
import UtilityClass.Proofs.UnmarkedChanges

/-!
# Acts that are blind to marks

An act is blind to marks if it does the same in a world without marks as it does in the world
itself: it ends in the same way, but for the marks on what it gives, and the world that it leaves
behind is the same, again without the marks. Blindness is kept by sequences, so it is shown of each
act along its definition, from what is known of reading and changing classes without marks.

Two things end a comparison. A verification reads the marks, and it shows in the journal that there
has been one. Where the flag of a class is exchanged, so does the making of a class: the new class
could be told apart by it from the very start. An act that goes beyond the comparison in one of
these ways cannot come back, because neither the journal nor the number of classes ever shrinks;
hence blindness says that an act agrees with what it does without marks or has gone beyond.

While an act runs, the class with the flag may be given another flag. So it is only this class that
stays the same, and what the flag has become is told by the comparison.

## Main definitions

* `HasMarks` : results that marks can be taken off
* `Hierarchy.IsSettled` : what is taken for granted of classes where a flag is exchanged
* `World.unmarked`, `World.Exceeds` : worlds without marks, and going beyond the comparison
* `Act.Agree`, `Act.BlindAt` : blindness
* `Machinery.IsBlind` : blindness of all that can be asked of a machinery

## Main results

* `Act.BlindAt.bind_of_flag`, `Act.BlindAt.bind` : sequences
* `Act.BlindAt.change_bind`, `Act.BlindAt.assign_bind` : changes of classes
* `Act.BlindAt.isSubclass` : asking which classes derive from each other
* `Act.BlindAt.catching` : catching
-/

namespace UtilityClass

/-! ## Results and worlds without marks -/

/-- Results that marks can be taken off. Those that are finished hold no namespace of a class under
way. -/
class HasMarks (α : Type) where
  unmarked : α → α
  IsFinished : α → Prop

open HasMarks (IsFinished)

/-- What is not said to have marks has none. -/
instance (priority := low) HasMarks.inert (α : Type) : HasMarks α := ⟨fun a => a, fun _ => True⟩

instance : HasMarks Value := ⟨Value.unmarked, Value.IsFinished⟩

@[simp] theorem HasMarks.unmarked_value (v : Value) : HasMarks.unmarked v = v.unmarked := rfl

section Instances

variable {α β : Type} [HasMarks α] [HasMarks β]

instance : HasMarks (α × β) :=
  ⟨fun p => (HasMarks.unmarked p.1, HasMarks.unmarked p.2),
    fun p => IsFinished p.1 ∧ IsFinished p.2⟩

instance : HasMarks (Except Raised α) :=
  ⟨Except.map HasMarks.unmarked, fun r => ∀ a, r = .ok a → IsFinished a⟩

end Instances

/-- Nobody gives the metaclass that keeps track of abstract methods a class back that has been there
before: behind it, along the order of each metaclass derived from it, no declared class has a
creating function. -/
def Hierarchy.MakesAfresh (h : Hierarchy) : Prop :=
  ∀ c, h.derives c LibraryClass.abcMeta = true →
    ∀ d ∈ h.orderAfter c LibraryClass.abcMeta, ∀ m, ("__new__", m) ∈ (h.info d).members →
      m.createsAfresh = true

/-- No attribute of the name of the flag is one that classes have by being classes. -/
def Hierarchy.HasPlainFlags (h : Hierarchy) : Prop :=
  ∀ c m, ("__final__", m) ∈ (h.info c).members → m.isField = false

/-- What is taken for granted of the classes where a flag is exchanged. -/
structure Hierarchy.IsSettled (h : Hierarchy) : Prop where
  afresh : h.MakesAfresh
  flag : h.HasPlainFlags

theorem Hierarchy.IsSettled.of_keeps {h h' : Hierarchy} (hs : h.IsSettled) (hk : h.Keeps h') :
    h'.IsSettled where
  afresh c hc d hd m hm := by
    rw [Hierarchy.orderAfter, hk.order, ← Hierarchy.orderAfter] at hd
    rw [Hierarchy.derives, hk.order, ← Hierarchy.derives] at hc
    exact (hk.entries d "__new__" m hm).elim (hs.afresh c hc d hd m) (·.creator rfl)
  flag c m hm := (hk.entries c "__final__" m hm).elim (hs.flag c m) (·.flag rfl)

namespace Hierarchy

section Flag

variable {h : Hierarchy} {x : Option Flag} {c : ClassId}

theorem field?_flag (hflag : h.HasPlainFlags) :
    h.field? c "__final__" = none := by
  unfold field?
  rcases hr : h.resolve? (h.info c).metaclass "__final__" with _ | ⟨d, m⟩
  · rfl
  · obtain ⟨before, behind, hmembers, -⟩ := List.lookup_eq_some_iff.1 (own?_of_firstIn? h hr).2
    have hm := hflag d m (by simp [hmembers])
    cases m
    case native n =>
      cases n
      case field => cases hm
      all_goals rfl
    all_goals rfl

/-- Setting the flag of the class puts another flag in the place of the one that it was given. -/
theorem putMember_flag_unmarked (h : Hierarchy) (c : ClassId) (flag m : Member) :
    (h.unmarked (some (c, flag))).putMember c "__final__" m.unmarked =
      (h.putMember c "__final__" m).unmarked (some (c, m.unmarked)) := by
  have hinfo (d : ClassId) : ((h.unmarked (some (c, flag))).putMember c "__final__" m.unmarked).info
      d = bare (some (c, m.unmarked)) d ((h.putMember c "__final__" m).info d) := by
    have hput (g : Hierarchy) (m : Member) : g.putMember c "__final__" m =
        g.modify c (·.setMember "__final__" m) := rfl
    rw [hput, hput]
    by_cases hd : d = c
    · subst hd
      rw [modify_info_self, modify_info_self]
      exact congrArg (fun members => { h.info d with members })
        (putEntry_flag_bareEntries flag m (h.info d).members)
    · have hother (flag : Member) : (some (c, flag)).map Prod.fst ≠ some d := by
        simpa using Ne.symm hd
      rw [modify_info_of_ne _ hd, modify_info_of_ne _ hd]
      refine congrArg (fun members => { h.info d with members }) ?_
      rw [bareEntries_of_ne (hother flag), bareEntries_of_ne (hother m.unmarked)]
  exact congrArg (Hierarchy.mk · h.declared) (funext hinfo)

variable (hs : x.isSome → h.IsSettled) (hx : ∀ f ∈ x, f.2.isField = false)
include hs hx

theorem field?_flag_unmarked :
    x.isSome → (h.unmarked x).field? c "__final__" = h.field? c "__final__" := by
  intro hsome
  rw [field?_flag (hs hsome).flag]
  refine field?_flag fun d m hm => ?_
  have hkept (entries : List (String × Member)) (hsub : entries ⊆ (h.info d).members)
      (he : ("__final__", m) ∈ unmarkedEntries entries) : m.isField = false := by
    obtain ⟨⟨name, m'⟩, hmem, heq⟩ := List.mem_map.1 he
    cases heq
    rw [Member.isField_unmarked]
    exact (hs hsome).flag d m' (hsub hmem)
  replace hm : ("__final__", m) ∈ bareEntries x d (h.info d).members := hm
  rcases bareEntries_cases x d with hbare | ⟨flag, rfl⟩
  · rw [hbare] at hm
    exact hkept _ (List.Subset.refl _) hm
  · rw [bareEntries_self] at hm
    rcases List.mem_cons.1 hm with heq | hm
    · cases heq
      exact hx _ rfl
    · exact hkept _ (fun _ he => (List.mem_filter.1 he).1) hm

/-- Setting an attribute and taking the marks off are done in either order. If the flag is set, it
is another one that has taken its place. -/
theorem exists_assign_unmarked (name : String) {m : Member} (hm : m.isField = false) :
    ∃ x', x'.map Prod.fst = x.map Prod.fst ∧ (∀ f ∈ x', f.2.isField = false) ∧
      (h.unmarked x).assign c name m.unmarked =
        (h.assign c name m).map fun g => g.unmarked x' := by
  by_cases hother : x.map Prod.fst = some c ∧ name = "__final__"
  · obtain ⟨hc, rfl⟩ := hother
    obtain ⟨⟨d, flag⟩, rfl, rfl⟩ := Option.map_eq_some_iff.1 hc
    by_cases hh : ∃ serial hook,
        h.resolve? (h.info d).metaclass "__setattr__" = some (.declared serial, hook)
    · obtain ⟨_, _, hh⟩ := hh
      exact ⟨_, rfl, hx, assign_unmarked_of_hook h hh _ m _⟩
    · refine ⟨some (d, m.unmarked), rfl, ?_, assign_unmarked_of_plain h
        (fun serial hook hr => hh ⟨serial, hook, hr⟩) ?_⟩
      · rintro _ ⟨⟩
        rwa [Member.isField_unmarked]
      · have hproperty (g : Hierarchy) : g.isMembersProperty d "__final__" = false := by
          simp [isMembersProperty]
        simp only [assignPlainly, field?_flag_unmarked hs hx rfl, field?_flag (hs rfl).flag,
          hproperty, putMember_flag_unmarked, unmarked_info_immutable, unmarked_info_runtimeName]
        cases (h.info d).immutable <;> rfl
  · refine ⟨x, rfl, hx, assign_unmarked h name (fun hc hn => hother ⟨hc, hn⟩) ?_ m⟩
    by_cases hn : x.isSome ∧ name = "__final__"
    · obtain ⟨hsome, rfl⟩ := hn
      exact field?_flag_unmarked hs hx hsome
    · exact field?_unmarked h name fun hsome hname => hn ⟨hsome, hname⟩

end Flag

end Hierarchy

namespace World

/-- The world without marks in its classes, one of them with another flag, and in its labels. -/
def unmarked (w : World) (x : Option Flag) : World :=
  { w with classes := w.classes.unmarked x, labels := unmarkedNamed w.labels }

/-- The journal has not shrunk, and neither have the classes. -/
structure Grows (w w' : World) : Prop where
  journal : w.journal.length ≤ w'.journal.length
  declared : w.classes.declared ≤ w'.classes.declared

theorem Grows.refl (w : World) : w.Grows w := ⟨Nat.le_refl _, Nat.le_refl _⟩

theorem Grows.trans {w w' w'' : World} (h : w.Grows w') (h' : w'.Grows w'') : w.Grows w'' :=
  ⟨Nat.le_trans h.journal h'.journal, Nat.le_trans h.declared h'.declared⟩

/-- Something has been logged; or, where a flag is exchanged, a class has been taken. -/
def Exceeds (x : Option Flag) (w w' : World) : Prop :=
  w.journal.length < w'.journal.length ∨
    (x.isSome ∧ w.classes.declared < w'.classes.declared)

namespace Exceeds

variable {x : Option Flag} {w w' w'' : World}

theorem of_grows (he : w.Exceeds x w') (hg : w'.Grows w'') : w.Exceeds x w'' :=
  he.imp (Nat.lt_of_lt_of_le · hg.journal) fun ⟨hx, hd⟩ => ⟨hx, Nat.lt_of_lt_of_le hd hg.declared⟩

theorem grown (he : w'.Exceeds x w'') (hg : w.Grows w') : w.Exceeds x w'' :=
  he.imp (Nat.lt_of_le_of_lt hg.journal ·) fun ⟨hx, hd⟩ => ⟨hx, Nat.lt_of_le_of_lt hg.declared hd⟩

theorem of_flag {x' : Option Flag} (he : w.Exceeds x' w') (hx : x'.isSome = x.isSome) :
    w.Exceeds x w' :=
  he.imp_right fun ⟨hx', hd⟩ => ⟨hx ▸ hx', hd⟩

end Exceeds

/-- What the comparison needs where a flag is exchanged. -/
structure Fits (x : Option Flag) (w : World) : Prop where
  classes : x.isSome → w.classes.IsSettled
  labels : x.isSome → ∀ entry ∈ w.labels, entry.2.IsFinished
  flag : ∀ f ∈ x, f.2.isField = false

theorem Fits.of_none (w : World) : w.Fits none where
  classes hx := absurd hx (by simp)
  labels hx := absurd hx (by simp)
  flag f hf := absurd hf (by simp)

end World

namespace Act

variable {α β : Type} [HasMarks α] [HasMarks β]

/-- The second run does what the first one does, without marks. The class with the flag stays, but
the flag that it is given may be set by the run. -/
structure Agree (x x' : Option Flag) (r r' : Except Raised α × World) : Prop where
  flag : x'.map Prod.fst = x.map Prod.fst
  result : r'.1 = r.1.map HasMarks.unmarked
  world : r'.2 = r.2.unmarked x'
  fits : r.2.Fits x'
  finished : x.isSome → ∀ a, r.1 = .ok a → IsFinished a

/-- An act that is run in `w` is blind to marks: the other act, which is run without them, does the
same unless the run goes beyond what is compared. -/
structure BlindAt (x : Option Flag) (w : World) (act act' : Act α) : Prop where
  grows : w.Grows (act w).2
  agree : w.Fits x → w.Exceeds x (act w).2 ∨ ∃ x', Agree x x' (act w) (act' (w.unmarked x))

namespace BlindAt

variable {x : Option Flag} {w : World}

theorem isSome_of_map {x' : Option Flag} (h : x'.map Prod.fst = x.map Prod.fst) :
    x'.isSome = x.isSome := by
  rw [← Option.isSome_map, h, Option.isSome_map]

/-- An act that leaves the world alone. -/
theorem of_run {act act' : Act α} {r : Except Raised α} (ha : act w = (r, w))
    (ha' : act' (w.unmarked x) = (r.map HasMarks.unmarked, w.unmarked x))
    (hr : w.Fits x → x.isSome → ∀ a, r = .ok a → IsFinished a) : BlindAt x w act act' where
  grows := by
    rw [ha]
    exact .refl w
  agree hw := .inr ⟨x, rfl, by rw [ha, ha'], by rw [ha, ha'], by rwa [ha], by rw [ha]; exact hr hw⟩

theorem pure {a a' : α} (ha : a' = HasMarks.unmarked a) (hf : x.isSome → IsFinished a) :
    BlindAt x w (pure a) (pure a') :=
  of_run rfl (by rw [ha]; rfl) fun _ hx b hb => by
    cases hb
    exact hf hx

theorem throw (e : Raised) : BlindAt x w (throw e : Act α) (throw e) :=
  of_run rfl rfl fun _ _ _ ha => nomatch ha

theorem fail (f : Fault) : BlindAt x w (fail f : Act α) (fail f) := throw f.raised

theorem refuse (r : Refusal) : BlindAt x w (refuse r : Act α) (refuse r) := fail (.refusal r)

theorem ofExcept {r r' : Except Fault α} (hr : r' = r.map HasMarks.unmarked)
    (hf : x.isSome → ∀ a, r = .ok a → IsFinished a) :
    BlindAt x w (ofExcept r) (ofExcept r') := by
  subst hr
  cases r with
  | ok a => exact pure rfl fun hx => hf hx a rfl
  | error f => exact fail f

/-- A result that has no marks. -/
theorem same {γ : Type} {r r' : Except Fault γ} (hr : r' = r) :
    @BlindAt γ (.inert γ) x w (Act.ofExcept r) (Act.ofExcept r') := by
  let := HasMarks.inert γ
  refine ofExcept ?_ fun _ _ _ => trivial
  subst hr
  cases r' <;> rfl

/-- Nothing follows a run that fails. -/
theorem bind_of_error {act act' : Act α} {f f' : α → Act β} (h : BlindAt x w act act') {e : Raised}
    {w₁ : World} (hr : act w = (.error e, w₁)) : BlindAt x w (act >>= f) (act' >>= f') := by
  have hrun : (act >>= f) w = (.error e, w₁) := bind_run_of_error hr
  refine ⟨by rw [hrun]; simpa [hr] using h.grows, fun hw => ?_⟩
  rcases h.agree hw with hexceeds | ⟨x', ha⟩
  · exact .inl (by rw [hrun]; simpa [hr] using hexceeds)
  · rw [hr] at ha
    refine .inr ⟨x', ?_⟩
    rw [hrun, bind_run_of_error (f := f') (Prod.ext ha.result ha.world)]
    exact ⟨ha.flag, rfl, rfl, ha.fits, nofun⟩

/-- A run goes on from where it agrees. Whatever it has gone beyond, it does not come back. -/
theorem bind_of_ok {act act' : Act α} {f f' : α → Act β} (h : BlindAt x w act act') {a : α}
    {w₁ : World} (hr : act w = (.ok a, w₁))
    (hf : ∀ x', (x'.isSome → x.isSome) → (x'.isSome → IsFinished a) →
      BlindAt x' w₁ (f a) (f' (HasMarks.unmarked a))) :
    BlindAt x w (act >>= f) (act' >>= f') := by
  have hrun : (act >>= f) w = f a w₁ := bind_run_of_ok hr
  have hfirst : w.Grows w₁ := by simpa [hr] using h.grows
  have hgrows : w₁.Grows (f a w₁).2 := (hf none nofun nofun).grows
  refine ⟨by rw [hrun]; exact hfirst.trans hgrows, fun hw => ?_⟩
  rw [hrun]
  rcases h.agree hw with hexceeds | ⟨x', ha⟩
  · rw [hr] at hexceeds
    exact .inl (hexceeds.of_grows hgrows)
  · rw [hr] at ha
    have hx : x'.isSome = x.isSome := isSome_of_map ha.flag
    rw [bind_run_of_ok (f := f') (Prod.ext ha.result ha.world)]
    rcases (hf x' (hx ▸ ·) fun h => ha.finished (hx ▸ h) a rfl).agree ha.fits with
      hexceeds | ⟨x'', ha'⟩
    · exact .inl ((hexceeds.of_flag hx).grown hfirst)
    · exact .inr ⟨x'', ha'.flag.trans ha.flag, ha'.result, ha'.world, ha'.fits,
        fun h => ha'.finished (hx ▸ h)⟩

/-- Whatever the run gives. -/
theorem bind_of_flag {act act' : Act α} {f f' : α → Act β} (h : BlindAt x w act act')
    (hf : ∀ a w' x', (x'.isSome → x.isSome) → (x'.isSome → IsFinished a) →
      BlindAt x' w' (f a) (f' (HasMarks.unmarked a))) :
    BlindAt x w (act >>= f) (act' >>= f') := by
  rcases hr : act w with ⟨e | a, w₁⟩
  · exact bind_of_error h hr
  · exact bind_of_ok h hr (hf a w₁)

theorem bind {act act' : Act α} {f f' : α → Act β} (h : BlindAt x w act act')
    (hf : ∀ a w' x', (x'.isSome → IsFinished a) →
      BlindAt x' w' (f a) (f' (HasMarks.unmarked a))) :
    BlindAt x w (act >>= f) (act' >>= f') :=
  h.bind_of_flag fun a w' x' _ => hf a w' x'

/-- Where no flag is exchanged, none is later. -/
theorem eq_none {x' : Option Flag} (hx : x'.isSome → (none : Option Flag).isSome) : x' = none := by
  simpa using hx

theorem bind_none {act act' : Act α} {f f' : α → Act β} (h : BlindAt none w act act')
    (hf : ∀ a w', BlindAt none w' (f a) (f' (HasMarks.unmarked a))) :
    BlindAt none w (act >>= f) (act' >>= f') := by
  refine h.bind_of_flag fun a w' x' hx _ => ?_
  obtain rfl := eq_none hx
  exact hf a w'

/-! ### Reading and changing classes -/

/-- What is done with the classes that are found. -/
theorem classes_bind {f f' : Hierarchy → Act α}
    (h : BlindAt x w (f w.classes) (f' (w.classes.unmarked x))) :
    BlindAt x w (classes >>= f) (classes >>= f') := by
  have hrun (f : Hierarchy → Act α) (w : World) : (classes >>= f) w = f w.classes w :=
    bind_run_of_ok (classes_run w)
  refine ⟨by rw [hrun]; exact h.grows, fun hw => ?_⟩
  rw [hrun, hrun]
  exact h.agree hw

/-- What is done with a result that is the same without marks. -/
theorem ofExcept_bind {γ : Type} {r r' : Except Fault γ} (e : γ → γ) (hr : r' = r.map e)
    {f f' : γ → Act α} (hf : ∀ a, r = .ok a → BlindAt x w (f a) (f' (e a))) :
    BlindAt x w (Act.ofExcept r >>= f) (Act.ofExcept r' >>= f') := by
  subst hr
  cases r with
  | ok a => exact hf a rfl
  | error f => exact fail f

/-- What is done with a result that has no marks. -/
theorem same_bind {γ : Type} {r r' : Except Fault γ} (hr : r' = r) {f f' : γ → Act α}
    (hf : ∀ a, r = .ok a → BlindAt x w (f a) (f' a)) :
    BlindAt x w (Act.ofExcept r >>= f) (Act.ofExcept r' >>= f') := by
  subst hr
  cases r' with
  | ok a => exact hf a rfl
  | error f => exact fail f

/-- What is done after a result that does not matter. -/
theorem discard_bind {γ : Type} {r r' : Except Fault γ} (e : γ → γ) (hr : r' = r.map e)
    {f f' : Unit → Act α} (hf : BlindAt x w (f ()) (f' ())) :
    BlindAt x w (Functor.discard (Act.ofExcept r) >>= f)
      (Functor.discard (Act.ofExcept r') >>= f') := by
  subst hr
  cases r with
  | ok a => exact hf
  | error f => exact fail f

theorem fail_bind {γ : Type} (f : Fault) {k k' : γ → Act α} :
    BlindAt x w (Act.fail f >>= k) (Act.fail f >>= k') := fail f

theorem discard {act act' : Act α} (h : BlindAt x w act act') :
    BlindAt x w (discard act) (discard act') := by
  show BlindAt x w ((fun _ => ()) <$> act) ((fun _ => ()) <$> act')
  rw [map_eq_pure_bind, map_eq_pure_bind]
  exact h.bind fun _ _ _ _ => pure rfl fun _ => trivial

/-- The classes are changed, and so are those without marks. -/
theorem setClasses {g g' : Hierarchy} (hk : w.classes.Keeps g) {x' : Option Flag}
    (hx : x'.map Prod.fst = x.map Prod.fst) (hflag : w.Fits x → ∀ f ∈ x', f.2.isField = false)
    (hg : g' = g.unmarked x') : BlindAt x w (setClasses g) (setClasses g') where
  grows := ⟨Nat.le_refl _, Nat.le_of_eq hk.declared.symm⟩
  agree hw := by
    subst hg
    refine .inr ⟨x', hx, rfl, rfl, ⟨fun hs => ?_, fun hs => ?_, hflag hw⟩, fun _ _ _ => trivial⟩
    · exact (hw.classes (isSome_of_map hx ▸ hs)).of_keeps hk
    · exact hw.labels (isSome_of_map hx ▸ hs)

/-- The classes are changed in any way, and no flag is exchanged. -/
theorem setClasses_none {g g' : Hierarchy} (hd : g.declared = w.classes.declared)
    (hg : g' = g.unmarked none) : BlindAt none w (Act.setClasses g) (Act.setClasses g') where
  grows := ⟨Nat.le_refl _, Nat.le_of_eq hd.symm⟩
  agree _ := by
    subst hg
    exact .inr ⟨none, rfl, rfl, rfl, .of_none _, fun _ _ _ => trivial⟩

/-- What is compared only where it fits. -/
theorem of_fits {act act' act'' : Act α} (hgrows : BlindAt none w act act'')
    (h : w.Fits x → BlindAt x w act act') : BlindAt x w act act' :=
  ⟨hgrows.grows, fun hw => (h hw).agree hw⟩

section Change

variable {f f' : Unit → Act α}
  (hf : ∀ w' x', (x'.isSome → x.isSome) → BlindAt x' w' (f ()) (f' ()))
include hf

/-- A change of the classes that may fail, and may set the flag. -/
theorem change_bind {r r' : Except Fault Hierarchy} {x' : Option Flag}
    (hx : x'.map Prod.fst = x.map Prod.fst) (hflag : w.Fits x → ∀ f ∈ x', f.2.isField = false)
    (hr : r' = r.map fun g => g.unmarked x') (hk : ∀ g, r = .ok g → w.classes.Keeps g) :
    BlindAt x w (Act.ofExcept r >>= fun g => Act.setClasses g >>= f)
      (Act.ofExcept r' >>= fun g => Act.setClasses g >>= f') :=
  ofExcept_bind _ hr fun g hg =>
    (setClasses (hk g hg) hx hflag rfl).bind_of_flag fun _ w' x' hx' _ => hf w' x' hx'

/-- An attribute is set. -/
theorem assign_bind (c : ClassId) (name : String) {m m' : Member} (hm : m' = m.unmarked)
    (hfits : ∀ name, m.Fits name) :
    BlindAt x w (Act.ofExcept (w.classes.assign c name m) >>= fun g => Act.setClasses g >>= f)
      (Act.ofExcept ((w.classes.unmarked x).assign c name m') >>= fun g =>
        Act.setClasses g >>= f') := by
  subst hm
  have hkeeps (g : Hierarchy) (hg : w.classes.assign c name m = .ok g) : w.classes.Keeps g :=
    Hierarchy.keeps_of_assign (hfits name) hg
  have hassign := w.classes.assign_unmarked (x := none) name nofun
    (w.classes.field?_unmarked (c := c) name nofun) m
  have hnone (w' : World) (x' : Option Flag) (hx : x'.isSome → (none : Option Flag).isSome) :
      BlindAt x' w' (f ()) (f' ()) :=
    hf w' x' fun h => Bool.noConfusion (hx h)
  refine of_fits (change_bind hnone rfl World.Fits.flag hassign hkeeps) fun hw => ?_
  obtain ⟨x', hx, hflag, hassign⟩ :=
    Hierarchy.exists_assign_unmarked (c := c) hw.classes hw.flag name
      ((hfits "__final__").flag rfl)
  exact change_bind hf hx (fun _ => hflag) hassign hkeeps

end Change

/-- An attribute is deleted, where no flag is exchanged. -/
theorem delete_bind (c : ClassId) (name : String) {f f' : Unit → Act α}
    (hf : ∀ w', BlindAt none w' (f ()) (f' ())) :
    BlindAt none w
      (Act.ofExcept (w.classes.delete c name) >>= fun g => Act.setClasses g >>= f)
      (Act.ofExcept ((w.classes.unmarked none).delete c name) >>= fun g =>
        Act.setClasses g >>= f') := by
  have hdelete := w.classes.delete_unmarked (x := none) name nofun
    (w.classes.field?_unmarked (c := c) name nofun)
  refine change_bind (fun w' x' hx => ?_) rfl World.Fits.flag hdelete
    fun _ => Hierarchy.keeps_of_delete
  obtain rfl := eq_none hx
  exact hf w'

/-- A class is taken: where a flag is exchanged, that is the end of the comparison. -/
theorem takeClass_bind {f f' : ClassId → Act α} (hf : ∀ c w', BlindAt none w' (f c) (f' c)) :
    BlindAt x w (takeClass >>= f) (takeClass >>= f') := by
  have hrun (f : ClassId → Act α) (w : World) : (takeClass >>= f) w =
      f (.declared w.classes.declared)
        { w with classes := { w.classes with declared := w.classes.declared + 1 } } := rfl
  let w₁ := { w with classes := { w.classes with declared := w.classes.declared + 1 } }
  have htaken : w.Grows w₁ := ⟨Nat.le_refl _, Nat.le_succ _⟩
  refine ⟨by rw [hrun]; exact htaken.trans (hf _ _).grows, fun hw => ?_⟩
  rw [hrun, hrun]
  cases x with
  | none =>
    rcases (hf (.declared w.classes.declared) w₁).agree (.of_none _) with hexceeds | ⟨x', ha⟩
    · exact .inl (hexceeds.grown htaken)
    · exact .inr ⟨x', ha⟩
  | some f =>
    exact .inl (.inr ⟨rfl, Nat.lt_of_lt_of_le (Nat.lt_succ_self _)
      (hf (.declared w.classes.declared) w₁).grows.declared⟩)

/-! ### Labels and turns -/

theorem resolve_label_run (text : String) (w : World) : Act.resolve (.label text) w =
    (match w.labels.lookup text, LibraryClass.ofLabel? text with
      | some meaning, _ => .ok meaning
      | none, some c => .ok (.ofClass c)
      | none, none => .error (Fault.noSuchWord text).raised, w) := by
  have hget : (get : Act World) w = (.ok w, w) := rfl
  unfold Act.resolve
  dsimp only
  rw [bind_run_of_ok hget]
  cases w.labels.lookup text <;> cases LibraryClass.ofLabel? text <;> rfl

theorem resolve (r : Reference) : BlindAt x w (resolve r) (resolve r) := by
  cases r with
  | ofClass c => exact pure rfl fun _ => trivial
  | plain value => exact pure rfl fun _ => trivial
  | label text =>
    refine of_run (resolve_label_run text w) ?_ fun hw hx v hv => ?_
    · have hlookup : (w.unmarked x).labels.lookup text =
          (w.labels.lookup text).map Value.unmarked := lookup_unmarkedNamed w.labels text
      rw [resolve_label_run, hlookup]
      cases w.labels.lookup text <;> cases LibraryClass.ofLabel? text <;> rfl
    · split at hv
      · rename_i meaning hmeaning
        cases hv
        obtain ⟨before, behind, hlabels, -⟩ := List.lookup_eq_some_iff.1 hmeaning
        exact hw.labels hx (text, v) (by simp [hlabels])
      · cases hv
        trivial
      · cases hv

/-! ### Frames and loops -/

theorem attempt {act act' : Act α} (h : BlindAt x w act act') :
    BlindAt x w (attempt act) (attempt act') where
  grows := h.grows
  agree hw := (h.agree hw).imp_right fun ⟨x', ha⟩ => ⟨x', ha.flag, by
    show Except.ok _ = Except.ok _
    rw [ha.result]
    rfl, ha.world, ha.fits, fun hx r hr a hra => ha.finished hx a (by
      cases hr
      exact hra)⟩

theorem inFrame {act act' : Act α} (h : BlindAt x w act act') :
    BlindAt x w (inFrame act) (inFrame act') := by
  have hrun (act : Act α) (w : World) : Act.inFrame act w =
      ((act w).1.mapError fun e => { e with frames := e.frames + 1 }, (act w).2) := by
    unfold Act.inFrame
    rcases act w with ⟨_ | _, _⟩ <;> rfl
  refine ⟨by rw [hrun]; exact h.grows, fun hw => ?_⟩
  rw [hrun, hrun]
  refine (h.agree hw).imp_right fun ⟨x', ha⟩ => ⟨x', ha.flag, ?_, ha.world, ha.fits, ?_⟩
  · dsimp only
    rw [ha.result]
    cases (act w).1 <;> rfl
  · intro hx a hr
    refine ha.finished hx a ?_
    dsimp only at hr
    cases hact : (act w).1 <;> rw [hact] at hr <;> cases hr
    rfl

/-- A loop, whose steps need not be compared where another flag might be exchanged. -/
theorem forM {γ : Type} {f f' : γ → Act PUnit} (list : List γ)
    (hf : ∀ w' x', (x'.isSome → x.isSome) → ∀ c ∈ list, BlindAt x' w' (f c) (f' c)) :
    BlindAt x w (list.forM f) (list.forM f') := by
  induction list generalizing x w with
  | nil => exact pure rfl fun _ => trivial
  | cons c list ih =>
    exact (hf w x id c List.mem_cons_self).bind_of_flag fun _ w' x' hx _ =>
      ih fun w'' x'' hx' c hc => hf w'' x'' (fun h => hx (hx' h)) c (List.mem_cons_of_mem _ hc)

theorem forIn {γ δ : Type} {f f' : γ → δ → Act (ForInStep δ)} (list : List γ)
    (hf : ∀ w' x', (x'.isSome → x.isSome) → ∀ b ∈ list, ∀ d, BlindAt x' w' (f b d) (f' b d))
    (d : δ) : BlindAt x w (forIn list d f) (forIn list d f') := by
  induction list generalizing x w d with
  | nil => exact pure rfl fun _ => trivial
  | cons b list ih =>
    rw [List.forIn_cons, List.forIn_cons]
    refine (hf w x id b List.mem_cons_self d).bind_of_flag fun step w' x' hx _ => ?_
    cases step with
    | done d => exact pure rfl fun _ => trivial
    | yield d =>
      exact ih (fun w'' x'' hx' b hb => hf w'' x'' (fun h => hx (hx' h)) b
        (List.mem_cons_of_mem _ hb)) d

theorem mapM {γ δ : Type} [HasMarks δ] (hd : ∀ d : δ, HasMarks.unmarked d = d) {f f' : γ → Act δ}
    (hf : ∀ w' x', (x'.isSome → x.isSome) → ∀ c, BlindAt x' w' (f c) (f' c)) (list : List γ) :
    BlindAt x w (list.mapM f) (list.mapM f') := by
  induction list generalizing x w with
  | nil => exact pure rfl fun _ => trivial
  | cons c list ih =>
    rw [List.mapM_cons, List.mapM_cons]
    refine (hf w x id c).bind_of_flag fun d w' x' hx _ => ?_
    rw [hd]
    exact (ih fun w'' x'' hx' => hf w'' x'' fun h => hx (hx' h)).bind fun rest _ _ _ =>
      pure rfl fun _ => trivial

theorem anyM {γ : Type} {f f' : γ → Act Bool} (hf : ∀ w' x' c, BlindAt x' w' (f c) (f' c))
    (list : List γ) : BlindAt x w (list.anyM f) (list.anyM f') := by
  induction list generalizing x w with
  | nil => exact pure rfl fun _ => trivial
  | cons c list ih =>
    refine (hf w x c).bind fun found w' x' _ => ?_
    cases found
    · exact ih
    · exact pure rfl fun _ => trivial

/-- A step that is made under a condition only. -/
theorem ite_then {c c' : Prop} [Decidable c] [Decidable c'] (hc : c' ↔ c) {act act' : Act PUnit}
    {f f' : PUnit → Act β} (hact : c → BlindAt x w act act')
    (hf : ∀ w' x', (x'.isSome → x.isSome) → BlindAt x' w' (f ⟨⟩) (f' ⟨⟩)) :
    BlindAt x w (if c then act >>= f else f ⟨⟩) (if c' then act' >>= f' else f' ⟨⟩) := by
  by_cases h : c
  · rw [if_pos h, if_pos (hc.2 h)]
    exact (hact h).bind_of_flag fun _ w' x' hx _ => hf w' x' hx
  · rw [if_neg h, if_neg fun h' => h (hc.1 h')]
    exact hf w x id

theorem ite_then_none {c c' : Prop} [Decidable c] [Decidable c'] (hc : c' ↔ c)
    {act act' : Act PUnit} {f f' : PUnit → Act β} (hact : c → BlindAt none w act act')
    (hf : ∀ w', BlindAt none w' (f ⟨⟩) (f' ⟨⟩)) :
    BlindAt none w (if c then act >>= f else f ⟨⟩) (if c' then act' >>= f' else f' ⟨⟩) := by
  refine ite_then hc hact fun w' x' hx => ?_
  obtain rfl := eq_none hx
  exact hf w'

/-- A decision that is the same without marks. -/
theorem ite_iff {c c' : Prop} [Decidable c] [Decidable c'] (hc : c' ↔ c)
    {act₁ act₂ act₁' act₂' : Act α} (h₁ : BlindAt x w act₁ act₁') (h₂ : BlindAt x w act₂ act₂') :
    BlindAt x w (if c then act₁ else act₂) (if c' then act₁' else act₂') := by
  by_cases h : c
  · rwa [if_pos h, if_pos (hc.2 h)]
  · rwa [if_neg h, if_neg fun h' => h (hc.1 h')]

theorem ite_same {b b' : Bool} (hb : b' = b) {act₁ act₂ act₁' act₂' : Act α}
    (h₁ : BlindAt x w act₁ act₁') (h₂ : BlindAt x w act₂ act₂') :
    BlindAt x w (if b then act₁ else act₂) (if b' then act₁' else act₂') :=
  ite_iff (by rw [hb]) h₁ h₂

/-! ### Questions -/

theorem askSubclassHook (onBehalf : Bool) (c : ClassId) :
    BlindAt x w (askSubclassHook onBehalf c) (askSubclassHook onBehalf c) := by
  have hname : x.isSome → Hierarchy.subclassHookName ≠ "__final__" := by
    simp [Hierarchy.subclassHookName]
  refine classes_bind (ofExcept_bind _ (w.classes.read_unmarked _ hname) fun a _ => ?_)
  rw [w.classes.resolve?_unmarked _ hname]
  have hasked : BlindAt x w
      (Act.ofExcept (a.tryCall w.classes c 1) >>= fun _ => Act.refuse (.complaint .assertionError
        "__subclasshook__ must return either False, True, or NotImplemented"))
      (Act.ofExcept (a.unmarked.tryCall (w.classes.unmarked x) c 1) >>= fun _ =>
        Act.refuse (α := Unit) (.complaint .assertionError
          "__subclasshook__ must return either False, True, or NotImplemented")) :=
    same_bind (a.tryCall_unmarked _ c 1) fun _ _ => refuse _
  obtain ⟨m, bound⟩ := a
  cases m
  case part isAbstract =>
    rcases w.classes.resolve? c Hierarchy.subclassHookName with _ | ⟨_ | _, m⟩
    · exact pure rfl fun _ => trivial
    · exact pure rfl fun _ => trivial
    · refine inFrame (ofExcept ?_ fun _ _ _ => trivial)
      rw [Hierarchy.askProtocol_unmarked]
      cases w.classes.askProtocol onBehalf (.declared _) <;> rfl
  all_goals exact hasked

theorem isSubclassWithin (fuel : Nat) (onBehalf : Bool) (c ancestor : ClassId) :
    BlindAt x w (isSubclassWithin fuel onBehalf c ancestor)
      (isSubclassWithin fuel onBehalf c ancestor) := by
  induction fuel generalizing x w onBehalf c ancestor with
  | zero => exact pure rfl fun _ => trivial
  | succ fuel ih =>
    refine classes_bind ?_
    have hname : x.isSome → "__subclasscheck__" ≠ "__final__" := by simp
    have hasked (hook : Member) : BlindAt x w
        (Act.ofExcept (w.classes.tryHook ancestor hook 1) >>= fun _ => Pure.pure false)
        (Act.ofExcept ((w.classes.unmarked x).tryHook ancestor hook.unmarked 1) >>= fun _ =>
          Pure.pure false) :=
      same_bind (w.classes.tryHook_unmarked hook 1) fun _ _ => pure rfl fun _ => trivial
    rw [w.classes.resolve?_unmarked _ hname, Hierarchy.unmarked_info_metaclass]
    rcases w.classes.resolve? (w.classes.info ancestor).metaclass "__subclasscheck__" with
      _ | ⟨l | serial, hook⟩
    · exact pure rfl fun _ => trivial
    · cases l
      case abcMeta =>
        refine inFrame (same_bind w.classes.answersKeeper_unmarked fun keeper _ =>
          same_bind (w.classes.keptAnswer?_unmarked keeper) fun kept _ => ?_)
        cases kept with
        | some answer => exact pure rfl fun _ => trivial
        | none =>
          refine (askSubclassHook _ _).bind fun _ w' x' _ => ?_
          have keeping (w' : World) (x' : Option Flag) (answer : Bool) : BlindAt x' w'
              (do
                Act.setClasses (← Act.ofExcept ((← Act.classes).keepAnswer keeper c answer))
                return answer)
              (do
                Act.setClasses (← Act.ofExcept ((← Act.classes).keepAnswer keeper c answer))
                return answer) := by
            refine classes_bind (change_bind (fun _ _ _ => ?_) rfl World.Fits.flag
              (w'.classes.keepAnswer_unmarked keeper answer)
              fun _ => Hierarchy.keeps_of_keepAnswer)
            exact pure rfl fun _ => trivial
          rw [Hierarchy.derives_unmarked]
          split
          · exact keeping w' x' true
          · exact same_bind w.classes.readSubclasses_unmarked fun subclasses _ =>
              (anyM (fun _ _ => ih true c) subclasses).bind fun answer w'' x'' _ =>
                keeping w'' x'' answer
      all_goals exact pure rfl fun _ => trivial
    · exact hasked hook

theorem isSubclass (c ancestor : ClassId) :
    BlindAt x w (isSubclass c ancestor) (isSubclass c ancestor) :=
  classes_bind (isSubclassWithin _ _ _ _)

end BlindAt

end Act

/-! ## The machinery -/

/-- All that can be asked of a machinery is done blindly, and what gives no class back that has been
there before gives none back at all, if no argument is the namespace of one under way. -/
structure Machinery.IsBlind (m : Machinery) : Prop where
  construct (x : Option Flag) (w : World) (c : ClassId) :
    Act.BlindAt x w (m.construct c) (m.construct c)
  call (x : Option Flag) (w : World) (v : Value) (given : List Value)
    (named : List (String × Value)) : (x.isSome → v.IsFinished ∧ AreFinished given named) →
    Act.BlindAt x w (m.call v given named)
      (m.call v.unmarked (given.map Value.unmarked) (unmarkedNamed named))
  textOf (x : Option Flag) (w : World) (i : Instance) :
    Act.BlindAt x w (m.textOf i) (m.textOf i)
  apply (x : Option Flag) (w : World) (member : Member) (given : List Value)
    (named : List (String × Value)) : (x.isSome → AreFinished given named) →
    Act.BlindAt x w (m.apply member given named)
      (m.apply member.unmarked (given.map Value.unmarked) (unmarkedNamed named))
  creates (w : World) {member : Member} (given : List Value) (named : List (String × Value)) :
    member.createsAfresh = true → AreFinished given named → ∀ c first w',
    m.apply member given named w ≠ (.ok (.ofClass c, first), w')

namespace Machinery.IsBlind

variable {m : Machinery} (hm : m.IsBlind) {w : World} (v : Value) (member : Member)
  (given : List Value) (named : List (String × Value))
include hm

theorem call_none : Act.BlindAt none w (m.call v given named)
    (m.call v.unmarked (given.map Value.unmarked) (unmarkedNamed named)) :=
  hm.call none w v given named nofun

theorem apply_none : Act.BlindAt none w (m.apply member given named)
    (m.apply member.unmarked (given.map Value.unmarked) (unmarkedNamed named)) :=
  hm.apply none w member given named nofun

end Machinery.IsBlind

namespace Act.BlindAt

variable {α : Type} [HasMarks α] {x : Option Flag} {w : World} {m : Machinery} (hm : m.IsBlind)
include hm

theorem remake (c : ClassId) (i : Instance) : BlindAt x w (m.remake c i) (m.remake c i) := by
  have hgiven : x.isSome → (Value.ofClass c).IsFinished ∧ AreFinished [.object i] [] :=
    fun _ => ⟨trivial, by simp [AreFinished]⟩
  refine (hm.call x w (.ofClass c) [.object i] [] hgiven).bind fun made w' x' _ =>
    classes_bind ?_
  have hrefused : BlindAt x' w'
      (do Act.refuse (.notMadeException (← Act.ofExcept (w'.classes.literal c))
        (made.kind w'.classes)) : Act Instance)
      (do Act.refuse (.notMadeException (← Act.ofExcept ((w'.classes.unmarked x').literal c))
        (made.unmarked.kind (w'.classes.unmarked x')))) := by
    simp only [Value.kind_unmarked, Value.kind_unmarkedClasses]
    exact same_bind w'.classes.literal_unmarked fun _ _ => refuse _
  cases made with
  | object i =>
    show BlindAt x' w' (if w'.classes.derives i.type LibraryClass.baseException then _ else _)
      (if w'.classes.derives i.type LibraryClass.baseException then _ else _)
    split
    · exact pure rfl fun _ => trivial
    · exact hrefused
  | _ => exact hrefused

theorem settle (e : Raised) : BlindAt x w (e.settle m) (e.settle m) := by
  suffices h : ∀ fuel (x : Option Flag) (w : World) (e : Raised),
      BlindAt x w (e.settleWithin m fuel) (e.settleWithin m fuel) from h 32 x w e
  intro fuel
  induction fuel with
  | zero => exact fun x w e => pure rfl fun _ => trivial
  | succ fuel ih =>
    intro x w e
    refine (isSubclass _ _).attempt.bind fun asked w' x' _ => ?_
    rcases asked with other | _ | _
    · exact ih _ _ _
    · refine (remake hm _ _).attempt.bind fun made w'' x'' _ => ?_
      cases made with
      | ok made => exact pure rfl fun _ => trivial
      | error other => exact ih _ _ _
    · exact pure rfl fun _ => trivial

/-- **Catching** keeps acts blind. -/
theorem catching {act act' : Act α} (h : BlindAt x w act act') :
    BlindAt x w (catching m act) (catching m act') := by
  refine h.attempt.bind fun result w' x' hr => ?_
  cases result with
  | ok a => exact pure rfl hr
  | error e => exact (settle hm e).bind fun e' _ _ _ => pure rfl fun _ _ ha => nomatch ha

end Act.BlindAt

end UtilityClass
