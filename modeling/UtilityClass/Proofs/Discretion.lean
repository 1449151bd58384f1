import UtilityClass.Proofs.Observed

/-!
# Discreet acts

What is observed has no say in what happens. Of a world, acts work on the classes, on the labels and
on the turns that statements take; the readings, the journal with its layout, and the tally of a
scripted introspector belong to those who observe. Two acts are alike if they do the same in worlds
that differ only in what belongs to observers. An act is discreet if it is like itself and does no
more to the other parts than to take readings and to add to the journal.

Discretion is kept by sequences, so it is shown of each act along its definition. The one act that
deals with readings, an observed call, is discreet because readings go nowhere but into the journal:
cut open at its readings, it is like itself whatever they were.

## Main definitions

* `World.setting`, `World.Continues` : the two parts of a world, and what may become of the second
* `Act.Alike`, `Act.IsDiscreet`
* `Machinery.IsDiscreet` : discretion of everything that can be asked of a machinery

## Main results

* `Act.IsDiscreet.bind` : sequences
* `Act.IsDiscreet.catching` : catching
* `Act.Alike.measured`, `Act.IsDiscreet.measured` : observed calls
-/

namespace UtilityClass

/-- The part of a world that acts work on. -/
structure Setting where
  classes : Hierarchy
  labels : List (String × Value)
  turns : Nat → Nat

namespace World

/-- The part of a world that acts work on. -/
def setting (w : World) : Setting := ⟨w.classes, w.labels, w.turns⟩

theorem classes_eq_of_setting {w w' : World} (h : w.setting = w'.setting) :
    w.classes = w'.classes :=
  congrArg Setting.classes h

/-- A world stands where another one has been continued: the journal may have grown. -/
structure Continues (w w' : World) : Prop where
  layout : w'.layout = w.layout
  tally : w'.tally = w.tally
  journal : ∃ noted, w'.journal = w.journal ++ noted

namespace Continues

theorem refl (w : World) : w.Continues w := ⟨rfl, rfl, [], (List.append_nil _).symm⟩

theorem trans {w w' w'' : World} (h : w.Continues w') (h' : w'.Continues w'') :
    w.Continues w'' := by
  obtain ⟨noted, hj⟩ := h.journal
  obtain ⟨more, hj'⟩ := h'.journal
  exact ⟨h'.layout.trans h.layout, h'.tally.trans h.tally, noted ++ more, by
    rw [hj', hj, List.append_assoc]⟩

end Continues

end World

namespace Act

variable {α β γ : Type}

/-! ## Likeness -/

/-- Two acts do the same in worlds that differ only in what belongs to observers. -/
def Alike (x y : Act α) : Prop :=
  ∀ ⦃w w' : World⦄, w.setting = w'.setting →
    (x w).1 = (y w').1 ∧ (x w).2.setting = (y w').2.setting

namespace Alike

theorem bind {x y : Act α} {f g : α → Act β} (h : Alike x y) (hf : ∀ a, Alike (f a) (g a)) :
    Alike (x >>= f) (y >>= g) := by
  intro w w' hw
  obtain ⟨hr, hs⟩ := h hw
  rcases hx : x w with ⟨e | a, w₁⟩ <;> rcases hy : y w' with ⟨e' | a', w₁'⟩ <;>
    rw [hx, hy] at hr hs <;> cases hr
  · rw [bind_run_of_error hx, bind_run_of_error hy]
    exact ⟨rfl, hs⟩
  · rw [bind_run_of_ok hx, bind_run_of_ok hy]
    exact hf a hs

theorem attempt {x y : Act α} (h : Alike x y) : Alike (attempt x) (attempt y) := by
  intro w w' hw
  obtain ⟨hr, hs⟩ := h hw
  exact ⟨congrArg Except.ok hr, hs⟩

theorem inFrame {x y : Act α} (h : Alike x y) : Alike (inFrame x) (inFrame y) := by
  intro w w' hw
  obtain ⟨hr, hs⟩ := h hw
  unfold Act.inFrame
  rcases hx : x w with ⟨e | a, w₁⟩ <;> rcases hy : y w' with ⟨e' | a', w₁'⟩ <;>
    rw [hx, hy] at hr hs <;> cases hr <;> exact ⟨rfl, hs⟩

end Alike

/-- An act does no more than to take a reading. -/
def IsReading (act : Act α) : Prop := ∀ w, ∃ a readings, act w = (.ok a, { w with readings })

theorem readClock_isReading : IsReading readClock := fun _ => ⟨_, _, rfl⟩

theorem takeIdentifier_isReading : IsReading takeIdentifier := fun _ => ⟨_, _, rfl⟩

theorem memoryInUse_isReading : IsReading memoryInUse := by
  intro w
  obtain ⟨reading, readings, hr⟩ : ∃ r readings, readMemory w = (.ok r, { w with readings }) :=
    ⟨_, _, rfl⟩
  rw [memoryInUse, bind_run_of_ok hr]
  cases reading with
  | bytes amount => exact ⟨_, _, rfl⟩
  | refused => exact ⟨_, _, rfl⟩

/-- What follows a reading does the same if it does so whatever has been read. -/
theorem Alike.of_reading {r : Act γ} (hr : IsReading r) {f g : γ → Act α}
    (h : ∀ c c', Alike (f c) (g c')) : Alike (r >>= f) (r >>= g) := by
  intro w w' hw
  obtain ⟨c, readings, hc⟩ := hr w
  obtain ⟨c', readings', hc'⟩ := hr w'
  rw [bind_run_of_ok hc, bind_run_of_ok hc']
  exact h c c' hw

/-! ## Discretion -/

/-- An act leaves to observers what belongs to them, up to readings and further entries of the
journal. -/
def OnlyAdds (act : Act α) : Prop := ∀ w : World, w.Continues (act w).2

namespace OnlyAdds

theorem of_reading {r : Act γ} (hr : IsReading r) : OnlyAdds r := by
  intro w
  obtain ⟨c, readings, hc⟩ := hr w
  rw [hc]
  exact ⟨rfl, rfl, [], (List.append_nil _).symm⟩

theorem bind {act : Act α} {f : α → Act β} (hact : OnlyAdds act) (hf : ∀ a, OnlyAdds (f a)) :
    OnlyAdds (act >>= f) := by
  intro w
  have h := hact w
  rcases hr : act w with ⟨e | a, w'⟩ <;> rw [hr] at h
  · rw [bind_run_of_error hr]
    exact h
  · rw [bind_run_of_ok hr]
    exact h.trans (hf a w')

theorem attempt {act : Act α} (hact : OnlyAdds act) : OnlyAdds (attempt act) := hact

end OnlyAdds

/-- An act is like itself, and only adds to what belongs to observers. -/
structure IsDiscreet (act : Act α) : Prop where
  alike : Alike act act
  adds : OnlyAdds act

namespace IsDiscreet

/-- An act that asks for the setting only, and leaves it alone. -/
theorem of_setting {act : Act α} (result : Setting → Except Raised α)
    (hact : ∀ w, act w = (result w.setting, w)) : IsDiscreet act where
  alike w w' hw := by
    rw [hact w, hact w']
    exact ⟨congrArg result hw, hw⟩
  adds w := by
    rw [hact]
    exact .refl w

theorem pure (a : α) : IsDiscreet (pure a : Act α) := .of_setting (fun _ => .ok a) fun _ => rfl

theorem throw (e : Raised) : IsDiscreet (throw e : Act α) :=
  .of_setting (fun _ => .error e) fun _ => rfl

theorem fail (f : Fault) : IsDiscreet (fail f : Act α) := throw f.raised

theorem refuse (r : Refusal) : IsDiscreet (refuse r : Act α) := fail (.refusal r)

theorem ofExcept (x : Except Fault α) : IsDiscreet (ofExcept x) :=
  .of_setting (fun _ => x.mapError Fault.raised) (ofExcept_run x)

theorem classes : IsDiscreet Act.classes := .of_setting (fun s => .ok s.classes) fun _ => rfl

theorem setClasses (h : Hierarchy) : IsDiscreet (setClasses h) where
  alike w w' hw := by
    refine ⟨rfl, ?_⟩
    show Setting.mk h w.setting.labels w.setting.turns = _
    rw [hw]
    rfl
  adds w := ⟨rfl, rfl, [], (List.append_nil _).symm⟩

theorem record (r : Record) : IsDiscreet (record r) where
  alike _ _ hw := ⟨rfl, hw⟩
  adds _ := ⟨rfl, rfl, [r], rfl⟩

theorem bind {act : Act α} {f : α → Act β} (hact : IsDiscreet act) (hf : ∀ a, IsDiscreet (f a)) :
    IsDiscreet (act >>= f) where
  alike := hact.alike.bind fun a => (hf a).alike
  adds := hact.adds.bind fun a => (hf a).adds

theorem map {act : Act α} (f : α → β) (hact : IsDiscreet act) : IsDiscreet (f <$> act) := by
  rw [map_eq_pure_bind]
  exact hact.bind fun a => pure (f a)

theorem discard {act : Act α} (hact : IsDiscreet act) : IsDiscreet (discard act) := hact.map _

theorem attempt {act : Act α} (hact : IsDiscreet act) : IsDiscreet (attempt act) :=
  ⟨hact.alike.attempt, hact.adds.attempt⟩

theorem inFrame {act : Act α} (hact : IsDiscreet act) : IsDiscreet (inFrame act) where
  alike := hact.alike.inFrame
  adds w := by
    have h := hact.adds w
    unfold Act.inFrame
    rcases hr : act w with ⟨e | a, w'⟩ <;> rw [hr] at h <;> exact h

theorem forM {f : β → Act PUnit} (hf : ∀ b, IsDiscreet (f b)) (list : List β) :
    IsDiscreet (list.forM f) := by
  induction list with
  | nil => exact pure _
  | cons b list ih => exact (hf b).bind fun _ => ih

theorem mapM {f : β → Act γ} (hf : ∀ b, IsDiscreet (f b)) (list : List β) :
    IsDiscreet (list.mapM f) := by
  induction list with
  | nil => exact pure _
  | cons b list ih =>
    rw [List.mapM_cons]
    exact (hf b).bind fun c => ih.bind fun rest => pure _

theorem forIn {f : β → γ → Act (ForInStep γ)} (hf : ∀ b c, IsDiscreet (f b c)) (list : List β)
    (c : γ) : IsDiscreet (forIn list c f) := by
  induction list generalizing c with
  | nil => exact pure c
  | cons b list ih =>
    rw [List.forIn_cons]
    refine (hf b c).bind fun step => ?_
    cases step with
    | done c => exact pure c
    | yield c => exact ih c

/-- A step that is made under a condition only. -/
theorem ite_then {c : Prop} [Decidable c] {act : Act PUnit} {f : PUnit → Act β}
    (hact : IsDiscreet act) (hf : ∀ u, IsDiscreet (f u)) :
    IsDiscreet (if c then act >>= f else f ⟨⟩) := by
  split
  · exact hact.bind hf
  · exact hf _

theorem takeClass : IsDiscreet takeClass :=
  classes.bind fun _ => (setClasses _).bind fun _ => pure _

theorem resolve (r : Reference) : IsDiscreet (resolve r) := by
  cases r with
  | ofClass c => exact pure _
  | plain value => exact pure _
  | label text =>
    -- only the labels are looked at, so any world that has them will do
    refine of_setting (fun s =>
      (Act.resolve (.label text) { World.initial .initial with labels := s.labels }).1) fun w => ?_
    have hget (v : World) : (get : Act World) v = (.ok v, v) := rfl
    unfold Act.resolve
    dsimp only
    rw [bind_run_of_ok (hget w), bind_run_of_ok (hget _)]
    simp only [World.setting]
    cases w.labels.lookup text <;> cases LibraryClass.ofLabel? text <;> rfl

end IsDiscreet

/-- What only asks is discreet. -/
theorem OnlyAsks.isDiscreet {act : Act α} (hact : OnlyAsks act) : IsDiscreet act where
  alike w w' hw := by
    rw [hact.run w, hact.run w', World.classes_eq_of_setting hw]
    refine ⟨rfl, ?_⟩
    show Setting.mk _ w.setting.labels w.setting.turns = Setting.mk _ w'.setting.labels _
    rw [hw]
    rfl
  adds w := by
    rw [hact.run w]
    exact ⟨rfl, rfl, [], (List.append_nil _).symm⟩

end Act

/-- All that can be asked of a machinery is done discreetly. -/
structure Machinery.IsDiscreet (m : Machinery) : Prop where
  construct (c : ClassId) : Act.IsDiscreet (m.construct c)
  call (v : Value) (given : List Value) (named : List (String × Value)) :
    Act.IsDiscreet (m.call v given named)
  textOf (i : Instance) : Act.IsDiscreet (m.textOf i)
  apply (member : Member) (given : List Value) (named : List (String × Value)) :
    Act.IsDiscreet (m.apply member given named)

namespace Act

variable {α : Type} {m : Machinery} (hm : m.IsDiscreet)
include hm

/-! ## Catching -/

theorem remake_isDiscreet (c : ClassId) (i : Instance) : IsDiscreet (m.remake c i) := by
  refine (hm.call _ _ _).bind fun made => IsDiscreet.classes.bind fun h => ?_
  have hrefused : IsDiscreet (do
      refuse (.notMadeException (← ofExcept (h.literal c)) (made.kind h)) : Act Instance) :=
    (IsDiscreet.ofExcept _).bind fun _ => .refuse _
  dsimp only
  split
  · split
    · exact .pure _
    · exact hrefused
  · exact hrefused

theorem settle_isDiscreet (e : Raised) : IsDiscreet (e.settle m) := by
  suffices h : ∀ fuel (e : Raised), IsDiscreet (e.settleWithin m fuel) from h 32 e
  intro fuel
  induction fuel with
  | zero => exact fun e => .pure e
  | succ fuel ih =>
    intro e
    refine (isSubclass_onlyAsks _ _).isDiscreet.attempt.bind fun asked => ?_
    split
    · exact .pure _
    · refine (remake_isDiscreet hm _ _).attempt.bind fun made => ?_
      split
      · exact .pure _
      · exact ih _
    · exact ih _

theorem Alike.catching {x y : Act α} (h : Alike x y) :
    Alike (catching m x) (catching m y) := by
  refine h.attempt.bind fun result => ?_
  split
  · exact (IsDiscreet.pure _).alike
  · exact ((settle_isDiscreet hm _).bind fun _ => .pure _).alike

theorem OnlyAdds.catching {act : Act α} (hact : OnlyAdds act) : OnlyAdds (catching m act) := by
  refine hact.attempt.bind fun result => ?_
  cases result with
  | ok a => exact (IsDiscreet.pure _).adds
  | error e => exact ((settle_isDiscreet hm e).bind fun _ => .pure _).adds

theorem IsDiscreet.catching {act : Act α} (hact : IsDiscreet act) :
    IsDiscreet (catching m act) :=
  ⟨hact.alike.catching hm, hact.adds.catching hm⟩

/-! ## Observed calls -/

omit hm

/-- Whether an event can be sent is a matter of what it says, and not of when it does. -/
theorem Alike.log {e e' : Event}
    (h : ∀ kind, e.payload.document = .error kind ↔ e'.payload.document = .error kind) :
    Alike (log e) (log e') := by
  refine Alike.of_reading readClock_isReading fun time time' => ?_
  unfold Event.document
  rcases hp : e.payload.document with kind | data
  · rw [(h kind).1 hp]
    exact (IsDiscreet.fail _).alike
  · rcases hp' : e'.payload.document with kind | data'
    · cases hp.symm.trans ((h kind).2 hp')
    · exact fun w w' hw => ⟨rfl, hw⟩

theorem OnlyAdds.log (e : Event) : OnlyAdds (log e) := by
  refine OnlyAdds.bind (.of_reading readClock_isReading) fun time => ?_
  cases e.document time with
  | ok value => exact fun w => ⟨rfl, rfl, [_], rfl⟩
  | error kind => exact (IsDiscreet.fail _).adds

theorem target_isDiscreet (arguments : List Handle) : IsDiscreet (target arguments) := by
  unfold target
  split
  · exact IsDiscreet.classes.bind fun _ => .ofExcept _
  · exact .pure _

theorem errorName_isDiscreet (e : Raised) : IsDiscreet (errorName e) := by
  refine IsDiscreet.classes.bind fun h => (IsDiscreet.ofExcept _).bind fun a => ?_
  split
  · exact .pure _
  · exact IsDiscreet.classes.bind fun _ => .pure _
  · exact .pure _

variable {operation : String} {arguments : List Handle} {verdict : α → Loggable}

/-- What follows the start of a call does the same if it does so whatever the readings were. -/
theorem Alike.of_begin {β : Type} {f g : Beginning → Act β}
    (h : ∀ b b', b.target = b'.target → Alike (f b) (g b')) :
    Alike (begin operation arguments >>= f) (begin operation arguments >>= g) := by
  simp only [begin, bind_assoc, pure_bind]
  refine .of_reading readClock_isReading fun _ _ => .of_reading memoryInUse_isReading fun _ _ =>
    .of_reading takeIdentifier_isReading fun _ _ =>
    (target_isDiscreet arguments).alike.bind fun name => Alike.bind (.log fun _ => ?_) fun _ =>
      h _ _ rfl
  constructor <;> intro h <;> cases h

theorem Alike.finish {x y : Act α} (hxy : Alike x y) (b b' : Beginning) :
    Alike (finish operation verdict x b) (finish operation verdict y b') := by
  refine hxy.bind fun value => .of_reading readClock_isReading fun _ _ =>
    .of_reading memoryInUse_isReading fun _ _ =>
    Alike.bind (.log fun kind => ?_) fun _ => (IsDiscreet.pure _).alike
  cases verdict value <;> simp [Payload.document, Payload.fieldDocuments, Except.map]

namespace OnlyAdds

theorem readClock : OnlyAdds readClock := of_reading readClock_isReading

theorem memoryInUse : OnlyAdds memoryInUse := of_reading memoryInUse_isReading

theorem begin : OnlyAdds (begin operation arguments) :=
  readClock.bind fun _ => memoryInUse.bind fun _ =>
    (of_reading takeIdentifier_isReading).bind fun _ =>
    (target_isDiscreet arguments).adds.bind fun _ => (log _).bind fun _ => (IsDiscreet.pure _).adds

theorem finish {x : Act α} (hx : OnlyAdds x) (b : Beginning) :
    OnlyAdds (finish operation verdict x b) :=
  hx.bind fun _ => readClock.bind fun _ => memoryInUse.bind fun _ => (log _).bind fun _ =>
    (IsDiscreet.pure _).adds

end OnlyAdds

include hm

theorem Alike.giveUp (b b' : Beginning) (e : Raised) :
    Alike (giveUp m operation b e) (giveUp m operation b' e) := by
  refine IsDiscreet.classes.alike.bind fun h => ?_
  split
  · refine .of_reading readClock_isReading fun _ _ => .of_reading memoryInUse_isReading fun _ _ =>
      (errorName_isDiscreet e).alike.bind fun name => (hm.textOf _).alike.bind fun text =>
      .log fun kind => ?_
    cases name <;> simp [Payload.document, Payload.fieldDocuments, Except.map]
  · exact (IsDiscreet.pure _).alike

theorem OnlyAdds.giveUp (b : Beginning) (e : Raised) : OnlyAdds (giveUp m operation b e) := by
  refine IsDiscreet.classes.adds.bind fun h => ?_
  split
  · exact readClock.bind fun _ => memoryInUse.bind fun _ => (errorName_isDiscreet e).adds.bind
      fun _ => (hm.textOf _).adds.bind fun _ => log _
  · exact (IsDiscreet.pure _).adds

/-- Calls of functions that do the same do the same, observed. -/
theorem Alike.measured {x y : Act α} (h : Alike x y) :
    Alike (measured m operation arguments verdict x)
      (measured m operation arguments verdict y) := by
  rw [measured_eq, measured_eq]
  refine .of_begin fun b b' _ => ((h.finish b b').catching hm).bind fun result => ?_
  cases result with
  | ok value => exact (IsDiscreet.pure _).alike
  | error e => exact (Alike.giveUp hm b b' e).bind fun _ => (IsDiscreet.throw e).alike

theorem OnlyAdds.measured {x : Act α} (hx : OnlyAdds x) :
    OnlyAdds (measured m operation arguments verdict x) := by
  rw [measured_eq]
  refine begin.bind fun b => ((hx.finish b).catching hm).bind fun result => ?_
  cases result with
  | ok value => exact (IsDiscreet.pure _).adds
  | error e => exact (OnlyAdds.giveUp hm b e).bind fun _ => (IsDiscreet.throw e).adds

/-- **An observed call** is as discreet as the function that is called. -/
theorem IsDiscreet.measured {x : Act α} (hx : IsDiscreet x) :
    IsDiscreet (measured m operation arguments verdict x) :=
  ⟨hx.alike.measured hm, hx.adds.measured hm⟩

end Act

end UtilityClass
