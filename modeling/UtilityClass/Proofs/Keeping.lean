import UtilityClass.Class.Abstract
import UtilityClass.Class.Change
import UtilityClass.Proofs.UnmarkedChanges
import UtilityClass.Subclass

/-!
# What changes of classes leave alone

A program changes the attributes of classes while it runs, and classes remember what they have been
asked. None of this makes a class or moves one to another place: the bases and the orders of all
classes stay. And no function that makes classes comes into a namespace, and no flag that classes
have by being classes, since all that a program puts there is plain data.

## Main definitions

* `Member.createsAfresh` : what gives back no class that has been there before
* `Hierarchy.Keeps` : what all changes leave alone

## Main results

* `Hierarchy.keeps_of_assign`, `Hierarchy.keeps_of_delete`, `Hierarchy.keeps_of_keepAnswer`
-/

namespace UtilityClass

theorem ClassInfo.mem_putEntry {name : String} {m : Member} {entry : String × Member}
    {entries : List (String × Member)} (he : entry ∈ putEntry name m entries) :
    entry = (name, m) ∨ entry ∈ entries := by
  induction entries with
  | nil => exact .inl (List.mem_singleton.1 he)
  | cons first rest ih =>
    rw [putEntry] at he
    split at he
    · rcases List.mem_cons.1 he with rfl | he
      · exact .inl rfl
      · exact .inr (List.mem_cons_of_mem _ he)
    · rcases List.mem_cons.1 he with rfl | he
      · exact .inr List.mem_cons_self
      · exact (ih he).imp_right (List.mem_cons_of_mem _)

/-- Whether a body is the one that creates enumerations. -/
def Body.createsEnumerations : Body → Bool
  | .service .createEnumeration => true
  | _ => false

theorem Body.eq_of_createsEnumerations {b : Body} (hb : b.createsEnumerations = true) :
    b = .service .createEnumeration := by
  unfold createsEnumerations at hb
  split at hb
  · rfl
  · cases hb

namespace Member

/-- Whether a call gives back no class that has been there before: nothing else gives back classes
than functions, and the native functions and the library's function for enumerations create what
they give. -/
def createsAfresh : Member → Bool
  | .function f | .static f _ | .classwise f _ | .callable f => f.body.createsEnumerations
  | .native (.create _) => true
  | .native _ => false
  | _ => true

/-- What may come under a name into the namespace of a class without a new role for the class: no
flag that all classes have, and no function that makes classes. -/
structure Fits (m : Member) (name : String) : Prop where
  flag : name = "__final__" → m.isField = false
  creator : name = "__new__" → m.createsAfresh = true

theorem fits_data (value : Json) (name : String) : (data value).Fits name :=
  ⟨fun _ => rfl, fun _ => rfl⟩

theorem fits_part (isAbstract : Bool) (name : String) : (part isAbstract).Fits name :=
  ⟨fun _ => rfl, fun _ => rfl⟩

theorem fits_of_ne {name : String} (hf : name ≠ "__final__") (hn : name ≠ "__new__") (m : Member) :
    m.Fits name :=
  ⟨fun h => absurd h hf, fun h => absurd h hn⟩

end Member

namespace Hierarchy

/-- The classes have been changed, but no new one has been made: bases and orders stay, and no class
has got another role. -/
structure Keeps (h h' : Hierarchy) : Prop where
  declared : h'.declared = h.declared
  bases : ∀ c, (h'.info c).bases = (h.info c).bases
  order : ∀ c, (h'.info c).order = (h.info c).order
  entries : ∀ c name m, (name, m) ∈ (h'.info c).members →
    (name, m) ∈ (h.info c).members ∨ m.Fits name

namespace Keeps

theorem refl (h : Hierarchy) : h.Keeps h :=
  ⟨rfl, fun _ => rfl, fun _ => rfl, fun _ _ _ hm => .inl hm⟩

variable {h h' h'' : Hierarchy} {c : ClassId}

theorem trans (hk : h.Keeps h') (hk' : h'.Keeps h'') : h.Keeps h'' where
  declared := hk'.declared.trans hk.declared
  bases c := (hk'.bases c).trans (hk.bases c)
  order c := (hk'.order c).trans (hk.order c)
  entries c name m hm := (hk'.entries c name m hm).elim (hk.entries c name m) .inr

/-- A change of a class that leaves its bases and its order alone. -/
theorem of_modify (h : Hierarchy) (c : ClassId) {f : ClassInfo → ClassInfo}
    (hbases : (f (h.info c)).bases = (h.info c).bases)
    (horder : (f (h.info c)).order = (h.info c).order)
    (hentries : ∀ name m, (name, m) ∈ (f (h.info c)).members →
      (name, m) ∈ (h.info c).members ∨ m.Fits name) : h.Keeps (h.modify c f) := by
  refine ⟨rfl, fun d => ?_, fun d => ?_, fun d name m hm => ?_⟩ <;> by_cases hdc : d = c
  · rw [hdc, modify_info_self, hbases]
  · rw [modify_info_of_ne h hdc]
  · rw [hdc, modify_info_self, horder]
  · rw [modify_info_of_ne h hdc]
  · rw [hdc, modify_info_self] at hm
    exact hdc ▸ hentries name m hm
  · rw [modify_info_of_ne h hdc] at hm
    exact .inl hm

/-- A change of a class that leaves its bases, its order and its namespace alone. -/
theorem modify (h : Hierarchy) (c : ClassId) {f : ClassInfo → ClassInfo}
    (hbases : ∀ i, (f i).bases = i.bases) (horder : ∀ i, (f i).order = i.order)
    (hmembers : ∀ i, (f i).members = i.members) :
    h.Keeps (h.modify c f) :=
  of_modify h c (hbases _) (horder _) fun name m hm => by
    rw [hmembers] at hm
    exact .inl hm

theorem withCreators (h : Hierarchy) (c : ClassId) : h.Keeps (h.withCreators c) := by
  have hfold (affected : List ClassId) (g : Hierarchy) :
      g.Keeps (affected.foldl (fun g d => g.modify d ({ · with creator := none })) g) := by
    induction affected generalizing g with
    | nil => exact refl g
    | cons d affected ih =>
      have hd : g.Keeps (g.modify d ({ · with creator := none })) :=
        modify g d (fun _ => rfl) (fun _ => rfl) fun _ => rfl
      exact hd.trans (ih _)
  exact hfold _ h

theorem putMember {name : String} {m : Member} (hm : m.Fits name) :
    h.Keeps (h.putMember c name m) := by
  have hput : h.Keeps (h.modify c (·.setMember name m)) := by
    refine of_modify h c rfl rfl fun name' m' hm' => ?_
    rcases ClassInfo.mem_putEntry hm' with heq | hm'
    · cases heq
      exact .inr hm
    · exact .inl hm'
  unfold Hierarchy.putMember
  dsimp only
  split
  · exact hput.trans (withCreators _ c)
  · exact hput

theorem dropMember (name : String) : h.Keeps (h.dropMember c name) := by
  have hdrop : h.Keeps (h.modify c (·.eraseMember name)) :=
    of_modify h c rfl rfl fun name' m' hm' => .inl (List.mem_filter.1 hm').1
  unfold Hierarchy.dropMember
  dsimp only
  split
  · exact hdrop.trans (withCreators _ c)
  · exact hdrop

theorem assignField {field : String} {m : Member} (ha : h.assignField c field m = .ok h') :
    h.Keeps h' := by
  have hput (name : String) (hf : name ≠ "__final__") (hn : name ≠ "__new__") :
      h.Keeps (h.putMember c name m) :=
    putMember (Member.fits_of_ne hf hn m)
  unfold Hierarchy.assignField at ha
  dsimp only at ha
  split at ha
  any_goals cases ha
  · split at ha
    · split at ha
      · cases ha
      · cases ha
        exact modify h c (fun _ => rfl) (fun _ => rfl) fun _ => rfl
    · cases ha
  · split at ha
    · cases ha
      exact modify h c (fun _ => rfl) (fun _ => rfl) fun _ => rfl
    · cases ha
  · exact hput _ (by simp) (by simp)
  · exact hput _ (by simp) (by simp)
  · exact hput _ (by simp) (by simp)
  · exact (hput _ (by simp) (by simp)).trans
      (modify _ c (fun _ => rfl) (fun _ => rfl) fun _ => rfl)

theorem deleteField {field : String} (hd : h.deleteField c field = .ok h') : h.Keeps h' := by
  unfold Hierarchy.deleteField at hd
  dsimp only at hd
  split at hd
  any_goals cases hd
  · split at hd
    · cases hd
      exact dropMember _
    · cases hd
  · split at hd
    · cases hd
      exact (dropMember _).trans (modify _ c (fun _ => rfl) (fun _ => rfl) fun _ => rfl)
    · cases hd

end Keeps

variable {h h' : Hierarchy} {c : ClassId} {name : String}

/-- The metaclass of the library sets a field that each class has, or puts an entry. -/
theorem assignField_or_eq_putMember {m : Member} (ha : h.assignPlainly c name m = .ok h') :
    (∃ field, h.field? c name = some (.native (.field field)) ∧
        h.assignField c field m = .ok h') ∨ h' = h.putMember c name m := by
  unfold assignPlainly at ha
  dsimp only at ha
  split at ha
  · cases ha
  · split at ha
    · cases ha
    · split at ha
      · exact .inl ⟨_, ‹_›, ha⟩
      · cases ha
        exact .inr rfl

/-- Setting an attribute is left to a declared metaclass, and changes no class then, or is done as
the metaclass of the library does it. -/
theorem eq_or_assignPlainly_of_assign {m : Member} (ha : h.assign c name m = .ok h') :
    h' = h ∨ h.assignPlainly c name m = .ok h' := by
  unfold assign at ha
  split at ha
  · obtain ⟨-, -, hh⟩ := Result.bind_eq_ok_iff.1 ha
    cases hh
    exact .inl rfl
  · obtain ⟨space, -, ha⟩ := Result.bind_eq_ok_iff.1 ha
    obtain ⟨kept, -, ha⟩ := Result.bind_eq_ok_iff.1 ha
    obtain ⟨isName, -, ha⟩ := Result.bind_eq_ok_iff.1 ha
    split at ha
    · cases ha
    · split at ha
      · cases ha
      · exact .inr (Result.mapError_eq_ok_iff.1 ha)
  · exact .inr (Result.mapError_eq_ok_iff.1 ha)

theorem keeps_of_assignPlainly {m : Member} (hm : m.Fits name)
    (ha : h.assignPlainly c name m = .ok h') : h.Keeps h' := by
  obtain ⟨field, -, ha⟩ | rfl := assignField_or_eq_putMember ha
  · exact Keeps.assignField ha
  · exact Keeps.putMember hm

theorem keeps_of_deletePlainly (hd : h.deletePlainly c name = .ok h') : h.Keeps h' := by
  unfold deletePlainly at hd
  dsimp only at hd
  split at hd
  · cases hd
  · split at hd
    · cases hd
    · split at hd
      · exact Keeps.deleteField hd
      · split at hd
        · cases hd
          exact Keeps.dropMember name
        · cases hd

/-- Setting an attribute makes no class, whatever the attribute is. -/
theorem declared_of_assign {m : Member} (ha : h.assign c name m = .ok h') :
    h'.declared = h.declared := by
  have hput : (h.putMember c name m).declared = h.declared := by
    unfold putMember
    dsimp only
    split
    · exact (Keeps.withCreators _ c).declared
    · rfl
  obtain rfl | ha := eq_or_assignPlainly_of_assign ha
  · rfl
  · obtain ⟨field, -, ha⟩ | rfl := assignField_or_eq_putMember ha
    · exact (Keeps.assignField ha).declared
    · exact hput

/-- What setting an attribute leaves alone. -/
theorem keeps_of_assign {m : Member} (hm : m.Fits name)
    (ha : h.assign c name m = .ok h') : h.Keeps h' := by
  obtain rfl | ha := eq_or_assignPlainly_of_assign ha
  · exact .refl _
  · exact keeps_of_assignPlainly hm ha

/-- What deleting an attribute leaves alone. -/
theorem keeps_of_delete (hd : h.delete c name = .ok h') : h.Keeps h' := by
  have hplain (hp : (h.deletePlainly c name).mapError Fault.change = .ok h') : h.Keeps h' :=
    keeps_of_deletePlainly (Result.mapError_eq_ok_iff.1 hp)
  unfold delete at hd
  split at hd
  · obtain ⟨-, -, hh⟩ := Result.bind_eq_ok_iff.1 hd
    cases hh
    exact .refl h
  · obtain ⟨a, -, hd⟩ := Result.bind_eq_ok_iff.1 hd
    obtain ⟨isName, -, hd⟩ := Result.bind_eq_ok_iff.1 hd
    split at hd
    · cases hn : h.shortName c <;> rw [hn] at hd <;> cases hd
    · split at hd
      · cases hd
      · exact hplain hd
  · exact hplain hd

theorem keeps_of_trackAbstract (ht : h.trackAbstract c = .ok h') : h.Keeps h' := by
  obtain ⟨names, -, ht⟩ := Result.bind_eq_ok_iff.1 ht
  obtain ⟨g, hg, ht⟩ := Result.bind_eq_ok_iff.1 ht
  exact (keeps_of_assign (Member.fits_data _ _) hg).trans
    (keeps_of_assign (Member.fits_part _ _) ht)

theorem keeps_of_keepAnswer {keeper : ClassId} {answer : Bool}
    (hk : h.keepAnswer keeper c answer = .ok h') : h.Keeps h' := by
  obtain ⟨-, -, hk⟩ := Result.bind_eq_ok_iff.1 hk
  cases hk
  exact Keeps.modify h keeper (fun _ => rfl) (fun _ => rfl) fun _ => rfl

/-! ## New classes -/

theorem keeps_of_asGeneric (hg : h.asGeneric c = .ok h') : h.Keeps h' := by
  obtain ⟨plain, -, hg⟩ := Result.bind_eq_ok_iff.1 hg
  cases plain with
  | true => cases hg
  | false => exact keeps_of_assign (Member.fits_of_ne (by simp) (by simp) _) hg

theorem keeps_of_noteProtocol (hn : h.noteProtocol c = .ok h') : h.Keeps h' := by
  obtain ⟨space, -, hn⟩ := Result.bind_eq_ok_iff.1 hn
  obtain ⟨flag, -, hn⟩ := Result.bind_eq_ok_iff.1 hn
  split at hn
  · cases hn
    exact .refl h
  · obtain ⟨bases, -, hn⟩ := Result.bind_eq_ok_iff.1 hn
    exact keeps_of_assign (Member.fits_of_ne (by simp) (by simp) _) hn

theorem keeps_of_hookProtocol (hp : h.hookProtocol c = .ok h') : h.Keeps h' := by
  obtain ⟨space, -, hp⟩ := Result.bind_eq_ok_iff.1 hp
  obtain ⟨hooked, -, hp⟩ := Result.bind_eq_ok_iff.1 hp
  cases hooked with
  | true =>
    cases hp
    exact .refl h
  | false =>
    have hfits (m : Member) : m.Fits subclassHookName :=
      Member.fits_of_ne (by simp [subclassHookName]) (by simp [subclassHookName]) m
    exact keeps_of_assign (hfits _) hp

theorem keeps_of_guardNewProtocol (hg : h.guardNewProtocol c = .ok h') : h.Keeps h' := by
  obtain ⟨a, -, hg⟩ := Result.bind_eq_ok_iff.1 hg
  cases ha : a.truthy with
  | false =>
    rw [ha] at hg
    cases hg
    exact .refl h
  | true =>
    rw [ha] at hg
    obtain ⟨bases, -, hg⟩ := Result.bind_eq_ok_iff.1 hg
    obtain ⟨-, -, hg⟩ := Result.bind_eq_ok_iff.1 hg
    obtain ⟨found, -, hg⟩ := Result.bind_eq_ok_iff.1 hg
    split at hg
    · exact keeps_of_assign (Member.fits_of_ne (by simp) (by simp) _) hg
    · cases hg
      exact .refl h

theorem keeps_of_asProtocol (hp : h.asProtocol c = .ok h') : h.Keeps h' := by
  rw [asProtocol_eq] at hp
  obtain ⟨noted, hn, hp⟩ := Result.bind_eq_ok_iff.1 hp
  obtain ⟨hooked, hh, hp⟩ := Result.bind_eq_ok_iff.1 hp
  exact ((keeps_of_noteProtocol hn).trans (keeps_of_hookProtocol hh)).trans
    (keeps_of_guardNewProtocol hp)

theorem keeps_of_tell {list : List ClassId} (ht : h.tell c list = .ok h') : h.Keeps h' := by
  induction list generalizing h' with
  | nil =>
    cases ht
    exact .refl h
  | cons owner rest ih =>
    unfold tell at ht
    split at ht
    · exact ih ht
    · obtain ⟨told, hr, ht⟩ := Result.bind_eq_ok_iff.1 ht
      exact (ih hr).trans (keeps_of_asGeneric ht)
    · obtain ⟨told, hr, ht⟩ := Result.bind_eq_ok_iff.1 ht
      exact (ih hr).trans (keeps_of_asProtocol ht)
    · cases ht
      exact .refl h
    · obtain ⟨-, -, ht⟩ := Result.bind_eq_ok_iff.1 ht
      cases ht
      exact .refl h

theorem keeps_of_tellBases (ht : h.tellBases c = .ok h') : h.Keeps h' := keeps_of_tell ht

/-- The number of a new class has been taken before it is made. -/
theorem declared_of_make {metaclass : ClassId} {bases : List ClassId} {b : Blueprint}
    (hm : h.make metaclass name bases b = .ok h') : h'.declared = h.declared := by
  have hcreator (g : Hierarchy) : (g.withCreator b.self).declared = g.declared := by
    unfold withCreator
    split <;> rfl
  unfold make at hm
  dsimp only at hm
  obtain ⟨primary, -, hm⟩ := Result.bind_eq_ok_iff.1 hm
  obtain ⟨slots, -, hm⟩ := Result.bind_eq_ok_iff.1 hm
  obtain ⟨-, hm⟩ := Result.ite_error_eq_ok_iff.1 hm
  obtain ⟨qualname, -, hm⟩ := Result.bind_eq_ok_iff.1 hm
  obtain ⟨-, -, hm⟩ := Result.bind_eq_ok_iff.1 hm
  obtain ⟨-, -, hm⟩ := Result.bind_eq_ok_iff.1 hm
  obtain ⟨order, -, hm⟩ := Result.bind_eq_ok_iff.1 hm
  cases hm
  exact hcreator _

end Hierarchy

end UtilityClass
