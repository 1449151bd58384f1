import UtilityClass.Proofs.UnmarkedCalls

/-!
# Values that are finished

While a class is being made, its namespace is passed on as a value, from the metaclass that is
called down to the native function that creates the class. Everywhere else values are finished: they
hold no such namespace. What is handed out of classes and in front of arguments is finished, and so
is plain data, so a call that begins with finished arguments goes on with finished ones.

## Main definitions

* `Value.IsFinished`, `AreFinished`

## Main results

* `ClassAttribute.isFinished_on`, `Hierarchy.isFinished_bind`, `Hierarchy.isFinished_next` : what is
  handed out in front of arguments
* `Hierarchy.isSimple_createNative`, `Hierarchy.isFinished_initialiseNative` : what native
  functions make
* `AreFinished.argument`, `AreFinished.firstArgument` : what the parameters of a function get
-/

namespace UtilityClass

/-! ## Values and arguments -/

/-- A value is no namespace of a class under way. -/
def Value.IsFinished : Value → Prop
  | .blueprint _ => False
  | _ => True

namespace Value

@[simp] theorem isFinished_data (value : Json) : (data value).IsFinished := trivial

@[simp] theorem isFinished_null : Value.null.IsFinished := trivial

@[simp] theorem isFinished_object (i : Instance) : (object i).IsFinished := trivial

@[simp] theorem isFinished_ofClass (c : ClassId) : (ofClass c).IsFinished := trivial

/-- Only namespaces of classes under way hold members. -/
theorem IsFinished.unmarked_eq {v : Value} (hv : v.IsFinished) : v.unmarked = v := by
  cases v
  case blueprint b => exact hv.elim
  all_goals rfl

end Value

/-- The arguments of a call hold no namespace of a class under way. -/
def AreFinished (given : List Value) (named : List (String × Value)) : Prop :=
  (∀ v ∈ given, v.IsFinished) ∧ ∀ entry ∈ named, entry.2.IsFinished

theorem AreFinished.append {front given : List Value} {named : List (String × Value)}
    (hf : ∀ v ∈ front, v.IsFinished) (hg : AreFinished given named) :
    AreFinished (front ++ given) named :=
  ⟨List.forall_mem_append.2 ⟨hf, hg.1⟩, hg.2⟩

theorem AreFinished.cons {v : Value} {given : List Value} {named : List (String × Value)}
    (hv : v.IsFinished) (hg : AreFinished given named) : AreFinished (v :: given) named :=
  ⟨List.forall_mem_cons.2 ⟨hv, hg.1⟩, hg.2⟩

theorem AreFinished.nil : AreFinished [] [] := by
  simp [AreFinished]

/-- Plain data has no marks. -/
theorem unmarked_data (given : List Json) :
    (given.map Value.data).map Value.unmarked = given.map Value.data := by
  rw [List.map_map]
  exact List.map_congr_left fun _ _ => rfl

theorem unmarkedNamed_data (named : List (String × Json)) :
    unmarkedNamed (named.map fun (key, value) => (key, Value.data value)) =
      named.map fun (key, value) => (key, Value.data value) := by
  rw [unmarkedNamed, List.map_map]
  exact List.map_congr_left fun _ _ => rfl

/-- Arguments that are plain data. -/
theorem AreFinished.data (given : List Json) (named : List (String × Json)) :
    AreFinished (given.map .data) (named.map fun (key, value) => (key, .data value)) := by
  refine ⟨by simp, fun entry he => ?_⟩
  obtain ⟨field, -, rfl⟩ := List.mem_map.1 he
  trivial

/-! ## What is handed out in front -/

namespace Member

theorem isFinished_onClass (m : Member) (c : ClassId) : ∀ v ∈ (m.onClass c).2, v.IsFinished := by
  cases m <;> simp [onClass]

theorem isFinished_onObject (m : Member) {v : Value} (hv : v.IsFinished) (c : ClassId) :
    ∀ u ∈ (m.onObject v c).2, u.IsFinished := by
  rcases m with _ | _ | _ | _ | _ | n | _ | _ | _
  case native => cases n <;> simp [onObject, hv]
  all_goals simp [onObject, hv]

end Member

theorem ClassAttribute.isFinished_on (a : ClassAttribute) (h : Hierarchy) (c : ClassId) :
    ∀ v ∈ (a.on h c).2, v.IsFinished := by
  unfold ClassAttribute.on
  split
  · exact a.member.isFinished_onObject (Value.isFinished_ofClass c) _
  · exact a.member.isFinished_onClass c

namespace Hierarchy

variable {h : Hierarchy} {v : Value} (hv : v.IsFinished)
include hv

theorem isFinished_bind {m : Member} {handed : Member × List Value} (hb : h.bind m v = .ok handed) :
    ∀ u ∈ handed.2, u.IsFinished := by
  obtain ⟨-, -, rfl⟩ := Result.map_eq_ok_iff.1 hb
  exact Member.isFinished_onObject _ hv _

theorem isFinished_next {owner : ClassId} {name : String} {found : Attribute}
    (hn : h.next? v owner name = .ok (some found)) : ∀ u ∈ found.front, u.IsFinished := by
  have hfrom {start : ClassId} {self? : Option ClassId}
      (hn : h.nextFrom v owner name start self? = .ok (some found)) :
      ∀ u ∈ found.front, u.IsFinished := by
    have hderives : h.derives start owner = true := by
      by_contra hd
      simp only [nextFrom, hd] at hn
      cases hn
    rcases hr : h.resolveAfter? start owner name with _ | ⟨d, m⟩
    · simp [nextFrom, hderives, hr] at hn
      cases hn
    · cases self? with
      | some c =>
        simp only [nextFrom, hderives, hr] at hn
        cases hn
        exact m.isFinished_onClass c
      | none =>
        simp only [nextFrom, hderives, hr] at hn
        obtain ⟨handed, hb, hh⟩ := Result.bind_eq_ok_iff.1 hn
        cases hh
        exact isFinished_bind hv hb
  cases v with
  | ofClass c =>
    exact hfrom hn
  | data value => exact hfrom hn
  | object i => exact hfrom hn
  | tuple items => exact hfrom hn
  | blueprint b => exact hv.elim

end Hierarchy

/-! ## What native functions make -/

/-- A value is plain data or an object. -/
def Value.IsSimple : Value → Prop
  | .data _ | .object _ => True
  | _ => False

theorem Value.isSimple_data (value : Json) : (data value).IsSimple := trivial

theorem Value.isSimple_object (i : Instance) : (object i).IsSimple := trivial

theorem Value.IsSimple.isFinished {v : Value} (hv : v.IsSimple) : v.IsFinished := by
  cases v
  case blueprint => exact hv
  all_goals trivial

theorem Value.isSimple_standingFor (family : LibraryClass) (c : ClassId) (content : Json) :
    (standingFor family c content).IsSimple := by
  unfold standingFor
  split <;> trivial

theorem Value.isFinished_withContent (v : Value) (content : Json) :
    (v.withContent content).IsFinished := by
  cases v <;> trivial

namespace Hierarchy

variable {h : Hierarchy} {l : LibraryClass} {c : ClassId} {v made : Value} {given : List Value}
  {named : List (String × Value)}

theorem of_bind_pure {P : Value → Prop} {β : Type} {result : Except Fault β} {f : β → Value}
    (hf : ∀ b, P (f b)) (hr : result >>= (fun b => Except.ok (f b)) = .ok made) : P made := by
  obtain ⟨b, -, hb⟩ := Result.bind_eq_ok_iff.1 hr
  cases hb
  exact hf b

/-- Native functions create objects, or plain data. -/
theorem isSimple_createNative (hm : h.createNative l c given named = .ok made) : made.IsSimple := by
  have hobject {β : Type} {result : Except Fault β} {f : β → Instance}
      (hr : result >>= (fun b => Except.ok (.object (f b))) = .ok made) : made.IsSimple :=
    of_bind_pure (fun _ => Value.isSimple_object _) hr
  unfold createNative at hm
  dsimp only at hm
  generalize l.creationFamily = family at hm
  split at hm
  case h_12 =>
    split at hm
    · cases hm
      trivial
    · cases hm
  case h_13 =>
    split at hm
    case h_5 =>
      obtain ⟨-, -, hm⟩ := Result.bind_eq_ok_iff.1 hm
      exact hobject hm
    case h_11 =>
      cases hm
      trivial
    all_goals exact hobject hm
  case h_8 | h_9 =>
    cases hm
    exact Value.isSimple_standingFor ..
  case h_4 | h_6 | h_7 => exact of_bind_pure (fun _ => Value.isSimple_standingFor ..) hm
  case h_5 => exact of_bind_pure (fun _ => Value.isSimple_data _) hm
  all_goals exact hobject hm

/-- Initialising a value may change what it holds. It does not make a namespace of it. -/
theorem isFinished_initialiseNative (hv : v.IsFinished)
    (hm : h.initialiseNative l v given named = .ok made) : made.IsFinished := by
  unfold initialiseNative at hm
  dsimp only at hm
  split at hm
  case h_3 | h_5 | h_6 => exact of_bind_pure (fun _ => Value.isFinished_withContent ..) hm
  case h_8 =>
    cases (Result.ite_error_eq_ok_iff.1 hm).2
    exact hv
  case h_9 =>
    split at hm
    · exact of_bind_pure (fun _ => Value.isFinished_object _) hm
    · cases hm
      trivial
  case h_10 =>
    cases hm
    exact hv
  all_goals exact of_bind_pure (fun _ => hv) hm

end Hierarchy

/-! ## What parameters get -/

namespace AreFinished

variable {given : List Value} {named : List (String × Value)} (hg : AreFinished given named)
include hg

theorem drop (n : Nat) : AreFinished (given.drop n) named :=
  ⟨fun v hv => hg.1 v (List.mem_of_mem_drop hv), hg.2⟩

theorem filter (p : String × Value → Bool) : AreFinished given (named.filter p) :=
  ⟨hg.1, fun entry he => hg.2 entry (List.mem_filter.1 he).1⟩

/-- The first argument. What stands for it where there is none is finished, too. -/
theorem head : (given.head?.getD .null).IsFinished := by
  cases given with
  | nil => trivial
  | cons v rest => exact hg.1 v List.mem_cons_self

theorem argument? {parameters : List Parameter} {name : String} {v : Value}
    (hv : Signature.argument? Value.data parameters name given named = some v) :
    v.IsFinished := by
  unfold Signature.argument? at hv
  dsimp only at hv
  split at hv
  · rename_i hfound
    cases hv
    exact hg.1 _ (List.mem_of_getElem? hfound)
  · rename_i hfound
    cases hv
    split at hfound
    · cases hfound
    · obtain ⟨before, behind, hnamed, -⟩ := List.lookup_eq_some_iff.1 hfound
      exact hg.2 (name, _) (by simp [hnamed])
  · obtain ⟨p, -, hp⟩ := Option.bind_eq_some_iff.1 hv
    obtain ⟨value, -, rfl⟩ := Option.map_eq_some_iff.1 hp
    trivial

theorem argument (parameters : List Parameter) (name : String) :
    ((Signature.argument? Value.data parameters name given named).getD .null).IsFinished := by
  cases hv : Signature.argument? Value.data parameters name given named with
  | none => trivial
  | some v => exact hg.argument? hv

theorem firstArgument (parameters : List Parameter) :
    ((Signature.firstArgument? Value.data parameters given named).getD .null).IsFinished := by
  cases parameters with
  | nil => trivial
  | cons p rest =>
    unfold Signature.firstArgument?
    dsimp only
    split
    · exact hg.argument _ _
    · exact hg.argument _ _
    · exact hg.head
    · trivial
    · trivial

end AreFinished

end UtilityClass
