import UtilityClass.Marker
import UtilityClass.Proofs.Enlisted
import UtilityClass.Proofs.UnmarkedReflection

/-!
# Marking constructors

A constructor in the namespace of a class is marked on its function, or on what stands in the
namespace itself: that is the wrapper around the function, if there is one. Here any number of marks
are put on any number of entries, in all classes at once, so that a function that stands in several
namespaces, or under several names, is marked in all of these places.

Since nobody reads the marks but the verification, the classes are the same as before once all marks
are taken off. What is listed of a class that declares constructors is then the same, too, but for
the entries that have been marked: they are private.

## Main definitions

* `Mark`, `Member.mark` : marking an entry of a namespace
* `Hierarchy.mark` : marking any entries
* `Hierarchy.hidesEntry` : whether a declared constructor has been marked

## Main results

* `Bearer.mark_of_bearer?` : what marking does is what putting the mark on does
* `Constructor.isMarked_raw_iff` : a declared constructor is marked if one of its bearers is
* `Hierarchy.unmarked_mark` : the marks can be taken off again
* `Hierarchy.listing_mark` : what is listed of a class afterwards
-/

namespace UtilityClass

/-! ## Entries -/

/-- Where a mark is put. -/
inductive Mark where
  /-- On the function, also if there is a wrapper around it. -/
  | inside
  /-- On what stands in the namespace. -/
  | outside

/-- The function with its mark. -/
def Function.marked (f : Function) : Function := { f with marker := some (.bool true) }

namespace Member

/-- What a mark is put on, if the member takes it. -/
def bearer? : Mark → Member → Option Bearer
  | _, .function f | _, .callable f | .inside, .static f _ | .inside, .classwise f _ =>
    some (.function f.marker)
  | .outside, .static f marker | .outside, .classwise f marker => some (.wrapper marker f.marker)
  | _, _ => none

/-- The member with a mark. What takes no marks stays as it is. -/
def mark : Mark → Member → Member
  | _, .function f => .function f.marked
  | _, .callable f => .callable f.marked
  | .inside, .static f marker => .static f.marked marker
  | .inside, .classwise f marker => .classwise f.marked marker
  | .outside, .static f _ => .static f (some (.bool true))
  | .outside, .classwise f _ => .classwise f (some (.bool true))
  | _, m => m

/-- The member with several marks, which are put on one after the other. -/
def markAll (marks : List Mark) (m : Member) : Member := marks.foldl (fun m k => m.mark k) m

/-- Whether a member takes marks: functions do, wrapped or not, and what can be called like one. -/
def takesMarks : Member → Bool
  | .function _ | .static _ _ | .classwise _ _ | .callable _ => true
  | _ => false

variable (k : Mark) (m : Member)

@[simp] theorem unmarked_mark : (m.mark k).unmarked = m.unmarked := by
  cases m <;> cases k <;> rfl

@[simp] theorem takesMarks_mark : (m.mark k).takesMarks = m.takesMarks := by
  cases m <;> cases k <;> rfl

theorem mark_of_takesMarks_eq_false {m : Member} (hm : m.takesMarks = false) : m.mark k = m := by
  cases m <;> first | (cases k <;> rfl) | cases hm

variable (marks : List Mark)

@[simp] theorem unmarked_markAll : (m.markAll marks).unmarked = m.unmarked := by
  induction marks generalizing m with
  | nil => rfl
  | cons k marks ih => exact (ih (m.mark k)).trans (m.unmarked_mark k)

@[simp] theorem takesMarks_markAll : (m.markAll marks).takesMarks = m.takesMarks := by
  induction marks generalizing m with
  | nil => rfl
  | cons k marks ih => exact (ih (m.mark k)).trans (m.takesMarks_mark k)

theorem markAll_of_takesMarks_eq_false {m : Member} (hm : m.takesMarks = false) :
    m.markAll marks = m := by
  induction marks with
  | nil => rfl
  | cons k marks ih =>
    rw [markAll, List.foldl_cons, mark_of_takesMarks_eq_false k hm]
    exact ih

/-- The last of several marks. -/
theorem markAll_concat : m.markAll (marks ++ [k]) = (m.markAll marks).mark k := by
  simp [markAll]

end Member

/-- **Marking** what stands in a namespace succeeds, whatever the machinery, and the member is the
marked one then. -/
theorem Bearer.mark_of_bearer? {k : Mark} {m : Member} {b : Bearer} (hb : m.bearer? k = some b)
    (machinery : Machinery) (w : World) :
    ∃ b', b.mark machinery w = (.ok b', w) ∧ (m.mark k).bearer? k = some b' := by
  have hmark {b b' : Bearer}
      (ha : b.assign machinery (.bool true) = (pure b' : Act Bearer)) :
      b.mark machinery w = (.ok b', w) := by
    have hrun : b.assign machinery (.bool true) w = (.ok b', w) := by
      rw [ha]
      rfl
    rw [Bearer.mark, Act.bind_run_of_ok (Act.catching_of_ok machinery hrun)]
    rfl
  cases m <;> cases k <;> cases hb <;> exact ⟨_, hmark rfl, rfl⟩

/-- The entries of a namespace with their marks. -/
def markedEntries (marks : String → List Mark) (entries : List (String × Member)) :
    List (String × Member) :=
  entries.map fun (name, m) => (name, m.markAll (marks name))

theorem lookup_markedEntries (marks : String → List Mark) (name : String)
    (entries : List (String × Member)) :
    (markedEntries marks entries).lookup name =
      (entries.lookup name).map (Member.markAll (marks name)) := by
  induction entries with
  | nil => rfl
  | cons entry entries ih =>
    rw [markedEntries, List.map_cons, ← markedEntries, List.lookup_cons, List.lookup_cons, ih]
    by_cases hn : name = entry.1
    · simp [hn]
    · have hother : (name == entry.1) = false := by simpa using hn
      rw [hother]

theorem unmarkedEntries_markedEntries (marks : String → List Mark)
    (entries : List (String × Member)) :
    unmarkedEntries (markedEntries marks entries) = unmarkedEntries entries := by
  rw [unmarkedEntries, markedEntries, List.map_map]
  exact List.map_congr_left fun entry _ => by simp

namespace Namespace

/-- What a class shows as its namespace, with marks on the entries. Only members take them. -/
def marked (marks : String → List Mark) : Namespace → Namespace
  | .own entries => .own (markedEntries marks entries)
  | space => space

variable (marks : String → List Mark) (space : Namespace) (name : String)

@[simp] theorem contains_marked : (space.marked marks).contains name = space.contains name := by
  cases space with
  | own entries =>
    show Except.ok _ = Except.ok _
    rw [lookup_markedEntries, Option.isSome_map]
  | _ => rfl

@[simp] theorem entry_marked :
    (space.marked marks).entry name = (space.entry name).map (Member.markAll (marks name)) := by
  have hdata (value : Json) : (Member.data value).markAll (marks name) = .data value :=
    Member.markAll_of_takesMarks_eq_false _ rfl
  have hpart : (Member.part false).markAll (marks name) = .part false :=
    Member.markAll_of_takesMarks_eq_false _ rfl
  cases space with
  | own entries =>
    show Except.ok _ = Except.ok _
    rw [lookup_markedEntries]
    cases entries.lookup name with
    | none => rw [Option.map_none, Option.getD_none, hpart]
    | some m => rfl
  | data value =>
    cases value
    case obj fields => exact congrArg Except.ok (hdata _).symm
    all_goals rfl
  | other => rfl

end Namespace

/-! ## Constructors -/

namespace Constructor

/-- The constructor with several marks. -/
def markAll (marks : List Mark) : Constructor → Constructor
  | .raw m => .raw (m.markAll marks)
  | .looked m => .looked (m.markAll marks)

/-- Whether a constructor takes marks. -/
def takesMarks : Constructor → Bool
  | .raw m | .looked m => m.takesMarks

theorem markAll_of_takesMarks_eq_false {k : Constructor} (hk : k.takesMarks = false)
    (marks : List Mark) : k.markAll marks = k := by
  cases k with
  | raw m => exact congrArg raw (Member.markAll_of_takesMarks_eq_false marks hk)
  | looked m => exact congrArg looked (Member.markAll_of_takesMarks_eq_false marks hk)

@[simp] theorem signature?_markAll (k : Constructor) (marks : List Mark) :
    (k.markAll marks).signature? = k.signature? := by
  rw [← signature?_unmarked, ← k.signature?_unmarked]
  cases k with
  | raw m => exact congrArg (fun m => (raw m).signature?) (m.unmarked_markAll marks)
  | looked m => exact congrArg (fun m => (looked m).signature?) (m.unmarked_markAll marks)

/-- A declared constructor counts as marked just if one of the things does that marks are put
on. -/
theorem isMarked_raw_iff (m : Member) (h : Hierarchy) : (raw m).isMarked = true ↔
    ∃ k b, m.bearer? k = some b ∧ b.isMarked h = .ok true := by
  constructor
  · intro hm
    cases m
    case function f | callable f => exact ⟨.inside, _, rfl, congrArg Except.ok hm⟩
    case static f marker | classwise f marker =>
      obtain hf | hw := Bool.or_eq_true_iff.1 hm
      · exact ⟨.inside, _, rfl, congrArg Except.ok hf⟩
      · exact ⟨.outside, _, rfl, congrArg Except.ok hw⟩
    all_goals cases hm
  · rintro ⟨k, b, hb, hmarked⟩
    cases m
    case function f | callable f => cases k <;> cases hb <;> exact Except.ok.inj hmarked
    case static f marker | classwise f marker =>
      cases k <;> cases hb
      · exact Bool.or_eq_true_iff.2 (.inl (Except.ok.inj hmarked))
      · exact Bool.or_eq_true_iff.2 (.inr (Except.ok.inj hmarked))
    all_goals cases k <;> cases hb

/-- One that has been looked up does so if its function does. -/
theorem isMarked_looked_iff (m : Member) (h : Hierarchy) : (looked m).isMarked = true ↔
    ∃ b, m.bearer? .inside = some b ∧ b.isMarked h = .ok true := by
  cases m
  case function | static | classwise | callable =>
    simp [isMarked, Member.bearer?, Bearer.isMarked]
  all_goals simp [isMarked, Member.bearer?]

theorem isMarked_raw_mark {m : Member} (hm : m.takesMarks = true) (k : Mark) :
    (raw (m.mark k)).isMarked = true := by
  cases m
  case function | static | classwise | callable =>
    cases k <;> simp [isMarked, Member.mark, Function.marked, Json.isTrue]
  all_goals cases hm

/-- One mark is enough. -/
theorem isMarked_raw_markAll {m : Member} (hm : m.takesMarks = true) {marks : List Mark}
    (hmarks : marks ≠ []) : (raw (m.markAll marks)).isMarked = true := by
  obtain ⟨before, k, rfl⟩ := marks.eq_nil_or_concat.resolve_left hmarks
  rw [List.concat_eq_append, Member.markAll_concat]
  exact isMarked_raw_mark (by rwa [Member.takesMarks_markAll]) k

end Constructor

namespace ConstructorDescriptor

/-- The descriptor, which says that the constructor is private if this is the case. -/
def hiddenIf (isHidden : Bool) (d : ConstructorDescriptor) : ConstructorDescriptor :=
  if isHidden then { d with visibility := .isPrivate } else d

@[simp] theorem signature_hiddenIf (isHidden : Bool) (d : ConstructorDescriptor) :
    (d.hiddenIf isHidden).signature = d.signature := by
  cases isHidden <;> rfl

@[simp] theorem parameterCount_hiddenIf (isHidden : Bool) (d : ConstructorDescriptor) :
    (d.hiddenIf isHidden).parameterCount = d.parameterCount := by
  cases isHidden <;> rfl

@[simp] theorem isPrivate_hiddenIf (isHidden : Bool) (d : ConstructorDescriptor) :
    (d.hiddenIf isHidden).isPrivate = (isHidden || d.isPrivate) := by
  cases isHidden <;> rfl

end ConstructorDescriptor

/-! ## Classes -/

namespace Hierarchy

/-- The classes with marks on entries of their namespaces: on those that take them, and on each one
in the given order. -/
def mark (h : Hierarchy) (marks : ClassId → String → List Mark) : Hierarchy :=
  { h with
    info := fun c => { h.info c with members := markedEntries (marks c) (h.info c).members } }

/-- Whether a constructor that a class declares is among those that have been marked. -/
def hidesEntry (marks : ClassId → String → List Mark) (c : ClassId)
    (entry : String × Constructor) : Bool :=
  entry.2.takesMarks && !(marks c entry.1).isEmpty

variable {c : ClassId} (h : Hierarchy) (marks : ClassId → String → List Mark)

/-- Marks can be taken off again. -/
@[simp] theorem unmarked_mark : (h.mark marks).unmarked none = h.unmarked none := by
  refine congrArg (Hierarchy.mk · h.declared) (funext fun c => ?_)
  exact congrArg (fun members => { h.info c with members })
    (unmarkedEntries_markedEntries (marks c) (h.info c).members)

/-- A class that shows its own namespace shows the marks in it. -/
theorem namespaceOf_mark :
    (h.mark marks).namespaceOf c = (h.namespaceOf c).map (Namespace.marked (marks c)) := by
  have hread (g : Hierarchy) := g.read_unmarked (x := none) (c := c) "__dict__" (by simp)
  rw [namespaceOf_of_read (h := h) (by rw [← hread, ← hread, unmarked_mark])]
  cases hs : h.namespaceOf c with
  | error e => rfl
  | ok space =>
    cases space with
    | own entries =>
      rw [eq_members_of_namespaceOf hs]
      rfl
    | _ => rfl

theorem declaredConstructors_mark :
    (h.mark marks).declaredConstructors c = (h.declaredConstructors c).map
      (List.map fun entry => (entry.1, entry.2.markAll (marks c entry.1))) := by
  simp only [declaredConstructors, namespaceOf_mark, Result.bind_map, Result.map_bind,
    Namespace.contains_marked, Namespace.entry_marked]
  refine bind_congr fun space => bind_congr fun names => ?_
  rw [Result.map_mapM]
  refine Result.mapM_congr fun name _ => ?_
  rw [Result.map_bind]
  rfl

/-! ### Lists -/

theorem visibility_markAll (name : String) (m : Member) :
    ((Constructor.raw m).markAll (marks c name)).visibility =
      if hidesEntry marks c (name, .raw m) then .isPrivate else (Constructor.raw m).visibility := by
  unfold hidesEntry
  cases htakes : (Constructor.raw m).takesMarks with
  | false => rw [Constructor.markAll_of_takesMarks_eq_false htakes]; rfl
  | true =>
    cases hmarks : marks c name with
    | nil => rfl
    | cons k rest =>
      have hmarked : ((Constructor.raw m).markAll (k :: rest)).isMarked = true :=
        Constructor.isMarked_raw_markAll htakes (List.cons_ne_nil k rest)
      rw [Constructor.visibility, hmarked]
      rfl

/-- All that is told of a constructor besides its visibility is not told of its marks. -/
theorem describeConstructor_mark (name : String) (m : Member) :
    (h.mark marks).describeConstructor c name ((Constructor.raw m).markAll (marks c name)) =
      (h.describeConstructor c name (.raw m)).map
        (ConstructorDescriptor.hiddenIf (hidesEntry marks c (name, .raw m))) := by
  have hname : (h.mark marks).nameText c = h.nameText c := by
    rw [← nameText_unmarked (x := none), unmarked_mark, nameText_unmarked]
  have htext : (h.mark marks).annotationText = h.annotationText := by
    rw [← annotationText_unmarked (x := none), unmarked_mark, annotationText_unmarked]
  simp only [describeConstructor, hname, htext, Constructor.signature?_markAll,
    visibility_markAll, Result.map_bind]
  refine bind_congr fun className => ?_
  generalize hidesEntry marks c (name, .raw m) = isHidden
  cases (Constructor.raw m).signature? with
  | none => cases isHidden <;> rfl
  | some s =>
    dsimp only
    cases s.text h.annotationText <;> cases isHidden <;> rfl

/-- Declared constructors are taken as they stand in the namespace. -/
theorem exists_raw_of_declared {declared : List (String × Constructor)}
    (hd : h.declaredConstructors c = .ok declared) : ∀ entry ∈ declared, ∃ m, entry.2 = .raw m := by
  obtain ⟨space, -, hd⟩ := Result.bind_eq_ok_iff.1 hd
  obtain ⟨names, -, hd⟩ := Result.bind_eq_ok_iff.1 hd
  refine Result.forall_of_mapM_eq_ok (fun name entry hentry => ?_) hd
  obtain ⟨m, -, hentry⟩ := Result.bind_eq_ok_iff.1 hentry
  cases hentry
  exact ⟨m, rfl⟩

/-- **What is listed of a class** that declares constructors: the marks make the constructors
private that they are put on, and change nothing else. -/
theorem listing_mark {declared : List (String × Constructor)}
    (hd : h.declaredConstructors c = .ok declared) (hne : declared ≠ []) :
    (h.mark marks).listing c = (h.listing c).map
      (List.zipWith (fun entry d => d.hiddenIf (hidesEntry marks c entry)) declared) := by
  have hraw := exists_raw_of_declared h hd
  have hd' := (declaredConstructors_mark h marks (c := c)).trans (congrArg _ hd)
  rw [listing, listing, reportedConstructors_of_declared hd hne,
    reportedConstructors_of_declared hd' (by simpa using hne), Result.ok_bind, Result.ok_bind,
    List.mapM_map]
  clear hd hd' hne
  induction declared with
  | nil => rfl
  | cons entry rest ih =>
    obtain ⟨⟨m, hm⟩, hrest⟩ := List.forall_mem_cons.1 hraw
    obtain ⟨name, k⟩ := entry
    dsimp only at hm
    subst hm
    rw [List.mapM_cons, List.mapM_cons, ih hrest]
    show ((h.mark marks).describeConstructor c name ((Constructor.raw m).markAll (marks c name)) >>=
      _) = (h.describeConstructor c name (.raw m) >>= _).map _
    rw [describeConstructor_mark, Result.bind_map, Result.map_bind]
    refine bind_congr fun d => ?_
    rw [Result.bind_map, Result.map_bind]
    rfl

end Hierarchy

end UtilityClass
