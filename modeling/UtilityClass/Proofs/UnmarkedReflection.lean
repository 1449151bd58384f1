import UtilityClass.Introspector.Reflection
import UtilityClass.Proofs.UnmarkedCalls

/-!
# What reflection makes of marks

Reflection describes a class and its constructors. The private marks show in the visibility of
constructors and nowhere else, and the flag of a class shows in whether the class is final and
nowhere else: all that is told besides is the same of classes without marks.

## Main definitions

* `Constructor.unmarked`, `ConstructorDescriptor.unmarked` : constructors without marks

## Main results

* `Hierarchy.reportedConstructors_unmarked`, `Hierarchy.describeConstructor_unmarked`
* `Hierarchy.acceptsNoArguments_unmarked`
-/

namespace UtilityClass

/-- The constructor without marks. -/
def Constructor.unmarked : Constructor → Constructor
  | .raw m => .raw m.unmarked
  | .looked m => .looked m.unmarked

/-- The descriptor, but for the visibility. -/
def ConstructorDescriptor.unmarked (d : ConstructorDescriptor) : ConstructorDescriptor :=
  { d with visibility := .nonPrivate }

namespace Constructor

variable (k : Constructor)

@[simp] theorem signature?_unmarked : k.unmarked.signature? = k.signature? := by
  rcases k with m | m <;> cases m <;> rfl

@[simp] theorem isMarked_unmarked : k.unmarked.isMarked = false := by
  rcases k with m | m <;> cases m <;> rfl

@[simp] theorem visibility_unmarked : k.unmarked.visibility = .nonPrivate := by
  rw [visibility, isMarked_unmarked]
  rfl

end Constructor

namespace Hierarchy

variable {x : Option Flag} {c : ClassId} (h : Hierarchy)

/-! ## Constructors -/

theorem constructorNames_ne_flag : ∀ name ∈ constructorNames, name ≠ "__final__" := by
  simp [constructorNames]

theorem declaredConstructors_unmarked :
    (h.unmarked x).declaredConstructors c =
      (h.declaredConstructors c).map (List.map fun k => (k.1, k.2.unmarked)) := by
  simp only [declaredConstructors, namespaceOf_unmarked, Result.bind_map, Result.map_bind]
  refine bind_congr fun space => ?_
  rw [Result.filterM_congr fun name hname =>
    space.contains_unmarked name fun _ => constructorNames_ne_flag name hname]
  cases hnames : constructorNames.filterM fun name => space.contains name with
  | error e => rfl
  | ok names =>
    have hsub := Result.sublist_of_filterM hnames
    rw [Result.ok_bind, Result.ok_bind, Result.map_mapM]
    refine Result.mapM_congr fun name hname => ?_
    rw [space.entry_unmarked name fun _ => constructorNames_ne_flag name (hsub.subset hname),
      Result.bind_map, Result.map_bind]
    rfl

theorem effectiveConstructors_unmarked :
    (h.unmarked x).effectiveConstructors c =
      (h.effectiveConstructors c).map (List.map fun k => (k.1, k.2.unmarked)) := by
  let look (g : Hierarchy) (name : String) : Except Fault (String × Member) := do
    return (name, (← g.read c name).member)
  have hlook : constructorNames.mapM (look (h.unmarked x)) =
      (constructorNames.mapM (look h)).map (List.map fun k => (k.1, k.2.unmarked)) := by
    rw [Result.map_mapM]
    refine Result.mapM_congr fun name hname => ?_
    simp only [look, h.read_unmarked name fun _ => constructorNames_ne_flag name hname,
      Result.bind_map, Result.map_bind]
    rfl
  show (constructorNames.mapM (look (h.unmarked x)) >>= _) =
    (constructorNames.mapM (look h) >>= _).map _
  rw [hlook, Result.bind_map, Result.map_bind]
  refine bind_congr fun all => congrArg Except.ok ?_
  rw [List.filter_map]
  simp only [Function.comp_def, Member.isRoot_unmarked]

theorem reportedConstructors_unmarked :
    (h.unmarked x).reportedConstructors c =
      (h.reportedConstructors c).map (List.map fun k => (k.1, k.2.unmarked)) := by
  simp only [reportedConstructors, declaredConstructors_unmarked, effectiveConstructors_unmarked,
    Result.bind_map, Result.map_bind, List.isEmpty_map]
  refine bind_congr fun declared => ?_
  split
  · rfl
  · rw [Result.map_bind]
    refine bind_congr fun inherited => ?_
    refine congrArg Except.ok ?_
    cases inherited with
    | nil => rfl
    | cons first rest =>
      simp only [List.map_map, List.isEmpty_cons, Bool.false_eq_true, if_false]
      rfl

@[simp] theorem acceptsNoArguments_unmarked :
    (h.unmarked x).acceptsNoArguments c = h.acceptsNoArguments c := by
  have hsignature (m : Member) : (Constructor.looked m.unmarked).signature? =
      (Constructor.looked m).signature? := (Constructor.looked m).signature?_unmarked
  simp only [acceptsNoArguments, effectiveConstructors_unmarked, Result.bind_map, List.all_map]
  simp only [Function.comp_def, hsignature]

@[simp] theorem hasNativeConstructor_unmarked :
    (h.unmarked x).hasNativeConstructor c = h.hasNativeConstructor c := by
  simp only [hasNativeConstructor, effectiveConstructors_unmarked, Result.bind_map, List.any_map]
  simp only [Function.comp_def, Member.isFunction_unmarked]

/-! ## Descriptions -/

@[simp] theorem classify_unmarked : (h.unmarked x).classify c = h.classify c := by
  rw [classify, readTruth_unmarked h "_is_protocol" (by simp)]
  rfl

/-- Of a class whose flag is not exchanged. -/
theorem isFinal_unmarked (hc : x.map Prod.fst ≠ some c) :
    (h.unmarked x).isFinal c = h.isFinal c := by
  have hget (space : Namespace) : (space.unmarked x c).get? "__final__" =
      (space.get? "__final__").map (Option.map Member.unmarked) :=
    space.get?_unmarked "__final__" fun hx => absurd hx hc
  simp only [isFinal, namespaceOf_unmarked, Result.bind_map, hget, hasFlag_unmarked,
    unmarked_info_subclassable]
  refine bind_congr fun space => bind_congr fun entry => ?_
  rcases entry with _ | m
  · rfl
  · cases m <;> rfl

@[simp] theorem annotationText_unmarked : (h.unmarked x).annotationText = h.annotationText := by
  funext a
  cases a with
  | data value => rfl
  | ofClass c =>
    simp only [annotationText, longName_unmarked, nameAttribute?_unmarked h "__module__" (by simp),
      literal_unmarked]

theorem describeConstructor_unmarked (name : String) (k : Constructor) :
    (h.unmarked x).describeConstructor c name k.unmarked =
      (h.describeConstructor c name k).map ConstructorDescriptor.unmarked := by
  simp only [describeConstructor, Constructor.visibility_unmarked, Constructor.signature?_unmarked,
    nameText_unmarked, annotationText_unmarked, Result.map_bind]
  refine bind_congr fun className => ?_
  rcases k.signature? with _ | s
  · rfl
  · dsimp only
    cases s.text h.annotationText <;> rfl

end Hierarchy

namespace Reflection

variable {x : Option Flag} (h : Hierarchy)

@[simp] theorem carries_unmarked (i : Instance) : carries (h.unmarked x) i = carries h i := by
  have hread := h.readOn?_unmarked (x := x) (.object i) "args" (by simp)
  simp only [carries, hread, Result.bind_map, Hierarchy.unmarked_info_runtimeName]
  refine bind_congr fun found => ?_
  rcases found with _ | ⟨_ | _, m⟩
  · rfl
  · rfl
  · simp only [Option.map_some, Member.truthy_unmarked]

@[simp] theorem leftBody_unmarked (e : Raised) : leftBody (h.unmarked x) e = leftBody h e := by
  have hread := h.readOn?_unmarked (x := x) (.object e.error) "__traceback__" (by simp)
  simp only [leftBody, hread, Result.bind_map, Hierarchy.unmarked_info_runtimeName]
  refine bind_congr fun found => ?_
  rcases found with _ | ⟨_ | _, m⟩
  · rfl
  · rfl
  · cases m <;> rfl

end Reflection

end UtilityClass
