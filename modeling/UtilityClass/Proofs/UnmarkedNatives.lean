import UtilityClass.Construction.Native
import UtilityClass.Proofs.Unmarked

/-!
# Native functions and marks

Native functions work on the values that they are given, and of a value they look at its class, at
the plain data that it stands for, and at what items it has. None of this tells whether a function
is marked that the value may hold, so native functions do the same on unmarked values as they do on
the values themselves, and as far as they look at classes at all it does not matter to them either
whether these are marked.

## Main results

* `NativeParameters.take_unmarked` : arguments that belong to parameters
* `Hierarchy.createNative_unmarked` : creation by a native function
-/

namespace UtilityClass

/-- Named arguments without marks. -/
def unmarkedNamed (named : List (String × Value)) : List (String × Value) :=
  named.map fun (name, v) => (name, v.unmarked)

section Arguments

variable (named : List (String × Value))

@[simp] theorem length_unmarkedNamed : (unmarkedNamed named).length = named.length :=
  List.length_map _

@[simp] theorem isEmpty_unmarkedNamed : (unmarkedNamed named).isEmpty = named.isEmpty :=
  List.isEmpty_map

theorem lookup_unmarkedNamed (name : String) :
    (unmarkedNamed named).lookup name = (named.lookup name).map Value.unmarked := by
  induction named with
  | nil => rfl
  | cons entry rest ih =>
    rw [unmarkedNamed, List.map_cons, ← unmarkedNamed, List.lookup_cons, List.lookup_cons, ih]
    cases name == entry.1 <;> rfl

theorem find?_unmarkedNamed (p : String → Bool) :
    ((unmarkedNamed named).find? fun entry => p entry.1) =
      (named.find? fun entry => p entry.1).map fun entry => (entry.1, entry.2.unmarked) :=
  List.find?_map

@[simp] theorem refuseNames_unmarked (name : String) :
    refuseNames name (unmarkedNamed named) = refuseNames name named := by
  rw [refuseNames, refuseNames, isEmpty_unmarkedNamed]

end Arguments

/-! ## Parameters -/

namespace NativeParameters

variable (p : NativeParameters) {check check' : Nat → Value → Except Fault Unit}
  (hcheck : ∀ place v, check' place v.unmarked = check place v) (named : List (String × Value))

include hcheck in
theorem fill_unmarked (place : Nat) (names : List (Option String)) (given : List Value) :
    p.fill check' (unmarkedNamed named) place names (given.map Value.unmarked) =
      (p.fill check named place names given).map (List.map (Option.map Value.unmarked)) := by
  induction names generalizing place given with
  | nil => rfl
  | cons name names ih =>
    cases given with
    | cons v given =>
      rw [List.map_cons, fill, fill, List.length_map, hcheck, ih]
      by_cases hmost : place = p.positional
      · rw [if_pos hmost, if_pos hmost]
        rfl
      · rw [if_neg hmost, if_neg hmost]
        cases check place v with
        | error e => rfl
        | ok u => cases p.fill check named (place + 1) names given <;> rfl
    | nil =>
      have hlookup : (name.bind fun n => (unmarkedNamed named).lookup n) =
          (name.bind fun n => named.lookup n).map Value.unmarked := by
        cases name with
        | none => rfl
        | some n => exact lookup_unmarkedNamed named n
      have hrest := ih (place + 1) []
      rw [List.map_nil] at hrest
      rw [List.map_nil, fill, fill, hlookup]
      rcases name.bind fun n => named.lookup n with _ | v
      · simp only [Option.map_none, hrest]
        by_cases hneeded : place < p.required
        · rw [if_pos hneeded, if_pos hneeded]
          rfl
        · rw [if_neg hneeded, if_neg hneeded]
          cases p.fill check named (place + 1) names [] <;> rfl
      · simp only [Option.map_some, hrest, hcheck]
        cases check place v with
        | error e => rfl
        | ok u => cases p.fill check named (place + 1) names [] <;> rfl

theorem checkNames_unmarked (given : Nat) :
    p.checkNames (unmarkedNamed named) given = p.checkNames named given := by
  have hlookup (name : String) : ((unmarkedNamed named).lookup name).isSome =
      (named.lookup name).isSome := by
    rw [lookup_unmarkedNamed, Option.isSome_map]
  have hother := find?_unmarkedNamed named fun name => !p.names.contains (some name)
  simp only [checkNames, hlookup, hother]
  rcases (p.names.take given).zipIdx.find? _ with _ | ⟨name, place⟩
  · rcases named.find? _ with _ | ⟨name, v⟩ <;> rfl
  · rfl

include hcheck in
/-- The arguments of the parameters are those that were given, without marks. -/
theorem take_unmarked (given : List Value) :
    p.take (given.map Value.unmarked) (unmarkedNamed named) check' =
      (p.take given named check).map (List.map (Option.map Value.unmarked)) := by
  simp only [take, List.length_map, length_unmarkedNamed, List.isEmpty_map,
    fill_unmarked p hcheck, checkNames_unmarked, Result.bind_map]
  split
  · rfl
  · simp only [Result.map_bind]
    exact bind_congr fun taken => by cases p.checkNames named given.length <;> rfl

end NativeParameters

theorem getD_map_unmarked (taken : List (Option Value)) (place : Nat) :
    (taken.map (Option.map Value.unmarked))[place]?.getD none =
      (taken[place]?.getD none).map Value.unmarked := by
  rw [List.getElem?_map]
  cases taken[place]? <;> rfl

theorem head?_getD_map_unmarked (taken : List (Option Value)) :
    (taken.map (Option.map Value.unmarked)).head?.getD none =
      (taken.head?.getD none).map Value.unmarked := by
  cases taken <;> rfl

/-- Arguments that are not checked any further. -/
theorem NativeParameters.take_acceptAny_unmarked (p : NativeParameters) (given : List Value)
    (named : List (String × Value)) :
    p.take (given.map Value.unmarked) (unmarkedNamed named) acceptAny =
      (p.take given named acceptAny).map (List.map (Option.map Value.unmarked)) :=
  p.take_unmarked (fun _ _ => rfl) named given

namespace Value

variable (v : Value)

@[simp] theorem truthy_unmarked : v.unmarked.truthy = v.truthy := by
  cases v <;> rfl

@[simp] theorem fields_unmarked : v.unmarked.fields = v.fields := by
  rw [fields, content?_unmarked, fields]

@[simp] theorem withContent_unmarked (content : Json) :
    v.unmarked.withContent content = v.withContent content := by
  cases v <;> rfl

@[simp] theorem plainData_unmarked (values : List Value) :
    plainData (values.map unmarked) = plainData values := by
  rw [plainData, plainData, List.map_map]
  refine List.map_congr_left fun v _ => ?_
  cases v <;> rfl

end Value

namespace Hierarchy

variable {x : Option Flag} {c : ClassId} (h : Hierarchy) (v : Value) (given : List Value)
  (named : List (String × Value))

/-! ## Readings of a value -/

@[simp] theorem indexOf_unmarked : (h.unmarked x).indexOf v.unmarked = h.indexOf v := by
  simp only [indexOf, Value.content?_unmarked, Value.kind_unmarked, Value.kind_unmarkedClasses]

@[simp] theorem itemsOf?_unmarked : itemsOf? v.unmarked = itemsOf? v := by
  cases v with
  | blueprint b =>
    show some ((unmarkedEntries b.entries).map _) = some (b.entries.map _)
    rw [unmarkedEntries, List.map_map]
    rfl
  | _ => rfl

@[simp] theorem itemsOf_unmarked : (h.unmarked x).itemsOf v.unmarked = h.itemsOf v := by
  simp only [itemsOf, itemsOf?_unmarked, Value.kind_unmarked, Value.kind_unmarkedClasses]

/-! ## The root -/

@[simp] theorem nativeInitialiser?_unmarked :
    (h.unmarked x).nativeInitialiser? c = h.nativeInitialiser? c := by
  rw [nativeInitialiser?, nativeInitialiser?, resolve?_unmarked h "__init__" (by simp)]
  rcases h.resolve? c "__init__" with _ | ⟨d, m⟩
  · rfl
  · cases m
    case native n => cases n <;> rfl
    all_goals rfl

@[simp] theorem createsAsRoot_unmarked : (h.unmarked x).createsAsRoot c = h.createsAsRoot c := rfl

@[simp] theorem initialisesAsRoot_unmarked :
    (h.unmarked x).initialisesAsRoot c = h.initialisesAsRoot c := by
  rw [initialisesAsRoot, nativeInitialiser?_unmarked, initialisesAsRoot]

theorem nativeBaseWithin_unmarked (fuel : Nat) :
    (h.unmarked x).nativeBaseWithin fuel c = h.nativeBaseWithin fuel c := by
  induction fuel generalizing c with
  | zero => rfl
  | succ fuel ih => rw [nativeBaseWithin, nativeBaseWithin, ih, unmarked_info_creator,
      unmarked_info_primary]

@[simp] theorem checkCreation_unmarked (creator : LibraryClass) :
    (h.unmarked x).checkCreation creator c = h.checkCreation creator c := by
  simp only [checkCreation, derives_unmarked, nativeBaseWithin_unmarked, unmarked_info_order,
    unmarked_info_runtimeName]

@[simp] theorem createRoot_unmarked (surplus : Bool) :
    (h.unmarked x).createRoot c surplus = h.createRoot c surplus := by
  simp only [createRoot, createsAsRoot_unmarked, initialisesAsRoot_unmarked,
    abstractNames_unmarked, unmarked_info_isBarred, unmarked_info_runtimeName]

@[simp] theorem initialiseRoot_unmarked (surplus : Bool) :
    (h.unmarked x).initialiseRoot c surplus = h.initialiseRoot c surplus := by
  simp only [initialiseRoot, createsAsRoot_unmarked, initialisesAsRoot_unmarked,
    unmarked_info_runtimeName]

/-! ## Exceptions -/

@[simp] theorem takesSystemArgumentsLate_unmarked :
    (h.unmarked x).takesSystemArgumentsLate c = h.takesSystemArgumentsLate c := by
  simp only [takesSystemArgumentsLate, nativeInitialiser?_unmarked, unmarked_info_creator]

@[simp] theorem withSystemArguments_unmarked (i : Instance) (arguments : List Json) :
    (h.unmarked x).withSystemArguments i arguments = h.withSystemArguments i arguments := rfl

@[simp] theorem createException_unmarked (creator : LibraryClass) :
    (h.unmarked x).createException creator c (given.map Value.unmarked) (unmarkedNamed named) =
      h.createException creator c given named := by
  simp only [createException, Value.plainData_unmarked, takesSystemArgumentsLate_unmarked,
    refuseNames_unmarked, withSystemArguments_unmarked, unmarked_info_runtimeName]

@[simp] theorem checkDecodingArguments_unmarked :
    (h.unmarked x).checkDecodingArguments (given.map Value.unmarked) =
      h.checkDecodingArguments given := by
  rcases given with _ | ⟨a, _ | ⟨b, _ | ⟨c, _ | ⟨d, _ | ⟨e, _ | ⟨f, rest⟩⟩⟩⟩⟩⟩
  case cons.cons.cons.cons.cons.nil =>
    simp only [checkDecodingArguments, List.map_cons, List.map_nil, indexOf_unmarked,
      Value.content?_unmarked, Value.isNull_unmarked, Value.kind_unmarked,
      Value.kind_unmarkedClasses]
  all_goals simp only [checkDecodingArguments, List.map_cons, List.map_nil, List.length_cons,
    List.length_nil, List.length_map]

@[simp] theorem initialiseException_unmarked (initialiser : LibraryClass) (i : Instance) :
    (h.unmarked x).initialiseException initialiser i (given.map Value.unmarked)
        (unmarkedNamed named) =
      h.initialiseException initialiser i given named := by
  have hother := find?_unmarkedNamed named fun key => !attributeErrorNames.contains key
  simp only [initialiseException, Value.plainData_unmarked, takesSystemArgumentsLate_unmarked,
    refuseNames_unmarked, withSystemArguments_unmarked, unmarked_info_runtimeName,
    checkDecodingArguments_unmarked, hother]
  generalize List.find? _ named = found
  rcases found with _ | ⟨key, v⟩ <;> rfl

/-! ## Texts and bytes -/

@[simp] theorem checkTextArgument_unmarked (function name : String) :
    (h.unmarked x).checkTextArgument function name v.unmarked =
      h.checkTextArgument function name v := by
  simp only [checkTextArgument, Value.content?_unmarked, Value.isNull_unmarked,
    Value.kind_unmarked, Value.kind_unmarkedClasses]

@[simp] theorem takeEncoded_unmarked (function source : String) :
    (h.unmarked x).takeEncoded function source (given.map Value.unmarked) (unmarkedNamed named) =
      (h.takeEncoded function source given named).map fun taken =>
        (taken.1.map Value.unmarked, taken.2.1.map Value.unmarked,
          taken.2.2.map Value.unmarked) := by
  have hcheck (name : String) (v : Option Value) :
      (v.map Value.unmarked).mapM ((h.unmarked x).checkTextArgument function name) =
        v.mapM (h.checkTextArgument function name) := by
    cases v with
    | none => rfl
    | some v => exact congrArg (some <$> ·) (h.checkTextArgument_unmarked v function name)
  simp only [takeEncoded, NativeParameters.take_acceptAny_unmarked, Result.bind_map,
    Result.map_bind, getD_map_unmarked, head?_getD_map_unmarked, hcheck]
  rfl

@[simp] theorem textOfValue_unmarked : (h.unmarked x).textOfValue v.unmarked = h.textOfValue v := by
  simp only [textOfValue, Value.content?_unmarked, Value.literal_unmarked,
    Value.literal_unmarkedClasses]

@[simp] theorem createText_unmarked :
    (h.unmarked x).createText (given.map Value.unmarked) (unmarkedNamed named) =
      h.createText given named := by
  simp only [createText, takeEncoded_unmarked, Result.bind_map]
  refine bind_congr fun taken => ?_
  obtain ⟨_ | source, encoding, errors⟩ := taken
  · rfl
  · simp only [Option.map_some, Option.isNone_map, textOfValue_unmarked, Value.content?_unmarked,
      Value.kind_unmarked, Value.kind_unmarkedClasses]

@[simp] theorem checkEncoding_unmarked : checkEncoding v.unmarked = checkEncoding v := by
  rw [checkEncoding, checkEncoding, Value.content?_unmarked]

@[simp] theorem checkByteSource_unmarked :
    (h.unmarked x).checkByteSource v.unmarked = h.checkByteSource v := by
  simp only [checkByteSource, Value.content?_unmarked, itemsOf?_unmarked, Value.kind_unmarked,
    Value.kind_unmarkedClasses]
  rfl

@[simp] theorem createBytes_unmarked :
    (h.unmarked x).createBytes (given.map Value.unmarked) (unmarkedNamed named) =
      h.createBytes given named := by
  simp only [createBytes, takeEncoded_unmarked, Result.bind_map]
  refine bind_congr fun taken => ?_
  obtain ⟨_ | v, _ | encoding, _ | errors⟩ := taken
  all_goals simp only [Option.map_some, Option.map_none, Value.content?_unmarked,
    checkEncoding_unmarked, checkByteSource_unmarked]

/-! ## Collections -/

@[simp] theorem itemsOfOne_unmarked (name : String) :
    (h.unmarked x).itemsOfOne name (given.map Value.unmarked) = h.itemsOfOne name given := by
  cases given with
  | nil => rfl
  | cons v rest =>
    simp only [itemsOfOne, List.map_cons, itemsOf_unmarked, List.length_cons, List.length_map]

@[simp] theorem createTuple_unmarked (refusesNames : Bool) :
    (h.unmarked x).createTuple refusesNames (given.map Value.unmarked) (unmarkedNamed named) =
      h.createTuple refusesNames given named := by
  simp only [createTuple, refuseNames_unmarked, itemsOfOne_unmarked]

@[simp] theorem createFrozenSet_unmarked (refusesNames : Bool) :
    (h.unmarked x).createFrozenSet c refusesNames (given.map Value.unmarked)
        (unmarkedNamed named) =
      h.createFrozenSet c refusesNames given named := by
  simp only [createFrozenSet, refuseNames_unmarked, itemsOfOne_unmarked,
    unmarked_info_runtimeName]

@[simp] theorem fillList_unmarked (refusesNames : Bool) :
    (h.unmarked x).fillList refusesNames (given.map Value.unmarked) (unmarkedNamed named) =
      h.fillList refusesNames given named := by
  simp only [fillList, refuseNames_unmarked, itemsOfOne_unmarked]

@[simp] theorem fillSet_unmarked :
    (h.unmarked x).fillSet c (given.map Value.unmarked) (unmarkedNamed named) =
      h.fillSet c given named := by
  simp only [fillSet, refuseNames_unmarked, itemsOfOne_unmarked, unmarked_info_runtimeName]

@[simp] theorem namedFields_unmarked : namedFields (unmarkedNamed named) = namedFields named := by
  rw [namedFields, namedFields, unmarkedNamed, List.map_map]
  refine List.map_congr_left fun entry _ => ?_
  show (entry.1, entry.2.unmarked.content?.getD .null) = _
  rw [Value.content?_unmarked]

/-- What a dictionary is filled with: the fields of an object, or what is read off the items of
anything else. -/
theorem source_unmarked {β : Type} (put : List (String × Json) → Except Fault β)
    (read : List Json → Except Fault β) (none : Except Fault β) :
    (match given.map Value.unmarked with
      | .data (.obj others) :: _ => put others
      | v :: _ => do read (← (h.unmarked x).itemsOf v)
      | [] => none) =
    (match given with
      | .data (.obj others) :: _ => put others
      | v :: _ => do read (← h.itemsOf v)
      | [] => none) := by
  rcases given with _ | ⟨v, rest⟩
  · rfl
  · have hitems := h.itemsOf_unmarked (x := x) v
    cases v
    case data value => cases value <;> rfl
    all_goals exact congrArg (· >>= read) hitems

@[simp] theorem updateDictionary_unmarked (name : String) (fields : List (String × Json)) :
    (h.unmarked x).updateDictionary name fields (given.map Value.unmarked) (unmarkedNamed named) =
      h.updateDictionary name fields given named := by
  rw [updateDictionary, updateDictionary, List.length_map, namedFields_unmarked]
  exact bind_congr fun _ => source_unmarked h given _ _ _

@[simp] theorem fillOrdered_unmarked (fields : List (String × Json)) :
    (h.unmarked x).fillOrdered fields (given.map Value.unmarked) (unmarkedNamed named) =
      h.fillOrdered fields given named := by
  rw [fillOrdered, fillOrdered, List.length_map, namedFields_unmarked]
  split
  · rfl
  · exact source_unmarked h given _ _ _

theorem mapM_unmarked {β : Type} {f g : Value → Except Fault β}
    (hfg : ∀ v, f v.unmarked = g v) : (given.map Value.unmarked).mapM f = given.mapM g := by
  induction given with
  | nil => rfl
  | cons v rest ih => rw [List.map_cons, List.mapM_cons, List.mapM_cons, hfg, ih]

@[simp] theorem createRange_unmarked :
    (h.unmarked x).createRange (given.map Value.unmarked) (unmarkedNamed named) =
      h.createRange given named := by
  simp only [createRange, refuseNames_unmarked, List.length_map,
    mapM_unmarked given fun v => h.indexOf_unmarked (x := x) v]

/-! ## Numbers -/

@[simp] theorem integerOf_unmarked : (h.unmarked x).integerOf v.unmarked = h.integerOf v := by
  simp only [integerOf, Value.content?_unmarked, Value.kind_unmarked, Value.kind_unmarkedClasses]

@[simp] theorem integerInBase_unmarked (base : Value) :
    (h.unmarked x).integerInBase v.unmarked base.unmarked = h.integerInBase v base := by
  simp only [integerInBase, indexOf_unmarked, Value.content?_unmarked]

@[simp] theorem createInteger_unmarked :
    (h.unmarked x).createInteger (given.map Value.unmarked) (unmarkedNamed named) =
      h.createInteger given named := by
  simp only [createInteger, NativeParameters.take_acceptAny_unmarked, Result.bind_map]
  refine bind_congr fun taken => ?_
  rcases taken with _ | ⟨_ | v, _ | ⟨_ | base, _ | ⟨other, rest⟩⟩⟩
  all_goals simp only [List.map_cons, List.map_nil, Option.map_some, Option.map_none,
    integerOf_unmarked, integerInBase_unmarked]

@[simp] theorem createTruth_unmarked :
    createTruth (given.map Value.unmarked) (unmarkedNamed named) = createTruth given named := by
  cases given with
  | nil => simp only [createTruth, List.map_nil, refuseNames_unmarked]
  | cons v rest =>
    simp only [createTruth, List.map_cons, refuseNames_unmarked, List.length_cons,
      List.length_map, List.head?_cons, Option.map_some, Value.truthy_unmarked]

@[simp] theorem doubleOf_unmarked : (h.unmarked x).doubleOf v.unmarked = h.doubleOf v := by
  simp only [doubleOf, Value.content?_unmarked, Value.kind_unmarked, Value.kind_unmarkedClasses]

@[simp] theorem createFloat_unmarked (refusesNames : Bool) :
    (h.unmarked x).createFloat refusesNames (given.map Value.unmarked) (unmarkedNamed named) =
      h.createFloat refusesNames given named := by
  cases given <;> simp only [createFloat, List.map_nil, List.map_cons, refuseNames_unmarked,
    doubleOf_unmarked, List.length_cons, List.length_map]

@[simp] theorem complexPart_unmarked (complaint : String) :
    (h.unmarked x).complexPart v.unmarked complaint = h.complexPart v complaint := by
  simp only [complexPart, Value.content?_unmarked, Value.kind_unmarked,
    Value.kind_unmarkedClasses]

@[simp] theorem createComplex_unmarked :
    (h.unmarked x).createComplex (given.map Value.unmarked) (unmarkedNamed named) =
      h.createComplex given named := by
  simp only [createComplex, NativeParameters.take_acceptAny_unmarked, Result.bind_map,
    getD_map_unmarked, head?_getD_map_unmarked]
  refine bind_congr fun taken => ?_
  have hreal (v : Option Value) : (v.map Value.unmarked).getD (.data (.int 0)) =
      (v.getD (.data (.int 0))).unmarked := by
    cases v <;> rfl
  rw [hreal]
  rcases taken[1]?.getD none with _ | v
  all_goals simp only [Option.map_some, Option.map_none, Option.bind_some,
    Value.content?_unmarked, Value.kind_unmarked, Value.kind_unmarkedClasses,
    complexPart_unmarked]
  rfl

@[simp] theorem decimalOf_unmarked : (h.unmarked x).decimalOf v.unmarked = h.decimalOf v := by
  simp only [decimalOf, Value.content?_unmarked, Value.kind_unmarked, Value.kind_unmarkedClasses]

@[simp] theorem createDecimal_unmarked :
    (h.unmarked x).createDecimal (given.map Value.unmarked) (unmarkedNamed named) =
      h.createDecimal given named := by
  simp only [createDecimal, NativeParameters.take_acceptAny_unmarked, Result.bind_map,
    getD_map_unmarked, head?_getD_map_unmarked]
  refine bind_congr fun taken => ?_
  rcases taken.head?.getD none with _ | v
  all_goals
    rcases taken[1]?.getD none with _ | context
    all_goals simp only [Option.map_some, Option.map_none, Option.any_some,
      Value.isNull_unmarked, decimalOf_unmarked]

@[simp] theorem fractionOf_unmarked (numerator denominator : Value) :
    fractionOf numerator.unmarked denominator.unmarked = fractionOf numerator denominator := by
  simp only [fractionOf, fractionOfOne, Value.isNull_unmarked, Value.content?_unmarked]

/-! ## Dates and durations -/

@[simp] theorem checkSmallInteger_unmarked :
    (h.unmarked x).checkSmallInteger v.unmarked = h.checkSmallInteger v := by
  simp only [checkSmallInteger, indexOf_unmarked]

@[simp] theorem packedText?_unmarked (length : Nat) (month : Char → Nat) :
    packedText? length month v.unmarked = packedText? length month v := by
  rw [packedText?, packedText?, Value.content?_unmarked]

@[simp] theorem integerOr_unmarked (usual : Int) (v : Option Value) :
    integerOr usual (v.map Value.unmarked) = integerOr usual v := by
  cases v with
  | none => rfl
  | some v => simp only [integerOr, Option.map_some, Option.bind_some, Value.content?_unmarked]

/-- A date that is made of its parts. -/
def dateOfParts : Except Fault Unit := do
  match ← (NativeParameters.ofNames none ["year", "month", "day"] 3).take given named
      fun _ v => h.checkSmallInteger v with
  | [year, month, day] => checkDate (integerOr 0 year) (integerOr 0 month) (integerOr 0 day)
  | _ => return

theorem dateOfParts_unmarked :
    (h.unmarked x).dateOfParts (given.map Value.unmarked) (unmarkedNamed named) =
      h.dateOfParts given named := by
  rw [dateOfParts, dateOfParts, NativeParameters.take_unmarked _
    (fun _ v => h.checkSmallInteger_unmarked v) named given, Result.bind_map]
  refine bind_congr fun taken => ?_
  rcases taken with _ | ⟨a, _ | ⟨b, _ | ⟨c, _ | ⟨d, rest⟩⟩⟩⟩
  case cons.cons.cons.nil => simp only [List.map_cons, List.map_nil, integerOr_unmarked]
  all_goals rfl

@[simp] theorem createDate_unmarked :
    (h.unmarked x).createDate (given.map Value.unmarked) (unmarkedNamed named) =
      h.createDate given named := by
  rcases given with _ | ⟨v, _ | ⟨w, rest⟩⟩
  · exact dateOfParts_unmarked h [] named
  · have hrest := dateOfParts_unmarked (x := x) h [v] named
    have hpacked := packedText?_unmarked v 4 Char.toNat
    simp only [createDate, List.map_cons, List.map_nil, hpacked] at hrest ⊢
    cases packedText? 4 Char.toNat v with
    | some text => rfl
    | none => exact hrest
  · exact dateOfParts_unmarked h (v :: w :: rest) named

/-- A moment that is made of its parts. -/
def momentOfParts : Except Fault Unit := do
  let taken ← momentParameters.take given named fun place v =>
    if place = 7 then .ok () else h.checkSmallInteger v
  match taken with
  | [year, month, day, hour, minute, second, microsecond, zone, fold] =>
    checkDate (integerOr 0 year) (integerOr 0 month) (integerOr 0 day)
    checkTime (integerOr 0 hour) (integerOr 0 minute) (integerOr 0 second)
      (integerOr 0 microsecond) (integerOr 0 fold)
    match zone with
    | some zone =>
      if ¬zone.isNull then
        .error (typeComplaint
          ("tzinfo argument must be None or of a tzinfo subclass, not type '" ++
            zone.kind h ++ "'"))
    | none => return
  | _ => return

theorem momentOfParts_unmarked :
    (h.unmarked x).momentOfParts (given.map Value.unmarked) (unmarkedNamed named) =
      h.momentOfParts given named := by
  have hcheck (place : Nat) (v : Value) :
      (if place = 7 then .ok () else (h.unmarked x).checkSmallInteger v.unmarked) =
        if place = 7 then .ok () else h.checkSmallInteger v := by
    rw [checkSmallInteger_unmarked]
  rw [momentOfParts, momentOfParts, NativeParameters.take_unmarked _ hcheck named given,
    Result.bind_map]
  refine bind_congr fun taken => ?_
  rcases taken with _ | ⟨a, _ | ⟨b, _ | ⟨c, _ | ⟨d, _ | ⟨e, _ | ⟨f, _ | ⟨g, _ | ⟨z, _ | ⟨fold,
    _ | ⟨more, rest⟩⟩⟩⟩⟩⟩⟩⟩⟩⟩
  case cons.cons.cons.cons.cons.cons.cons.cons.cons.nil =>
    simp only [List.map_cons, List.map_nil, integerOr_unmarked]
    cases z with
    | none => rfl
    | some z => simp only [Option.map_some, Value.isNull_unmarked, Value.kind_unmarked,
        Value.kind_unmarkedClasses]
  all_goals rfl

@[simp] theorem createMoment_unmarked :
    (h.unmarked x).createMoment (given.map Value.unmarked) (unmarkedNamed named) =
      h.createMoment given named := by
  have hpacked (v : Value) := packedText?_unmarked v 10 fun c => c.toNat % 128
  rcases given with _ | ⟨v, _ | ⟨zone, _ | ⟨w, rest⟩⟩⟩
  · exact momentOfParts_unmarked h [] named
  · have hrest := momentOfParts_unmarked (x := x) h [v] named
    simp only [createMoment, List.map_cons, List.map_nil, hpacked] at hrest ⊢
    cases packedText? 10 (fun c => c.toNat % 128) v with
    | some text => rfl
    | none => exact hrest
  · have hrest := momentOfParts_unmarked (x := x) h [v, zone] named
    simp only [createMoment, List.map_cons, List.map_nil, hpacked] at hrest ⊢
    cases packedText? 10 (fun c => c.toNat % 128) v with
    | some text =>
      show (do checkPacked "datetime" text; if !zone.unmarked.isNull then _) =
        (do checkPacked "datetime" text; if !zone.isNull then _)
      rw [Value.isNull_unmarked]
    | none => exact hrest
  · exact momentOfParts_unmarked h (v :: zone :: w :: rest) named

@[simp] theorem partOf_unmarked (name : String) (unit : Nat) :
    (h.unmarked x).partOf name unit v.unmarked = h.partOf name unit v := by
  simp only [partOf, Value.content?_unmarked, Value.kind_unmarked, Value.kind_unmarkedClasses]

@[simp] theorem createDuration_unmarked :
    (h.unmarked x).createDuration (given.map Value.unmarked) (unmarkedNamed named) =
      h.createDuration given named := by
  have hsum (taken : List (Option Value)) :
      (fun (sum : Int × Nat) (unit : String × Nat × Nat) => do
        match (taken[unit.2.1]?.getD none).map Value.unmarked with
        | some v => return addQuotients sum (← (h.unmarked x).partOf unit.1 unit.2.2 v)
        | none => return sum : Int × Nat → String × Nat × Nat → Except Fault (Int × Nat)) =
      fun sum unit => do
        match taken[unit.2.1]?.getD none with
        | some v => return addQuotients sum (← h.partOf unit.1 unit.2.2 v)
        | none => return sum := by
    funext sum unit
    cases taken[unit.2.1]?.getD none with
    | none => rfl
    | some v => simp only [Option.map_some, partOf_unmarked]
  simp only [createDuration, NativeParameters.take_acceptAny_unmarked, Result.bind_map,
    getD_map_unmarked]
  exact bind_congr fun taken => congrArg (List.foldlM · (0, 1) durationUnits >>= _) (hsum taken)

/-! ## Native functions by their families -/

@[simp] theorem createView_unmarked :
    (h.unmarked x).createView (given.map Value.unmarked) (unmarkedNamed named) =
      h.createView given named := by
  simp only [createView, NativeParameters.take_acceptAny_unmarked, Result.bind_map]
  refine bind_congr fun taken => ?_
  rcases taken with _ | ⟨_ | v, rest⟩
  · rfl
  · rfl
  · simp only [List.map_cons, Option.map_some, Value.kind_unmarked, Value.kind_unmarkedClasses]

@[simp] theorem createFunction_unmarked :
    (h.unmarked x).createFunction (given.map Value.unmarked) (unmarkedNamed named) =
      h.createFunction given named := by
  simp only [createFunction, NativeParameters.take_acceptAny_unmarked, Result.bind_map]
  refine bind_congr fun taken => ?_
  rcases taken with _ | ⟨_ | v, rest⟩
  · rfl
  · rfl
  · simp only [List.map_cons, Option.map_some, Value.isNull_unmarked, Value.kind_unmarked,
      Value.kind_unmarkedClasses]

/-- Creation by a native function does the same, and what it makes holds no members. -/
theorem createNative_unmarked (creator : LibraryClass) :
    (h.unmarked x).createNative creator c (given.map Value.unmarked) (unmarkedNamed named) =
      (h.createNative creator c given named).map Value.unmarked := by
  have hmade {β : Type} (made : Except Fault β) (f : β → Value) (hf : ∀ b, (f b).unmarked = f b) :
      (do return f (← made)) = (do return f (← made)).map Value.unmarked := by
    cases made with
    | error e => rfl
    | ok b => exact congrArg Except.ok (hf b).symm
  have hstands (family : LibraryClass) (content : Json) :
      (Value.standingFor family c content).unmarked = Value.standingFor family c content := by
    unfold Value.standingFor
    split <;> rfl
  simp only [createNative, initialisesAsRoot_unmarked, List.isEmpty_map, isEmpty_unmarkedNamed,
    createRoot_unmarked, createException_unmarked, createInteger_unmarked, createTruth_unmarked,
    createFloat_unmarked, createText_unmarked, createComplex_unmarked, createDecimal_unmarked,
    createBytes_unmarked, createTuple_unmarked, createFrozenSet_unmarked, createRange_unmarked,
    refuseNames_unmarked, List.length_map, createDate_unmarked, createMoment_unmarked,
    createDuration_unmarked, createView_unmarked, createFunction_unmarked]
  generalize creator.creationFamily = family
  split
  · exact hmade _ _ fun _ => rfl
  · exact hmade _ _ fun _ => rfl
  · exact hmade _ _ fun _ => rfl
  · exact hmade _ _ fun n => hstands _ _
  · exact hmade _ _ fun _ => rfl
  · exact hmade _ _ fun n => hstands _ _
  · exact hmade _ _ fun n => hstands _ _
  · exact congrArg Except.ok (hstands _ _).symm
  · exact congrArg Except.ok (hstands _ _).symm
  · exact hmade _ _ fun _ => rfl
  · exact hmade _ _ fun _ => rfl
  · split <;> rfl
  · split
    case h_5 =>
      cases refuseNames "slice" named with
      | error e => rfl
      | ok u => exact hmade _ _ fun _ => rfl
    case h_11 => rfl
    all_goals exact hmade _ _ fun _ => rfl

end Hierarchy

end UtilityClass
