import UtilityClass.Construction.Level
import UtilityClass.Proofs.BlindBodies
import UtilityClass.Proofs.BlindServices

/-!
# The machinery is blind to marks

The machinery stands on levels: each level calls functions, applies members and constructs objects
by asking the level beneath, and the lowest level refuses everything. So it is enough that a level
is blind to marks if the one beneath is, which is shown here function by function along the
definition of the machinery: functions with their bodies, native functions, members, and the
construction of an object.

Besides being blind, a level gives no class back where a member is called that creates what it
gives, unless it is given a namespace to make one of. This is what tells the functions that keep
track of abstract methods that they get no class which has been there before.

## Main results

* `Construction.callFunction_blind`, `Construction.applyNative_blind`, `Construction.apply_blind`
* `Construction.constructWith_blind`, `Construction.call_blind`, `Construction.textOf_blind`
* `Construction.apply_ne_ofClass` : what gives no class back
* `Machinery.level_isBlind` : **every level is blind to marks**
-/

namespace UtilityClass

open HasMarks (IsFinished)
open Act (BlindAt)

variable {m : Machinery}

namespace Construction

variable {x : Option Flag} {w : World} (hm : m.IsBlind)

/-! ## Functions -/

/-- What a call gives, next to something that stays. -/
theorem beside_blind {α β : Type} [HasMarks α] [HasMarks β] {act act' : Act α} {b : β}
    (hact : BlindAt x w act act') (hb : x.isSome → IsFinished b) :
    BlindAt x w (do return (← act, b)) (do return (← act', HasMarks.unmarked b)) :=
  hact.bind_of_flag fun _ _ _ hx ha => .pure rfl fun h => ⟨ha h, hb (hx h)⟩

section Given

variable (given : List Value) (named : List (String × Value))

theorem head_unmarked :
    ((given.map Value.unmarked).head?.getD .null) = (given.head?.getD .null).unmarked := by
  cases given <;> rfl

theorem filter_unmarkedNamed (p : String → Bool) :
    (unmarkedNamed named).filter (fun entry => p entry.1) =
      unmarkedNamed (named.filter fun entry => p entry.1) := by
  rw [unmarkedNamed, unmarkedNamed, List.filter_map]
  rfl

theorem names_unmarkedNamed : (unmarkedNamed named).map (·.1) = named.map (·.1) := by
  rw [unmarkedNamed, List.map_map]
  rfl

theorem argument_unmarked (parameters : List Parameter) (name : String) :
    (Signature.argument? Value.data parameters name (given.map Value.unmarked)
        (unmarkedNamed named)).getD .null =
      ((Signature.argument? Value.data parameters name given named).getD .null).unmarked := by
  rw [Signature.argument?_unmarked]
  cases Signature.argument? Value.data parameters name given named <;> rfl

end Given

include hm

theorem runService_blind (f : Function) (s : Service) (given : List Value)
    (named : List (String × Value)) (hgiven : x.isSome → AreFinished given named) :
    BlindAt x w (runService m f s given named)
      (runService m f.unmarked s (given.map Value.unmarked) (unmarkedNamed named)) := by
  show BlindAt x w (runService m f s given named)
    (runService m f s (given.map Value.unmarked) (unmarkedNamed named))
  unfold runService
  extract_lets argument others first argument' others' first'
  have hargument (name : String) : argument' name = (argument name).unmarked :=
    argument_unmarked given named f.parameters name
  have hothers : others' = unmarkedNamed others := filter_unmarkedNamed named fun name =>
    !f.parameters.any fun p => p.name == name && p.kind != .namedRest && p.kind != .positional
  have hfirst : first' = first.unmarked := head_unmarked given
  have hdrop : (given.map Value.unmarked).drop 1 = (given.drop 1).map Value.unmarked :=
    List.map_drop.symm
  have finished (name : String) (hx : x.isSome) : (argument name).IsFinished :=
    (hgiven hx).argument f.parameters name
  have hothersFinished (hx : x.isSome) : AreFinished (given.drop 1) others :=
    ((hgiven hx).drop 1).filter _
  have hfirstFinished (hx : x.isSome) : first.IsFinished := (hgiven hx).head
  clear_value argument argument' others others' first first'
  subst hothers hfirst
  rw [hdrop]
  simp only [hargument]
  cases s with
  | nothing => exact .pure rfl fun hx => ⟨trivial, hfirstFinished hx⟩
  | guardProtocol =>
    exact (guardProtocol_blind hm (argument "self") (given.drop 1) others (finished "self")
      hothersFinished).bind fun made w x hmade => .pure rfl fun hx => ⟨trivial, hmade hx⟩
  | findMember =>
    exact beside_blind (Enumeration.find_blind hm _ _ (finished "value")) hfirstFinished
  | callEnumeration =>
    exact beside_blind (Enumeration.answer_blind hm _ _ _ (finished "value")) hfirstFinished
  | createAbstract =>
    exact beside_blind (createAbstract_blind hm (argument "mcls")
      [argument "name", argument "bases", argument "namespace"] named fun hx => by
        simpa [AreFinished, finished _ hx] using (hgiven hx).2) hfirstFinished
  | createEnumeration =>
    exact beside_blind (createEnumeration_blind hm _ _ _ _ others (finished "classdict"))
      hfirstFinished
  | createFraction =>
    exact beside_blind (createFraction_blind hm _ _ _ (finished "cls")) hfirstFinished
  | fillDictionary =>
    exact (fillDictionary_blind hm _ _ named (finished "self") (finished "dict")).bind_of_flag
      fun _ _ _ hx _ => .pure rfl fun h => ⟨trivial, hfirstFinished (hx h)⟩

theorem runBody_blind (f : Function) (lead : Nat) (given : List Value)
    (named : List (String × Value)) (hgiven : x.isSome → AreFinished given named) :
    BlindAt x w (runBody m f lead given named)
      (runBody m f.unmarked lead (given.map Value.unmarked) (unmarkedNamed named)) := by
  have hbody : f.unmarked.body = f.body := rfl
  unfold runBody
  rw [hbody]
  cases f.body with
  | service s => exact runService_blind hm f s given named hgiven
  | statements list =>
    have hreceiver : (Signature.firstArgument? Value.data (f.parameters.drop lead)
        ((given.map Value.unmarked).drop lead) (unmarkedNamed named)).getD .null =
        ((Signature.firstArgument? Value.data (f.parameters.drop lead) (given.drop lead)
          named).getD .null).unmarked := by
      rw [← List.map_drop, Signature.firstArgument?_unmarked]
      cases Signature.firstArgument? Value.data (f.parameters.drop lead) (given.drop lead) named
      all_goals rfl
    have hframe (hx : x.isSome) : Frame.IsFinished ⟨f,
        (Signature.firstArgument? Value.data (f.parameters.drop lead) (given.drop lead)
          named).getD .null, .null⟩ :=
      ⟨((hgiven hx).drop lead).firstArgument _, trivial⟩
    have hrun := runStatements_blind hm x w _ list hframe
    dsimp only
    rw [show f.unmarked.parameters = f.parameters from rfl, hreceiver, List.isEmpty_map,
      head_unmarked]
    refine hrun.bind_of_flag fun result w' x' hx hended => ?_
    obtain ⟨ending, frame⟩ := result
    have hfirst {keeps : Bool} (v : Value) (hv : x'.isSome → v.IsFinished) : BlindAt x' w'
        (pure (v, if keeps then frame.receiver else given.head?.getD .null) : Act (Value × Value))
        (pure (v.unmarked,
          if keeps then frame.unmarked.receiver else (given.head?.getD .null).unmarked)) := by
      cases keeps
      · exact .pure rfl fun h => ⟨hv h, (hgiven (hx h)).head⟩
      · exact .pure rfl fun h => ⟨hv h, (hended h).2.receiver⟩
    cases ending with
    | gives value => exact hfirst value fun h => (hended h).1
    | goesOn => exact hfirst .null fun _ => trivial

theorem callFunction_blind (f : Function) (lead : Nat) (given : List Value)
    (named : List (String × Value)) (hgiven : x.isSome → AreFinished given named) :
    BlindAt x w (callFunction m f lead given named)
      (callFunction m f.unmarked lead (given.map Value.unmarked) (unmarkedNamed named)) := by
  have hpass : Signature.pass f.unmarked.parameters (given.map Value.unmarked).length
      ((unmarkedNamed named).map (·.1)) =
      Signature.pass f.parameters given.length (named.map (·.1)) := by
    rw [List.length_map, names_unmarkedNamed]
    rfl
  unfold callFunction
  rw [hpass]
  cases Signature.pass f.parameters given.length (named.map (·.1)) with
  | error e => exact .fail _
  | ok _ => exact (runBody_blind hm f lead given named hgiven).inFrame

/-! ## Native functions -/

omit hm

/-- The creating function of classes gets a name, bases and the namespace of a class under way, and
complains of all else. -/
theorem createClass_of_ne (metaclass : ClassId) {given : List Value}
    (hg : ∀ name bases b, given ≠ [.data (.str name), .tuple bases, .blueprint b]) :
    createClass m metaclass given =
      Act.classes >>= fun h => Act.fail (typeComplaint (classComplaint h given)) := by
  unfold createClass
  refine bind_congr fun h => ?_
  split
  · exact absurd rfl (hg _ _ _)
  · rfl

/-- No class is created without a namespace. -/
theorem createClass_fails (metaclass : ClassId) {given : List Value}
    (hg : ∀ v ∈ given, v.IsFinished) (w : World) :
    createClass m metaclass given w =
      (.error (Fault.raised (typeComplaint (classComplaint w.classes given))), w) := by
  rw [createClass_of_ne metaclass]
  · rfl
  · rintro name bases b rfl
    exact hg (.blueprint b) (by simp)

theorem exists_eq_of_map_unmarked {given : List Value} {name : String} {bases : List Subject}
    {b : Blueprint}
    (hg : given.map Value.unmarked = [.data (.str name), .tuple bases, .blueprint b]) :
    ∃ b, given = [.data (.str name), .tuple bases, .blueprint b] := by
  obtain ⟨v, rest, rfl, hname, hg⟩ := List.map_eq_cons_iff.1 hg
  obtain ⟨v', rest, rfl, hbases, hg⟩ := List.map_eq_cons_iff.1 hg
  obtain ⟨v'', rest, rfl, hspace, hg⟩ := List.map_eq_cons_iff.1 hg
  obtain rfl := List.map_eq_nil_iff.1 hg
  cases v <;> cases hname
  cases v' <;> cases hbases
  cases v'' <;> cases hspace
  exact ⟨_, rfl⟩

include hm

theorem createClass_blind (metaclass : ClassId) (given : List Value)
    (hgiven : x.isSome → ∀ v ∈ given, v.IsFinished) :
    BlindAt x w (createClass m metaclass given)
      (createClass m metaclass (given.map Value.unmarked)) := by
  by_cases hg : ∃ name bases b, given = [.data (.str name), .tuple bases, .blueprint b]
  · obtain ⟨name, bases, b, rfl⟩ := hg
    obtain rfl : x = none := by
      by_contra hx
      exact hgiven (Option.isSome_iff_ne_none.2 hx) (.blueprint b) (by simp)
    have htell (w : World) : BlindAt none w
        (do
          Act.setClasses (← Act.ofExcept ((← Act.classes).tellBases b.self))
          return .ofClass b.self)
        (do
          Act.setClasses (← Act.ofExcept ((← Act.classes).tellBases b.self))
          return .ofClass b.self : Act Value) :=
      .classes_bind (.ofExcept_bind _ w.classes.tellBases_unmarked fun g hg =>
        (BlindAt.setClasses_none (Hierarchy.keeps_of_tellBases hg).declared rfl).bind_none
          fun _ _ => .pure rfl fun _ => trivial)
    refine .classes_bind (.ofExcept_bind _ (w.classes.make_unmarked _ name _ (by simp)) fun g hg =>
      (BlindAt.setClasses_none (Hierarchy.declared_of_make hg) rfl).bind_none fun _ w => ?_)
    rw [Blueprint.plan_unmarked]
    cases b.plan with
    | none => exact htell w
    | some p =>
      exact (Enumeration.makeMembers_blind hm b.self p).bind_none fun _ w => htell w
  · have hsame : ∀ name bases b, given.map Value.unmarked ≠
        [.data (.str name), .tuple bases, .blueprint b] := by
      intro name bases b h
      exact hg ⟨name, bases, exists_eq_of_map_unmarked h⟩
    have hg : ∀ name bases b, given ≠ [.data (.str name), .tuple bases, .blueprint b] :=
      fun name bases b h => hg ⟨name, bases, b, h⟩
    rw [createClass_of_ne metaclass hg, createClass_of_ne metaclass hsame]
    refine .classes_bind ?_
    rw [classComplaint_unmarked]
    exact .fail _

theorem createNatively_blind (l : LibraryClass) (c : ClassId) (given : List Value)
    (named : List (String × Value)) (hgiven : x.isSome → AreFinished given named) :
    BlindAt x w (createNatively m l c given named)
      (createNatively m l c (given.map Value.unmarked) (unmarkedNamed named)) :=
  .ite_iff Iff.rfl (createClass_blind hm c given fun hx => (hgiven hx).1)
    (.classes_bind (.ofExcept (w.classes.createNative_unmarked given named l) fun _ _ hv =>
      (Hierarchy.isSimple_createNative hv).isFinished))

omit hm in
theorem complain_blind (message : String) :
    BlindAt x w (complain message) (complain message) := .fail _

/-- What a native function answers for an object that has a method for it: the methods of the
library give the usual answer, and what a declared method gives is no good. -/
def answerBy (m : Machinery) (name : String) (usual : Value) (absent : String → Refusal)
    (complaint : String → String) (h : Hierarchy) (v : Value) : Act Value :=
  match h.resolve? (v.type h) name with
  | some (.declared _, method) => do
    let (method, front) ← Act.ofExcept (h.bind method v)
    let (value, _) ← m.apply method front []
    complain (complaint (value.kind h))
  | some _ => return usual
  | none => Act.refuse (absent (v.kind h))

theorem answerBy_blind (name : String) (hn : name ≠ "__final__") (usual : Value)
    (husual : usual.unmarked = usual) (hfinished : usual.IsFinished) (absent : String → Refusal)
    (complaint : String → String) (v : Value) (hv : x.isSome → v.IsFinished) :
    BlindAt x w (answerBy m name usual absent complaint w.classes v)
      (answerBy m name usual absent complaint (w.classes.unmarked x) v.unmarked) := by
  unfold answerBy
  simp only [Value.type_unmarked, Value.type_unmarkedClasses, Value.kind_unmarked,
    Value.kind_unmarkedClasses]
  rw [w.classes.resolve?_unmarked name fun _ => hn]
  rcases w.classes.resolve? (v.type w.classes) name with _ | ⟨_ | _, method⟩
  · exact .refuse _
  · exact .pure husual.symm fun _ => hfinished
  · refine .ofExcept_bind _ (w.classes.bind_unmarked v method) fun (method, front) hbound => ?_
    refine (hm.apply x w method front [] fun hx => ?_).bind fun made w x _ => ?_
    · exact ⟨Hierarchy.isFinished_bind (hv hx) hbound, by simp⟩
    · simp only [HasMarks.unmarked, Value.kind_unmarked]
      exact complain_blind _

omit hm in
theorem lengthOfData_blind (value : Json) :
    BlindAt x w
      (match value.items? with
        | some items => return Value.data (.int items.length)
        | none => Act.refuse (.noLength value.kind))
      (match value.items? with
        | some items => return Value.data (.int items.length)
        | none => Act.refuse (.noLength value.kind)) := by
  cases value.items? with
  | some items => exact .pure rfl fun _ => trivial
  | none => exact .refuse _

theorem lengthOf_blind (given : List Value) (named : List (String × Value))
    (hgiven : x.isSome → AreFinished given named) :
    BlindAt x w (lengthOf m given named)
      (lengthOf m (given.map Value.unmarked) (unmarkedNamed named)) := by
  refine .classes_bind ?_
  rcases named with _ | ⟨entry, named⟩
  · rcases given with _ | ⟨v, _ | ⟨v', rest⟩⟩
    · exact complain_blind _
    · have hv (hx : x.isSome) : v.IsFinished := (hgiven hx).1 v List.mem_cons_self
      cases v
      case data value => exact lengthOfData_blind value
      all_goals
        exact answerBy_blind hm "__len__" (by simp) (.data (.int 0)) rfl trivial .noLength
          (fun kind => "'" ++ kind ++ "' object cannot be interpreted as an integer") _ hv
    · have hlength : ((v :: v' :: rest).map Value.unmarked).length = (v :: v' :: rest).length :=
        List.length_map _
      have hmany : BlindAt x w
          (complain ("len() takes exactly one argument (" ++
            intText (v :: v' :: rest).length ++ " given)"))
          (complain ("len() takes exactly one argument (" ++
            intText ((v :: v' :: rest).map Value.unmarked).length ++ " given)")) := by
        rw [hlength]
        exact complain_blind _
      cases v <;> exact hmany
  · exact .refuse _

theorem iterate_blind (given : List Value) (named : List (String × Value))
    (hgiven : x.isSome → AreFinished given named) :
    BlindAt x w (iterate m given named)
      (iterate m (given.map Value.unmarked) (unmarkedNamed named)) := by
  refine .classes_bind ?_
  rcases named with _ | ⟨entry, named⟩
  · rcases given with _ | ⟨v, _ | ⟨v', _ | ⟨v'', rest⟩⟩⟩
    · exact .same_bind rfl fun _ _ => .pure rfl fun _ => trivial
    · have hv (hx : x.isSome) : v.IsFinished := (hgiven hx).1 v List.mem_cons_self
      cases v
      case data value =>
        exact .discard_bind id (id_map _).symm (.pure rfl fun _ => trivial)
      all_goals
        exact answerBy_blind hm "__iter__" (by simp)
          (.object (Instance.bare LibraryClass.generator)) rfl trivial .notIterable
          (fun kind => "iter() returned non-iterator of type '" ++ kind ++ "'") _ hv
    · cases v
      case ofClass c => exact .pure rfl fun _ => trivial
      all_goals exact complain_blind _
    · have hlength : ((v :: v' :: v'' :: rest).map Value.unmarked).length =
          (v :: v' :: v'' :: rest).length := List.length_map _
      have hmany : BlindAt x w
          (do
            Act.ofExcept (checkCount "iter" 1 2 (v :: v' :: v'' :: rest).length)
            return .null)
          (do
            Act.ofExcept
              (checkCount "iter" 1 2 ((v :: v' :: v'' :: rest).map Value.unmarked).length)
            return .null : Act Value) := by
        rw [hlength]
        exact .same_bind rfl fun _ _ => .pure rfl fun _ => trivial
      cases v <;> exact hmany
  · exact .refuse _

omit hm

theorem content_head_unmarked (given : List Value) :
    (given.map Value.unmarked).head?.bind Value.content? = given.head?.bind Value.content? := by
  cases given <;> simp

/-- The value of a key among fields. -/
def entryOf (fields : List (String × Json)) : Json → Option Value
  | .str name => (fields.lookup name).map Value.data
  | _ => none

theorem isFinished_entryOf {fields : List (String × Json)} {key : Json} {v : Value}
    (hv : entryOf fields key = some v) : v.IsFinished := by
  cases key
  case str name =>
    obtain ⟨value, -, rfl⟩ := Option.map_eq_some_iff.1 hv
    trivial
  all_goals cases hv

/-- What is taken out of fields, or what is given in its place. -/
def popped (fields : List (String × Json)) (key : Json) (other : Option Value) :
    Except Fault Value :=
  match (entryOf fields key).or other with
  | some value => .ok value
  | none => .error (.absentKey key)

theorem popped_unmarked (fields : List (String × Json)) (key : Json) (other : Option Value) :
    popped fields key (other.map Value.unmarked) =
      (popped fields key other).map Value.unmarked := by
  unfold popped
  cases he : entryOf fields key with
  | some value => exact congrArg Except.ok (isFinished_entryOf he).unmarked_eq.symm
  | none => cases other <;> rfl

theorem isFinished_popped {fields : List (String × Json)} {key : Json} {other : Option Value}
    {v : Value} (ho : ∀ v ∈ other, v.IsFinished) (hv : popped fields key other = .ok v) :
    v.IsFinished := by
  unfold popped at hv
  cases he : entryOf fields key with
  | some value =>
    rw [he] at hv
    cases hv
    exact isFinished_entryOf he
  | none =>
    rw [he] at hv
    cases other with
    | some value =>
      cases hv
      exact ho _ rfl
    | none => cases hv

theorem pop_eq (fields : List (String × Json)) (given : List Value) :
    applyMethod.pop fields given = (do
      if given.isEmpty then .error (typeComplaint "pop expected at least 1 argument, got 0")
      if 2 < given.length then
        .error (typeComplaint ("pop expected at most 2 arguments, got " ++ intText given.length))
      let key := (given.head?.bind Value.content?).getD .null
      if ¬fields.isEmpty then checkKeys [key]
      popped fields key given[1]?) := rfl

theorem pop_unmarked (fields : List (String × Json)) (given : List Value) :
    applyMethod.pop fields (given.map Value.unmarked) =
      (applyMethod.pop fields given).map Value.unmarked := by
  simp only [pop_eq, List.isEmpty_map, List.length_map, content_head_unmarked,
    List.getElem?_map, popped_unmarked]
  split
  · rfl
  · split
    · rfl
    · split
      · exact (Result.map_bind _ _).symm
      · rfl

theorem isFinished_pop {fields : List (String × Json)} {given : List Value} {v : Value}
    (hgiven : ∀ v ∈ given, v.IsFinished) (hv : applyMethod.pop fields given = .ok v) :
    v.IsFinished := by
  rw [pop_eq] at hv
  obtain ⟨-, hv⟩ := Result.ite_error_eq_ok_iff.1 hv
  obtain ⟨-, hv⟩ := Result.ite_error_eq_ok_iff.1 hv
  have hother : ∀ v ∈ given[1]?, v.IsFinished := fun v hv => hgiven v (List.mem_of_getElem? hv)
  dsimp only at hv
  split at hv
  · obtain ⟨-, -, hv⟩ := Result.bind_eq_ok_iff.1 hv
    exact isFinished_popped hother hv
  · exact isFinished_popped hother hv

theorem applyMethod_blind (n : Native) (self : Value) (given : List Value)
    (named : List (String × Value)) (hgiven : x.isSome → AreFinished given named) :
    BlindAt x w (applyMethod n self given named)
      (applyMethod n self.unmarked (given.map Value.unmarked) (unmarkedNamed named)) := by
  refine .classes_bind ?_
  have hupdate : BlindAt x w
      (discard (Act.ofExcept (w.classes.updateDictionary "update" self.fields given named)) >>=
        fun _ => pure .null)
      (discard (Act.ofExcept ((w.classes.unmarked x).updateDictionary "update"
        self.unmarked.fields (given.map Value.unmarked) (unmarkedNamed named))) >>=
          fun _ => pure (Value.null)) := by
    rw [Value.fields_unmarked, Hierarchy.updateDictionary_unmarked]
    exact .discard_bind id (id_map _).symm (.pure rfl fun _ => trivial)
  cases n
  case pop c =>
    refine .ite_iff (by simp) (.refuse _) (.ofExcept ?_ fun hx v hv =>
      isFinished_pop (hgiven hx).1 hv)
    rw [Value.fields_unmarked]
    exact pop_unmarked _ _
  case clear c =>
    refine .ite_iff (by simp) (.refuse _) (.ite_iff (by simp) (.pure rfl fun _ => trivial) ?_)
    rw [List.length_map]
    exact complain_blind _
  all_goals exact hupdate

include hm

theorem applyNative_blind (n : Native) (given : List Value) (named : List (String × Value))
    (hgiven : x.isSome → AreFinished given named) :
    BlindAt x w (applyNative m n given named)
      (applyNative m n (given.map Value.unmarked) (unmarkedNamed named)) := by
  refine .classes_bind ?_
  have hfirst (hx : x.isSome) := (hgiven hx).head
  rcases given with _ | ⟨self, rest⟩
  · cases n
    case initialise | describe => exact .refuse _
    case length => exact beside_blind (lengthOf_blind hm [] named hgiven) hfirst
    case iterate => exact beside_blind (iterate_blind hm [] named hgiven) hfirst
    case field => exact .pure rfl fun _ => ⟨trivial, trivial⟩
    all_goals exact beside_blind (complain_blind _) hfirst
  · have hrest (hx : x.isSome) : AreFinished rest named := (hgiven hx).drop 1
    have hself (hx : x.isSome) : self.IsFinished := hfirst hx
    have hmethod : BlindAt x w
        (do
          Act.ofExcept (w.classes.checkHome (.native n) self)
          return (← applyMethod n self rest named, self))
        (do
          Act.ofExcept ((w.classes.unmarked x).checkHome (.native n) self.unmarked)
          return (← applyMethod n self.unmarked (rest.map Value.unmarked) (unmarkedNamed named),
            self.unmarked)) :=
      .same_bind (w.classes.checkHome_unmarked self (.native n)) fun _ _ =>
        beside_blind (applyMethod_blind n self rest named hrest) hself
    cases n
    case create l =>
      have hrefused : BlindAt x w
          (Act.refuse (.notATypeObject (w.classes.info l).runtimeName (self.kind w.classes)) :
            Act (Value × Value))
          (Act.refuse (.notATypeObject ((w.classes.unmarked x).info l).runtimeName
            (self.unmarked.kind (w.classes.unmarked x)))) := by
        rw [Value.kind_unmarkedClasses, Value.kind_unmarked]
        exact .refuse _
      cases self
      case ofClass c =>
        exact .same_bind (w.classes.checkCreation_unmarked l) fun _ _ =>
          beside_blind (createNatively_blind hm l c rest named hrest) hself
      all_goals exact hrefused
    case initialise l =>
      refine .ite_iff (by simp) ?_ (.ofExcept_bind _
        (w.classes.initialiseNative_unmarked self rest named l) fun made hmade =>
          .pure rfl fun hx => ⟨trivial, Hierarchy.isFinished_initialiseNative (hself hx) hmade⟩)
      rw [Value.kind_unmarkedClasses, Value.kind_unmarked]
      exact .fail_bind _
    case describe l =>
      have hforeign {f f' : PUnit → Act (Value × Value)} : BlindAt x w
          (Act.refuse (.foreignReceiver "__str__" (w.classes.info l).runtimeName
            (self.kind w.classes)) >>= f)
          (Act.refuse (.foreignReceiver "__str__" ((w.classes.unmarked x).info l).runtimeName
            (self.unmarked.kind (w.classes.unmarked x))) >>= f') := by
        rw [Value.kind_unmarkedClasses, Value.kind_unmarked]
        exact .fail_bind _
      refine .ite_iff (by simp) hforeign (.ite_iff (by simp) ?_ ?_)
      · rw [List.length_map]
        exact .fail_bind _
      · cases self
        case object i => exact .pure rfl fun _ => ⟨trivial, trivial⟩
        all_goals exact .pure rfl fun hx => ⟨trivial, hself hx⟩
    case length => exact beside_blind (lengthOf_blind hm _ named hgiven) hfirst
    case iterate => exact beside_blind (iterate_blind hm _ named hgiven) hfirst
    case field => exact .pure rfl fun hx => ⟨trivial, hself hx⟩
    all_goals exact hmethod

/-! ## Members -/

theorem apply_blind (member : Member) (given : List Value) (named : List (String × Value))
    (hgiven : x.isSome → AreFinished given named) :
    BlindAt x w (apply m member given named)
      (apply m member.unmarked (given.map Value.unmarked) (unmarkedNamed named)) := by
  cases member with
  | function f => exact callFunction_blind hm f 0 given named hgiven
  | static f marker => exact callFunction_blind hm f 0 given named hgiven
  | callable f =>
    have hcall := callFunction_blind (x := x) (w := w) hm f 1
      (.object (Instance.bare LibraryClass.object) :: given) named
      fun hx => (hgiven hx).cons trivial
    refine hcall.bind_of_flag fun made w' x' hx hmade => .pure ?_ fun h =>
      ⟨(hmade h).1, (hgiven (hx h)).head⟩
    rw [head_unmarked]
    rfl
  | classwise f marker => exact .refuse _
  | data value => exact .refuse _
  | native n => exact applyNative_blind hm n given named hgiven
  | part isBound =>
    refine .pure ?_ fun hx => ⟨trivial, (hgiven hx).head⟩
    rw [head_unmarked]
    rfl
  | place name =>
    have hrefused : BlindAt x w (Act.refuse (.notCallable (Member.place name).kind) :
        Act (Value × Value)) (Act.refuse (.notCallable (Member.place name).kind)) := .refuse _
    cases given with
    | nil => exact hrefused
    | cons v rest =>
      cases v
      case object i => exact .classes_bind (.fail _)
      all_goals exact hrefused
  | enumerated truthy => exact .refuse _

theorem applyOn_blind (member : Member) (v : Value) (given : List Value)
    (named : List (String × Value)) (hv : x.isSome → v.IsFinished)
    (hgiven : x.isSome → AreFinished given named) :
    BlindAt x w (applyOn m member v given named)
      (applyOn m member.unmarked v.unmarked (given.map Value.unmarked) (unmarkedNamed named)) := by
  refine .classes_bind ?_
  dsimp only
  rw [Value.type_unmarkedClasses, Value.type_unmarked, Member.onObject_unmarkedBoth,
    ← List.map_append]
  exact (apply_blind hm _ _ named fun hx =>
    (hgiven hx).append (member.isFinished_onObject (hv hx) _)).bind
      fun made _ _ hmade => .pure rfl fun hx => (hmade hx).1

/-! ## Constructing -/

theorem create_blind (c : ClassId) (given : List Value) (named : List (String × Value))
    (hgiven : x.isSome → AreFinished given named) :
    BlindAt x w (create m c given named)
      (create m c (given.map Value.unmarked) (unmarkedNamed named)) := by
  refine .classes_bind ?_
  rw [Hierarchy.unmarked_info_creator]
  cases (w.classes.info c).creator with
  | some l => exact createNatively_blind hm l c given named hgiven
  | none =>
    refine .ofExcept_bind _ (w.classes.read_unmarked "__new__" (by simp)) fun a _ => ?_
    rw [ClassAttribute.on_unmarked]
    have happly := apply_blind (x := x) (w := w) hm (a.on w.classes c).1
      ((a.on w.classes c).2 ++ .ofClass c :: given) named fun hx =>
        ((hgiven hx).cons (Value.isFinished_ofClass c)).append (a.isFinished_on w.classes c)
    rw [List.map_append, a.map_unmarked_on] at happly
    exact happly.bind fun made _ _ hmade => .pure rfl fun hx => (hmade hx).1

theorem initialise_blind (v : Value) (given : List Value) (named : List (String × Value))
    (hv : x.isSome → v.IsFinished) (hgiven : x.isSome → AreFinished given named) :
    BlindAt x w (initialise m v given named)
      (initialise m v.unmarked (given.map Value.unmarked) (unmarkedNamed named)) := by
  refine .classes_bind ?_
  rw [Value.type_unmarkedClasses, Value.type_unmarked,
    w.classes.resolve?_unmarked "__init__" (by simp)]
  rcases w.classes.resolve? (v.type w.classes) "__init__" with _ | ⟨owner, member⟩
  · exact .pure rfl hv
  · dsimp only [Option.map_some]
    rw [Member.onObject_unmarkedBoth, ← List.map_append, Member.takesObject_unmarked]
    refine (apply_blind hm _ _ named fun hx => (hgiven hx).append
      (member.isFinished_onObject (hv hx) _)).bind_of_flag fun (value, first) w' x' hx hmade => ?_
    have hgives : BlindAt x' w' (pure (if member.takesObject then first else v) : Act Value)
        (pure (if member.takesObject then first.unmarked else v.unmarked)) := by
      cases member.takesObject
      · exact .pure rfl fun h => hv (hx h)
      · exact .pure rfl fun h => (hmade h).2
    refine .ite_iff (by simp [HasMarks.unmarked]) (.classes_bind ?_) hgives
    simp only [HasMarks.unmarked, Value.kind_unmarked, Value.kind_unmarkedClasses]
    exact .fail_bind _

theorem constructWith_blind (c : ClassId) (given : List Value) (named : List (String × Value))
    (hgiven : x.isSome → AreFinished given named) :
    BlindAt x w (constructWith m c given named)
      (constructWith m c (given.map Value.unmarked) (unmarkedNamed named)) := by
  have hbuild (w : World) (y : Option Flag) (hy : y.isSome → x.isSome) : BlindAt y w
      (do
        let made ← create m c given named
        if made.isOf (← Act.classes) c then initialise m made given named else return made)
      (do
        let made ← create m c (given.map Value.unmarked) (unmarkedNamed named)
        if made.isOf (← Act.classes) c then
          initialise m made (given.map Value.unmarked) (unmarkedNamed named)
        else return made) := by
    refine (create_blind hm c given named fun h => hgiven (hy h)).bind_of_flag
      fun made w' z hz hmade => .classes_bind (.ite_iff (by simp) ?_ (.pure rfl hmade))
    exact initialise_blind hm made given named hmade fun h => hgiven (hy (hz h))
  refine .ite_iff Iff.rfl ?_ (hbuild w x id)
  have hfail (message : String) {f f' : Unit → Act Value} : BlindAt x w
      (discard (complain message) >>= f) (discard (complain message) >>= f') := .fail_bind _
  rcases given with _ | ⟨v, _ | ⟨v', _ | ⟨v'', _ | ⟨_, _⟩⟩⟩⟩
  case cons.nil =>
    cases named with
    | nil =>
      refine .classes_bind (.pure ?_ fun _ => trivial)
      rw [Value.type_unmarkedClasses, Value.type_unmarked]
      rfl
    | cons entry named => exact hfail _
  case cons.cons.cons.nil => exact hbuild w x id
  all_goals exact hfail _

theorem callObject_blind (v : Value) (given : List Value) (named : List (String × Value))
    (hgiven : x.isSome → v.IsFinished ∧ AreFinished given named) :
    BlindAt x w
      (match w.classes.resolve? (v.type w.classes) "__call__" with
        | some (_, member) => applyOn m member v given named
        | none => Act.refuse (.notCallable (v.kind w.classes)))
      (match (w.classes.unmarked x).resolve? (v.unmarked.type (w.classes.unmarked x))
          "__call__" with
        | some (_, member) =>
          applyOn m member v.unmarked (given.map Value.unmarked) (unmarkedNamed named)
        | none => Act.refuse (.notCallable (v.unmarked.kind (w.classes.unmarked x)))) := by
  simp only [Value.type_unmarked, Value.type_unmarkedClasses, Value.kind_unmarked,
    Value.kind_unmarkedClasses]
  rw [w.classes.resolve?_unmarked "__call__" (by simp)]
  rcases w.classes.resolve? (v.type w.classes) "__call__" with _ | ⟨_, member⟩
  · exact .refuse _
  · exact applyOn_blind hm member v given named (fun hx => (hgiven hx).1) fun hx => (hgiven hx).2

theorem callClass_blind (c : ClassId) (given : List Value) (named : List (String × Value))
    (hgiven : x.isSome → AreFinished given named) :
    BlindAt x w
      (match w.classes.resolve? (w.classes.info c).metaclass "__call__" with
        | some (_, .part _) | none => constructWith m c given named
        | some (_, member) => applyOn m member (.ofClass c) given named)
      (match (w.classes.unmarked x).resolve? (w.classes.info c).metaclass "__call__" with
        | some (_, .part _) | none =>
          constructWith m c (given.map Value.unmarked) (unmarkedNamed named)
        | some (_, member) =>
          applyOn m member (.ofClass c) (given.map Value.unmarked) (unmarkedNamed named)) := by
  have hconstruct := constructWith_blind (x := x) (w := w) hm c given named hgiven
  rw [w.classes.resolve?_unmarked "__call__" (by simp)]
  rcases w.classes.resolve? (w.classes.info c).metaclass "__call__" with _ | ⟨_, member⟩
  · exact hconstruct
  · have happly := applyOn_blind (x := x) (w := w) hm member (.ofClass c) given named
      (fun _ => trivial) hgiven
    cases member
    case part => exact hconstruct
    all_goals exact happly

theorem call_blind (v : Value) (given : List Value) (named : List (String × Value))
    (hgiven : x.isSome → v.IsFinished ∧ AreFinished given named) :
    BlindAt x w (call m v given named)
      (call m v.unmarked (given.map Value.unmarked) (unmarkedNamed named)) := by
  refine .classes_bind ?_
  cases v
  case ofClass c => exact callClass_blind hm c given named fun hx => (hgiven hx).2
  all_goals exact callObject_blind hm _ given named hgiven

/-- The text that a method gives. -/
theorem methodText_blind (i : Instance) (member : Member) :
    BlindAt x w
      (do
        let v ← applyOn m member (.object i) [] []
        match v.content? with
        | some (.str text) => return text
        | _ => Act.refuse (.nonText "__str__" (v.kind (← Act.classes))))
      (do
        let v ← applyOn m member.unmarked (.object i) [] []
        match v.content? with
        | some (.str text) => return text
        | _ => Act.refuse (.nonText "__str__" (v.kind (← Act.classes)))) := by
  refine (applyOn_blind hm member (.object i) [] [] (fun _ => trivial) fun _ => .nil).bind
    fun v w x _ => ?_
  rw [HasMarks.unmarked_value, Value.content?_unmarked]
  have hrefused : BlindAt x w
      (do Act.refuse (.nonText "__str__" (v.kind (← Act.classes))) : Act String)
      (do Act.refuse (.nonText "__str__" (v.unmarked.kind (← Act.classes)))) := by
    refine .classes_bind ?_
    simp only [Value.kind_unmarked, Value.kind_unmarkedClasses]
    exact .refuse _
  rcases v.content? with _ | content
  · exact hrefused
  · cases content
    case str text => exact .pure rfl fun _ => trivial
    all_goals exact hrefused

theorem textOf_blind (i : Instance) : BlindAt x w (textOf m i) (textOf m i) := by
  refine .classes_bind ?_
  rw [w.classes.resolve?_unmarked "__str__" (by simp)]
  rcases w.classes.resolve? i.type "__str__" with _ | ⟨_, member⟩
  · exact .pure rfl fun _ => trivial
  · cases member
    case part => exact .pure rfl fun _ => trivial
    all_goals exact methodText_blind hm i _

end Construction

/-! ## What gives back no class -/

namespace Construction

variable {w : World} {given : List Value} {named : List (String × Value)}

/-- No enumeration is created without a namespace. -/
theorem createEnumeration_ne_ok (metaclass name bases : Value) {space : Value}
    (hspace : space.IsFinished) (made : Value) (w' : World) :
    createEnumeration m metaclass name bases space named w ≠ (.ok made, w') := by
  intro hr
  obtain ⟨h, w₁, -, hr⟩ := Act.bind_eq_ok_iff.1 hr
  have hrefused (isDictionary : Prop) [Decidable isDictionary] (e e' : Fault) :
      (if isDictionary then Act.fail e else Act.fail e' : Act Value) w₁ ≠ (.ok made, w') := by
    by_cases hd : isDictionary
    · rw [if_pos hd]
      nofun
    · rw [if_neg hd]
      nofun
  cases space
  case blueprint b => exact hspace
  all_goals exact hrefused _ _ _ hr

theorem callFunction_ne_ok {f : Function} (hf : f.body = .service .createEnumeration)
    (hgiven : AreFinished given named) (lead : Nat) (made : Value × Value) (w' : World) :
    callFunction m f lead given named w ≠ (.ok made, w') := by
  intro hr
  unfold callFunction at hr
  rcases hpass : Signature.pass f.parameters given.length (named.map (·.1)) with e | _
  · rw [hpass] at hr
    cases hr
  · rw [hpass] at hr
    rcases hb : runBody m f lead given named w with ⟨e | made, w₁⟩
    · dsimp only [Act.inFrame] at hr
      rw [hb] at hr
      cases hr
    · rw [runBody, hf] at hb
      obtain ⟨made, w₂, hmade, -⟩ := Act.bind_eq_ok_iff.1 hb
      exact createEnumeration_ne_ok _ _ _ (hgiven.argument _ _) _ _ hmade

/-- A native function that creates makes classes out of namespaces only. -/
theorem applyNative_create_ne_ofClass {l : LibraryClass} (hgiven : AreFinished given named)
    (c : ClassId) (first : Value) (w' : World) :
    applyNative m (.create l) given named w ≠ (.ok (.ofClass c, first), w') := by
  intro hr
  obtain ⟨h, w₁, hh, hr⟩ := Act.bind_eq_ok_iff.1 hr
  cases hh
  rcases given with _ | ⟨v, rest⟩
  · cases hr
  · cases v
    case ofClass d =>
      obtain ⟨_, w₂, -, hr⟩ := Act.bind_eq_ok_iff.1 hr
      obtain ⟨made, w₃, hmade, hr⟩ := Act.bind_eq_ok_iff.1 hr
      cases hr
      unfold createNatively at hmade
      split at hmade
      · have hrest : ∀ v ∈ rest, v.IsFinished := (hgiven.drop 1).1
        rw [createClass_fails _ hrest] at hmade
        cases hmade
      · obtain ⟨h, w₄, -, hmade⟩ := Act.bind_eq_ok_iff.1 hmade
        exact Hierarchy.isSimple_createNative (Act.ofExcept_eq_ok_iff.1 hmade).1
    all_goals cases hr

/-- **What gives no class back that has been there before** gives none back at all, if no argument
is the namespace of one under way. -/
theorem apply_ne_ofClass {member : Member} (hm : member.createsAfresh = true)
    (hgiven : AreFinished given named) (c : ClassId) (first : Value) (w' : World) :
    apply m member given named w ≠ (.ok (.ofClass c, first), w') := by
  intro hr
  cases member with
  | function f | static f marker =>
    exact callFunction_ne_ok (Body.eq_of_createsEnumerations hm) hgiven _ _ _ hr
  | callable f =>
    obtain ⟨made, w₁, hmade, -⟩ := Act.bind_eq_ok_iff.1 hr
    exact callFunction_ne_ok (Body.eq_of_createsEnumerations hm)
      (hgiven.cons (Value.isFinished_object _)) _ _ _ hmade
  | native n =>
    cases n
    case create l => exact applyNative_create_ne_ofClass hgiven _ _ _ hr
    all_goals cases hm
  | place name =>
    rcases given with _ | ⟨v, rest⟩
    · cases hr
    · cases v <;> cases hr
  | classwise | data | part | enumerated => cases hr

end Construction

/-! ## Levels of machinery -/

namespace Machinery

theorem exhausted_isBlind : exhausted.IsBlind where
  construct _ _ _ := .fail _
  call _ _ _ _ _ _ := .fail _
  textOf _ _ _ := .fail _
  apply _ _ _ _ _ _ := .fail _
  creates _ _ _ _ _ _ _ _ _ hr := nomatch hr

theorem IsBlind.above (hm : m.IsBlind) : m.above.IsBlind where
  construct _ _ c := Construction.constructWith_blind hm c [] [] fun _ => .nil
  call _ _ := Construction.call_blind hm
  textOf _ _ := Construction.textOf_blind hm
  apply _ _ := Construction.apply_blind hm
  creates _ _ _ _ hm hgiven := Construction.apply_ne_ofClass hm hgiven

/-- **The machinery is blind to marks**, however many levels it has. -/
theorem level_isBlind (n : Nat) : (level n).IsBlind := by
  induction n with
  | zero => exact exhausted_isBlind
  | succ n ih => exact ih.above

end Machinery

end UtilityClass
