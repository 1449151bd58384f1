import UtilityClass.Proofs.LibraryErrors

/-!
# Results that cannot be printed

The event for the return of a function is sent where the exceptions of the function are caught. If
what a result says of its validity cannot be printed, the complaint about this is caught there like
an exception of the function: it is logged as the failure of a call that has succeeded, and takes
the place of the result. A call about a class without a name does not even come to its function.

These are the only ways in which observing gets in the way of a function that returns.

## Main definitions

* `World.unprinted` : the world in which a return could not be printed
* `ReturningCall` : what becomes of an observed call whose function returns

## Main results

* `Act.observed_returning` : such calls, in all cases
* `Act.observed_success_lost` : results that do not come out
-/

namespace UtilityClass

namespace World

/-- The world in which the event for a return should have been sent, the function of which has left
`w` behind. -/
def unprinted (w : World) : World :=
  { w with readings := w.readings.afterTime.afterMemory.afterTime }

/-- The world in which a call is given up before it has started, since it is about something without
a name. -/
def unstarted (w : World) : World :=
  { w with readings := w.readings.afterTime.afterMemory.afterIdentifier }

end World

/-- What is said of something that cannot be printed. -/
def unprintableText (kind : String) : String :=
  "Object of type " ++ kind ++ " is not JSON serializable"

namespace Act

variable {α : Type} {m : Machinery} {operation name kind : String} {given : List Handle}
  {verdict : α → Loggable} {function : Act α} {a : α} {w w₁ : World}

/-! ## Before the function -/

theorem begin_run_of_nameless (operation : String) {f : Fault}
    (hn : w.classes.targetName given = .error f) :
    begin operation given w = (.error f.raised, w.unstarted) := by
  rw [begin, bind_run_of_ok (readClock_run w), bind_run_of_ok (memoryInUse_run _),
    bind_run_of_ok (takeIdentifier_run _), bind_run, target_run]
  dsimp only
  rw [hn]
  rfl

theorem measured_run_of_nameless (m : Machinery) (verdict : α → Loggable) (function : Act α)
    {f : Fault} (hn : w.classes.targetName given = .error f) :
    measured m operation given verdict function w = (.error f.raised, w.unstarted) := by
  rw [measured_eq, bind_run_of_error (begin_run_of_nameless operation hn)]

/-! ## Behind the function -/

theorem finish_run_of_unprintable (operation : String) (b : Beginning)
    (hf : function w = (.ok a, w₁)) (hv : verdict a = .unprintable kind) :
    finish operation verdict function b w =
      (.error (Fault.unprintable kind).raised, w₁.unprinted) := by
  rw [finish, bind_run_of_ok hf, bind_run_of_ok (readClock_run w₁),
    bind_run_of_ok (memoryInUse_run _), hv]
  rfl

theorem textOf_unprintable_run (m : Machinery) (kind : String) (hlibrary : w.classes.KeepsLibrary) :
    m.above.textOf (Fault.unprintable kind).raised.error w =
      (.ok (unprintableText kind), w) :=
  hlibrary.textOf_run (l := .typeError) (k := .baseException) (by decide) m rfl rfl

/-- The complaint about a result that cannot be printed is logged as a failure. -/
theorem giveUp_unprintable_run (m : Machinery) (operation : String) (b : Beginning) (kind : String)
    (hlibrary : w.classes.KeepsLibrary) :
    giveUp m.above operation b (Fault.unprintable kind).raised w =
      (.ok (), w.failed operation b (.str (w.classes.info LibraryClass.typeError).name)
        (unprintableText kind) w.gauged) :=
  have he := Raised.isOfFault_raised (.unprintable kind)
  giveUp_of_named operation b (he.isException_eq hlibrary) (he.loggedName_eq hlibrary)
    (textOf_unprintable_run m kind hlibrary)

theorem measured_run_of_unprintable (m : Machinery)
    (hn : w.classes.targetName given = .ok name)
    (hf : function (w.started operation name) = (.ok a, w₁)) (hv : verdict a = .unprintable kind)
    (hlibrary : w₁.classes.KeepsLibrary) :
    measured m.above operation given verdict function w =
      (.error (Fault.unprintable kind).raised,
        w₁.unprinted.failed operation (w.beginning name)
          (.str (w₁.classes.info LibraryClass.typeError).name) (unprintableText kind)
          w₁.unprinted.gauged) := by
  have hfound := (Raised.isOfFault_raised (.unprintable kind)).settle_run
    (w := w₁.unprinted) hlibrary m.above
  have hcatch : catching m.above (finish operation verdict function (w.beginning name))
      (w.started operation name) =
        (.ok (.error (Fault.unprintable kind).raised), w₁.unprinted) :=
    catching_eq_error_iff.2 ⟨_, _, finish_run_of_unprintable operation _ hf hv, hfound⟩
  have hgive := giveUp_unprintable_run (w := w₁.unprinted) m operation (w.beginning name) kind
    hlibrary
  rw [measured_eq, bind_run_of_ok (begin_run operation hn), bind_run_of_ok hcatch]
  exact bind_run_of_ok hgive

end Act

/-! ## Calls of functions that return -/

/-- What becomes of an observed call whose function returns, or would have returned: the function is
run in the world in which the call has started, if it comes to this. -/
structure ReturningCall {α : Type} (operation : String) (given : List Handle)
    (verdict : α → Loggable) (function : Act α) (w : World) (result : Except Raised α)
    (w' : World) : Prop where
  /-- What the result says of its validity can be printed: the call returns it. -/
  returned (name : String) (a : α) (w₁ : World) (isValid : Document) :
    w.classes.targetName given = .ok name →
    function (w.started operation name) = (.ok a, w₁) → verdict a = .data isValid →
    result = .ok a ∧ w' = w₁.completed operation (w.beginning name) isValid
  /-- It cannot be printed: the complaint about this comes in place of the result, and is logged as
  the failure of the call. -/
  unprinted (name : String) (a : α) (w₁ : World) (kind : String) :
    w.classes.targetName given = .ok name →
    function (w.started operation name) = (.ok a, w₁) → verdict a = .unprintable kind →
    w₁.classes.KeepsLibrary →
    result = .error (Fault.unprintable kind).raised ∧
      w' = w₁.unprinted.failed operation (w.beginning name)
        (.str (w₁.classes.info LibraryClass.typeError).name) (unprintableText kind)
        w₁.unprinted.gauged
  /-- The call is about something without a name: the function is not run, and nothing is
  logged. -/
  nameless (f : Fault) :
    w.classes.targetName given = .error f → result = .error f.raised ∧ w' = w.unstarted

/-- **Observing gets in the way of a success** just if what the call is about has no name, or what
the result says of its validity cannot be printed. -/
theorem Act.observed_returning {α : Type} (m : Machinery) (operation : String)
    (verdict : α → Loggable) (function : Arguments → Act α) (arguments : Arguments) (w : World) :
    ReturningCall operation arguments.given verdict (function arguments) w
      (observed m.above operation verdict function arguments w).1
      (observed m.above operation verdict function arguments w).2 where
  returned name a w₁ isValid hn hf hv := by
    rw [observed, measured_run_of_printable m.above hn hf hv]
    exact ⟨rfl, rfl⟩
  unprinted name a w₁ kind hn hf hv hlibrary := by
    rw [observed, measured_run_of_unprintable m hn hf hv hlibrary]
    exact ⟨rfl, rfl⟩
  nameless f hn := by
    rw [observed, measured_run_of_nameless m.above verdict (function arguments) hn]
    exact ⟨rfl, rfl⟩

/-- The world in which a class without a name is declared. -/
def World.withNameless : World :=
  ((Declaration.bare "").declare .standard (.initial .initial)).2

/-- A function that returns at once: its value comes out if it says of itself that it is valid, but
not if it calls a class its validity, and neither if the call is about a class without a name. -/
theorem Act.observed_returning_endings :
    let w := World.initial .initial
    let observe (verdict : Loggable) (given : List Handle) :=
      observed .standard "op" (fun _ => verdict) (fun _ => pure 3) ⟨given, []⟩
    (∃ w', observe (.data (.bool true)) [] w = (.ok 3, w') ∧ w'.journal.length = 2) ∧
      (∃ e w', observe (.unprintable "type") [] w = (.error e, w') ∧
        e.error.type = LibraryClass.typeError ∧ w'.journal.length = 2) ∧
      ∃ e w', observe (.data .null) [.ofClass (.declared 0)] .withNameless = (.error e, w') ∧
        e.error.type = LibraryClass.valueError ∧ w'.journal = World.withNameless.journal := by
  intro w observe
  have hreturning (verdict : Loggable) (given : List Handle) (w : World) :
      ReturningCall "op" given (fun _ => verdict) (pure 3) w (observe verdict given w).1
        (observe verdict given w).2 :=
    observed_returning (.level 999) "op" (fun _ => verdict) (fun _ => pure 3) ⟨given, []⟩ w
  refine ⟨?_, ?_, ?_⟩
  · obtain ⟨hresult, hworld⟩ :=
      (hreturning (.data (.bool true)) [] w).returned "unknown" 3 _ (.bool true) rfl rfl rfl
    exact ⟨_, Prod.ext hresult hworld, rfl⟩
  · obtain ⟨hresult, hworld⟩ := (hreturning (.unprintable "type") [] w).unprinted "unknown" 3 _
      "type" rfl rfl rfl Hierarchy.keepsLibrary_initial
    exact ⟨_, _, Prod.ext hresult hworld, rfl, rfl⟩
  · obtain ⟨hresult, hworld⟩ :=
      (hreturning (.data .null) [.ofClass (.declared 0)] .withNameless).nameless (.name .empty) rfl
    exact ⟨_, _, Prod.ext hresult hworld, rfl, rfl⟩

/-! ## Results that do not come out -/

/-- A function that returns at once gives nothing if its result calls a class its validity, for
which a failure is logged, and neither if its first argument is a class without a name. -/
theorem Act.observed_success_lost :
    (∃ e w text, observed .standard "op" (fun _ => .unprintable "type") (fun _ => pure ()) ⟨[], []⟩
        (.initial .initial) = (.error e, w) ∧
      e.error.type = LibraryClass.typeError ∧ .event .error text ∈ w.journal) ∧
    ∃ e w, observed .standard "op" (fun _ => .data .null) (fun _ => pure ())
        ⟨[.ofClass (.declared 0)], []⟩ .withNameless = (.error e, w) ∧
      e.error.type = LibraryClass.valueError := by
  constructor
  · have hstarted : (World.initial .initial).classes.targetName [] = .ok "unknown" := rfl
    exact ⟨_, _, _, measured_run_of_unprintable (.level 999) hstarted rfl rfl
      Hierarchy.keepsLibrary_initial, rfl, List.mem_append_right _ List.mem_cons_self⟩
  · have hnameless : World.withNameless.classes.targetName [.ofClass (.declared 0)] =
        .error (.name .empty) := rfl
    exact ⟨_, _, measured_run_of_nameless .standard _ _ hnameless, rfl⟩

end UtilityClass
