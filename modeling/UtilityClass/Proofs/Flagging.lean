import UtilityClass.Proofs.Blindness
import UtilityClass.Proofs.Enlisted
import UtilityClass.Proofs.UnmarkedReflection

/-!
# Flagging classes

The final flag is an entry in the namespace of a class. To set it is to put the entry in its place,
unless a metaclass makes something else of it, and the class is then the same as before under every
other name: lookups, constructors, and the name and the kind of the class are read with names that
are not the one of the flag.

The names of abstract methods are the exception. They are read out of what classes note, so if a
class had noted the name of the flag, the flag would count as what has become of that method. Where
no class has, what is told of all other classes stays as it is, and the class itself is final from
then on and nothing else.

## Main definitions

* `Hierarchy.flagged` : the classes, one of them with the flag
* `Hierarchy.NotesNoFlag` : no class notes the name of the flag as that of an abstract method
* `Hierarchy.TakesFlag` : the flag of a class has been set

## Main results

* `Hierarchy.listing_flagged` : what is listed of all classes
* `Hierarchy.description_flagged_of_ne`, `Hierarchy.description_flagged_self` : what is told of them
* `Hierarchy.TakesFlag.eq_flagged` : what setting the flag does
-/

namespace UtilityClass

/-! ## Entries -/

namespace ClassInfo

variable {name other : String} {m : Member} {entries : List (String × Member)}

@[simp] theorem lookup_putEntry_self : (putEntry name m entries).lookup name = some m := by
  induction entries with
  | nil => simp [putEntry]
  | cons entry rest ih =>
    obtain ⟨key, old⟩ := entry
    by_cases hk : key = name
    · simp [putEntry, hk]
    · have hother : (name == key) = false := by simpa using Ne.symm hk
      rw [putEntry, if_neg hk, List.lookup_cons, hother]
      exact ih

theorem lookup_putEntry_of_ne (hn : other ≠ name) :
    (putEntry name m entries).lookup other = entries.lookup other := by
  induction entries with
  | nil => simp [putEntry, hn]
  | cons entry rest ih =>
    obtain ⟨key, old⟩ := entry
    by_cases hk : key = name
    · have hother : (other == name) = false := by simpa using hn
      rw [putEntry, if_pos hk, List.lookup_cons, List.lookup_cons, hk, hother]
    · rw [putEntry, if_neg hk, List.lookup_cons, List.lookup_cons, ih]

/-- The entries besides the one that is put. -/
theorem filter_putEntry_self :
    (putEntry name m entries).filter (fun entry => entry.1 != name) =
      entries.filter fun entry => entry.1 != name := by
  induction entries with
  | nil => simp [putEntry]
  | cons entry rest ih =>
    obtain ⟨key, old⟩ := entry
    by_cases hk : key = name
    · simp [putEntry, hk]
    · rw [putEntry, if_neg hk, List.filter_cons, List.filter_cons, ih]

/-- Putting an entry in the place of an equal one. -/
theorem putEntry_of_lookup (hl : entries.lookup name = some m) :
    putEntry name m entries = entries := by
  induction entries with
  | nil => cases hl
  | cons entry rest ih =>
    obtain ⟨key, old⟩ := entry
    by_cases hk : key = name
    · subst hk
      have hold : old = m := by simpa using hl
      rw [putEntry, if_pos rfl, hold]
    · have hother : (name == key) = false := by simpa using Ne.symm hk
      rw [List.lookup_cons, hother] at hl
      rw [putEntry, if_neg hk, ih hl]

end ClassInfo

namespace Hierarchy

/-- The final flag, as it is put into the namespace of a class. -/
def finalFlag : Member := .data (.bool true)

/-- The namespace of a class, with the flag if it is the one class that is flagged. -/
def flaggedEntries (c d : ClassId) (entries : List (String × Member)) : List (String × Member) :=
  if d = c then ClassInfo.putEntry "__final__" finalFlag entries else entries

/-- The classes, one of them with the flag. -/
@[simps! info_name info_module info_runtimeName info_bases info_metaclass info_isBarred
  info_immutable info_subclassable]
def flagged (h : Hierarchy) (c : ClassId) : Hierarchy :=
  { h with info := fun d => { h.info d with members := flaggedEntries c d (h.info d).members } }

variable {c d : ClassId} {name : String} (h : Hierarchy)

theorem flagged_members_of_ne (hd : d ≠ c) :
    ((h.flagged c).info d).members = (h.info d).members :=
  if_neg hd

theorem flagged_members_self : ((h.flagged c).info c).members =
    ClassInfo.putEntry "__final__" finalFlag (h.info c).members :=
  if_pos rfl

/-- The flag of a class may be taken off again, also where another flag has been in its place. -/
theorem unmarked_flagged (flag : Member) :
    (h.flagged c).unmarked (some (c, flag)) = h.unmarked (some (c, flag)) := by
  refine congrArg (Hierarchy.mk · h.declared) (funext fun d => ?_)
  refine congrArg (fun members => { h.info d with members }) ?_
  show bareEntries (some (c, flag)) d (flaggedEntries c d (h.info d).members) = _
  by_cases hd : d = c
  · subst hd
    rw [flaggedEntries, if_pos rfl, bareEntries_self, bareEntries_self,
      ClassInfo.filter_putEntry_self]
  · rw [flaggedEntries, if_neg hd]

/-- What does not change when the flag of a class is taken off does not depend on it. -/
theorem apply_flagged {β : Type} (f : Hierarchy → β)
    (hf : ∀ g : Hierarchy, f (g.unmarked (some (c, finalFlag))) = f g) :
    f (h.flagged c) = f h := by
  rw [← hf, unmarked_flagged, hf]

/-! ## Reading other entries -/

section Other

variable (hn : name ≠ "__final__")
include hn

theorem own?_flagged : (h.flagged c).own? d name = h.own? d name := by
  by_cases hd : d = c
  · subst hd
    show ((h.flagged d).info d).members.lookup name = _
    rw [flagged_members_self]
    exact ClassInfo.lookup_putEntry_of_ne hn
  · show ((h.flagged c).info d).members.lookup name = _
    rw [flagged_members_of_ne h hd]
    rfl

theorem firstIn?_flagged (order : List ClassId) :
    (h.flagged c).firstIn? name order = h.firstIn? name order := by
  induction order with
  | nil => rfl
  | cons d order ih => rw [firstIn?_cons, firstIn?_cons, ih, own?_flagged h hn]

theorem resolve?_flagged : (h.flagged c).resolve? d name = h.resolve? d name :=
  firstIn?_flagged h hn _

theorem field?_flagged : (h.flagged c).field? d name = h.field? d name := by
  rw [field?, field?, flagged_info_metaclass, resolve?_flagged h hn]

theorem hook?_flagged : (h.flagged c).hook? d name = h.hook? d name := by
  rw [hook?, hook?, flagged_info_metaclass, resolve?_flagged h hn]

end Other

theorem hasField_flagged : (h.flagged c).hasField d name = h.hasField d name :=
  h.apply_flagged (·.hasField d name) fun g => g.hasField_unmarked

theorem lookUp?_flagged (hn : name ≠ "__final__") :
    (h.flagged c).lookUp? d name = h.lookUp? d name := by
  simp only [lookUp?, field?_flagged h hn, hasField_flagged, resolve?_flagged h hn,
    flagged_info_metaclass]

theorem keptEntry?_flagged : keptEntry? (h.flagged c) d name = keptEntry? h d name := by
  rw [ keptEntry?, keptEntry?, lookUp?_flagged h (by simp [memberMapName])]

theorem read?_flagged (hn : name ≠ "__final__") :
    (h.flagged c).read? d name = h.read? d name := by
  simp only [read?, hook?_flagged h (by simp : "__getattribute__" ≠ "__final__"),
    lookUp?_flagged h hn, flagged_info_metaclass, keptEntry?_flagged,
    resolve?_flagged h (by simp : "__getattr__" ≠ "__final__")]
  rfl

theorem read_flagged (hn : name ≠ "__final__") : (h.flagged c).read d name = h.read d name := by
  simp only [read, read?_flagged h hn, flagged_info_metaclass, flagged_info_runtimeName,
    resolve?_flagged h (by simp : "__getattr__" ≠ "__final__")]

/-! ## Namespaces and constructors -/

theorem lookup_flaggedEntries (hn : name ≠ "__final__") (entries : List (String × Member)) :
    (flaggedEntries c d entries).lookup name = entries.lookup name := by
  unfold flaggedEntries
  split
  · exact ClassInfo.lookup_putEntry_of_ne hn
  · rfl

end Hierarchy

namespace Namespace

/-- What a class shows as its namespace, with the flag if it is the one class that is flagged. -/
def flagged (c d : ClassId) : Namespace → Namespace
  | .own entries => .own (Hierarchy.flaggedEntries c d entries)
  | space => space

variable {c d : ClassId} {name : String} (space : Namespace)

theorem flagged_of_ne (hd : d ≠ c) : space.flagged c d = space := by
  cases space with
  | own entries => exact congrArg own (if_neg hd)
  | _ => rfl

variable (hn : name ≠ "__final__")
include hn

theorem contains_flagged : (space.flagged c d).contains name = space.contains name := by
  cases space with
  | own entries =>
    show Except.ok _ = Except.ok _
    rw [Hierarchy.lookup_flaggedEntries hn]
  | _ => rfl

theorem entry_flagged : (space.flagged c d).entry name = space.entry name := by
  cases space with
  | own entries =>
    show Except.ok _ = Except.ok _
    rw [Hierarchy.lookup_flaggedEntries hn]
  | _ => rfl

end Namespace

namespace Hierarchy

variable {c d : ClassId} (h : Hierarchy)

/-- A class that shows its own namespace shows the flag in it. -/
theorem namespaceOf_flagged :
    (h.flagged c).namespaceOf d = (h.namespaceOf d).map (Namespace.flagged c d) := by
  rw [namespaceOf_of_read (h := h) (by rw [read_flagged h (by simp)])]
  cases hs : h.namespaceOf d with
  | error e => rfl
  | ok space =>
    cases space with
    | own entries =>
      rw [eq_members_of_namespaceOf hs]
      rfl
    | _ => rfl

theorem namespaceOf_flagged_of_ne (hd : d ≠ c) :
    (h.flagged c).namespaceOf d = h.namespaceOf d := by
  rw [namespaceOf_flagged]
  rcases h.namespaceOf d with e | space
  · rfl
  · exact congrArg Except.ok (space.flagged_of_ne hd)

theorem declaredConstructors_flagged :
    (h.flagged c).declaredConstructors d = h.declaredConstructors d := by
  simp only [declaredConstructors, namespaceOf_flagged, Result.bind_map]
  refine bind_congr fun space => ?_
  rw [Result.filterM_congr fun name hname =>
    space.contains_flagged (constructorNames_ne_flag name hname)]
  cases hnames : constructorNames.filterM fun name => space.contains name with
  | error e => rfl
  | ok names =>
    have hsub := Result.sublist_of_filterM hnames
    refine Result.mapM_congr fun name hname => ?_
    rw [space.entry_flagged (constructorNames_ne_flag name (hsub.subset hname))]

theorem effectiveConstructors_flagged :
    (h.flagged c).effectiveConstructors d = h.effectiveConstructors d := by
  have hlook : constructorNames.mapM (m := Except Fault) (fun name => do
        return (name, (← (h.flagged c).read d name).member)) =
      constructorNames.mapM fun name => do return (name, (← h.read d name).member) :=
    Result.mapM_congr fun name hname => by rw [read_flagged h (constructorNames_ne_flag name hname)]
  rw [effectiveConstructors, effectiveConstructors, hlook]

theorem reportedConstructors_flagged :
    (h.flagged c).reportedConstructors d = h.reportedConstructors d := by
  rw [reportedConstructors, reportedConstructors, declaredConstructors_flagged,
    effectiveConstructors_flagged]

/-! ## What is told of classes -/

theorem nameOf_flagged : (h.flagged c).nameOf d = h.nameOf d :=
  h.apply_flagged (·.nameOf d) fun g => g.nameOf_unmarked

theorem classify_flagged : (h.flagged c).classify d = h.classify d :=
  h.apply_flagged (·.classify d) fun g => g.classify_unmarked

theorem nameText_flagged : (h.flagged c).nameText d = h.nameText d :=
  h.apply_flagged (·.nameText d) fun g => g.nameText_unmarked

theorem annotationText_flagged : (h.flagged c).annotationText = h.annotationText :=
  h.apply_flagged (·.annotationText) fun g => g.annotationText_unmarked

theorem listing_flagged : (h.flagged c).listing d = h.listing d := by
  rw [listing, listing, reportedConstructors_flagged]
  refine bind_congr fun reported => Result.mapM_congr fun k _ => ?_
  exact describeConstructor_congr (nameText_flagged h) k.1 fun _ _ a _ => by
    rw [annotationText_flagged]

theorem hasFlag_flagged (flag : Int) (usual : Bool) :
    (h.flagged c).hasFlag d flag usual = h.hasFlag d flag usual :=
  h.apply_flagged (·.hasFlag d flag usual) fun g => g.hasFlag_unmarked flag usual

theorem isFinal_flagged_of_ne (hd : d ≠ c) : (h.flagged c).isFinal d = h.isFinal d := by
  rw [isFinal, isFinal, namespaceOf_flagged_of_ne h hd, flagged_info_subclassable,
    hasFlag_flagged]

/-- The class is final from then on, if the flag can be seen. -/
theorem isFinal_flagged_self {entries : List (String × Member)}
    (hs : h.namespaceOf c = .ok (.own entries)) : (h.flagged c).isFinal c = .ok true := by
  rw [isFinal_eq_true_iff]
  refine ⟨_, some finalFlag, by rw [namespaceOf_flagged, hs]; rfl, ?_, .inl ⟨_, rfl, rfl⟩⟩
  show Except.ok ((flaggedEntries c c entries).lookup "__final__") = _
  rw [flaggedEntries, if_pos rfl, ClassInfo.lookup_putEntry_self]

/-! ### Abstract methods -/

/-- No class notes the name of the flag among those of its abstract methods. -/
def NotesNoFlag (h : Hierarchy) : Prop :=
  ∀ d names, h.notedNames d = .ok names → Json.str "__final__" ∉ names

theorem notedNames_flagged : (h.flagged c).notedNames d = h.notedNames d :=
  h.apply_flagged (·.notedNames d) fun g => g.notedNames_unmarked

theorem isAbstractMethod_flagged {name : Json} (hn : name ≠ .str "__final__") :
    (h.flagged c).isAbstractMethod d name = h.isAbstractMethod d name := by
  cases name
  case str name =>
    simp only [isAbstractMethod, read?_flagged h fun hname => hn (congrArg Json.str hname)]
  all_goals rfl

theorem tracksAbstract_flagged : (h.flagged c).tracksAbstract d = h.tracksAbstract d :=
  h.apply_flagged (·.tracksAbstract d) fun g => g.tracksAbstract_unmarked

theorem readBases_flagged : (h.flagged c).readBases d = h.readBases d :=
  h.apply_flagged (·.readBases d) fun g => g.readBases_unmarked

theorem readContains_flagged (own : List ClassId) (wanted : ClassId) :
    (h.flagged c).readContains d "__bases__" own wanted =
      h.readContains d "__bases__" own wanted :=
  h.apply_flagged (·.readContains d "__bases__" own wanted) fun g =>
    g.readContains_unmarked "__bases__" own wanted (by simp)

/-- The flag is no abstract method, so none comes with it. -/
theorem ownAbstract_flaggedEntries {entries : List (String × Member)}
    (ho : (ownAbstract entries).isEmpty = true) :
    (ownAbstract (flaggedEntries c d entries)).isEmpty = true := by
  simp only [ownAbstract, List.isEmpty_iff, List.map_eq_nil_iff, List.filter_eq_nil_iff] at ho ⊢
  intro entry he
  unfold flaggedEntries at he
  split at he
  · rcases ClassInfo.mem_putEntry he with rfl | he
    · exact Bool.false_ne_true
    · exact ho entry he
  · exact ho entry he

variable {h} (hnoted : h.NotesNoFlag)
include hnoted

theorem inheritsAbstract_flagged (bases : List Subject) :
    (h.flagged c).inheritsAbstract d bases = h.inheritsAbstract d bases := by
  induction bases with
  | nil => rfl
  | cons base rest ih =>
    cases base with
    | plain value => exact ih
    | ofClass base =>
      rw [inheritsAbstract, inheritsAbstract, ih, notedNames_flagged]
      cases hb : h.notedNames base with
      | error e => rfl
      | ok names =>
        rw [Result.ok_bind, Result.ok_bind, Result.anyM_congr fun name hname =>
          isAbstractMethod_flagged h fun heq => hnoted base names hb (heq ▸ hname)]

theorem hasAbstractMethods_flagged_of_ne (hd : d ≠ c) :
    (h.flagged c).hasAbstractMethods d = h.hasAbstractMethods d := by
  simp only [hasAbstractMethods, hasFlag_flagged, flagged_info_isBarred, tracksAbstract_flagged,
    read?_flagged h (by simp [abstractMethodsName] : abstractMethodsName ≠ "__final__"),
    namespaceOf_flagged_of_ne h hd, readBases_flagged, inheritsAbstract_flagged hnoted]

/-- A class without abstract methods has none with the flag. -/
theorem hasAbstractMethods_flagged_self (hc : h.hasAbstractMethods c = .ok false) :
    (h.flagged c).hasAbstractMethods c = .ok false := by
  simp only [hasAbstractMethods, hasFlag_flagged, flagged_info_isBarred, tracksAbstract_flagged,
    read?_flagged h (by simp [abstractMethodsName] : abstractMethodsName ≠ "__final__"),
    namespaceOf_flagged, readBases_flagged, inheritsAbstract_flagged hnoted] at hc ⊢
  obtain ⟨isBarred, hbarred, hc⟩ := Result.bind_eq_ok_iff.1 hc
  rw [hbarred, Result.ok_bind]
  cases isBarred with
  | true => cases hc
  | false =>
    cases ht : h.tracksAbstract c with
    | false => rfl
    | true =>
      rw [ht] at hc
      obtain ⟨noted, hread, hc⟩ := Result.bind_eq_ok_iff.1 hc
      rw [hread]
      cases noted with
      | some a => rfl
      | none =>
        obtain ⟨space, hspace, hc⟩ := Result.bind_eq_ok_iff.1 hc
        obtain ⟨entries, hentries, hc⟩ := Result.bind_eq_ok_iff.1 hc
        cases hown : (ownAbstract entries).isEmpty with
        | false =>
          rw [hown] at hc
          cases hc
        | true =>
          rw [hown] at hc
          have hflagged : ∃ entries', (space.flagged c c).entries = .ok entries' ∧
              (ownAbstract entries').isEmpty = true := by
            cases space with
            | own entries =>
              cases hentries
              exact ⟨_, rfl, ownAbstract_flaggedEntries hown⟩
            | _ => exact ⟨entries, hentries, hown⟩
          obtain ⟨entries', hentries', hown'⟩ := hflagged
          rw [hspace]
          show ((space.flagged c c).entries >>= _) = _
          rw [hentries', Result.ok_bind, hown']
          exact hc

theorem isAbstract_flagged_of_ne (hd : d ≠ c) : (h.flagged c).isAbstract d = h.isAbstract d := by
  rw [isAbstract, isAbstract, hasAbstractMethods_flagged_of_ne hnoted hd, readContains_flagged,
    flagged_info_bases]

theorem isAbstract_flagged_self (hc : h.isAbstract c = .ok false) :
    (h.flagged c).isAbstract c = .ok false := by
  obtain ⟨hasMethods, hmethods, hc⟩ := Result.bind_eq_ok_iff.1 hc
  cases hasMethods with
  | true => cases hc
  | false =>
    rw [isAbstract, hasAbstractMethods_flagged_self hnoted hmethods, Result.ok_bind,
      readContains_flagged, flagged_info_bases]
    exact hc

/-! ### Descriptions -/

theorem description_flagged_of_ne (hd : d ≠ c) :
    (h.flagged c).description d = h.description d := by
  rw [description, description, nameOf_flagged, classify_flagged,
    isAbstract_flagged_of_ne hnoted hd, isFinal_flagged_of_ne h hd]

/-- **A class that is flagged** is described as before, but for its being final. -/
theorem description_flagged_self {entries : List (String × Member)}
    (hs : h.namespaceOf c = .ok (.own entries)) {t : TypeDescriptor}
    (ht : h.description c = .ok t) (hconcrete : t.isAbstract = false) :
    (h.flagged c).description c = .ok { t with isFinal := true } := by
  obtain ⟨hname, hkind, habstract, -⟩ := description_eq_ok_iff.1 ht
  rw [hconcrete] at habstract
  refine description_eq_ok_iff.2 ⟨by rw [nameOf_flagged, hname], by rw [classify_flagged, hkind],
    ?_, isFinal_flagged_self h hs⟩
  rw [isAbstract_flagged_self hnoted habstract, ← hconcrete]

omit hnoted

/-! ## Setting the flag -/

/-- The flag of a class has been set: the class has taken it as an attribute, it stands in the
namespace of the class, and the class shows this namespace. -/
structure TakesFlag (h : Hierarchy) (c : ClassId) (h' : Hierarchy) : Prop where
  assigned : h.assign c "__final__" finalFlag = .ok h'
  entry : h'.own? c "__final__" = some finalFlag
  shown : ∃ entries, h.namespaceOf c = .ok (.own entries)

theorem putMember_finalFlag : h.putMember c "__final__" finalFlag = h.flagged c := by
  have hinfo (d : ClassId) : (h.modify c (·.setMember "__final__" finalFlag)).info d =
      (h.flagged c).info d := by
    by_cases hd : d = c
    · subst hd
      rw [modify_info_self]
      exact congrArg (fun members => { h.info d with members }) (flagged_members_self h).symm
    · rw [modify_info_of_ne _ hd]
      exact congrArg (fun members => { h.info d with members }) (flagged_members_of_ne h hd).symm
  exact congrArg (Hierarchy.mk · h.declared) (funext hinfo)

/-- A class that has the flag already stays as it is. -/
theorem flagged_of_own? (ho : h.own? c "__final__" = some finalFlag) : h.flagged c = h := by
  refine congrArg (Hierarchy.mk · h.declared) (funext fun d => ?_)
  refine congrArg (fun members => { h.info d with members }) ?_
  by_cases hd : d = c
  · subst hd
    rw [flaggedEntries, if_pos rfl]
    exact ClassInfo.putEntry_of_lookup ho
  · exact if_neg hd

section Plain

variable {h' : Hierarchy} (hflag : h.HasPlainFlags)
include hflag

theorem eq_flagged_of_assignPlainly
    (ha : h.assignPlainly c "__final__" finalFlag = .ok h') : h' = h.flagged c := by
  obtain ⟨field, hfield, -⟩ | rfl := assignField_or_eq_putMember ha
  · rw [field?_flag hflag] at hfield
    cases hfield
  · exact putMember_finalFlag

/-- Setting the flag puts it into the namespace and does nothing else. A metaclass that answers
itself when an attribute is set does not put it there. -/
theorem TakesFlag.eq_flagged (ht : h.TakesFlag c h') : h' = h.flagged c := by
  obtain rfl | ha := eq_or_assignPlainly_of_assign ht.assigned
  · exact (flagged_of_own? ht.entry).symm
  · exact eq_flagged_of_assignPlainly hflag ha

end Plain

theorem TakesFlag.keeps {h' : Hierarchy} (ht : h.TakesFlag c h') : h.Keeps h' :=
  keeps_of_assign (Member.fits_data _ _) ht.assigned

end Hierarchy

end UtilityClass
