import UtilityClass.Catching
import UtilityClass.Introspector.Basic
import UtilityClass.Text.Word

/-!
# Introspection by reflection

The introspector that looks at the classes themselves.

The constructors of a class are the creating and the initialising member of its own namespace. A
class that declares neither has those that it inherits, leaving out the ones of the root class; if
nothing is left, it has the root's initialising member.

Before a class is constructed, each of its effective constructors is asked whether one positional
argument, the class or object that it works on, would do. If the construction then fails, the place
where the exception comes from decides on the outcome: one that left the body of a function is the
constructor's own, one that did not was raised by native code.

## Main definitions

* `Constructor` : a member as a constructor, declared or inherited
* `Reflection.introspector`
-/

namespace UtilityClass

/-- The members that construct objects: one creates them, the other initialises them. -/
def constructorNames : List String := ["__new__", "__init__"]

/-! ## Constructors -/

/-- A constructor as it is looked at. -/
inductive Constructor where
  /-- As it stands in a namespace. -/
  | raw (m : Member)
  /-- As a lookup on the class gives it, which unwraps it and hands the class to one that works on
  classes. -/
  | looked (m : Member)

namespace Native

/-- The signature that can be read of native code. -/
def signature? : Native → Option Signature
  | .create _ => some ⟨[.bare .rest "args", .bare .namedRest "kwargs"], none⟩
  | .initialise _ =>
    some ⟨[.bare .positional "self", .bare .rest "args", .bare .namedRest "kwargs"], none⟩
  | .length => some ⟨[.bare .positional "obj"], none⟩
  | _ => none

end Native

namespace Constructor

/-- The signature that can be read. -/
def signature? : Constructor → Option Signature
  | .looked (.classwise f _) => f.readable.bind (·.bound?)
  | .raw m | .looked m =>
    match m with
    | .function f | .static f _ | .classwise f _ | .callable f => f.readable
    | .native n => n.signature?
    | .data _ | .part _ | .place _ | .enumerated _ => none

/-- Whether the constructor is marked as private, on itself or on the wrapper around it. -/
def isMarked : Constructor → Bool
  | .raw (.static f marker) | .raw (.classwise f marker) =>
    f.marker.any Json.isTrue || marker.any Json.isTrue
  | .raw m | .looked m =>
    match m with
    | .function f | .static f _ | .classwise f _ | .callable f => f.marker.any Json.isTrue
    | .native _ | .data _ | .part _ | .place _ | .enumerated _ => false

/-- The visibility of the constructor. -/
def visibility (c : Constructor) : Visibility := if c.isMarked then .isPrivate else .nonPrivate

end Constructor

namespace Member

/-- Whether a member is a function, perhaps in a wrapper. -/
def isFunction : Member → Bool
  | .function _ | .static _ _ | .classwise _ _ => true
  | .data _ | .callable _ | .native _ | .part _ | .place _ | .enumerated _ => false

end Member

namespace Hierarchy

variable (h : Hierarchy)

/-- The constructors that a class declares itself. All names are looked for before any entry is
taken. -/
def declaredConstructors (c : ClassId) : Except Fault (List (String × Constructor)) := do
  let space ← h.namespaceOf c
  let names ← constructorNames.filterM fun name => space.contains name
  names.mapM fun name => do return (name, .raw (← space.entry name))

/-- The effective constructors of a class, without those of the root. -/
def effectiveConstructors (c : ClassId) : Except Fault (List (String × Member)) := do
  let all ← constructorNames.mapM fun name => do return (name, (← h.read c name).member)
  return all.filter fun (name, m) => !m.isRoot name

/-- The initialising member that every class inherits. -/
def rootInitialiser : Member := .native (.initialise .object)

/-- The constructors that are reported of a class. -/
def reportedConstructors (c : ClassId) : Except Fault (List (String × Constructor)) := do
  let declared ← h.declaredConstructors c
  if ¬declared.isEmpty then return declared
  let inherited := (← h.effectiveConstructors c).map fun (name, m) => (name, Constructor.looked m)
  return if inherited.isEmpty then [("__init__", .looked rootInitialiser)] else inherited

/-- Whether each effective constructor whose signature can be read would do with the one argument
that it works on. -/
def acceptsNoArguments (c : ClassId) : Except Fault Bool := do
  return (← h.effectiveConstructors c).all fun (_, m) =>
    match (Constructor.looked m).signature? with
    | some s => s.accepts 1
    | none => true

/-- Whether some effective constructor is no function. -/
def hasNativeConstructor (c : ClassId) : Except Fault Bool := do
  return (← h.effectiveConstructors c).any fun (_, m) => !m.isFunction

/-- The kind of a class. -/
def classify (c : ClassId) : Except Fault Classification := do
  if ← h.readTruth c "_is_protocol" then return .interfaceLike
  return if h.isEnumeration c then .enumLike else .ordinary

/-- Whether a class is final: marked so in its own namespace, or no possible base. -/
def isFinal (c : ClassId) : Except Fault Bool := do
  let marked := match ← (← h.namespaceOf c).get? "__final__" with
    | some (.data value) => value.isTrue
    | _ => false
  if marked then return true
  return !(← h.hasFlag c subclassableFlag (h.info c).subclassable)

/-! ## Written constructors -/

/-- The characters of words and dotted names. -/
def isNameChar (c : Char) : Bool := Unicode.isWord c || c == '.'

/-- The text with a prefix taken off each run of name characters that starts with it. `inside` says
whether the character before belongs to the run. -/
def withoutPrefix (lead : List Char) : Nat → Bool → List Char → List Char
  | 0, _, text => text
  | _, _, [] => []
  | fuel + 1, inside, c :: rest =>
    if ¬isNameChar c then c :: withoutPrefix lead fuel false rest
    else if ¬inside ∧ lead.isPrefixOf (c :: rest) then
      withoutPrefix lead fuel true ((c :: rest).drop lead.length)
    else c :: withoutPrefix lead fuel true rest

/-- An annotation as it is written in a signature. -/
def annotationText : Annotation → Except Fault String
  | .data value => .ok value.literal
  | .ofClass c => do
    let qualname : Except Fault String := do return (← h.longName c).text
    match ← h.nameAttribute? c "__module__" with
    | some (.str "typing") =>
      let text := (← h.literal c).toList
      return String.ofList (withoutPrefix "typing.".toList text.length false text)
    | some .null => qualname
    | some (.str module) =>
      if module = QualifiedName.implicitModule then qualname
      else return module ++ "." ++ (← qualname)
    | some other => .error (.annotationModule other.kind)
    | none => .error (.change (.missing "__module__"))

/-- The descriptor of a constructor of a class. -/
def describeConstructor (c : ClassId) (name : String) (constructor : Constructor) :
    Except Fault ConstructorDescriptor := do
  let visibility := constructor.visibility
  let className ← h.nameText c
  match constructor.signature? with
  | none => .ok ⟨className ++ "." ++ name ++ "(...)", .int 0, visibility⟩
  | some s =>
    let text ← s.text h.annotationText
    .ok ⟨className ++ "." ++ name ++ text, .int s.arity, visibility⟩

end Hierarchy

namespace Reflection

/-- The class to introspect, unless what is handed is none. -/
def requireClass (s : Handle) : Act ClassId := s.require .notIntrospectable

/-- What a class is. -/
def describe (s : Handle) : Act TypeDescriptor := do
  let c ← requireClass s
  let h ← Act.classes
  Act.ofExcept do
    return {
      name := ← h.nameOf c
      classification := ← h.classify c
      isAbstract := ← h.isAbstract c
      isFinal := ← h.isFinal c }

/-- How a class is constructed. -/
def constructors (s : Handle) : Act (List ConstructorDescriptor) := do
  let c ← requireClass s
  let h ← Act.classes
  Act.ofExcept do
    (← h.reportedConstructors c).mapM fun (name, constructor) =>
      h.describeConstructor c name constructor

/-- Whether an exception carries something. An attribute of a declared class hides what the
exception itself keeps. -/
def carries (h : Hierarchy) (i : Instance) : Except Fault Bool := do
  match ← h.readOn? (.object i) "args" with
  | some (.declared _, m) => return m.truthy
  | some _ => return !i.arguments.isEmpty
  | none => .error (.noAttribute (h.info i.type).runtimeName "args")

/-- The message of an exception, unless it carries nothing. -/
def messageOf (m : Machinery) (e : Raised) : Act (Option String) := do
  if ← Act.ofExcept (carries (← Act.classes) e.error) then return some (← m.textOf e.error)
  else return none

/-- Whether an exception has left the body of a function, as its own traces tell. An attribute of a
declared class hides the traces. -/
def leftBody (h : Hierarchy) (e : Raised) : Except Fault Bool := do
  match ← h.readOn? (.object e.error) "__traceback__" with
  | some (.declared _, .data .null) => return true
  | some (.declared _, .data value) => .error (.noAttribute value.kind "tb_next")
  | some (.declared _, _) => .error (.noAttribute "function" "tb_next")
  | some _ => return decide (0 < e.frames)
  | none => .error (.noAttribute (h.info e.error.type).runtimeName "__traceback__")

/-- The outcome that an exception makes of the construction of a class. Signals that are no ordinary
exceptions go on. -/
def outcomeOf (m : Machinery) (c : ClassId) (e : Raised) : Act Outcome := do
  if ¬(← Act.classes).isException e.error.type then throw e
  let message ← messageOf m e
  let h ← Act.classes
  let error := Subject.ofClass e.error.type
  if ← Act.ofExcept (leftBody h e) then return .failedWith error message
  else if ← pure (h.derives e.error.type LibraryClass.typeError) <&&>
      Act.ofExcept (h.hasNativeConstructor c) then
    return .noDefaultConstructor
  else return .accessRefused error message

/-- What becomes of constructing a class without arguments. -/
def invoke (m : Machinery) (s : Handle) : Act Outcome := do
  let c ← requireClass s
  if ¬(← Act.ofExcept ((← Act.classes).acceptsNoArguments c)) then return .noDefaultConstructor
  match ← Act.catching m (m.construct c) with
  | .ok made => return .constructed made
  | .error e => outcomeOf m c e

/-- The introspector that looks at the classes themselves. -/
def introspector (m : Machinery) : Introspector where
  describe := describe
  constructors := constructors
  invoke := invoke m

end Reflection

end UtilityClass
