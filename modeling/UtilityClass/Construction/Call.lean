import UtilityClass.Class.Creation
import UtilityClass.Construction.Body
import UtilityClass.Construction.Native
import UtilityClass.Construction.Services

/-!
# Calling

How members are called, and what becomes of the call of a class. A function takes its arguments, and
then its body runs; an error of passing arguments arises before the body is entered, so it has not
left one. Native functions check what they work on. A class that is called creates an object, and
initialises it if it is one of its own.

The definitions add one level to the machinery that they take as an argument: `Machinery.level`
stacks them up.

## Main definitions

* `Construction.apply` : the call of a member
* `Construction.create`, `Construction.initialise` : the two steps of constructing an object
* `Construction.constructWith`, `Construction.call`, `Construction.textOf` : one level of machinery
-/

namespace UtilityClass

namespace Construction

variable (m : Machinery)

/-! ## Functions -/

/-- Runs a service of the library. Besides what it gives, the result tells what has become of the
first argument. -/
def runService (f : Function) (s : Service) (given : List Value) (named : List (String × Value)) :
    Act (Value × Value) := do
  let argument (name : String) : Value :=
    (Signature.argument? Value.data f.parameters name given named).getD .null
  let others : List (String × Value) := named.filter fun (name, _) =>
    !f.parameters.any fun p => p.name == name && p.kind != .namedRest && p.kind != .positional
  let first := given.head?.getD .null
  match s with
  | .nothing => return (.null, first)
  | .guardProtocol =>
    return (.null, ← guardProtocol m (argument "self") (given.drop 1) others)
  | .findMember => return (← Enumeration.find m (argument "cls") (argument "value"), first)
  | .callEnumeration =>
    return (← Enumeration.answer m (argument "cls") (argument "value") (argument "names"), first)
  | .createAbstract =>
    return (← createAbstract m (argument "mcls")
      [argument "name", argument "bases", argument "namespace"] named, first)
  | .createEnumeration =>
    return (← createEnumeration m (argument "metacls") (argument "cls") (argument "bases")
      (argument "classdict") others, first)
  | .createFraction =>
    return (← createFraction m (argument "cls") (argument "numerator") (argument "denominator"),
      first)
  | .fillDictionary =>
    fillDictionary m (argument "self") (argument "dict") named
    return (.null, first)

/-- Runs the body of a function. The first arguments may belong to the caller's object, and then the
body does not work on them: `lead` counts them. -/
def runBody (f : Function) (lead : Nat) (given : List Value) (named : List (String × Value)) :
    Act (Value × Value) := do
  match f.body with
  | .service s => runService m f s given named
  | .statements list =>
    let receiver := Signature.firstArgument? Value.data (f.parameters.drop lead) (given.drop lead)
      named
    let (ending, frame) ← runStatements m ⟨f, receiver.getD .null, .null⟩ list
    let keepsFirst := decide (lead = 0) && !given.isEmpty &&
      f.parameters.head?.any fun p => p.isPositional || p.kind == .rest
    let first := if keepsFirst then frame.receiver else given.head?.getD .null
    match ending with
    | .gives value => return (value, first)
    | .goesOn => return (.null, first)

/-- Calls a function with all of its arguments. -/
def callFunction (f : Function) (lead : Nat) (given : List Value) (named : List (String × Value)) :
    Act (Value × Value) :=
  match Signature.pass f.parameters given.length (named.map (·.1)) with
  | .error e => Act.fail (.call f.qualname e)
  | .ok () => Act.inFrame (runBody m f lead given named)

/-! ## Native functions -/

/-- What the creating function of classes complains of: it takes a name, bases and a namespace. -/
def classComplaint (h : Hierarchy) (given : List Value) : String :=
  let wrong (place wanted : String) (v : Value) : String :=
    "type.__new__() argument " ++ place ++ " must be " ++ wanted ++ ", not " ++
      if v.isNull then "None" else v.kind h
  match given with
  | [.data (.str _), .tuple _, b] => wrong "3" "dict" b
  | [.data (.str _), bases, _] => wrong "2" "tuple" bases
  | [name, _, _] => wrong "1" "str" name
  | _ => "type.__new__() takes exactly 3 arguments (" ++ intText given.length ++ " given)"

/-- Creates a class of a metaclass. -/
def createClass (metaclass : ClassId) (given : List Value) : Act Value := do
  let h ← Act.classes
  match given with
  | [.data (.str name), .tuple bases, .blueprint b] =>
    Act.setClasses (← Act.ofExcept (h.make metaclass name (bases.filterMap Subject.class?) b))
    match b.plan with
    | some p => Enumeration.makeMembers m b.self p
    | none => pure ()
    Act.setClasses (← Act.ofExcept ((← Act.classes).tellBases b.self))
    return .ofClass b.self
  | given => Act.fail (typeComplaint (classComplaint h given))

/-- Creates an object of a class by the native function of a library class. -/
def createNatively (l : LibraryClass) (c : ClassId) (given : List Value)
    (named : List (String × Value)) : Act Value := do
  if l = .type then createClass m c given
  else Act.ofExcept ((← Act.classes).createNative l c given named)

/-- A complaint of a native function about its arguments. -/
def complain (message : String) : Act Value := Act.fail (typeComplaint message)

/-- The length of a value. -/
def lengthOf (given : List Value) (named : List (String × Value)) : Act Value := do
  let h ← Act.classes
  match named, given with
  | _ :: _, _ => Act.refuse (.takesNoNamedArguments "len")
  | [], [.data value] =>
    match value.items? with
    | some items => return .data (.int items.length)
    | none => Act.refuse (.noLength value.kind)
  | [], [v] =>
    match h.resolve? (v.type h) "__len__" with
    | some (.declared _, method) =>
      let (method, front) ← Act.ofExcept (h.bind method v)
      let (value, _) ← m.apply method front []
      complain ("'" ++ value.kind h ++ "' object cannot be interpreted as an integer")
    | some _ => return .data (.int 0)
    | none => Act.refuse (.noLength (v.kind h))
  | [], given =>
    complain ("len() takes exactly one argument (" ++ intText given.length ++ " given)")

/-- The class of what goes over the items of plain data. -/
def iteratorOf : Json → LibraryClass
  | .str text =>
    if text.toList.all fun c => decide (c.toNat < 128) then .asciiIterator else .textIterator
  | .obj _ => .keyIterator
  | _ => .listIterator

/-- What goes over the items of a value. -/
def iterate (given : List Value) (named : List (String × Value)) : Act Value := do
  let h ← Act.classes
  match named, given with
  | _ :: _, _ => Act.refuse (.takesNoNamedArguments "iter")
  | [], [.data value] =>
    discard (Act.ofExcept value.items)
    return .object (Instance.bare (iteratorOf value))
  | [], [v] =>
    match h.resolve? (v.type h) "__iter__" with
    | some (.declared _, method) =>
      let (method, front) ← Act.ofExcept (h.bind method v)
      let (value, _) ← m.apply method front []
      complain ("iter() returned non-iterator of type '" ++ value.kind h ++ "'")
    | some _ => return .object (Instance.bare LibraryClass.generator)
    | none => Act.refuse (.notIterable (v.kind h))
  | [], [.ofClass _, _] => return .object (Instance.bare LibraryClass.callableIterator)
  | [], [_, _] => complain "iter(v, w): v must be callable"
  | [], given =>
    Act.ofExcept (checkCount "iter" 1 2 given.length)
    return .null

/-- A method of dictionaries. -/
def applyMethod (n : Native) (self : Value) (given : List Value) (named : List (String × Value)) :
    Act Value := do
  let h ← Act.classes
  match n, given with
  | .pop c, given =>
    if ¬named.isEmpty then
      Act.refuse (.takesNoNamedArguments ((h.info c).qualname ++ ".pop"))
    else Act.ofExcept (pop self.fields given)
  | .clear c, given =>
    let name := (h.info c).qualname ++ ".clear"
    if ¬named.isEmpty then Act.refuse (.takesNoNamedArguments name)
    else if given.isEmpty then return .null
    else complain (name ++ "() takes no arguments (" ++ intText given.length ++ " given)")
  | _, given =>
    discard (Act.ofExcept (h.updateDictionary "update" self.fields given named))
    return .null
where
  /-- The value of a key, or what is given in its place. Nothing is looked up where there are no
  entries. -/
  pop (fields : List (String × Json)) (given : List Value) : Except Fault Value := do
    if given.isEmpty then .error (typeComplaint "pop expected at least 1 argument, got 0")
    if 2 < given.length then
      .error (typeComplaint ("pop expected at most 2 arguments, got " ++ intText given.length))
    let key := (given.head?.bind Value.content?).getD .null
    if ¬fields.isEmpty then checkKeys [key]
    let found := match key with
      | .str name => (fields.lookup name).map Value.data
      | _ => none
    match found.or given[1]? with
    | some value => return value
    | none => .error (.absentKey key)

/-- Calls a native function with all of its arguments. -/
def applyNative (n : Native) (given : List Value) (named : List (String × Value)) :
    Act (Value × Value) := do
  let h ← Act.classes
  let first := given.head?.getD .null
  match n, given with
  | .create l, [] => return (← complain ((h.info l).runtimeName ++
      ".__new__(): not enough arguments"), first)
  | .create l, .ofClass c :: rest =>
    Act.ofExcept (h.checkCreation l c)
    return (← createNatively m l c rest named, first)
  | .create l, v :: _ => Act.refuse (.notATypeObject (h.info l).runtimeName (v.kind h))
  | .initialise l, [] => Act.refuse (.noReceiver "__init__" (h.info l).runtimeName)
  | .initialise l, self :: rest =>
    if ¬self.isOf h l then
      Act.refuse (.foreignReceiver "__init__" (h.info l).runtimeName (self.kind h))
    return (.null, ← Act.ofExcept (h.initialiseNative l self rest named))
  | .describe l, [] => Act.refuse (.noReceiver "__str__" (h.info l).runtimeName)
  | .describe l, self :: rest =>
    if ¬self.isOf h l then
      Act.refuse (.foreignReceiver "__str__" (h.info l).runtimeName (self.kind h))
    if ¬rest.isEmpty then
      discard (complain ("expected 0 arguments, got " ++ intText rest.length))
    match self with
    | .object i => return (.data (.str (i.describe l)), first)
    | _ => return (.null, first)
  | .length, given => return (← lengthOf m given named, first)
  | .iterate, given => return (← iterate m given named, first)
  | .field _, _ => return (.null, first)
  | n, [] =>
    let name := (n.home?.map (·.2)).getD ""
    return (← complain ("unbound method dict." ++ name ++ "() needs an argument"), first)
  | n, self :: rest =>
    Act.ofExcept (h.checkHome (.native n) self)
    return (← applyMethod n self rest named, first)

/-! ## Members -/

/-- Calls a member with all of its arguments. -/
def apply (member : Member) (given : List Value) (named : List (String × Value)) :
    Act (Value × Value) := do
  match member with
  | .function f | .static f _ => callFunction m f 0 given named
  | .callable f =>
    let (value, _) ← callFunction m f 1 (.object (Instance.bare LibraryClass.object) :: given) named
    return (value, given.head?.getD .null)
  | .classwise _ _ => Act.refuse (.notCallable "classmethod")
  | .data value => Act.refuse (.notCallable value.kind)
  | .native n => applyNative m n given named
  | .part _ => return (.null, given.head?.getD .null)
  | .place name =>
    match given with
    | .object i :: _ => Act.fail (.noAttribute ((← Act.classes).info i.type).runtimeName name)
    | _ => Act.refuse (.notCallable member.kind)
  | .enumerated _ => Act.refuse (.notCallable "Enum")

/-- Calls what a lookup on a value finds. -/
def applyOn (member : Member) (v : Value) (given : List Value) (named : List (String × Value)) :
    Act Value := do
  let (callee, front) := member.onObject v (v.type (← Act.classes))
  return (← apply m callee (front ++ given) named).1

/-! ## Constructing -/

/-- Creates an object of a class: natively if only native functions take part, and otherwise with
the creating member that a lookup finds. -/
def create (c : ClassId) (given : List Value) (named : List (String × Value)) : Act Value := do
  let h ← Act.classes
  match (h.info c).creator with
  | some l => createNatively m l c given named
  | none =>
    let (member, front) := (← Act.ofExcept (h.read c "__new__")).on h c
    return (← apply m member (front ++ .ofClass c :: given) named).1

/-- Initialises a value with the member that a lookup on its class finds. Nothing may be given
back. -/
def initialise (v : Value) (given : List Value) (named : List (String × Value)) : Act Value := do
  let h ← Act.classes
  match h.resolve? (v.type h) "__init__" with
  | some (_, member) =>
    let (callee, front) := member.onObject v (v.type h)
    let (value, first) ← apply m callee (front ++ given) named
    if ¬value.isNull then Act.refuse (.notNull (value.kind (← Act.classes)))
    return if member.takesObject then first else v
  | none => return v

/-- Constructs an object of a class. What is created is initialised if it is of the class. The class
of all classes tells the class of its argument. -/
def constructWith (c : ClassId) (given : List Value) (named : List (String × Value)) :
    Act Value := do
  if c = LibraryClass.type then
    match given, named with
    | [v], [] => return .ofClass (v.type (← Act.classes))
    | [_, _, _], _ => pure ()
    | _, _ => discard (complain "type() takes 1 or 3 arguments")
  let made ← create m c given named
  if made.isOf (← Act.classes) c then initialise m made given named else return made

/-! ## One level of machinery -/

/-- Calls a value. A class constructs an object unless its metaclass answers the call. -/
def call (v : Value) (given : List Value) (named : List (String × Value)) : Act Value := do
  let h ← Act.classes
  match v with
  | .ofClass c =>
    match h.resolve? (h.info c).metaclass "__call__" with
    | some (_, .part _) | none => constructWith m c given named
    | some (_, member) => applyOn m member v given named
  | v =>
    match h.resolve? (v.type h) "__call__" with
    | some (_, member) => applyOn m member v given named
    | none => Act.refuse (.notCallable (v.kind h))

/-- The text of an exception: what the member gives that a lookup finds, which has to be a text. -/
def textOf (i : Instance) : Act String := do
  let h ← Act.classes
  match h.resolve? i.type "__str__" with
  | some (_, .part _) | none => return i.plainText
  | some (_, member) =>
    let v ← applyOn m member (.object i) [] []
    match v.content? with
    | some (.str text) => return text
    | _ => Act.refuse (.nonText "__str__" (v.kind (← Act.classes)))

end Construction

end UtilityClass
