import UtilityClass.Verification

/-!
# Bodies of functions

What the statements in the body of a function do. A body works on what its first parameter holds:
`callNext` searches on from the class that defines the function, along the order of that value.

Whatever a body does beyond its own statements goes through the machinery that the definitions here
take as an argument.

## Main definitions

* `Frame` : what a running body knows
* `Construction.raise` : raising an exception
* `Construction.runStatements` : running a body
-/

namespace UtilityClass

/-- What a running body knows. -/
structure Frame where
  function : Function
  /-- What the body works on. -/
  receiver : Value
  /-- What was kept last. -/
  kept : Value

/-- How a statement ends. -/
inductive Ending where
  | goesOn
  | gives (value : Value)

namespace Construction

variable (m : Machinery)

/-! ## Statements that need no other function of their role -/

/-- The exception that a class made. -/
def madeException (c : ClassId) (made : Value) : Act Instance := do
  let h ← Act.classes
  let refused : Act Instance := do
    let literal ← Act.ofExcept (h.literal c)
    Act.refuse (.notMadeException literal (← Act.ofExcept (h.literal (made.type h))))
  match made with
  | .object i => if h.derives i.type LibraryClass.baseException then return i else refused
  | _ => refused

/-- Raises a value: an exception, or a class, which then makes one of nothing. -/
def raiseValue (v : Value) : Act Unit := do
  let h ← Act.classes
  match v with
  | .object i =>
    if h.derives i.type LibraryClass.baseException then throw i.raised
    else Act.refuse .notRaisable
  | .ofClass c =>
    if ¬h.derives c LibraryClass.baseException then Act.refuse .notRaisable
    throw { (← madeException c (← m.call v [] [])).raised with raisedAs := c }
  | _ => Act.refuse .notRaisable

/-- Raises an exception of a class, made with arguments, or of the class alone. -/
def raise (exception : Reference) (arguments : Option (List Json)) : Act Unit := do
  let v ← Act.resolve exception
  match arguments with
  | none => raiseValue m v
  | some arguments => raiseValue m (← m.call v (arguments.map .data) [])

/-- Verifies a class with the usual policy. -/
def verify (r : Reference) : Act Unit := do
  let v ← Act.resolve r
  let checker ← Checker.forClass m v (.ofClass VerificationPolicy.standard.blocking)
  checker.verify m

/-- The body that takes its turn: the last one repeats. -/
def bodyInTurn (count : Nat) (bodies : List (List Statement)) : Nat := min count (bodies.length - 1)

/-- Counts a run of a statement that takes its bodies in turn, and gives the number of earlier
runs. -/
def takeTurn (label : Nat) : Act Nat := do
  let w ← get
  set { w with turns := fun l => if l = label then w.turns l + 1 else w.turns l }
  return w.turns label

/-! ## The next function -/

/-- What a function finds that works on nothing and calls the next one. -/
def callNextOnNothing (function : Function) (given : List Json) (named : List (String × Json)) :
    Act (Ending × Frame) :=
  let refuse (message : String) : Act (Ending × Frame) :=
    Act.fail (typeComplaint message)
  if function.creates then Act.refuse (.notATypeObject "super" "NoneType")
  else if ¬named.isEmpty then refuse "super() takes no keyword arguments"
  else match given with
    | [] => Act.refuse (.complaint .runtimeError "super(): __class__ cell not found")
    | [type] | [type, _] => refuse ("super() argument 1 must be type, not " ++
        if type.kind = "NoneType" then "None" else type.kind)
    | given => refuse ("super() takes at most 2 arguments (" ++ intText given.length ++ " given)")

/-- Calls the next function of the role that a body is in. A creating body ends with what is
created, any other one goes on with what it works on as it is then. -/
def callNext (frame : Frame) (arguments : List Json) (named : List (String × Json)) :
    Act (Ending × Frame) := do
  let f := frame.function
  let name := if f.creates then "__new__" else "__init__"
  let given := arguments.map Value.data
  let named' := named.map fun (key, value) => (key, Value.data value)
  if frame.receiver.isNull then callNextOnNothing f arguments named
  else
    let h ← Act.classes
    match ← Act.ofExcept (h.next? frame.receiver f.owner name) with
    | none => return (.goesOn, frame)
    | some found =>
      if f.creates then
        let (made, _) ← m.apply found.member (found.front ++ frame.receiver :: given) named'
        return (.gives made, frame)
      else
        let (_, first) ← m.apply found.member (found.front ++ given) named'
        return (.goesOn, if found.takesReceiver then { frame with receiver := first } else frame)

/-! ## Bodies -/

mutual

/-- Runs a statement. -/
def runStatement (frame : Frame) : Statement → Act (Ending × Frame)
  | .raise exception arguments => do
    raise m exception arguments
    return (.goesOn, frame)
  | .give value => return (.gives (.data value), frame)
  | .callNext arguments named => callNext m frame arguments named
  | .allocate of => do
    let v ← match of with
      | some r => Act.resolve r
      | none => pure frame.receiver
    let (made, _) ← m.apply (.native (.create .object)) [v] []
    return (.gives made, frame)
  | .callClass r arguments => do
    let made ← m.call (← Act.resolve r) (arguments.map .data) []
    return (.goesOn, { frame with kept := made })
  | .giveKept => return (.gives frame.kept, frame)
  | .verify r => do
    verify m r
    return (.goesOn, frame)
  | .assign name value => do
    let changed := (← Act.classes).assign frame.function.owner name (.data value)
    Act.setClasses (← Act.ofExcept changed)
    return (.goesOn, frame)
  | .inTurn label bodies => do
    let count ← takeTurn label
    let (ending, frame) ← runNth frame (bodyInTurn count bodies) bodies
    match ending with
    | .gives value => return (.gives value, frame)
    | .goesOn => return (.gives .null, frame)

/-- Runs statements until one ends the body. -/
def runStatements (frame : Frame) : List Statement → Act (Ending × Frame)
  | [] => return (.goesOn, frame)
  | s :: rest => do
    let (ending, frame) ← runStatement frame s
    match ending with
    | .gives value => return (.gives value, frame)
    | .goesOn => runStatements frame rest

/-- Runs one of several bodies. -/
def runNth (frame : Frame) : Nat → List (List Statement) → Act (Ending × Frame)
  | _, [] => return (.goesOn, frame)
  | 0, body :: _ => runStatements frame body
  | n + 1, _ :: rest => runNth frame n rest

end

end Construction

end UtilityClass
