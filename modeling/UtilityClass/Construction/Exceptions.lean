import UtilityClass.Construction.Arguments
import UtilityClass.Construction.Root

/-!
# Exceptions

An exception keeps what it is made with, already when it is created and again when it is
initialised. Exceptions of the operating system understand some of it: a number and a text, then one
or two files, which they keep apart. They take their arguments either when they are created or when
they are initialised, depending on which of the two functions a class has of its own; and the number
decides on the class if none in particular is asked for.

## Main definitions

* `Hierarchy.createException`, `Hierarchy.initialiseException`
* `Instance.describe` : the text that a native function gives an exception
-/

namespace UtilityClass

namespace LibraryClass

/-- The exception of the operating system that an error number stands for. -/
def ofErrorNumber? (n : Int) : Option LibraryClass :=
  [(1, .permissionError), (2, .fileNotFoundError), (3, .processLookupError),
    (4, .interruptedError), (10, .childProcessError), (11, .blockingIOError),
    (13, .permissionError), (17, .fileExistsError), (20, .notADirectoryError),
    (21, .isADirectoryError), (32, .brokenPipeError), (103, .connectionAbortedError),
    (104, .connectionResetError), (108, .brokenPipeError), (110, .timeoutError),
    (111, .connectionRefusedError), (114, .blockingIOError), (115, .blockingIOError)].lookup n

end LibraryClass

/-- The plain data among the arguments of an exception. What is no plain data is not known. -/
def Value.plainData (values : List Value) : List Json :=
  values.map fun v => match v with
    | .data value => value
    | _ => .null

namespace Hierarchy

variable (h : Hierarchy)

/-- Whether exceptions of the operating system that are of the class take their arguments when they
are initialised: another initialising function hides the native one, and no creating function
does. -/
def takesSystemArgumentsLate (c : ClassId) : Bool :=
  !(h.nativeInitialiser? c).any LibraryClass.isSystemError &&
    (h.info c).creator.any LibraryClass.isSystemError

/-- The largest integer that an index can have. -/
def largestIndex : Nat := Nat.pow 2 63 - 1

/-- Refuses a value that counts something. -/
def checkIndex (value : Json) : Except Fault Unit := do
  let n ← h.indexOf (.data value)
  if largestIndex < n ∨ n < -(largestIndex : Int) - 1 then
    .error (valueComplaint ("cannot fit '" ++ value.kind ++ "' into an index-sized integer"))

/-- An exception of the operating system made with arguments. From the third argument on they name
files, which the exception keeps apart from the others; for one that was blocked, a number in their
place counts what has been written. -/
def withSystemArguments (i : Instance) (arguments : List Json) : Except Fault Instance := do
  let known := decide (2 ≤ arguments.length ∧ arguments.length ≤ 5)
  let at? (n : Nat) : Option Json := if known then arguments[n]? else none
  let present? (n : Nat) : Option Json := (at? n).filter fun value => value.kind != "NoneType"
  let details : SystemDetails := ⟨at? 0, at? 1, none, none⟩
  match present? 2 with
  | none => return { i with arguments, system := details }
  | some file =>
    if i.type = LibraryClass.blockingIOError ∧ file.isNumber then
      h.checkIndex file
      return { i with arguments, system := details }
    else return { i with
      arguments := arguments.take 2
      system := { details with file := some file, otherFile := present? 4 } }

/-- The class of an exception of the operating system made with arguments: an error number selects
one if no derived class is asked for. -/
def systemErrorClass (c : ClassId) (arguments : List Json) : ClassId :=
  if c = .library .osError ∧ 2 ≤ arguments.length ∧ arguments.length ≤ 5 then
    match (arguments.head?.bind (·.integer?)).bind LibraryClass.ofErrorNumber? with
    | some l => l
    | none => c
  else c

/-- Creates an exception. -/
def createException (creator : LibraryClass) (c : ClassId) (arguments : List Value)
    (named : List (String × Value)) : Except Fault Instance := do
  let arguments := Value.plainData arguments
  if ¬creator.isSystemError then return { Instance.bare c with arguments }
  else if h.takesSystemArgumentsLate c then return Instance.bare c
  else
    refuseNames (h.info c).runtimeName named
    h.withSystemArguments (Instance.bare (systemErrorClass c arguments)) arguments

/-- The names that an exception about an attribute takes. -/
def attributeErrorNames : List String := ["name", "obj"]

/-- Refuses the arguments of an exception about bytes that cannot be decoded: no plain data is
bytes. -/
def checkDecodingArguments (arguments : List Value) : Except Fault Unit := do
  let checkText (place : Nat) (v : Value) : Except Fault Unit :=
    match v.content? with
    | some (.str _) => .ok ()
    | _ => .error (typeComplaint ("argument " ++ intText place ++ " must be str, not " ++
        if v.isNull then "None" else v.kind h))
  match arguments with
  | [encoding, bytes, start, stop, reason] =>
    checkText 1 encoding
    checkWord "ssize_t" (← h.indexOf start)
    checkWord "ssize_t" (← h.indexOf stop)
    checkText 5 reason
    .error (typeComplaint ("a bytes-like object is required, not '" ++ bytes.kind h ++ "'"))
  | _ => .error (typeComplaint ("function takes exactly 5 arguments (" ++
      intText arguments.length ++ " given)"))

/-- Initialises an exception. -/
def initialiseException (initialiser : LibraryClass) (i : Instance) (arguments : List Value)
    (named : List (String × Value)) : Except Fault Instance := do
  let name := (h.info i.type).runtimeName
  let plain := Value.plainData arguments
  if initialiser.isSystemError then
    if h.takesSystemArgumentsLate i.type then
      refuseNames name named
      h.withSystemArguments i plain
    else return i
  else if initialiser = .attributeError then
    match named.find? fun (key, _) => !attributeErrorNames.contains key with
    | some (key, _) => .error (typeComplaint
        ("'" ++ key ++ "' is an invalid keyword argument for AttributeError()"))
    | none => return { i with arguments := plain }
  else
    refuseNames name named
    if initialiser = .unicodeDecodeError then h.checkDecodingArguments arguments
    return { i with arguments := plain }

end Hierarchy

namespace Instance

/-- The text of an exception that has no text of its own class: its one argument, or all of them. -/
def plainText (i : Instance) : String :=
  match i.arguments with
  | [] => ""
  | [argument] => argument.text
  | arguments => Json.parenthesised (arguments.map Json.literal)

/-- The text of an exception of the operating system. -/
def systemText (i : Instance) : String :=
  let shown (part : Option Json) : Json := part.getD .null
  let front := "[Errno " ++ (shown i.system.number).text ++ "] " ++ (shown i.system.text).text
  match i.system.file, i.system.otherFile, i.system.number, i.system.text with
  | some file, some other, _, _ =>
    front ++ ": " ++ file.literal ++ " -> " ++ other.literal
  | some file, none, _, _ => front ++ ": " ++ file.literal
  | none, _, some _, some _ => front
  | none, _, _, _ => i.plainText

/-- The text that the native function of a library class gives an exception. -/
def describe (describer : LibraryClass) (i : Instance) : String :=
  match describer, i.arguments with
  | .unicodeDecodeError, _ => ""
  | .keyError, [key] => key.literal
  | .osError, _ => i.systemText
  | _, _ => i.plainText

end Instance

end UtilityClass
