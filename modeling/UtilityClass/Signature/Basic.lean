import UtilityClass.Class.LibraryClass
import UtilityClass.Json.Basic
import UtilityClass.Text.Literal

/-!
# Signatures

A signature is what can be read of a function from outside: its parameters in order and what it says
to return. Two questions are asked of one. How many arguments does a constructor take beyond the
object or class it works on? And would it take one positional argument and nothing else? The first
only counts parameters, the second places the argument.

## Main definitions

* `Parameter`, `Signature`
* `Signature.arity` : the arguments beyond the receiver, leaving out the parameters that collect
  surplus ones
* `Signature.accepts` : whether a number of positional arguments and nothing else can be placed
* `Signature.text` : the written form
-/

namespace UtilityClass

/-- How a parameter takes its argument. -/
inductive ParameterKind where
  /-- By position only. -/
  | positional
  /-- By position or by name. -/
  | plain
  /-- All surplus positional arguments. -/
  | rest
  /-- By name only. -/
  | named
  /-- All surplus named arguments. -/
  | namedRest
  deriving DecidableEq

/-- What a function says of a parameter, or of its result: a class, or plain data. -/
inductive Annotation where
  | ofClass (c : ClassId)
  | data (value : Json)

/-- A parameter of a function. -/
structure Parameter where
  name : String
  kind : ParameterKind
  default : Option Json
  annotation : Option Annotation

namespace Parameter

/-- A parameter without default and annotation. -/
def bare (kind : ParameterKind) (name : String) : Parameter := ⟨name, kind, none, none⟩

/-- Whether the parameter can take an argument by position. -/
def isPositional (p : Parameter) : Bool :=
  match p.kind with
  | .positional | .plain => true
  | _ => false

/-- Whether the parameter collects surplus arguments. -/
def isVariadic (p : Parameter) : Bool :=
  match p.kind with
  | .rest | .namedRest => true
  | _ => false

end Parameter

/-- What can be read of a function from outside. -/
structure Signature where
  parameters : List Parameter
  result : Option Annotation

namespace Signature

/-- The parameters without the first one, if that is positional: it takes the object or class that a
constructor works on. -/
def dropReceiver : List Parameter → List Parameter
  | [] => []
  | p :: rest => if p.isPositional then rest else p :: rest

/-- How many arguments the signature takes beyond the receiver. -/
def arity (s : Signature) : Nat := (dropReceiver s.parameters).countP fun p => !p.isVariadic

/-- Whether the given number of positional arguments and nothing else can be placed. -/
def placeable : Nat → List Parameter → Bool
  | given, [] => decide (given = 0)
  | given, p :: rest =>
    match p.kind, given with
    | .positional, given + 1 | .plain, given + 1 => placeable given rest
    | .rest, _ => placeable 0 rest
    | .namedRest, 0 => placeable 0 rest
    | _, 0 => p.default.isSome && placeable 0 rest
    | _, _ + 1 => false

/-- Whether the given number of positional arguments and nothing else can be placed. -/
def accepts (s : Signature) (given : Nat) : Bool := placeable given s.parameters

/-- The signature after its receiver has been given. A first parameter that collects positional
arguments stays; one that takes no positional argument leaves no signature. -/
def bound? (s : Signature) : Option Signature :=
  match s.parameters with
  | [] => none
  | p :: rest =>
    match p.kind with
    | .positional | .plain => some ⟨rest, s.result⟩
    | .rest => some s
    | .named | .namedRest => none

/-! ## Written form -/

/-- A parameter as it is written, given the text of annotations. The default is set off by blanks
only after an annotation. -/
def parameterText {ε : Type} (annotationText : Annotation → Except ε String) (p : Parameter) :
    Except ε String := do
  let stars := match p.kind with
    | .rest => "*"
    | .namedRest => "**"
    | _ => ""
  let annotation ← match p.annotation with
    | some a => (annotationText a).map fun t => some t
    | none => .ok none
  .ok (stars ++ match annotation, p.default with
    | none, none => p.name
    | none, some v => p.name ++ "=" ++ v.literal
    | some a, none => p.name ++ ": " ++ a
    | some a, some v => p.name ++ ": " ++ a ++ " = " ++ v.literal)

/-- The written parameters. A `/` closes the positional ones, and a `*` opens the named ones if no
parameter collects positional arguments before them. `closing` and `opening` say whether these
marks are still due. -/
def partsText {ε : Type} (annotationText : Annotation → Except ε String) :
    Bool → Bool → List Parameter → Except ε (List String)
  | closing, _, [] => .ok (if closing then ["/"] else [])
  | closing, opening, p :: rest => do
    let text ← parameterText annotationText p
    match p.kind with
    | .positional => return text :: (← partsText annotationText true opening rest)
    | .rest =>
      return (if closing then ["/"] else []) ++
        text :: (← partsText annotationText false false rest)
    | .named =>
      return (if closing then ["/"] else []) ++ (if opening then ["*"] else []) ++
        text :: (← partsText annotationText false false rest)
    | _ =>
      return (if closing then ["/"] else []) ++
        text :: (← partsText annotationText false opening rest)

/-- The written form, given the text of annotations. -/
def text {ε : Type} (annotationText : Annotation → Except ε String) (s : Signature) :
    Except ε String := do
  let parts ← partsText annotationText false true s.parameters
  let written := "(" ++ joinText ", " parts ++ ")"
  match s.result with
  | some a => return written ++ " -> " ++ (← annotationText a)
  | none => return written

end Signature

end UtilityClass
