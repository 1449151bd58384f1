import UtilityClass.Signature.Basic

/-!
# Passing arguments

A call passes a number of positional arguments and some named ones. Positional arguments fill the
parameters from the left; then each named argument looks for its parameter, in the order in which
the call names them; then surplus and missing arguments are complained of. The order of these steps
decides which complaint wins when a call is wrong in more than one way.

## Main definitions

* `CallError` : what can be wrong with a call
* `Signature.pass` : passing arguments to parameters
* `Signature.argument?`, `Signature.firstArgument?` : what a parameter gets
-/

namespace UtilityClass

/-- What can be wrong with a call. -/
inductive CallError where
  | repeated (name : String)
  | positionalByName (names : List String)
  | unknownName (name : String)
  /-- More positional arguments than the function takes; `least` is smaller than `most` if some
  parameters have defaults, and `named` counts the arguments given to parameters taken by name
  only. -/
  | surplus (least most given named : Nat)
  | missing (names : List String)
  | missingNamed (names : List String)
  deriving DecidableEq

namespace CallError

/-- The ending of a word for a count. -/
def plural (n : Nat) : String := if n = 1 then "" else "s"

/-- Names in quotes, set apart by commas and the word between the last two. -/
def listing (names : List String) : String :=
  match (names.map Quoted.text).reverse with
  | [] => ""
  | [a] => a
  | [b, a] => a ++ " and " ++ b
  | last :: front => joinText ", " front.reverse ++ ", and " ++ last

/-- What is said of a call to the named function. -/
def message (function : String) (e : CallError) : String :=
  function ++ "() " ++ match e with
    | .repeated name => "got multiple values for argument '" ++ name ++ "'"
    | .positionalByName names =>
      "got some positional-only arguments passed as keyword arguments: '" ++
        joinText ", " names ++ "'"
    | .unknownName name => "got an unexpected keyword argument '" ++ name ++ "'"
    | .surplus least most given named =>
      let range := if least < most then "from " ++ intText least ++ " to " ++ intText most
        else intText most
      let ending := if least < most ∨ most ≠ 1 then "s" else ""
      let others := if named = 0 then ""
        else " positional argument" ++ plural given ++ " (and " ++ intText named ++
          " keyword-only argument" ++ plural named ++ ")"
      let verb := if given = 1 ∧ named = 0 then "was" else "were"
      "takes " ++ range ++ " positional argument" ++ ending ++ " but " ++ intText given ++ others ++
        " " ++ verb ++ " given"
    | .missing names =>
      "missing " ++ intText names.length ++ " required positional argument" ++
        plural names.length ++ ": " ++ listing names
    | .missingNamed names =>
      "missing " ++ intText names.length ++ " required keyword-only argument" ++
        plural names.length ++ ": " ++ listing names

end CallError

namespace Signature

/-- Named arguments find their parameters one after the other. `filled` holds the names of the
parameters that have an argument. -/
def passNamed (parameters : List Parameter) :
    List String → List String → Except CallError (List String)
  | filled, [] => .ok filled
  | filled, name :: rest =>
    let takes := parameters.any fun p => p.name == name &&
      (p.kind == .plain || p.kind == .named)
    if takes then
      if filled.contains name then .error (.repeated name)
      else passNamed parameters (name :: filled) rest
    else if parameters.any fun p => p.kind == .namedRest then passNamed parameters filled rest
    else
      let wrongly := (parameters.filter fun p => p.kind == .positional &&
        (name :: rest).contains p.name).map (·.name)
      if wrongly.isEmpty then .error (.unknownName name) else .error (.positionalByName wrongly)

/-- Passes arguments: an error if they do not fit the parameters. -/
def pass (parameters : List Parameter) (given : Nat) (names : List String) :
    Except CallError Unit := do
  let positional := parameters.filter (·.isPositional)
  let named := parameters.filter fun p => p.kind == .named
  let filled := (positional.take given).map (·.name)
  let filled ← passNamed parameters filled names
  let defaults := positional.countP (·.default.isSome)
  if positional.length < given ∧ ¬parameters.any (fun p => p.kind == .rest) then
    .error (.surplus (positional.length - defaults) positional.length given
      (named.countP fun p => filled.contains p.name))
  let lacks (p : Parameter) : Bool := p.default.isNone && !filled.contains p.name
  let missing := ((positional.drop given).filter lacks).map (·.name)
  if ¬missing.isEmpty then .error (.missing missing)
  let missingNamed := (named.filter lacks).map (·.name)
  if ¬missingNamed.isEmpty then .error (.missingNamed missingNamed)
  .ok ()

variable {α : Type} (ofDefault : Json → α)

/-- The argument of the parameter of a name in a call that fits: one given by position or by name,
or the default. -/
def argument? (parameters : List Parameter) (name : String) (given : List α)
    (named : List (String × α)) : Option α :=
  let positional := parameters.filter (·.isPositional)
  let isNameless := parameters.any fun p => p.name == name && p.kind == .positional
  match given[positional.findIdx fun p => p.name == name]?,
      if isNameless then none else named.lookup name with
  | some a, _ => some a
  | none, some a => some a
  | none, none =>
    (parameters.find? fun p => p.name == name).bind fun p => p.default.map ofDefault

/-- What a call that fits hands to the first parameter. One that collects positional arguments has
the first of them, and one that takes arguments by name only has none. -/
def firstArgument? (parameters : List Parameter) (given : List α) (named : List (String × α)) :
    Option α :=
  match parameters with
  | [] => none
  | p :: _ =>
    match p.kind with
    | .positional | .plain => argument? ofDefault parameters p.name given named
    | .rest => given.head?
    | .named | .namedRest => none

/-- The positional arguments that no parameter of their own takes. -/
def surplus (parameters : List Parameter) (given : List α) : List α :=
  given.drop (parameters.countP (·.isPositional))

end Signature

end UtilityClass
