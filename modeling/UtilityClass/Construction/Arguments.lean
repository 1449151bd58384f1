import UtilityClass.Fault
import UtilityClass.Value

/-!
# Arguments of native functions

Native functions take their arguments in one of two ways. Most of the older ones only count those
that are given by position, and refuse names. The others have parameters with names: an argument
belongs to the parameter of its place or of its name, and each way of getting this wrong has a
complaint of its own.

## Main definitions

* `checkCount`, `refuseNames` : arguments that are counted
* `NativeParameters`, `NativeParameters.take` : arguments that belong to parameters
* `Hierarchy.indexOf`, `Hierarchy.itemsOf` : arguments as integers and as sequences
-/

namespace UtilityClass

/-! ## Counting -/

/-- A number of things, which are one or several. -/
def counted (n : Nat) (thing : String) : String :=
  intText n ++ " " ++ thing ++ if n = 1 then "" else "s"

/-- Refuses named arguments. -/
def refuseNames (name : String) (named : List (String × Value)) : Except Fault Unit :=
  if named.isEmpty then .ok () else .error (.refusal (.takesNoNamedArguments name))

/-- Refuses too few and too many arguments. -/
def checkCount (name : String) (least most given : Nat) : Except Fault Unit :=
  let refuse (bound : String) (n : Nat) : Except Fault Unit :=
    .error (typeComplaint (name ++ " expected " ++ (if least = most then "" else bound) ++
      counted n "argument" ++ ", got " ++ intText given))
  if given < least then refuse "at least " least
  else if most < given then refuse "at most " most
  else .ok ()

/-! ## Parameters -/

/-- How a native function takes its arguments. -/
structure NativeParameters where
  /-- The function as messages name it, if they do. -/
  function : Option String
  /-- The names of the parameters. One without a name is taken by its place only. -/
  names : List (Option String)
  /-- How many arguments are required. -/
  required : Nat
  /-- How many may be given by position. -/
  positional : Nat

namespace NativeParameters

variable (p : NativeParameters)

/-- Parameters that may all be given by position or by name. -/
def ofNames (function : Option String) (names : List String) (required : Nat) :
    NativeParameters :=
  ⟨function, names.map some, required, names.length⟩

/-- The function as a complaint names it at its beginning. -/
def called : String := (p.function.map (· ++ "()")).getD "function"

/-- The arguments of parameters from a place on: those of the places, as far as they may be given by
position, then those of the names. Each is checked when it is its turn. -/
def fill (check : Nat → Value → Except Fault Unit) (named : List (String × Value)) :
    Nat → List (Option String) → List Value → Except Fault (List (Option Value))
  | _, [], _ => .ok []
  | place, _ :: names, v :: given => do
    if place = p.positional then
      .error (typeComplaint (p.called ++ " takes at most " ++
        counted p.positional "positional argument" ++ " (" ++
        intText (place + 1 + given.length) ++ " given)"))
    check place v
    return some v :: (← fill check named (place + 1) names given)
  | place, name :: names, [] => do
    match name.bind fun n => named.lookup n with
    | some v =>
      check place v
      return some v :: (← fill check named (place + 1) names [])
    | none =>
      if place < p.required then
        .error (typeComplaint (p.called ++ " missing required argument '" ++ name.getD "" ++
          "' (pos " ++ intText (place + 1) ++ ")"))
      return none :: (← fill check named (place + 1) names [])

/-- Refuses names that are no names of parameters, or that are those of arguments given by
position. -/
def checkNames (named : List (String × Value)) (given : Nat) : Except Fault Unit :=
  match (p.names.take given).zipIdx.find? fun (name, _) => name.any fun n =>
      (named.lookup n).isSome with
  | some (name, place) =>
    .error (typeComplaint ("argument for " ++ p.called ++ " given by name ('" ++ name.getD "" ++
      "') and position (" ++ intText (place + 1) ++ ")"))
  | none =>
    match named.find? fun (name, _) => !p.names.contains (some name) with
    | some (name, _) =>
      .error (typeComplaint ("'" ++ name ++ "' is an invalid keyword argument for " ++
        if p.function.isSome then p.called else "this function"))
    | none => .ok ()

/-- The arguments of the parameters. -/
def take (given : List Value) (named : List (String × Value))
    (check : Nat → Value → Except Fault Unit) : Except Fault (List (Option Value)) := do
  let total := given.length + named.length
  if p.names.length < total then
    .error (typeComplaint (p.called ++ " takes at most " ++
      counted p.names.length (if given.isEmpty then "keyword argument" else "argument") ++ " (" ++
      intText total ++ " given)"))
  let taken ← p.fill check named 0 p.names given
  p.checkNames named given.length
  return taken

end NativeParameters

/-- Accepts every argument. -/
def acceptAny (_place : Nat) (_v : Value) : Except Fault Unit := .ok ()

/-! ## Readings of a value -/

/-- Refuses an integer that does not fit into a machine word, which messages know by a name. -/
def checkWord (name : String) (n : Int) : Except Fault Unit :=
  if n < -(Nat.pow 2 63 : Int) ∨ (Nat.pow 2 63 : Int) ≤ n then
    .error (overflowComplaint ("Python int too large to convert to C " ++ name))
  else .ok ()

namespace Hierarchy

variable (h : Hierarchy)

/-- The integer that a value is; no other number will do. -/
def indexOf (v : Value) : Except Fault Int :=
  match v.content?.bind Json.integer? with
  | some n => .ok n
  | none => .error (typeComplaint
      ("'" ++ v.kind h ++ "' object cannot be interpreted as an integer"))

/-- The items of a value, if it is a sequence. Of items that are no plain data nothing is known. -/
def itemsOf? (v : Value) : Option (List Json) :=
  match v with
  | .tuple items => some (items.map fun item => match item with
      | .plain value => value
      | .ofClass _ => .null)
  | .blueprint b => some (b.entries.map fun (name, _) => .str name)
  | v => v.content?.bind Json.items?

/-- The items of a value, which has to be a sequence. -/
def itemsOf (v : Value) : Except Fault (List Json) :=
  match itemsOf? v with
  | some items => .ok items
  | none => .error (.refusal (.notIterable (v.kind h)))

end Hierarchy

/-- Refuses items that cannot be kept in a table. -/
def checkKeys (items : List Json) : Except Fault Unit :=
  match items.find? fun item => !item.isHashable with
  | some item => .error (.unhashable item.kind)
  | none => .ok ()

end UtilityClass
