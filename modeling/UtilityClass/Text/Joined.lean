/-!
# Joined texts

Texts are handled as lists of characters where their parts matter. `joined` puts a separator between
consecutive parts and nowhere else.
-/

namespace UtilityClass

/-- The parts with the separator between consecutive ones. -/
def joined (separator : List Char) : List (List Char) → List Char
  | [] => []
  | [part] => part
  | part :: next :: rest => part ++ separator ++ joined separator (next :: rest)

@[simp] theorem joined_nil (separator : List Char) : joined separator [] = [] := rfl

@[simp] theorem joined_singleton (separator part : List Char) :
    joined separator [part] = part := rfl

theorem joined_cons_cons (separator part next : List Char) (rest : List (List Char)) :
    joined separator (part :: next :: rest) =
      part ++ separator ++ joined separator (next :: rest) := rfl

theorem joined_cons_eq (separator part : List Char) (rest : List (List Char)) :
    joined separator (part :: rest) = part ++ rest.flatMap (separator ++ ·) := by
  induction rest generalizing part with
  | nil => simp
  | cons next rest ih =>
    rw [joined_cons_cons, ih next, List.flatMap_cons, List.append_assoc, List.append_assoc]

/-- Texts with a separator between consecutive ones. -/
def joinText (separator : String) (parts : List String) : String :=
  String.ofList (joined separator.toList (parts.map String.toList))

/-- `n` in hexadecimal, with zeros in front up to the width. -/
def hexText (width n : Nat) : List Char :=
  let digits := Nat.toDigits 16 n
  List.replicate (width - digits.length) '0' ++ digits

/-- Decimal text of an integer. -/
def intText (n : Int) : String :=
  let digits := Nat.toDigits 10 n.natAbs
  String.ofList (if n < 0 then '-' :: digits else digits)

end UtilityClass
