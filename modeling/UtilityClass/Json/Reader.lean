import UtilityClass.Json.Document

/-!
# Reading documents

The reader takes text apart by recursive descent. It leaves the meaning of number tokens to a
parameter, so that statements about reading what was printed need no arithmetic: `readWith number`
reads every token through `number`, and `Document.read?` uses `Document.ofNumberToken`, which keeps
integers exact and rounds every other number to the nearest double.

Strings are read in two steps. First each escape becomes a piece, either a character or a UTF-16
unit; then `joinPieces` puts pairs of surrogate units together. A surrogate without its partner
stays what it is. Only escapes make pairs, since the text that is read has characters alone.

## Main definitions

* `Document.pieces`, `Document.joinPieces` : the two steps of reading a string
* `Document.readValue` : a value at the front of a text
* `Document.read?` : a whole text
-/

namespace UtilityClass

namespace Document

/-- Blanks, tabs and line breaks may stand between tokens. -/
def isBlank (c : Char) : Bool := c == ' ' || c == '\n' || c == '\r' || c == '\t'

/-- The text without the blanks in front of it. -/
def skipBlanks : List Char → List Char := List.dropWhile isBlank

/-- The value of a hexadecimal digit. -/
def hexValue? (c : Char) : Option Nat :=
  if '0' ≤ c ∧ c ≤ '9' then some (c.toNat - 48)
  else if 'a' ≤ c ∧ c ≤ 'f' then some (c.toNat - 87)
  else if 'A' ≤ c ∧ c ≤ 'F' then some (c.toNat - 55)
  else none

/-- The number that four hexadecimal digits denote. -/
def unit? (a b c d : Char) : Option Nat :=
  match hexValue? a, hexValue? b, hexValue? c, hexValue? d with
  | some a, some b, some c, some d => some (((a * 16 + b) * 16 + c) * 16 + d)
  | _, _, _, _ => none

/-- Part of a string: a character that stands for itself, or a UTF-16 unit. -/
inductive Piece where
  | char (c : Char)
  | unit (n : Nat)

/-- The character that a backslash makes of a letter. -/
def shortEscape? (c : Char) : Option Char :=
  if c = '"' then some '"'
  else if c = '\\' then some '\\'
  else if c = '/' then some '/'
  else if c = 'n' then some '\n'
  else if c = 'r' then some '\r'
  else if c = 't' then some '\t'
  else if c = 'b' then some '\x08'
  else if c = 'f' then some '\x0c'
  else none

/-- The pieces up to the closing quote, and the text after it. -/
def pieces : List Char → Option (List Piece × List Char)
  | [] => none
  | '"' :: rest => some ([], rest)
  | '\\' :: 'u' :: a :: b :: c :: d :: rest =>
    match unit? a b c d, pieces rest with
    | some n, some (more, rest) => some (.unit n :: more, rest)
    | _, _ => none
  | '\\' :: c :: rest =>
    match shortEscape? c, pieces rest with
    | some c, some (more, rest) => some (.char c :: more, rest)
    | _, _ => none
  | c :: rest =>
    match pieces rest with
    | some (more, rest) => some (.char c :: more, rest)
    | none => none

/-- The code points of the pieces, with pairs of surrogates put together. -/
def joinPieces : List Piece → Text
  | [] => []
  | .char c :: rest => .ofChar c :: joinPieces rest
  | .unit high :: .unit low :: rest =>
    if (CodePoint.ofNat high).isHigh && (CodePoint.ofNat low).isLow then
      (CodePoint.ofNat high).join (.ofNat low) :: joinPieces rest
    else .ofNat high :: joinPieces (.unit low :: rest)
  | .unit n :: rest => .ofNat n :: joinPieces rest

/-- A string whose opening quote is already read. -/
def readString (text : List Char) : Option (Text × List Char) :=
  (pieces text).map fun (found, rest) => (joinPieces found, rest)

/-- The characters of number tokens. -/
def isNumberChar (c : Char) : Bool :=
  ('0' ≤ c && c ≤ '9') || c == '-' || c == '+' || c == '.' || c == 'e' || c == 'E'

/-- The text after a word, if it starts with it. -/
def afterWord : List Char → List Char → Option (List Char)
  | [], rest => some rest
  | w :: word, c :: rest => if w = c then afterWord word rest else none
  | _ :: _, [] => none

/-- The words that stand for themselves. -/
def words : List (List Char × Document) :=
  [("null".toList, .null), ("true".toList, .bool true), ("false".toList, .bool false),
    ("NaN".toList, .float .nan), ("Infinity".toList, .float (.infinite false)),
    ("-Infinity".toList, .float (.infinite true))]

/-- A value that is a word or a number. -/
def readAtom (number : List Char → Option Document) (text : List Char) :
    Option (Document × List Char) :=
  match words.findSome? fun (word, value) => (afterWord word text).map (value, ·) with
  | some found => some found
  | none => (number (text.takeWhile isNumberChar)).map (·, text.dropWhile isNumberChar)

mutual

/-- A value at the front of a text. The fuel bounds the depth of the descent; the length of the text
is always enough, since each step of the descent has read a character. -/
def readValue (number : List Char → Option Document) :
    Nat → List Char → Option (Document × List Char)
  | 0, _ => none
  | fuel + 1, text =>
    match skipBlanks text with
    | '"' :: rest => (readString rest).map fun (s, rest) => (.str s, rest)
    | '[' :: rest =>
      match skipBlanks rest with
      | ']' :: rest => some (.arr [], rest)
      | rest => (readItems number fuel rest).map fun (items, rest) => (.arr items, rest)
    | '{' :: rest =>
      match skipBlanks rest with
      | '}' :: rest => some (.obj [], rest)
      | rest => (readFields number fuel rest).map fun (fields, rest) =>
        (.obj (collected fields), rest)
    | rest => readAtom number rest

/-- Items up to the closing bracket. -/
def readItems (number : List Char → Option Document) :
    Nat → List Char → Option (List Document × List Char)
  | 0, _ => none
  | fuel + 1, text =>
    match readValue number fuel text with
    | some (item, rest) =>
      match skipBlanks rest with
      | ',' :: rest => (readItems number fuel rest).map fun (items, rest) => (item :: items, rest)
      | ']' :: rest => some ([item], rest)
      | _ => none
    | none => none

/-- Fields up to the closing brace. -/
def readFields (number : List Char → Option Document) :
    Nat → List Char → Option (List (Text × Document) × List Char)
  | 0, _ => none
  | fuel + 1, text =>
    match skipBlanks text with
    | '"' :: rest =>
      match readString rest with
      | some (name, rest) =>
        match skipBlanks rest with
        | ':' :: rest =>
          match readValue number fuel rest with
          | some (value, rest) =>
            match skipBlanks rest with
            | ',' :: rest =>
              (readFields number fuel rest).map fun (fields, rest) =>
                ((name, value) :: fields, rest)
            | '}' :: rest => some ([(name, value)], rest)
            | _ => none
          | none => none
        | _ => none
      | none => none
    | _ => none

end

/-- A whole text, read with the given meaning of number tokens. -/
def readWith (number : List Char → Option Document) (text : String) : Option Document :=
  let chars := text.toList
  match readValue number (chars.length + 1) chars with
  | some (value, rest) => if (skipBlanks rest).isEmpty then some value else none
  | none => none

/-- The natural number that decimal digits denote; `none` without digits. -/
def digits? (text : List Char) : Option Nat :=
  if text.isEmpty || !text.all Char.isDigit then none
  else some (text.foldl (fun n c => 10 * n + (c.toNat - 48)) 0)

/-- The integer that digits with an optional sign denote. -/
def signed? : List Char → Option Int
  | '-' :: rest => (digits? rest).map fun n => -(n : Int)
  | '+' :: rest => (digits? rest).map Int.ofNat
  | text => (digits? text).map Int.ofNat

/-- Whole digits, digits after the point and the power of ten of a decimal without its sign. -/
def decimalParts? (text : List Char) : Option (List Char × List Char × Int) :=
  let mantissa := text.takeWhile fun c => c != 'e' && c != 'E'
  let whole := mantissa.takeWhile (· != '.')
  let power : Option Int := match text.drop mantissa.length with
    | [] => some 0
    | _ :: rest => signed? rest
  let places : Option (List Char) := match mantissa.drop whole.length with
    | [] => some []
    | _ :: rest => if rest.isEmpty then none else some rest
  match places, power with
  | some places, some power => some (whole, places, power)
  | _, _ => none

/-- A number token: digits alone are an integer, a point or an exponent makes a double. -/
def ofNumberToken (token : List Char) : Option Document :=
  let (negative, body) := match token with
    | '-' :: rest => (true, rest)
    | text => (false, text)
  match digits? body with
  | some n => some (.int (if negative then -(n : Int) else n))
  | none =>
    match decimalParts? body with
    | some (whole, places, power) =>
      match digits? whole, digits? (whole ++ places) with
      | some _, some n => some (.float (.ofDecimal negative n (power - places.length)))
      | _, _ => none
    | none => none

/-- The document that a text denotes. -/
def read? (text : String) : Option Document := readWith ofNumberToken text

end Document

end UtilityClass
