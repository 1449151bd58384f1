import UtilityClass.Text.Joined
import UtilityClass.Text.Printable

/-!
# Quoted strings

How a string is shown inside a message: in single quotes, or in double quotes if it holds a single
quote and no double one. The quote in use and the backslash are escaped with a backslash, line
breaks and tabs by a letter, and every other character that is not printable by its code point.

## Main definitions

* `Quoted.text` : a string in quotes
* `Quoted.asciiOnly` : the same text with every character beyond ASCII escaped
-/

namespace UtilityClass

namespace Quoted

/-- A character by its code point, in two, four or eight hexadecimal digits. -/
def escapedPoint (c : Char) : List Char :=
  if c.toNat < 256 then '\\' :: 'x' :: hexText 2 c.toNat
  else if c.toNat < 65536 then '\\' :: 'u' :: hexText 4 c.toNat
  else '\\' :: 'U' :: hexText 8 c.toNat

/-- A character as it stands between quotes of the given kind. -/
def shown (quote c : Char) : List Char :=
  if c = quote ∨ c = '\\' then ['\\', c]
  else if c = '\n' then ['\\', 'n']
  else if c = '\r' then ['\\', 'r']
  else if c = '\t' then ['\\', 't']
  else if Unicode.isPrintable c then [c]
  else escapedPoint c

/-- The quote that a text is put in. -/
def quoteFor (text : List Char) : Char :=
  if '\'' ∈ text ∧ '"' ∉ text then '"' else '\''

/-- A string in quotes. -/
def text (s : String) : String :=
  let chars := s.toList
  let quote := quoteFor chars
  String.ofList (quote :: (chars.flatMap (shown quote) ++ [quote]))

/-- A text with every character beyond ASCII escaped by its code point. -/
def asciiOnly (s : String) : String :=
  String.ofList (s.toList.flatMap fun c => if c.toNat < 128 then [c] else escapedPoint c)

end Quoted

end UtilityClass
