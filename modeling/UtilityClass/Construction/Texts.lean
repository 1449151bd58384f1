import UtilityClass.Class.Literal
import UtilityClass.Construction.Arguments

/-!
# Texts and bytes

A text is made of any value, and bytes are made of a text in an encoding, of integers, or of a
count. Both take the names of an encoding and of a way to treat errors.

## Main definitions

* `Hierarchy.createText`, `Hierarchy.createBytes`
-/

namespace UtilityClass

namespace Hierarchy

variable (h : Hierarchy)

/-- Refuses an argument of a function that has to be a text. -/
def checkTextArgument (function name : String) (v : Value) : Except Fault Unit :=
  match v.content? with
  | some (.str text) =>
    if text.toList.contains '\x00' then .error (valueComplaint "embedded null character")
    else .ok ()
  | _ => .error (typeComplaint (function ++ "() argument '" ++ name ++ "' must be str, not " ++
      if v.isNull then "None" else v.kind h))

/-- The arguments of a function that takes a value, an encoding and a way to treat errors. -/
def takeEncoded (function source : String) (given : List Value) (named : List (String × Value)) :
    Except Fault (Option Value × Option Value × Option Value) := do
  let parameters := NativeParameters.ofNames (some function) [source, "encoding", "errors"] 0
  let taken ← parameters.take given named acceptAny
  let encoding := taken[1]?.getD none
  let errors := taken[2]?.getD none
  discard (encoding.mapM (h.checkTextArgument function "encoding"))
  discard (errors.mapM (h.checkTextArgument function "errors"))
  return (taken.head?.getD none, encoding, errors)

/-- A value as a text. -/
def textOfValue (v : Value) : Except Fault String :=
  match v.content? with
  | some value => .ok value.text
  | none => Value.literal h v

/-- The text that arguments give. -/
def createText (given : List Value) (named : List (String × Value)) : Except Fault String := do
  let (source, encoding, errors) ← h.takeEncoded "str" "object" given named
  match source with
  | none => return ""
  | some v =>
    if encoding.isNone ∧ errors.isNone then h.textOfValue v
    else match v.content? with
      | some (.str _) => .error (typeComplaint "decoding str is not supported")
      | _ => .error (typeComplaint
          ("decoding to str: need a bytes-like object, " ++ v.kind h ++ " found"))

/-! ## Bytes -/

/-- The names of encodings, without regard to case and with each run of other signs as one
underscore. -/
def encodings : List String :=
  ["utf_8", "utf8", "u8", "utf", "cp65001", "ascii", "us_ascii", "646", "latin_1", "latin1",
    "latin", "l1", "iso_8859_1", "iso8859_1", "iso_8859_15", "8859", "cp819", "utf_16", "utf16",
    "u16", "utf_16_le", "utf_16_be", "utf_32", "utf32", "u32", "utf_32_le", "utf_32_be", "utf_7",
    "utf7", "utf_8_sig", "cp1252", "windows_1252", "cp437", "cp850", "cp1250", "cp1251", "gbk",
    "big5", "shift_jis", "euc_jp", "koi8_r", "mac_roman", "idna", "punycode", "raw_unicode_escape",
    "unicode_escape"]

/-- The name of an encoding in the form in which names are compared. -/
def plainEncoding (name : String) : String :=
  String.ofList (plainFrom false name.toList)
where
  /-- The characters from a place on, behind a sign or not. -/
  plainFrom (behindSign : Bool) : List Char → List Char
    | [] => []
    | c :: rest =>
      if c.isAlphanum || c == '.' then
        (if behindSign then ['_'] else []) ++ c.toLower :: plainFrom false rest
      else plainFrom true rest

/-- Refuses an encoding that nobody knows. -/
def checkEncoding (v : Value) : Except Fault Unit :=
  match v.content? with
  | some (.str name) =>
    if encodings.contains (plainEncoding name) then .ok ()
    else .error (.refusal (.complaint .lookupError ("unknown encoding: " ++ name)))
  | _ => .ok ()

/-- Refuses an item that is no byte. -/
def checkByte (item : Json) : Except Fault Unit := do
  let n ← h.indexOf (.data item)
  if n < 0 ∨ 255 < n then .error (valueComplaint "bytes must be in range(0, 256)")

/-- Refuses a value that bytes cannot be made of without an encoding. -/
def checkByteSource (v : Value) : Except Fault Unit := do
  match v.content? with
  | some (.str _) => .error (typeComplaint "string argument without an encoding")
  | content =>
    match content.bind Json.integer?, itemsOf? v with
    | some n, _ =>
      if Nat.pow 2 63 ≤ n ∨ n < -(Nat.pow 2 63 : Int) then
        .error (overflowComplaint
          ("cannot fit '" ++ v.kind h ++ "' into an index-sized integer"))
      if n < 0 then .error (valueComplaint "negative count")
    | none, some items => items.forM h.checkByte
    | none, none => .error (typeComplaint ("cannot convert '" ++ v.kind h ++ "' object to bytes"))

/-- Refuses arguments that give no bytes. -/
def createBytes (given : List Value) (named : List (String × Value)) : Except Fault Unit := do
  let isText (v : Value) : Bool := match v.content? with
    | some (.str _) => true
    | _ => false
  match ← h.takeEncoded "bytes" "source" given named with
  | (none, some _, _) => .error (typeComplaint "encoding without a string argument")
  | (none, none, some _) => .error (typeComplaint "errors without a string argument")
  | (none, none, none) => return
  | (some v, some encoding, _) =>
    if ¬isText v then .error (typeComplaint "encoding without a string argument")
    checkEncoding encoding
  | (some v, none, some _) =>
    .error (typeComplaint (if isText v then "string argument without an encoding"
      else "errors without a string argument"))
  | (some v, none, none) => h.checkByteSource v

end Hierarchy

end UtilityClass
