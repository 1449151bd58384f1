import UtilityClass.Name

/-!
# What can be wrong with a template

Each constructor is one cause; `Template.Error.message` holds the wording of all of them. The causes
fall into four families: the braces of the template, the references inside its fields, the
conversions and specifications of how a value is shown, and names without a text.
-/

namespace UtilityClass

namespace Template

/-- Why a template cannot be filled in. -/
inductive Error where
  -- braces
  | singleOpening
  | singleClosing
  | openingInReference
  | unclosedField
  | unclosedSpecification
  | missingConversion
  | textAfterConversion
  -- references
  | automaticAfterManual
  | manualAfterAutomatic
  | tooManyDigits
  | indexOutOfRange (index : Nat)
  | noNamedArgument (key : String)
  | emptyStep
  | unclosedBracket
  | textAfterBracket
  | noAttribute (kind name : String)
  | noTypeAttribute (typeName name : String)
  | notSubscriptable (kind : String)
  | typeNotSubscriptable (name : String)
  | itemOutOfRange (kind : String)
  | keyIntoList
  | keyIntoText
  | noItem (key : Json)
  -- conversions and specifications
  | unknownConversion (c : Char)
  | tooDeep
  | unsupported (kind : String)
  | unknownCode (c : Char) (kind : String)
  | invalidSpecification (text kind : String)
  | missingPrecision
  | groupingWith (separator code : Char)
  | bothSeparators
  | signOnText
  | blankOnText
  | zeroCoercionOnText
  | alternateOnText
  | signAlignmentOnText
  | precisionOnInteger
  | zeroCoercionOnInteger
  | signOnCharacter
  | alternateOnCharacter
  | noSuchCharacter
  | characterTooLarge
  | precisionTooBig
  | integerTooLarge
  -- values
  | unnamed (cause : NameError)

/-- A character of a specification as it is named in a complaint: in hexadecimal unless it is
visible ASCII. -/
def namedCode (c : Char) : String :=
  if 32 < c.toNat ∧ c.toNat < 128 then c.toString
  else "\\x" ++ String.ofList (Nat.toDigits 16 c.toNat)

/-- What is said of an unfilled template. The two missing keys are said by the key alone. -/
def Error.message : Error → String
  | .singleOpening => "Single '\x7b' encountered in format string"
  | .singleClosing => "Single '\x7d' encountered in format string"
  | .openingInReference => "unexpected '\x7b' in field name"
  | .unclosedField => "expected '\x7d' before end of string"
  | .unclosedSpecification => "unmatched '\x7b' in format spec"
  | .missingConversion => "end of string while looking for conversion specifier"
  | .textAfterConversion => "expected ':' after conversion specifier"
  | .automaticAfterManual =>
    "cannot switch from manual field specification to automatic field numbering"
  | .manualAfterAutomatic =>
    "cannot switch from automatic field numbering to manual field specification"
  | .tooManyDigits => "Too many decimal digits in format string"
  | .indexOutOfRange index =>
    "Replacement index " ++ intText index ++ " out of range for positional args tuple"
  | .noNamedArgument key => Quoted.text key
  | .emptyStep => "Empty attribute in format string"
  | .unclosedBracket => "Missing ']' in format string"
  | .textAfterBracket => "Only '.' or '[' may follow ']' in format field specifier"
  | .noAttribute kind name => "'" ++ kind ++ "' object has no attribute '" ++ name ++ "'"
  | .noTypeAttribute typeName name =>
    "type object '" ++ typeName ++ "' has no attribute '" ++ name ++ "'"
  | .notSubscriptable kind => "'" ++ kind ++ "' object is not subscriptable"
  | .typeNotSubscriptable name => "type '" ++ name ++ "' is not subscriptable"
  | .itemOutOfRange kind => kind ++ " index out of range"
  | .keyIntoList => "list indices must be integers or slices, not str"
  | .keyIntoText => "string indices must be integers, not 'str'"
  | .noItem key => key.literal
  | .unknownConversion c => "Unknown conversion specifier " ++
    (if 32 < c.toNat ∧ c.toNat < 127 then c.toString
      else "\\x" ++ String.ofList (Nat.toDigits 16 c.toNat))
  | .tooDeep => "Max string recursion exceeded"
  | .unsupported kind => "unsupported format string passed to " ++ kind ++ ".__format__"
  | .unknownCode c kind =>
    "Unknown format code '" ++ namedCode c ++ "' for object of type '" ++ kind ++ "'"
  | .invalidSpecification text kind =>
    "Invalid format specifier '" ++ text ++ "' for object of type '" ++ kind ++ "'"
  | .missingPrecision => "Format specifier missing precision"
  | .groupingWith separator code =>
    "Cannot specify '" ++ separator.toString ++ "' with '" ++ namedCode code ++ "'."
  | .bothSeparators => "Cannot specify both ',' and '_'."
  | .signOnText => "Sign not allowed in string format specifier"
  | .blankOnText => "Space not allowed in string format specifier"
  | .zeroCoercionOnText => "Negative zero coercion (z) not allowed in string format specifier"
  | .alternateOnText => "Alternate form (#) not allowed in string format specifier"
  | .signAlignmentOnText => "'=' alignment not allowed in string format specifier"
  | .precisionOnInteger => "Precision not allowed in integer format specifier"
  | .zeroCoercionOnInteger => "Negative zero coercion (z) not allowed in integer format specifier"
  | .signOnCharacter => "Sign not allowed with integer format specifier 'c'"
  | .alternateOnCharacter => "Alternate form (#) not allowed with integer format specifier 'c'"
  | .noSuchCharacter => "%c arg not in range(0x110000)"
  | .characterTooLarge => "Python int too large to convert to C long"
  | .precisionTooBig => "precision too big"
  | .integerTooLarge => "int too large to convert to float"
  | .unnamed cause => cause.message

/-- The class of the exception that an unfilled template becomes. -/
def Error.kind : Error → LibraryClass
  | .indexOutOfRange _ | .itemOutOfRange _ => .indexError
  | .noNamedArgument _ | .noItem _ => .keyError
  | .noAttribute _ _ | .noTypeAttribute _ _ => .attributeError
  | .notSubscriptable _ | .typeNotSubscriptable _ | .keyIntoList | .keyIntoText
  | .unsupported _ => .typeError
  | .noSuchCharacter | .characterTooLarge | .integerTooLarge => .overflowError
  | .unnamed cause => cause.kind
  | _ => .valueError

/-- What the exception carries: a message, or the key that was not found. -/
def Error.argument : Error → Json
  | .noNamedArgument key => .str key
  | .noItem key => key
  | e => .str e.message

end Template

end UtilityClass
