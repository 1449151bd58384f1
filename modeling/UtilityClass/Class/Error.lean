import UtilityClass.Class.LibraryClass
import UtilityClass.Text.Literal

/-!
# What can be wrong with a class

A class is refused when it is declared, and a change to it when it is made. Each constructor is one
cause; `message` holds the wording, and `kind` the class of the exception that the cause becomes.

## Main definitions

* `DeclarationError` : why a declaration is refused
* `ChangeError` : why an attribute of a class cannot be changed
-/

namespace UtilityClass

/-- Why a declaration is refused. -/
inductive DeclarationError where
  -- bases
  | notABase (runtimeName : String)
  | metaclassConflict
  | layoutConflict
  | duplicateBase (name : String)
  | noOrder (names : List String)
  | plainGeneric
  | protocolBase (literal : String)
  -- names
  | nullInName
  | qualnameNotText (kind : String)
  | noCell (kind : String)
  -- slots
  | slotsOnVariableSize (runtimeName : String)
  | slotsNotIterable (kind : String)
  | slotNotText (kind : String)
  | slotNotIdentifier
  | dictionarySlot
  | referenceSlot
  | slotConflict (name : String)
  -- enumerations
  | enumerationLast
  | noDataType
  | manyDataTypes (shownName : String) (literals : List String)
  | extendsEnumeration (shownName literal : String)
  | reservedName (name : String)
  | repeatedName (name literal : String)
  | invalidNames (names : List String)
  | ignoredTooLate (names : List String)
  | orderMismatch (defined given : String)
  | noMemberValue
  | noBits (left right operator : String)
  deriving DecidableEq

namespace DeclarationError

/-- What is said of a refused declaration. -/
def message : DeclarationError → String
  | .notABase runtimeName => "type '" ++ runtimeName ++ "' is not an acceptable base type"
  | .metaclassConflict =>
    "metaclass conflict: the metaclass of a derived class must be a (non-strict) subclass " ++
      "of the metaclasses of all its bases"
  | .layoutConflict => "multiple bases have instance lay-out conflict"
  | .duplicateBase name => "duplicate base class " ++ name
  | .noOrder names =>
    "Cannot create a consistent method resolution\norder (MRO) for bases " ++ joinText ", " names
  | .plainGeneric => "Cannot inherit from plain Generic"
  | .protocolBase literal => "Protocols can only inherit from other protocols, got " ++ literal
  | .nullInName => "type name must not contain null characters"
  | .qualnameNotText kind => "type __qualname__ must be a str, not " ++ kind
  | .noCell kind => "__classcell__ must be a nonlocal cell, not <class '" ++ kind ++ "'>"
  | .slotsOnVariableSize runtimeName =>
    "nonempty __slots__ not supported for subtype of '" ++ runtimeName ++ "'"
  | .slotsNotIterable kind => "'" ++ kind ++ "' object is not iterable"
  | .slotNotText kind => "__slots__ items must be strings, not '" ++ kind ++ "'"
  | .slotNotIdentifier => "__slots__ must be identifiers"
  | .dictionarySlot => "__dict__ slot disallowed: we already got one"
  | .referenceSlot =>
    "__weakref__ slot disallowed: either we already got one, or __itemsize__ != 0"
  | .slotConflict name => Quoted.text name ++ " in __slots__ conflicts with class variable"
  | .enumerationLast =>
    "new enumerations should be created as " ++
      "\x60EnumName([mixin_type, ...] [data_type,] enum_type)\x60"
  | .noDataType =>
    "ReprEnum subclasses must be mixed with a data type (i.e. int, str, float, etc.)"
  | .manyDataTypes shownName literals =>
    "too many data types for " ++ shownName ++ ": \x7b" ++ joinText ", " literals ++ "\x7d"
  | .extendsEnumeration shownName literal =>
    "<enum " ++ shownName ++ "> cannot extend " ++ literal
  | .reservedName name =>
    "_sunder_ names, such as " ++ Quoted.text name ++ ", are reserved for future Enum use"
  | .repeatedName name literal => Quoted.text name ++ " already defined as " ++ literal
  | .invalidNames names =>
    "invalid enum member name(s) " ++ joinText "," (names.map Quoted.text)
  | .ignoredTooLate names =>
    "_ignore_ cannot specify already set names: \x7b" ++
      joinText ", " (names.map Quoted.text) ++ "\x7d"
  | .orderMismatch defined given =>
    "member order does not match _order_:\n  " ++ defined ++ "\n  " ++ given
  | .noMemberValue => "_value_ not set in __new__, unable to create it"
  | .noBits left right operator =>
    "unsupported operand type(s) for " ++ operator ++ ": '" ++ left ++ "' and '" ++ right ++ "'"

/-- The class of the exception that a refused declaration becomes. -/
def kind : DeclarationError → LibraryClass
  | .nullInName | .slotConflict _ | .reservedName _ | .invalidNames _ | .ignoredTooLate _ =>
    .valueError
  | _ => .typeError

end DeclarationError

/-- Why an attribute of a class cannot be changed. -/
inductive ChangeError where
  | immutable (key runtimeName : String)
  | undeletable (key runtimeName : String)
  | absent (runtimeName key : String)
  /-- An attribute that each class has by being a class, but this one has not. -/
  | missing (key : String)
  | notText (runtimeName key kind : String)
  | nullInName
  | notBases (runtimeName kind : String)
  | readOnly
  | notWritable (key : String)
  | noProperty (key kind word : String)
  | classDeleted
  | classNotClass (kind : String)
  | memberAssigned (name : String)
  | memberDeleted (literal name : String)
  deriving DecidableEq

namespace ChangeError

/-- The longest class name that the message on an absent attribute shows. -/
def shownName (runtimeName : String) : String := String.ofList (runtimeName.toList.take 50)

/-- What is said of a refused change. -/
def message : ChangeError → String
  | .immutable key runtimeName =>
    "cannot set " ++ Quoted.text key ++ " attribute of immutable type '" ++ runtimeName ++ "'"
  | .undeletable key runtimeName =>
    "cannot delete '" ++ key ++ "' attribute of immutable type '" ++ runtimeName ++ "'"
  | .absent runtimeName key =>
    "type object '" ++ shownName runtimeName ++ "' has no attribute '" ++ key ++ "'"
  | .missing key => key
  | .notText runtimeName key kind =>
    "can only assign string to " ++ runtimeName ++ "." ++ key ++ ", not '" ++ kind ++ "'"
  | .nullInName => "type name must not contain null characters"
  | .notBases runtimeName kind =>
    "can only assign tuple to " ++ runtimeName ++ ".__bases__, not " ++ kind
  | .readOnly => "readonly attribute"
  | .notWritable key => "attribute '" ++ key ++ "' of 'type' objects is not writable"
  | .noProperty key kind word =>
    "property " ++ Quoted.text key ++ " of " ++ Quoted.text kind ++ " object has no " ++ word
  | .classDeleted => "can't delete __class__ attribute"
  | .classNotClass kind => "__class__ must be set to a class, not '" ++ kind ++ "' object"
  | .memberAssigned name => "cannot reassign member " ++ Quoted.text name
  | .memberDeleted literal name =>
    literal ++ " cannot delete member " ++ Quoted.text name ++ "."

/-- The class of the exception that a refused change becomes. -/
def kind : ChangeError → LibraryClass
  | .nullInName => .valueError
  | .absent _ _ | .missing _ | .readOnly | .notWritable _ | .noProperty _ _ _
  | .memberAssigned _ | .memberDeleted _ _ => .attributeError
  | _ => .typeError

end ChangeError

end UtilityClass
