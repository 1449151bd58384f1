/-!
# The classes of the library

The classes that every hierarchy starts from: the roots, the exceptions, the native containers and
numbers, the abstract classes of containers and numbers, enumerations, protocols, and the classes of
the verifier itself. Each has a label by which it can be referred to.
-/

namespace UtilityClass

/-- A class that is there before any class is declared. -/
inductive LibraryClass where
  | arithmeticError | assertionError | attributeError | baseException | exception
  | fileNotFoundError | generatorExit | indexError | keyError | keyboardInterrupt | lookupError
  | notImplementedError | osError | permissionError | recursionError | runtimeError
  | stopIteration | systemExit | typeError | unicodeDecodeError | unicodeError | valueError
  | zeroDivisionError | abc | abcMeta | bool | bytes | orderedDict | userDict | collection
  | container | iterable | mapping | mutableMapping | sized | complex | date | datetime
  | timedelta | decimal | dict | enumeration | enumType | flag | intEnum | reprEnum | float
  | fraction | frozenset | httpStatus | int | list | memoryview | complexNumber | integral
  | number | rational | real | object | property | range | set | slice | str | tuple | type
  | functionType | noneType | simpleNamespace | generic | protocol | supportsInt | protocolMeta
  | introspectionError | utilClassVerifier | utilityClassViolation | verificationError
  | blockingIOError | connectionError | brokenPipeError | childProcessError
  | connectionAbortedError | connectionRefusedError | connectionResetError | fileExistsError
  | interruptedError | isADirectoryError | notADirectoryError | processLookupError | timeoutError
  | overflowError | frozenInstanceError | invalidOperation | generator | callableIterator
  | listIterator | textIterator | asciiIterator | keyIterator
  deriving DecidableEq

namespace LibraryClass

/-- Those that can be referred to. -/
def referable : List LibraryClass :=
  [.arithmeticError, .assertionError, .attributeError, .baseException, .exception,
    .fileNotFoundError, .generatorExit, .indexError, .keyError, .keyboardInterrupt, .lookupError,
    .notImplementedError, .osError, .permissionError, .recursionError, .runtimeError,
    .stopIteration, .systemExit, .typeError, .unicodeDecodeError, .unicodeError, .valueError,
    .zeroDivisionError, .abc, .abcMeta, .bool, .bytes, .orderedDict, .userDict, .collection,
    .container, .iterable, .mapping, .mutableMapping, .sized, .complex, .date, .datetime,
    .timedelta, .decimal, .dict, .enumeration, .enumType, .flag, .intEnum, .reprEnum, .float,
    .fraction, .frozenset, .httpStatus, .int, .list, .memoryview, .complexNumber, .integral,
    .number, .rational, .real, .object, .property, .range, .set, .slice, .str, .tuple, .type,
    .functionType, .noneType, .simpleNamespace, .generic, .protocol, .supportsInt, .protocolMeta,
    .introspectionError, .utilClassVerifier, .utilityClassViolation, .verificationError]

/-- The label of a class. -/
def label : LibraryClass → String
  | .arithmeticError => "ArithmeticError"
  | .assertionError => "AssertionError"
  | .attributeError => "AttributeError"
  | .baseException => "BaseException"
  | .exception => "Exception"
  | .fileNotFoundError => "FileNotFoundError"
  | .generatorExit => "GeneratorExit"
  | .indexError => "IndexError"
  | .keyError => "KeyError"
  | .keyboardInterrupt => "KeyboardInterrupt"
  | .lookupError => "LookupError"
  | .notImplementedError => "NotImplementedError"
  | .osError => "OSError"
  | .permissionError => "PermissionError"
  | .recursionError => "RecursionError"
  | .runtimeError => "RuntimeError"
  | .stopIteration => "StopIteration"
  | .systemExit => "SystemExit"
  | .typeError => "TypeError"
  | .unicodeDecodeError => "UnicodeDecodeError"
  | .unicodeError => "UnicodeError"
  | .valueError => "ValueError"
  | .zeroDivisionError => "ZeroDivisionError"
  | .abc => "abc.ABC"
  | .abcMeta => "abc.ABCMeta"
  | .bool => "bool"
  | .bytes => "bytes"
  | .orderedDict => "collections.OrderedDict"
  | .userDict => "collections.UserDict"
  | .collection => "collections.abc.Collection"
  | .container => "collections.abc.Container"
  | .iterable => "collections.abc.Iterable"
  | .mapping => "collections.abc.Mapping"
  | .mutableMapping => "collections.abc.MutableMapping"
  | .sized => "collections.abc.Sized"
  | .complex => "complex"
  | .date => "datetime.date"
  | .datetime => "datetime.datetime"
  | .timedelta => "datetime.timedelta"
  | .decimal => "decimal.Decimal"
  | .dict => "dict"
  | .enumeration => "enum.Enum"
  | .enumType => "enum.EnumType"
  | .flag => "enum.Flag"
  | .intEnum => "enum.IntEnum"
  | .reprEnum => "enum.ReprEnum"
  | .float => "float"
  | .fraction => "fractions.Fraction"
  | .frozenset => "frozenset"
  | .httpStatus => "http.HTTPStatus"
  | .int => "int"
  | .list => "list"
  | .memoryview => "memoryview"
  | .complexNumber => "numbers.Complex"
  | .integral => "numbers.Integral"
  | .number => "numbers.Number"
  | .rational => "numbers.Rational"
  | .real => "numbers.Real"
  | .object => "object"
  | .property => "property"
  | .range => "range"
  | .set => "set"
  | .slice => "slice"
  | .str => "str"
  | .tuple => "tuple"
  | .type => "type"
  | .functionType => "types.FunctionType"
  | .noneType => "types.NoneType"
  | .simpleNamespace => "types.SimpleNamespace"
  | .generic => "typing.Generic"
  | .protocol => "typing.Protocol"
  | .supportsInt => "typing.SupportsInt"
  | .protocolMeta => "typing._ProtocolMeta"
  | .introspectionError => "utilclass_verifier.IntrospectionError"
  | .utilClassVerifier => "utilclass_verifier.UtilClassVerifier"
  | .utilityClassViolation => "utilclass_verifier.UtilityClassViolation"
  | .verificationError => "utilclass_verifier.VerificationError"
  | .blockingIOError => "BlockingIOError"
  | .connectionError => "ConnectionError"
  | .brokenPipeError => "BrokenPipeError"
  | .childProcessError => "ChildProcessError"
  | .connectionAbortedError => "ConnectionAbortedError"
  | .connectionRefusedError => "ConnectionRefusedError"
  | .connectionResetError => "ConnectionResetError"
  | .fileExistsError => "FileExistsError"
  | .interruptedError => "InterruptedError"
  | .isADirectoryError => "IsADirectoryError"
  | .notADirectoryError => "NotADirectoryError"
  | .processLookupError => "ProcessLookupError"
  | .timeoutError => "TimeoutError"
  | .overflowError => "OverflowError"
  | .frozenInstanceError => "dataclasses.FrozenInstanceError"
  | .invalidOperation => "decimal.InvalidOperation"
  | .generator => "generator"
  | .callableIterator => "callable_iterator"
  | .listIterator => "list_iterator"
  | .textIterator => "str_iterator"
  | .asciiIterator => "str_ascii_iterator"
  | .keyIterator => "dict_keyiterator"

/-- The class that a label refers to. -/
def ofLabel? (text : String) : Option LibraryClass := referable.find? fun c => c.label == text

end LibraryClass

/-- A class: one of the library, or one declared later, known by the order of declaration. -/
inductive ClassId where
  | library (c : LibraryClass)
  | declared (serial : Nat)
  deriving DecidableEq

namespace ClassId

instance : Coe LibraryClass ClassId := ⟨.library⟩

instance : Inhabited ClassId := ⟨.library .object⟩

end ClassId

end UtilityClass
