import UtilityClass.Class.Basic

/-!
# The library

What is known of the library classes before any class is declared: their names, their place in the
hierarchy, and their namespaces. Most entries of a namespace matter only by being there: they hide
the entries that stand behind them. Constructors are named one by one, and so are the attributes
that every class has.

## Main definitions

* `LibraryClass.info` : a class of the library
* `Hierarchy.initial` : the hierarchy with these classes only
-/

namespace UtilityClass

namespace LibraryClass

/-- Several classes of the library. -/
def ids (classes : List LibraryClass) : List ClassId := classes.map .library

/-! ## Functions -/

/-- A function of the library. -/
def function (owner : LibraryClass) (qualname : String) (parameters : List Parameter)
    (body : Body) : Function :=
  { qualname
    owner
    creates := false
    parameters
    readable := some ⟨parameters, none⟩
    marker := none
    isAbstract := false
    body }

/-- A creating function of the library. -/
def creator (owner : LibraryClass) (qualname : String) (parameters : List Parameter)
    (service : Service) : Member :=
  .static { function owner qualname parameters (.service service) with creates := true } none

/-- The creating function of classes that keep track of their abstract methods. -/
def abcMetaCreator : Member :=
  creator .abcMeta "ABCMeta.__new__"
    [.bare .positional "mcls", .bare .positional "name", .bare .positional "bases",
      .bare .positional "namespace", .bare .namedRest "kwargs"] .createAbstract

/-- The creating function of enumerations as classes. -/
def enumTypeCreator : Member :=
  creator .enumType "EnumType.__new__"
    [.bare .plain "metacls", .bare .plain "cls", .bare .plain "bases", .bare .plain "classdict",
      ⟨"boundary", .named, some .null, none⟩, ⟨"_simple", .named, some (.bool false), none⟩,
      .bare .namedRest "kwds"] .createEnumeration

/-- What answers the call of an enumeration. -/
def enumTypeCall : Function :=
  function .enumType "EnumType.__call__"
    [.bare .plain "cls", .bare .plain "value", ⟨"names", .plain, some .null, none⟩,
      ⟨"module", .named, some .null, none⟩, ⟨"qualname", .named, some .null, none⟩,
      ⟨"type", .named, some .null, none⟩, ⟨"start", .named, some (.int 1), none⟩,
      ⟨"boundary", .named, some .null, none⟩] (.service .callEnumeration)

/-- The creating function that every enumeration owns: it finds a member. -/
def enumerationCreator : Member :=
  creator .enumeration "Enum.__new__" [.bare .plain "cls", .bare .plain "value"] .findMember

/-- The initialising function of the members of enumerations. -/
def enumerationInitialiser : Function :=
  function .enumeration "Enum.__init__"
    [.bare .plain "self", .bare .rest "args", .bare .namedRest "kwds"] (.service .nothing)

/-- The creating function of fractions. -/
def fractionCreator : Member :=
  creator .fraction "Fraction.__new__"
    [.bare .plain "cls", ⟨"numerator", .plain, some (.int 0), none⟩,
      ⟨"denominator", .plain, some .null, none⟩,
      ⟨"_normalize", .named, some (.bool true), none⟩] .createFraction

/-- The initialising function of dictionaries that wrap another one. -/
def userDictInitialiser : Function :=
  function .userDict "UserDict.__init__"
    [.bare .positional "self", ⟨"dict", .positional, some .null, none⟩,
      .bare .namedRest "kwargs"] (.service .fillDictionary)

/-- The initialising function that protocols get. -/
def protocolInitialiser : Function :=
  function .protocol "_no_init_or_replace_init"
    [.bare .plain "self", .bare .rest "args", .bare .namedRest "kwargs"] (.service .guardProtocol)

/-- The initialising function of the verifier's own class, which is a utility class itself. -/
def verifierInitialiser : Function :=
  { function .utilClassVerifier "UtilClassVerifier.__init__" [.bare .plain "self"]
      (.statements [.raise (.ofClass LibraryClass.typeError)
        (some [.str "UtilClassVerifier es una clase utilitaria y no puede instanciarse."])]) with
    marker := some (.bool true) }

/-! ## Namespaces -/

/-- Entries that matter only by being there. -/
def parts (names : List String) : List (String × Member) := names.map fun name =>
  (name, .part false)

/-- Abstract methods. -/
def abstractParts (names : List String) : List (String × Member) := names.map fun name =>
  (name, .part true)

/-- The entry that names the methods that are still abstract. -/
def abstractEntries (names : List String) : List (String × Member) :=
  [(abstractMethodsName, .data (.arr (names.map .str)))]

/-- The attributes that each class has by being a class. -/
def fieldNames : List String :=
  ["__name__", "__qualname__", "__module__", "__bases__", "__mro__", "__dict__", "__doc__",
    "__abstractmethods__", "__annotations__", "__text_signature__", "__basicsize__",
    "__itemsize__", "__flags__", "__weakrefoffset__", "__base__", "__dictoffset__"]

/-- An entry of the namespace of a class that is implemented natively. -/
def nativeEntry (self : LibraryClass) (name : String) : Member :=
  match name with
  | "__new__" => .native (.create self)
  | "__init__" => .native (.initialise self)
  | "__class__" => if self = .object then .native (.field name) else .part false
  | _ => if self = .type ∧ fieldNames.contains name then .native (.field name) else .part false

/-- An entry of the namespace of an exception class that is implemented natively. -/
def exceptionEntry (self : LibraryClass) (name : String) : Member :=
  if name = "__str__" then .native (.describe self) else nativeEntry self name

/-! ## Classes -/

/-- A class that is implemented natively, given its other ancestors in order and the names in its
namespace. -/
def native (self : LibraryClass) (module name : String) (bases ancestors : List LibraryClass)
    (names : List String) : ClassInfo :=
  { name
    qualname := name
    module := .str module
    runtimeName := if module = QualifiedName.implicitModule then name else module ++ "." ++ name
    bases := ids bases
    order := ids (self :: ancestors)
    primary := bases.head?.getD .object
    metaclass := LibraryClass.type
    members := names.map fun entry => (entry, nativeEntry self entry)
    isBarred := false
    enumeration := none
    answers := .empty
    creator := if names.contains "__new__" then some self else bases.head?
    immutable := true
    subclassable := true
    solid := true
    takesAttributes := false
    takesReferences := false }

/-- An exception class that is implemented natively. -/
def raisable (self : LibraryClass) (name : String) (bases ancestors : List LibraryClass)
    (solid : Bool) (names : List String) : ClassInfo :=
  { native self QualifiedName.implicitModule name bases ancestors names with
    members := names.map fun entry => (entry, exceptionEntry self entry)
    creator := some self
    solid
    takesAttributes := true }

/-- The class of what goes over the items of a value. -/
def iterator (self : LibraryClass) : ClassInfo :=
  { native self QualifiedName.implicitModule self.label [.object] [.object]
      ["__iter__", "__next__"] with
    subclassable := false }

/-- A class that is written like a declared one, given its order. -/
def written (name : String) (metaclass : LibraryClass) (bases order : List LibraryClass) :
    ClassInfo :=
  { name
    qualname := name
    module := .null
    runtimeName := name
    bases := ids bases
    order := ids order
    primary := bases.head?.getD .object
    metaclass
    members := []
    isBarred := false
    enumeration := none
    answers := .empty
    creator := none
    immutable := false
    subclassable := true
    solid := false
    takesAttributes := false
    takesReferences := false }

/-- The members of the enumeration of the answers of a server, with their numbers. -/
def httpStatusMembers : List EnumerationMember :=
  statuses.map fun (name, code) =>
    ⟨name, { Instance.bare LibraryClass.httpStatus with content := some (.int (Int.ofNat code)) },
      some (.int (Int.ofNat code)), true⟩
where
  statuses : List (String × Nat) :=
    [("CONTINUE", 100), ("SWITCHING_PROTOCOLS", 101), ("PROCESSING", 102), ("EARLY_HINTS", 103),
      ("OK", 200), ("CREATED", 201), ("ACCEPTED", 202), ("NON_AUTHORITATIVE_INFORMATION", 203),
      ("NO_CONTENT", 204), ("RESET_CONTENT", 205), ("PARTIAL_CONTENT", 206),
      ("MULTI_STATUS", 207), ("ALREADY_REPORTED", 208), ("IM_USED", 226),
      ("MULTIPLE_CHOICES", 300), ("MOVED_PERMANENTLY", 301), ("FOUND", 302), ("SEE_OTHER", 303),
      ("NOT_MODIFIED", 304), ("USE_PROXY", 305), ("TEMPORARY_REDIRECT", 307),
      ("PERMANENT_REDIRECT", 308), ("BAD_REQUEST", 400), ("UNAUTHORIZED", 401),
      ("PAYMENT_REQUIRED", 402), ("FORBIDDEN", 403), ("NOT_FOUND", 404),
      ("METHOD_NOT_ALLOWED", 405), ("NOT_ACCEPTABLE", 406),
      ("PROXY_AUTHENTICATION_REQUIRED", 407), ("REQUEST_TIMEOUT", 408), ("CONFLICT", 409),
      ("GONE", 410), ("LENGTH_REQUIRED", 411), ("PRECONDITION_FAILED", 412),
      ("REQUEST_ENTITY_TOO_LARGE", 413), ("REQUEST_URI_TOO_LONG", 414),
      ("UNSUPPORTED_MEDIA_TYPE", 415), ("REQUESTED_RANGE_NOT_SATISFIABLE", 416),
      ("EXPECTATION_FAILED", 417), ("IM_A_TEAPOT", 418), ("MISDIRECTED_REQUEST", 421),
      ("UNPROCESSABLE_ENTITY", 422), ("LOCKED", 423), ("FAILED_DEPENDENCY", 424),
      ("TOO_EARLY", 425), ("UPGRADE_REQUIRED", 426), ("PRECONDITION_REQUIRED", 428),
      ("TOO_MANY_REQUESTS", 429), ("REQUEST_HEADER_FIELDS_TOO_LARGE", 431),
      ("UNAVAILABLE_FOR_LEGAL_REASONS", 451), ("INTERNAL_SERVER_ERROR", 500),
      ("NOT_IMPLEMENTED", 501), ("BAD_GATEWAY", 502), ("SERVICE_UNAVAILABLE", 503),
      ("GATEWAY_TIMEOUT", 504), ("HTTP_VERSION_NOT_SUPPORTED", 505),
      ("VARIANT_ALSO_NEGOTIATES", 506), ("INSUFFICIENT_STORAGE", 507), ("LOOP_DETECTED", 508),
      ("NOT_EXTENDED", 510), ("NETWORK_AUTHENTICATION_REQUIRED", 511)]

/-- A class of the library. -/
def info : LibraryClass → ClassInfo
  | .arithmeticError => raisable .arithmeticError "ArithmeticError"
    [.exception] [.exception, .baseException, .object] false
    ["__doc__", "__init__", "__new__"]
  | .assertionError => raisable .assertionError "AssertionError"
    [.exception] [.exception, .baseException, .object] false
    ["__doc__", "__init__", "__new__"]
  | .attributeError => raisable .attributeError "AttributeError"
    [.exception] [.exception, .baseException, .object] true
    ["__doc__", "__init__", "__str__", "name", "obj"]
  | .baseException => raisable .baseException "BaseException" [.object] [.object] true
    ["__cause__", "__context__", "__delattr__", "__dict__", "__doc__", "__getattribute__",
      "__init__", "__new__", "__reduce__", "__repr__", "__setattr__", "__setstate__", "__str__",
      "__suppress_context__", "__traceback__", "add_note", "args", "with_traceback"]
  | .exception => raisable .exception "Exception"
    [.baseException] [.baseException, .object] false
    ["__doc__", "__init__", "__new__"]
  | .fileNotFoundError => raisable .fileNotFoundError "FileNotFoundError"
    [.osError] [.osError, .exception, .baseException, .object] false
    ["__doc__", "__init__"]
  | .generatorExit => raisable .generatorExit "GeneratorExit"
    [.baseException] [.baseException, .object] false
    ["__doc__", "__init__", "__new__"]
  | .indexError => raisable .indexError "IndexError"
    [.lookupError] [.lookupError, .exception, .baseException, .object] false
    ["__doc__", "__init__", "__new__"]
  | .keyError => raisable .keyError "KeyError"
    [.lookupError] [.lookupError, .exception, .baseException, .object] false
    ["__doc__", "__init__", "__str__"]
  | .keyboardInterrupt => raisable .keyboardInterrupt "KeyboardInterrupt"
    [.baseException] [.baseException, .object] false
    ["__doc__", "__init__", "__new__"]
  | .lookupError => raisable .lookupError "LookupError"
    [.exception] [.exception, .baseException, .object] false
    ["__doc__", "__init__", "__new__"]
  | .notImplementedError => raisable .notImplementedError "NotImplementedError"
    [.runtimeError] [.runtimeError, .exception, .baseException, .object] false
    ["__doc__", "__init__", "__new__"]
  | .osError => raisable .osError "OSError"
    [.exception] [.exception, .baseException, .object] true
    ["__doc__", "__init__", "__new__", "__reduce__", "__str__", "characters_written", "errno",
      "filename", "filename2", "strerror"]
  | .permissionError => raisable .permissionError "PermissionError"
    [.osError] [.osError, .exception, .baseException, .object] false
    ["__doc__", "__init__"]
  | .recursionError => raisable .recursionError "RecursionError"
    [.runtimeError] [.runtimeError, .exception, .baseException, .object] false
    ["__doc__", "__init__", "__new__"]
  | .runtimeError => raisable .runtimeError "RuntimeError"
    [.exception] [.exception, .baseException, .object] false
    ["__doc__", "__init__", "__new__"]
  | .stopIteration => raisable .stopIteration "StopIteration"
    [.exception] [.exception, .baseException, .object] true
    ["__doc__", "__init__", "value"]
  | .systemExit => raisable .systemExit "SystemExit"
    [.baseException] [.baseException, .object] true
    ["__doc__", "__init__", "code"]
  | .typeError => raisable .typeError "TypeError"
    [.exception] [.exception, .baseException, .object] false
    ["__doc__", "__init__", "__new__"]
  | .unicodeDecodeError => raisable .unicodeDecodeError "UnicodeDecodeError"
    [.unicodeError] [.unicodeError, .valueError, .exception, .baseException, .object] true
    ["__doc__", "__init__", "__new__", "__str__", "encoding", "end", "object", "reason", "start"]
  | .unicodeError => raisable .unicodeError "UnicodeError"
    [.valueError] [.valueError, .exception, .baseException, .object] false
    ["__doc__", "__init__", "__new__"]
  | .valueError => raisable .valueError "ValueError"
    [.exception] [.exception, .baseException, .object] false
    ["__doc__", "__init__", "__new__"]
  | .zeroDivisionError => raisable .zeroDivisionError "ZeroDivisionError"
    [.arithmeticError] [.arithmeticError, .exception, .baseException, .object] false
    ["__doc__", "__init__", "__new__"]
  | .abc => { written "ABC" .abcMeta
      [.object] [.abc, .object] with
      primary := .library .object
      members := [("__module__", .data (.str "abc"))] ++
        abstractEntries [] ++
        parts ["__doc__", "__slots__", "_abc_impl"]
      creator := some .object }
  | .abcMeta => { written "ABCMeta" .type
      [.type] [.abcMeta, .type, .object] with
      primary := .library .type
      members := [("__module__", .data (.str "abc")), ("__new__", abcMetaCreator)] ++
        parts ["__doc__", "__instancecheck__", "__subclasscheck__", "_abc_caches_clear",
          "_abc_registry_clear", "_dump_registry", "register"]
      takesAttributes := true
      takesReferences := true }
  | .bool => { native .bool "builtins" "bool" [.int] [.int, .object]
    ["__and__", "__doc__", "__new__", "__or__", "__rand__", "__repr__", "__ror__", "__rxor__",
      "__xor__"] with
      subclassable := false }
  | .bytes => native .bytes "builtins" "bytes" [.object] [.object]
    ["__add__", "__bytes__", "__contains__", "__doc__", "__eq__", "__ge__", "__getattribute__",
      "__getitem__", "__getnewargs__", "__gt__", "__hash__", "__iter__", "__le__", "__len__",
      "__lt__", "__mod__", "__mul__", "__ne__", "__new__", "__repr__", "__rmod__", "__rmul__",
      "__str__", "capitalize", "center", "count", "decode", "endswith", "expandtabs", "find",
      "fromhex", "hex", "index", "isalnum", "isalpha", "isascii", "isdigit", "islower",
      "isspace", "istitle", "isupper", "join", "ljust", "lower", "lstrip", "maketrans",
      "partition", "removeprefix", "removesuffix", "replace", "rfind", "rindex", "rjust",
      "rpartition", "rsplit", "rstrip", "split", "splitlines", "startswith", "strip", "swapcase",
      "title", "translate", "upper", "zfill"]
  | .orderedDict => { native .orderedDict "collections" "OrderedDict" [.dict] [.dict, .object]
    ["__delitem__", "__dict__", "__doc__", "__eq__", "__ge__", "__gt__", "__hash__", "__init__",
      "__ior__", "__iter__", "__le__", "__lt__", "__ne__", "__or__", "__reduce__", "__repr__",
      "__reversed__", "__ror__", "__setitem__", "__sizeof__", "clear", "copy", "fromkeys",
      "items", "keys", "move_to_end", "pop", "popitem", "setdefault", "update", "values"] with
      takesAttributes := true
      takesReferences := true }
  | .userDict => { written "UserDict" .abcMeta
      [.mutableMapping]
      [.userDict, .mutableMapping, .mapping, .collection, .sized, .iterable, .container,
        .object] with
      primary := .library .mutableMapping
      members := [("__module__", .data (.str "collections")),
        ("__init__", .function userDictInitialiser)] ++
        abstractEntries [] ++
        parts ["__contains__", "__copy__", "__delitem__", "__dict__", "__doc__", "__getitem__",
          "__ior__", "__iter__", "__len__", "__or__", "__repr__", "__ror__", "__setitem__",
          "__weakref__", "_abc_impl", "copy", "fromkeys"]
      creator := some .object
      takesAttributes := true
      takesReferences := true }
  | .collection => { written "Collection" .abcMeta
      [.sized, .iterable, .container] [.collection, .sized, .iterable, .container, .object] with
      primary := .library .sized
      members := [("__module__", .data (.str "collections.abc"))] ++
        abstractEntries ["__contains__", "__iter__", "__len__"] ++
        parts ["__doc__", "__slots__", "__subclasshook__", "_abc_impl"]
      isBarred := true
      creator := some .object }
  | .container => { written "Container" .abcMeta
      [.object] [.container, .object] with
      primary := .library .object
      members := [("__module__", .data (.str "collections.abc"))] ++
        abstractEntries ["__contains__"] ++
        abstractParts ["__contains__"] ++
        parts ["__class_getitem__", "__doc__", "__slots__", "__subclasshook__", "_abc_impl"]
      isBarred := true
      creator := some .object }
  | .iterable => { written "Iterable" .abcMeta
      [.object] [.iterable, .object] with
      primary := .library .object
      members := [("__module__", .data (.str "collections.abc"))] ++
        abstractEntries ["__iter__"] ++
        abstractParts ["__iter__"] ++
        parts ["__class_getitem__", "__doc__", "__slots__", "__subclasshook__", "_abc_impl"]
      isBarred := true
      creator := some .object }
  | .mapping => { written "Mapping" .abcMeta
      [.collection] [.mapping, .collection, .sized, .iterable, .container, .object] with
      primary := .library .collection
      members := [("__module__", .data (.str "collections.abc"))] ++
        abstractEntries ["__getitem__", "__iter__", "__len__"] ++
        abstractParts ["__getitem__"] ++
        parts ["__contains__", "__doc__", "__eq__", "__hash__", "__reversed__", "__slots__",
          "_abc_impl", "get", "items", "keys", "values"]
      isBarred := true
      creator := some .object }
  | .mutableMapping => { written "MutableMapping" .abcMeta
      [.mapping]
      [.mutableMapping, .mapping, .collection, .sized, .iterable, .container, .object] with
      primary := .library .mapping
      members := [("__module__", .data (.str "collections.abc"))] ++
        abstractEntries ["__delitem__", "__getitem__", "__iter__", "__len__", "__setitem__"] ++
        abstractParts ["__delitem__", "__setitem__"] ++
        parts ["_MutableMapping__marker", "__doc__", "__slots__", "_abc_impl", "clear", "pop",
          "popitem", "setdefault", "update"]
      isBarred := true
      creator := some .object }
  | .sized => { written "Sized" .abcMeta
      [.object] [.sized, .object] with
      primary := .library .object
      members := [("__module__", .data (.str "collections.abc"))] ++
        abstractEntries ["__len__"] ++
        abstractParts ["__len__"] ++
        parts ["__doc__", "__slots__", "__subclasshook__", "_abc_impl"]
      isBarred := true
      creator := some .object }
  | .complex => native .complex "builtins" "complex" [.object] [.object]
    ["__abs__", "__add__", "__bool__", "__complex__", "__doc__", "__eq__", "__format__",
      "__ge__", "__getattribute__", "__getnewargs__", "__gt__", "__hash__", "__le__", "__lt__",
      "__mul__", "__ne__", "__neg__", "__new__", "__pos__", "__pow__", "__radd__", "__repr__",
      "__rmul__", "__rpow__", "__rsub__", "__rtruediv__", "__sub__", "__truediv__", "conjugate",
      "imag", "real"]
  | .date => native .date "datetime" "date" [.object] [.object]
    ["__add__", "__doc__", "__eq__", "__format__", "__ge__", "__getattribute__", "__gt__",
      "__hash__", "__le__", "__lt__", "__ne__", "__new__", "__radd__", "__reduce__", "__repr__",
      "__rsub__", "__str__", "__sub__", "ctime", "day", "fromisocalendar", "fromisoformat",
      "fromordinal", "fromtimestamp", "isocalendar", "isoformat", "isoweekday", "max", "min",
      "month", "replace", "resolution", "strftime", "timetuple", "today", "toordinal", "weekday",
      "year"]
  | .datetime => native .datetime "datetime" "datetime" [.date] [.date, .object]
    ["__add__", "__doc__", "__eq__", "__ge__", "__getattribute__", "__gt__", "__hash__",
      "__le__", "__lt__", "__ne__", "__new__", "__radd__", "__reduce__", "__reduce_ex__",
      "__repr__", "__rsub__", "__str__", "__sub__", "astimezone", "combine", "ctime", "date",
      "dst", "fold", "fromisoformat", "fromtimestamp", "hour", "isoformat", "max", "microsecond",
      "min", "minute", "now", "replace", "resolution", "second", "strptime", "time", "timestamp",
      "timetuple", "timetz", "tzinfo", "tzname", "utcfromtimestamp", "utcnow", "utcoffset",
      "utctimetuple"]
  | .timedelta => native .timedelta "datetime" "timedelta" [.object] [.object]
    ["__abs__", "__add__", "__bool__", "__divmod__", "__doc__", "__eq__", "__floordiv__",
      "__ge__", "__getattribute__", "__gt__", "__hash__", "__le__", "__lt__", "__mod__",
      "__mul__", "__ne__", "__neg__", "__new__", "__pos__", "__radd__", "__rdivmod__",
      "__reduce__", "__repr__", "__rfloordiv__", "__rmod__", "__rmul__", "__rsub__",
      "__rtruediv__", "__str__", "__sub__", "__truediv__", "days", "max", "microseconds", "min",
      "resolution", "seconds", "total_seconds"]
  | .decimal => native .decimal "decimal" "Decimal" [.object] [.object]
    ["__abs__", "__add__", "__bool__", "__ceil__", "__complex__", "__copy__", "__deepcopy__",
      "__divmod__", "__doc__", "__eq__", "__float__", "__floor__", "__floordiv__", "__format__",
      "__ge__", "__getattribute__", "__gt__", "__hash__", "__int__", "__le__", "__lt__",
      "__mod__", "__module__", "__mul__", "__ne__", "__neg__", "__new__", "__pos__", "__pow__",
      "__radd__", "__rdivmod__", "__reduce__", "__repr__", "__rfloordiv__", "__rmod__",
      "__rmul__", "__round__", "__rpow__", "__rsub__", "__rtruediv__", "__sizeof__", "__str__",
      "__sub__", "__truediv__", "__trunc__", "adjusted", "as_integer_ratio", "as_tuple",
      "canonical", "compare", "compare_signal", "compare_total", "compare_total_mag",
      "conjugate", "copy_abs", "copy_negate", "copy_sign", "exp", "fma", "from_float", "imag",
      "is_canonical", "is_finite", "is_infinite", "is_nan", "is_normal", "is_qnan", "is_signed",
      "is_snan", "is_subnormal", "is_zero", "ln", "log10", "logb", "logical_and",
      "logical_invert", "logical_or", "logical_xor", "max", "max_mag", "min", "min_mag",
      "next_minus", "next_plus", "next_toward", "normalize", "number_class", "quantize", "radix",
      "real", "remainder_near", "rotate", "same_quantum", "scaleb", "shift", "sqrt",
      "to_eng_string", "to_integral", "to_integral_exact", "to_integral_value"]
  | .dict => native .dict "builtins" "dict" [.object] [.object]
    ["__class_getitem__", "__contains__", "__delitem__", "__doc__", "__eq__", "__ge__",
      "__getattribute__", "__getitem__", "__gt__", "__hash__", "__init__", "__ior__", "__iter__",
      "__le__", "__len__", "__lt__", "__ne__", "__new__", "__or__", "__repr__", "__reversed__",
      "__ror__", "__setitem__", "__sizeof__", "clear", "copy", "fromkeys", "get", "items",
      "keys", "pop", "popitem", "setdefault", "update", "values"]
  | .enumeration => { written "Enum" .enumType
      [.object] [.enumeration, .object] with
      primary := .library .object
      members := [("__module__", .data (.str "enum")), ("__new__", enumerationCreator),
        ("__init__", .function enumerationInitialiser)] ++
        parts ["__copy__", "__deepcopy__", "__dict__", "__dir__", "__doc__", "__format__",
          "__hash__", "__reduce_ex__", "__repr__", "__str__", "__weakref__",
          "_generate_next_value_", "_member_map_", "_member_names_", "_member_type_",
          "_missing_", "_new_member_", "_unhashable_values_", "_use_args_", "_value2member_map_",
          "_value_repr_", "name", "value"]
      enumeration := some ⟨LibraryClass.object, 0, 0, true, [], []⟩
      takesAttributes := true
      takesReferences := true }
  | .enumType => { written "EnumType" .type
      [.type] [.enumType, .type, .object] with
      primary := .library .type
      members := [("__module__", .data (.str "enum")), ("__new__", enumTypeCreator),
        ("__call__", .function enumTypeCall)] ++
        parts ["__bool__", "__contains__", "__delattr__", "__dir__", "__doc__", "__getattr__",
          "__getitem__", "__iter__", "__len__", "__members__", "__prepare__", "__repr__",
          "__reversed__", "__setattr__", "_check_for_existing_members_", "_convert_", "_create_",
          "_find_data_repr_", "_find_data_type_", "_find_new_", "_get_mixins_"]
      takesAttributes := true
      takesReferences := true }
  | .flag => { written "Flag" .enumType
      [.enumeration] [.flag, .enumeration, .object] with
      primary := .library .enumeration
      members := [("__module__", .data (.str "enum")), ("__new__", enumerationCreator)] ++
        parts ["__and__", "__bool__", "__contains__", "__doc__", "__invert__", "__iter__",
          "__len__", "__or__", "__rand__", "__repr__", "__ror__", "__rxor__", "__str__",
          "__xor__", "_all_bits_", "_boundary_", "_flag_mask_", "_generate_next_value_",
          "_get_value", "_inverted_", "_iter_member_", "_iter_member_by_def_",
          "_iter_member_by_value_", "_member_map_", "_member_names_", "_member_type_",
          "_missing_", "_new_member_", "_numeric_repr_", "_singles_mask_", "_unhashable_values_",
          "_use_args_", "_value2member_map_", "_value_repr_"]
      enumeration := some ⟨LibraryClass.object, 0, 0, true, [], []⟩
      takesAttributes := true
      takesReferences := true }
  | .intEnum => { written "IntEnum" .enumType
      [.int, .reprEnum] [.intEnum, .int, .reprEnum, .enumeration, .object] with
      primary := .library .int
      members := [("__module__", .data (.str "enum")), ("__new__", enumerationCreator)] ++
        parts ["__dict__", "__doc__", "__format__", "__repr__", "__str__",
          "_generate_next_value_", "_member_map_", "_member_names_", "_member_type_",
          "_new_member_", "_unhashable_values_", "_use_args_", "_value2member_map_",
          "_value_repr_"]
      enumeration := some ⟨LibraryClass.int, 0, 0, true, [], []⟩
      solid := true
      takesAttributes := true }
  | .reprEnum => { written "ReprEnum" .enumType
      [.enumeration] [.reprEnum, .enumeration, .object] with
      primary := .library .enumeration
      members := [("__module__", .data (.str "enum")), ("__new__", enumerationCreator)] ++
        parts ["__doc__", "_generate_next_value_", "_member_map_", "_member_names_",
          "_member_type_", "_new_member_", "_unhashable_values_", "_use_args_",
          "_value2member_map_", "_value_repr_"]
      enumeration := some ⟨LibraryClass.object, 0, 0, true, [], []⟩
      takesAttributes := true
      takesReferences := true }
  | .float => native .float "builtins" "float" [.object] [.object]
    ["__abs__", "__add__", "__bool__", "__ceil__", "__divmod__", "__doc__", "__eq__",
      "__float__", "__floor__", "__floordiv__", "__format__", "__ge__", "__getattribute__",
      "__getformat__", "__getnewargs__", "__gt__", "__hash__", "__int__", "__le__", "__lt__",
      "__mod__", "__mul__", "__ne__", "__neg__", "__new__", "__pos__", "__pow__", "__radd__",
      "__rdivmod__", "__repr__", "__rfloordiv__", "__rmod__", "__rmul__", "__round__",
      "__rpow__", "__rsub__", "__rtruediv__", "__sub__", "__truediv__", "__trunc__",
      "as_integer_ratio", "conjugate", "fromhex", "hex", "imag", "is_integer", "real"]
  | .fraction => { written "Fraction" .abcMeta
      [.rational] [.fraction, .rational, .real, .complexNumber, .number, .object] with
      primary := .library .rational
      members := [("__module__", .data (.str "fractions")), ("__new__", fractionCreator)] ++
        abstractEntries [] ++
        parts ["__abs__", "__add__", "__bool__", "__ceil__", "__copy__", "__deepcopy__",
          "__divmod__", "__doc__", "__eq__", "__floor__", "__floordiv__", "__ge__", "__gt__",
          "__hash__", "__int__", "__le__", "__lt__", "__mod__", "__mul__", "__neg__", "__pos__",
          "__pow__", "__radd__", "__rdivmod__", "__reduce__", "__repr__", "__rfloordiv__",
          "__rmod__", "__rmul__", "__round__", "__rpow__", "__rsub__", "__rtruediv__",
          "__slots__", "__str__", "__sub__", "__truediv__", "__trunc__", "_abc_impl", "_add",
          "_denominator", "_div", "_divmod", "_floordiv", "_mod", "_mul", "_numerator",
          "_operator_fallbacks", "_richcmp", "_sub", "as_integer_ratio", "denominator",
          "from_decimal", "from_float", "limit_denominator", "numerator"]
      solid := true }
  | .frozenset => { native .frozenset "builtins" "frozenset" [.object] [.object]
    ["__and__", "__class_getitem__", "__contains__", "__doc__", "__eq__", "__ge__",
      "__getattribute__", "__gt__", "__hash__", "__iter__", "__le__", "__len__", "__lt__",
      "__ne__", "__new__", "__or__", "__rand__", "__reduce__", "__repr__", "__ror__", "__rsub__",
      "__rxor__", "__sizeof__", "__sub__", "__xor__", "copy", "difference", "intersection",
      "isdisjoint", "issubset", "issuperset", "symmetric_difference", "union"] with
      takesReferences := true }
  | .httpStatus => { written "HTTPStatus" .enumType
      [.intEnum] [.httpStatus, .intEnum, .int, .reprEnum, .enumeration, .object] with
      primary := .library .intEnum
      members := [("__module__", .data (.str "http")), ("__new__", enumerationCreator)] ++
        parts ["ACCEPTED", "ALREADY_REPORTED", "BAD_GATEWAY", "BAD_REQUEST", "CONFLICT",
          "CONTINUE", "CREATED", "EARLY_HINTS", "EXPECTATION_FAILED", "FAILED_DEPENDENCY",
          "FORBIDDEN", "FOUND", "GATEWAY_TIMEOUT", "GONE", "HTTP_VERSION_NOT_SUPPORTED",
          "IM_A_TEAPOT", "IM_USED", "INSUFFICIENT_STORAGE", "INTERNAL_SERVER_ERROR",
          "LENGTH_REQUIRED", "LOCKED", "LOOP_DETECTED", "METHOD_NOT_ALLOWED",
          "MISDIRECTED_REQUEST", "MOVED_PERMANENTLY", "MULTIPLE_CHOICES", "MULTI_STATUS",
          "NETWORK_AUTHENTICATION_REQUIRED", "NON_AUTHORITATIVE_INFORMATION", "NOT_ACCEPTABLE",
          "NOT_EXTENDED", "NOT_FOUND", "NOT_IMPLEMENTED", "NOT_MODIFIED", "NO_CONTENT", "OK",
          "PARTIAL_CONTENT", "PAYMENT_REQUIRED", "PERMANENT_REDIRECT", "PRECONDITION_FAILED",
          "PRECONDITION_REQUIRED", "PROCESSING", "PROXY_AUTHENTICATION_REQUIRED",
          "REQUESTED_RANGE_NOT_SATISFIABLE", "REQUEST_ENTITY_TOO_LARGE",
          "REQUEST_HEADER_FIELDS_TOO_LARGE", "REQUEST_TIMEOUT", "REQUEST_URI_TOO_LONG",
          "RESET_CONTENT", "SEE_OTHER", "SERVICE_UNAVAILABLE", "SWITCHING_PROTOCOLS",
          "TEMPORARY_REDIRECT", "TOO_EARLY", "TOO_MANY_REQUESTS", "UNAUTHORIZED",
          "UNAVAILABLE_FOR_LEGAL_REASONS", "UNPROCESSABLE_ENTITY", "UNSUPPORTED_MEDIA_TYPE",
          "UPGRADE_REQUIRED", "USE_PROXY", "VARIANT_ALSO_NEGOTIATES", "__doc__", "__format__",
          "__new_member__", "_generate_next_value_", "_member_map_", "_member_names_",
          "_member_type_", "_new_member_", "_unhashable_values_", "_use_args_",
          "_value2member_map_", "_value_repr_"]
      enumeration := some ⟨LibraryClass.int, 0, 0, true, httpStatusMembers, []⟩
      takesAttributes := true }
  | .int => native .int "builtins" "int" [.object] [.object]
    ["__abs__", "__add__", "__and__", "__bool__", "__ceil__", "__divmod__", "__doc__", "__eq__",
      "__float__", "__floor__", "__floordiv__", "__format__", "__ge__", "__getattribute__",
      "__getnewargs__", "__gt__", "__hash__", "__index__", "__int__", "__invert__", "__le__",
      "__lshift__", "__lt__", "__mod__", "__mul__", "__ne__", "__neg__", "__new__", "__or__",
      "__pos__", "__pow__", "__radd__", "__rand__", "__rdivmod__", "__repr__", "__rfloordiv__",
      "__rlshift__", "__rmod__", "__rmul__", "__ror__", "__round__", "__rpow__", "__rrshift__",
      "__rshift__", "__rsub__", "__rtruediv__", "__rxor__", "__sizeof__", "__sub__",
      "__truediv__", "__trunc__", "__xor__", "as_integer_ratio", "bit_count", "bit_length",
      "conjugate", "denominator", "from_bytes", "imag", "numerator", "real", "to_bytes"]
  | .list => native .list "builtins" "list" [.object] [.object]
    ["__add__", "__class_getitem__", "__contains__", "__delitem__", "__doc__", "__eq__",
      "__ge__", "__getattribute__", "__getitem__", "__gt__", "__hash__", "__iadd__", "__imul__",
      "__init__", "__iter__", "__le__", "__len__", "__lt__", "__mul__", "__ne__", "__new__",
      "__repr__", "__reversed__", "__rmul__", "__setitem__", "__sizeof__", "append", "clear",
      "copy", "count", "extend", "index", "insert", "pop", "remove", "reverse", "sort"]
  | .memoryview => { native .memoryview "builtins" "memoryview" [.object] [.object]
    ["__delitem__", "__doc__", "__enter__", "__eq__", "__exit__", "__ge__", "__getattribute__",
      "__getitem__", "__gt__", "__hash__", "__iter__", "__le__", "__len__", "__lt__", "__ne__",
      "__new__", "__repr__", "__setitem__", "c_contiguous", "cast", "contiguous", "f_contiguous",
      "format", "hex", "itemsize", "nbytes", "ndim", "obj", "readonly", "release", "shape",
      "strides", "suboffsets", "tobytes", "tolist", "toreadonly"] with
      takesReferences := true
      subclassable := false }
  | .complexNumber => { written "Complex" .abcMeta
      [.number] [.complexNumber, .number, .object] with
      primary := .library .number
      members := [("__module__", .data (.str "numbers"))] ++
        abstractEntries ["__abs__", "__add__", "__complex__", "__eq__", "__mul__", "__neg__",
          "__pos__", "__pow__", "__radd__", "__rmul__", "__rpow__", "__rtruediv__",
          "__truediv__", "conjugate", "imag", "real"] ++
        abstractParts ["__abs__", "__add__", "__complex__", "__eq__", "__mul__", "__neg__",
          "__pos__", "__pow__", "__radd__", "__rmul__", "__rpow__", "__rtruediv__",
          "__truediv__", "conjugate", "imag", "real"] ++
        parts ["__bool__", "__doc__", "__hash__", "__rsub__", "__slots__", "__sub__",
          "_abc_impl"]
      isBarred := true
      creator := some .object }
  | .integral => { written "Integral" .abcMeta
      [.rational] [.integral, .rational, .real, .complexNumber, .number, .object] with
      primary := .library .rational
      members := [("__module__", .data (.str "numbers"))] ++
        abstractEntries ["__abs__", "__add__", "__and__", "__ceil__", "__eq__", "__floor__",
          "__floordiv__", "__int__", "__invert__", "__le__", "__lshift__", "__lt__", "__mod__",
          "__mul__", "__neg__", "__or__", "__pos__", "__pow__", "__radd__", "__rand__",
          "__rfloordiv__", "__rlshift__", "__rmod__", "__rmul__", "__ror__", "__round__",
          "__rpow__", "__rrshift__", "__rshift__", "__rtruediv__", "__rxor__", "__truediv__",
          "__trunc__", "__xor__"] ++
        abstractParts ["__and__", "__int__", "__invert__", "__lshift__", "__or__", "__pow__",
          "__rand__", "__rlshift__", "__ror__", "__rrshift__", "__rshift__", "__rxor__",
          "__xor__"] ++
        parts ["__doc__", "__float__", "__index__", "__slots__", "_abc_impl", "denominator",
          "numerator"]
      isBarred := true
      creator := some .object }
  | .number => { written "Number" .abcMeta
      [.object] [.number, .object] with
      primary := .library .object
      members := [("__module__", .data (.str "numbers"))] ++
        abstractEntries [] ++
        parts ["__doc__", "__hash__", "__slots__", "_abc_impl"]
      creator := some .object }
  | .rational => { written "Rational" .abcMeta
      [.real] [.rational, .real, .complexNumber, .number, .object] with
      primary := .library .real
      members := [("__module__", .data (.str "numbers"))] ++
        abstractEntries ["__abs__", "__add__", "__ceil__", "__eq__", "__floor__", "__floordiv__",
          "__le__", "__lt__", "__mod__", "__mul__", "__neg__", "__pos__", "__pow__", "__radd__",
          "__rfloordiv__", "__rmod__", "__rmul__", "__round__", "__rpow__", "__rtruediv__",
          "__truediv__", "__trunc__", "denominator", "numerator"] ++
        abstractParts ["denominator", "numerator"] ++
        parts ["__doc__", "__float__", "__slots__", "_abc_impl"]
      isBarred := true
      creator := some .object }
  | .real => { written "Real" .abcMeta
      [.complexNumber] [.real, .complexNumber, .number, .object] with
      primary := .library .complexNumber
      members := [("__module__", .data (.str "numbers"))] ++
        abstractEntries ["__abs__", "__add__", "__ceil__", "__eq__", "__float__", "__floor__",
          "__floordiv__", "__le__", "__lt__", "__mod__", "__mul__", "__neg__", "__pos__",
          "__pow__", "__radd__", "__rfloordiv__", "__rmod__", "__rmul__", "__round__",
          "__rpow__", "__rtruediv__", "__truediv__", "__trunc__"] ++
        abstractParts ["__ceil__", "__float__", "__floor__", "__floordiv__", "__le__", "__lt__",
          "__mod__", "__rfloordiv__", "__rmod__", "__round__", "__trunc__"] ++
        parts ["__complex__", "__divmod__", "__doc__", "__rdivmod__", "__slots__", "_abc_impl",
          "conjugate", "imag", "real"]
      isBarred := true
      creator := some .object }
  | .object => native .object "builtins" "object" [] []
    ["__class__", "__delattr__", "__dir__", "__doc__", "__eq__", "__format__", "__ge__",
      "__getattribute__", "__getstate__", "__gt__", "__hash__", "__init__", "__init_subclass__",
      "__le__", "__lt__", "__ne__", "__new__", "__reduce__", "__reduce_ex__", "__repr__",
      "__setattr__", "__sizeof__", "__str__", "__subclasshook__"]
  | .property => native .property "builtins" "property" [.object] [.object]
    ["__delete__", "__doc__", "__get__", "__getattribute__", "__init__", "__isabstractmethod__",
      "__new__", "__set__", "__set_name__", "deleter", "fdel", "fget", "fset", "getter",
      "setter"]
  | .range => { native .range "builtins" "range" [.object] [.object]
    ["__bool__", "__contains__", "__doc__", "__eq__", "__ge__", "__getattribute__",
      "__getitem__", "__gt__", "__hash__", "__iter__", "__le__", "__len__", "__lt__", "__ne__",
      "__new__", "__reduce__", "__repr__", "__reversed__", "count", "index", "start", "step",
      "stop"] with
      subclassable := false }
  | .set => { native .set "builtins" "set" [.object] [.object]
    ["__and__", "__class_getitem__", "__contains__", "__doc__", "__eq__", "__ge__",
      "__getattribute__", "__gt__", "__hash__", "__iand__", "__init__", "__ior__", "__isub__",
      "__iter__", "__ixor__", "__le__", "__len__", "__lt__", "__ne__", "__new__", "__or__",
      "__rand__", "__reduce__", "__repr__", "__ror__", "__rsub__", "__rxor__", "__sizeof__",
      "__sub__", "__xor__", "add", "clear", "copy", "difference", "difference_update", "discard",
      "intersection", "intersection_update", "isdisjoint", "issubset", "issuperset", "pop",
      "remove", "symmetric_difference", "symmetric_difference_update", "union", "update"] with
      takesReferences := true }
  | .slice => { native .slice "builtins" "slice" [.object] [.object]
    ["__doc__", "__eq__", "__ge__", "__getattribute__", "__gt__", "__hash__", "__le__", "__lt__",
      "__ne__", "__new__", "__reduce__", "__repr__", "indices", "start", "step", "stop"] with
      subclassable := false }
  | .str => native .str "builtins" "str" [.object] [.object]
    ["__add__", "__contains__", "__doc__", "__eq__", "__format__", "__ge__", "__getattribute__",
      "__getitem__", "__getnewargs__", "__gt__", "__hash__", "__iter__", "__le__", "__len__",
      "__lt__", "__mod__", "__mul__", "__ne__", "__new__", "__repr__", "__rmod__", "__rmul__",
      "__sizeof__", "__str__", "capitalize", "casefold", "center", "count", "encode", "endswith",
      "expandtabs", "find", "format", "format_map", "index", "isalnum", "isalpha", "isascii",
      "isdecimal", "isdigit", "isidentifier", "islower", "isnumeric", "isprintable", "isspace",
      "istitle", "isupper", "join", "ljust", "lower", "lstrip", "maketrans", "partition",
      "removeprefix", "removesuffix", "replace", "rfind", "rindex", "rjust", "rpartition",
      "rsplit", "rstrip", "split", "splitlines", "startswith", "strip", "swapcase", "title",
      "translate", "upper", "zfill"]
  | .tuple => native .tuple "builtins" "tuple" [.object] [.object]
    ["__add__", "__class_getitem__", "__contains__", "__doc__", "__eq__", "__ge__",
      "__getattribute__", "__getitem__", "__getnewargs__", "__gt__", "__hash__", "__iter__",
      "__le__", "__len__", "__lt__", "__mul__", "__ne__", "__new__", "__repr__", "__rmul__",
      "count", "index"]
  | .type => { native .type "builtins" "type" [.object] [.object]
    ["__abstractmethods__", "__annotations__", "__base__", "__bases__", "__basicsize__",
      "__call__", "__delattr__", "__dict__", "__dictoffset__", "__dir__", "__doc__", "__flags__",
      "__getattribute__", "__init__", "__instancecheck__", "__itemsize__", "__module__",
      "__mro__", "__name__", "__new__", "__or__", "__prepare__", "__qualname__", "__repr__",
      "__ror__", "__setattr__", "__sizeof__", "__subclasscheck__", "__subclasses__",
      "__text_signature__", "__weakrefoffset__", "mro"] with
      takesAttributes := true
      takesReferences := true }
  | .functionType => { native .functionType "builtins" "function" [.object] [.object]
    ["__annotations__", "__builtins__", "__call__", "__closure__", "__code__", "__defaults__",
      "__dict__", "__doc__", "__get__", "__globals__", "__kwdefaults__", "__module__",
      "__name__", "__new__", "__qualname__", "__repr__"] with
      takesAttributes := true
      takesReferences := true
      subclassable := false }
  | .noneType => { native .noneType "builtins" "NoneType" [.object] [.object]
    ["__bool__", "__doc__", "__new__", "__repr__"] with
      subclassable := false }
  | .simpleNamespace => { native .simpleNamespace "types" "SimpleNamespace" [.object] [.object]
    ["__delattr__", "__dict__", "__doc__", "__eq__", "__ge__", "__getattribute__", "__gt__",
      "__hash__", "__init__", "__le__", "__lt__", "__ne__", "__new__", "__reduce__", "__repr__",
      "__setattr__"] with
      takesAttributes := true }
  | .generic => { written "Generic" .type
      [.object] [.generic, .object] with
      primary := .library .object
      members := [("__module__", .data (.str "typing")), ("_is_protocol", .data (.bool false))] ++
        parts ["__class_getitem__", "__doc__", "__init_subclass__", "__slots__"]
      creator := some .object }
  | .protocol => { written "Protocol" .protocolMeta
      [.generic] [.protocol, .generic, .object] with
      primary := .library .generic
      members := [("__module__", .data (.str "typing")), ("_is_protocol", .data (.bool true)),
        ("_is_runtime_protocol", .data (.bool false))] ++
        abstractEntries [] ++
        parts ["__doc__", "__init_subclass__", "__parameters__", "__slots__", "_abc_impl"]
      creator := some .object }
  | .supportsInt => { written "SupportsInt" .protocolMeta
      [.protocol] [.supportsInt, .protocol, .generic, .object] with
      primary := .library .protocol
      members := [("__module__", .data (.str "typing")),
        ("__init__", .function protocolInitialiser), ("_is_protocol", .data (.bool true)),
        ("_is_runtime_protocol", .data (.bool true))] ++
        abstractEntries ["__int__"] ++
        abstractParts ["__int__"] ++
        parts ["__doc__", "__parameters__", "__slots__", "__subclasshook__", "_abc_impl"]
      isBarred := true
      creator := some .object }
  | .protocolMeta => { written "_ProtocolMeta" .type
      [.abcMeta] [.protocolMeta, .abcMeta, .type, .object] with
      primary := .library .abcMeta
      members := [("__module__", .data (.str "typing"))] ++
        parts ["__doc__", "__instancecheck__"]
      takesAttributes := true
      takesReferences := true }
  | .introspectionError => { written "IntrospectionError" .type
      [.verificationError]
      [.introspectionError, .verificationError, .exception, .baseException, .object] with
      primary := .library .verificationError
      members := [
        ("__module__", .data (.str "utilclass_verifier.modules.verification.domain.exceptions"))] ++
        parts ["__doc__"]
      creator := some .exception
      takesAttributes := true
      takesReferences := true }
  | .utilClassVerifier => { written "UtilClassVerifier" .type
      [.object] [.utilClassVerifier, .object] with
      primary := .library .object
      members := [
        ("__module__", .data (.str "utilclass_verifier.modules.verification.entry_points.api")),
        ("__init__", .function verifierInitialiser), ("__final__", .data (.bool true))] ++
        parts ["__dict__", "__doc__", "__weakref__"]
      creator := some .object
      takesAttributes := true
      takesReferences := true }
  | .utilityClassViolation => { written "UtilityClassViolation" .type
      [.verificationError, .assertionError]
      [.utilityClassViolation, .verificationError, .assertionError, .exception,
        .baseException, .object] with
      primary := .library .verificationError
      members := [
        ("__module__", .data (.str "utilclass_verifier.modules.verification.domain.exceptions"))] ++
        parts ["__doc__"]
      creator := some .exception
      takesAttributes := true
      takesReferences := true }
  | .verificationError => { written "VerificationError" .type
      [.exception] [.verificationError, .exception, .baseException, .object] with
      primary := .library .exception
      members := [
        ("__module__", .data (.str "utilclass_verifier.modules.verification.domain.exceptions"))] ++
        parts ["__doc__", "__weakref__"]
      creator := some .exception
      takesAttributes := true
      takesReferences := true }
  | .blockingIOError => raisable .blockingIOError "BlockingIOError"
    [.osError] [.osError, .exception, .baseException, .object] false
    ["__doc__", "__init__"]
  | .connectionError => raisable .connectionError "ConnectionError"
    [.osError] [.osError, .exception, .baseException, .object] false
    ["__doc__", "__init__"]
  | .brokenPipeError => raisable .brokenPipeError "BrokenPipeError"
    [.connectionError] [.connectionError, .osError, .exception, .baseException, .object] false
    ["__doc__", "__init__"]
  | .childProcessError => raisable .childProcessError "ChildProcessError"
    [.osError] [.osError, .exception, .baseException, .object] false
    ["__doc__", "__init__"]
  | .connectionAbortedError => raisable .connectionAbortedError "ConnectionAbortedError"
    [.connectionError] [.connectionError, .osError, .exception, .baseException, .object] false
    ["__doc__", "__init__"]
  | .connectionRefusedError => raisable .connectionRefusedError "ConnectionRefusedError"
    [.connectionError] [.connectionError, .osError, .exception, .baseException, .object] false
    ["__doc__", "__init__"]
  | .connectionResetError => raisable .connectionResetError "ConnectionResetError"
    [.connectionError] [.connectionError, .osError, .exception, .baseException, .object] false
    ["__doc__", "__init__"]
  | .fileExistsError => raisable .fileExistsError "FileExistsError"
    [.osError] [.osError, .exception, .baseException, .object] false
    ["__doc__", "__init__"]
  | .interruptedError => raisable .interruptedError "InterruptedError"
    [.osError] [.osError, .exception, .baseException, .object] false
    ["__doc__", "__init__"]
  | .isADirectoryError => raisable .isADirectoryError "IsADirectoryError"
    [.osError] [.osError, .exception, .baseException, .object] false
    ["__doc__", "__init__"]
  | .notADirectoryError => raisable .notADirectoryError "NotADirectoryError"
    [.osError] [.osError, .exception, .baseException, .object] false
    ["__doc__", "__init__"]
  | .processLookupError => raisable .processLookupError "ProcessLookupError"
    [.osError] [.osError, .exception, .baseException, .object] false
    ["__doc__", "__init__"]
  | .timeoutError => raisable .timeoutError "TimeoutError"
    [.osError] [.osError, .exception, .baseException, .object] false
    ["__doc__", "__init__"]
  | .overflowError => raisable .overflowError "OverflowError"
    [.arithmeticError] [.arithmeticError, .exception, .baseException, .object] false
    ["__doc__", "__init__", "__new__"]
  | .frozenInstanceError => { written "FrozenInstanceError" .type
      [.attributeError]
      [.frozenInstanceError, .attributeError, .exception, .baseException, .object] with
      primary := .library .attributeError
      members := [("__module__", .data (.str "dataclasses"))] ++
        parts ["__doc__", "__weakref__"]
      creator := some .exception
      takesAttributes := true
      takesReferences := true }
  | .invalidOperation => { written "InvalidOperation" .type
      [.arithmeticError]
      [.invalidOperation, .arithmeticError, .exception, .baseException, .object] with
      primary := .library .arithmeticError
      members := [("__module__", .data (.str "decimal"))] ++
        parts ["__doc__"]
      creator := some .arithmeticError
      takesAttributes := true
      takesReferences := true }
  | .generator => { native .generator "builtins" "generator" [.object] [.object]
    ["__iter__", "__name__", "__next__", "__qualname__", "__repr__", "close", "send", "throw"] with
      subclassable := false }
  | .callableIterator => iterator .callableIterator
  | .listIterator => iterator .listIterator
  | .textIterator => iterator .textIterator
  | .asciiIterator => iterator .asciiIterator
  | .keyIterator => iterator .keyIterator

end LibraryClass

namespace Hierarchy

/-- The hierarchy before any class is declared. -/
def initial : Hierarchy where
  info
    | .library c => c.info
    | .declared _ => default
  declared := 0

end Hierarchy

end UtilityClass
