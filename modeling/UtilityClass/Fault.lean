import UtilityClass.Class.Error
import UtilityClass.Signature.Call
import UtilityClass.Template.Error

/-!
# Faults

Everything that the verifier and the construction of objects can complain of by themselves, as
opposed to the exceptions that constructors raise. A fault is known by its cause; its class and its
message follow from that.

## Main definitions

* `ComplaintKind` : the kinds of exceptions among which native functions choose
* `Refusal` : why an object is not constructed
* `Fault` : the causes
* `Fault.kind`, `Fault.argument` : the class of the exception that a fault becomes, and what it
  carries
-/

namespace UtilityClass

/-- The kinds of exceptions that native functions complain with. -/
inductive ComplaintKind where
  | typeError
  | valueError
  | overflowError
  | assertionError
  | indexError
  | lookupError
  | runtimeError
  | zeroDivisionError
  | invalidOperation

namespace ComplaintKind

/-- The class of the exception. -/
def library : ComplaintKind → LibraryClass
  | typeError => .typeError
  | valueError => .valueError
  | overflowError => .overflowError
  | assertionError => .assertionError
  | indexError => .indexError
  | lookupError => .lookupError
  | runtimeError => .runtimeError
  | zeroDivisionError => .zeroDivisionError
  | invalidOperation => .invalidOperation

end ComplaintKind

/-- Why native code refuses to construct an object. -/
inductive Refusal where
  /-- Arguments are left over for the root's own creating or initialising function, because another
  function hides it. -/
  | leftOverForCreation
  | leftOverForInitialisation
  | initialisesAlone (name : String)
  | takesNoArguments (name : String)
  | takesNoNamedArguments (name : String)
  | abstractMethods (name : String) (methods : List String)
  | notSubtype (creator name : String)
  | unsafeCreation (creator name safe : String)
  | foreignReceiver (method wanted name : String)
  | foreignMethod (method wanted name : String)
  /-- The first argument of a creating function has to be a class. -/
  | notATypeObject (creator kind : String)
  | noReceiver (method wanted : String)
  | foreignSuper
  /-- What a native function says of its arguments, in words of its own. -/
  | complaint (kind : ComplaintKind) (message : String)
  | notCallable (kind : String)
  | noLength (kind : String)
  | notIterable (kind : String)
  | notNull (kind : String)
  | notMadeException (literal made : String)
  | notRaisable
  | protocolInstantiated
  | nonText (method kind : String)
  | noMember (literal name : String)

namespace Refusal

/-- The kind of exception that a refusal is. -/
def kind : Refusal → LibraryClass
  | .noMember _ _ => .valueError
  | .complaint kind _ => kind.library
  | _ => .typeError

/-- What is said of a refusal. -/
def message : Refusal → String
  | .leftOverForCreation =>
    "object.__new__() takes exactly one argument (the type to instantiate)"
  | .leftOverForInitialisation =>
    "object.__init__() takes exactly one argument (the instance to initialize)"
  | .initialisesAlone name =>
    name ++ ".__init__() takes exactly one argument (the instance to initialize)"
  | .takesNoArguments name => name ++ "() takes no arguments"
  | .takesNoNamedArguments name => name ++ "() takes no keyword arguments"
  | .abstractMethods name methods =>
    "Can't instantiate abstract class " ++ name ++ " with abstract method" ++
      (if methods.length = 1 then "" else "s") ++ " " ++ joinText ", " methods
  | .notSubtype creator name =>
    creator ++ ".__new__(" ++ name ++ "): " ++ name ++ " is not a subtype of " ++ creator
  | .unsafeCreation creator name safe =>
    creator ++ ".__new__(" ++ name ++ ") is not safe, use " ++ safe ++ ".__new__()"
  | .foreignReceiver method wanted name =>
    "descriptor '" ++ method ++ "' requires a '" ++ wanted ++ "' object but received a '" ++ name ++
      "'"
  | .foreignMethod method wanted name =>
    "descriptor '" ++ method ++ "' for '" ++ wanted ++ "' objects doesn't apply to a '" ++ name ++
      "' object"
  | .notATypeObject creator kind =>
    creator ++ ".__new__(X): X is not a type object (" ++ kind ++ ")"
  | .noReceiver method wanted =>
    "descriptor '" ++ method ++ "' of '" ++ wanted ++ "' object needs an argument"
  | .foreignSuper => "super(type, obj): obj must be an instance or subtype of type"
  | .complaint _ message => message
  | .notCallable kind => "'" ++ kind ++ "' object is not callable"
  | .noLength kind => "object of type '" ++ kind ++ "' has no len()"
  | .notIterable kind => "'" ++ kind ++ "' object is not iterable"
  | .notNull kind => "__init__() should return None, not '" ++ kind ++ "'"
  | .notMadeException literal made =>
    "calling " ++ literal ++ " should have returned an instance of BaseException, not " ++ made
  | .notRaisable => "exceptions must derive from BaseException"
  | .protocolInstantiated => "Protocols cannot be instantiated"
  | .nonText method kind => method ++ " returned non-string (type " ++ kind ++ ")"
  | .noMember literal name => literal ++ " is not a valid " ++ name

end Refusal

/-- A cause for complaint. -/
inductive Fault where
  | name (e : NameError)
  | template (e : Template.Error)
  | call (function : String) (e : CallError)
  | declaration (e : DeclarationError)
  | change (e : ChangeError)
  | refusal (r : Refusal)
  /-- An issue is added to a run that has been concluded. -/
  | runConcluded (name : String)
  /-- Something that is no class is to be introspected. -/
  | notIntrospectable (literal : String)
  /-- Something that is no class is to be verified. -/
  | notAClass (literal : String)
  | unknownOutcome (literal : String)
  | notBlocking (literal : String)
  | notAClassArgument
  | negativeCount (text : String)
  | countNotNumber (kind : String)
  | noSuchWord (word : String)
  | absentKey (key : Json)
  | assignToField (field : String)
  | deleteField (field : String)
  | noAttribute (kind name : String)
  | readOnlyAttribute (kind name : String)
  | unhashable (kind : String)
  | unprintable (kind : String)
  /-- The module of an annotation is no text, so nothing can be put behind it. -/
  | annotationModule (kind : String)
  | recursion

namespace Fault

/-- The class of the exception that a fault becomes. -/
def kind : Fault → LibraryClass
  | .name e => e.kind
  | .template e => e.kind
  | .declaration e => e.kind
  | .change e => e.kind
  | .refusal r => r.kind
  | .runConcluded _ => .verificationError
  | .notIntrospectable _ | .unknownOutcome _ => .introspectionError
  | .notBlocking _ | .negativeCount _ => .valueError
  | .noSuchWord _ | .absentKey _ => .keyError
  | .assignToField _ | .deleteField _ => .frozenInstanceError
  | .noAttribute _ _ | .readOnlyAttribute _ _ => .attributeError
  | .recursion => .recursionError
  | .call _ _ | .notAClass _ | .notAClassArgument | .countNotNumber _
  | .unhashable _ | .unprintable _ | .annotationModule _ => .typeError

/-- What the exception carries: a message, or the key that was not found. -/
def argument : Fault → Json
  | .name e => .str e.message
  | .template e => e.argument
  | .call function e => .str (e.message function)
  | .declaration e => .str e.message
  | .change e => .str e.message
  | .refusal r => .str r.message
  | .runConcluded subject => .str ("La verificación de " ++ subject ++ " ya fue concluida.")
  | .notIntrospectable literal | .notAClass literal =>
    .str ("Se esperaba una clase, se recibió: " ++ literal)
  | .unknownOutcome literal => .str ("Resultado de construcción desconocido: " ++ literal)
  | .notBlocking literal =>
    .str ("La excepción de bloqueo debe ser una subclase de Exception: " ++ literal)
  | .notAClassArgument => .str "issubclass() arg 1 must be a class"
  | .negativeCount text => .str ("El número de parámetros no puede ser negativo: " ++ text)
  | .countNotNumber kind =>
    .str ("'<' not supported between instances of '" ++ kind ++ "' and 'int'")
  | .noSuchWord word => .str word
  | .absentKey key => key
  | .assignToField field => .str ("cannot assign to field " ++ Quoted.text field)
  | .deleteField field => .str ("cannot delete field " ++ Quoted.text field)
  | .noAttribute kind attr =>
    .str ("'" ++ kind ++ "' object has no attribute '" ++ attr ++ "'")
  | .readOnlyAttribute kind attr =>
    .str ("'" ++ kind ++ "' object attribute '" ++ attr ++ "' is read-only")
  | .unhashable kind => .str ("unhashable type: '" ++ kind ++ "'")
  | .unprintable kind => .str ("Object of type " ++ kind ++ " is not JSON serializable")
  | .annotationModule "list" => .str "can only concatenate list (not \"str\") to list"
  | .annotationModule kind =>
    .str ("unsupported operand type(s) for +: '" ++ kind ++ "' and 'str'")
  | .recursion => .str "maximum recursion depth exceeded"

end Fault

/-- A complaint about the type of an argument. -/
def typeComplaint (message : String) : Fault := .refusal (.complaint .typeError message)

/-- A complaint about an argument of the right type. -/
def valueComplaint (message : String) : Fault := .refusal (.complaint .valueError message)

/-- A complaint about a number that is too large. -/
def overflowComplaint (message : String) : Fault := .refusal (.complaint .overflowError message)

namespace Json

/-- The items of a value, which has to be a sequence. -/
def items (value : Json) : Except Fault (List Json) :=
  match value.items? with
  | some items => .ok items
  | none => .error (.refusal (.notIterable value.kind))

/-- The two items of a value, which has to have exactly two. -/
def pair (value : Json) : Except Fault (Json × Json) :=
  match value.items? with
  | none => .error (typeComplaint ("cannot unpack non-iterable " ++ value.kind ++ " object"))
  | some [first, second] => .ok (first, second)
  | some (_ :: _ :: _) => .error (valueComplaint "too many values to unpack (expected 2)")
  | some few => .error (valueComplaint
      ("not enough values to unpack (expected 2, got " ++ intText few.length ++ ")"))

end Json

end UtilityClass
