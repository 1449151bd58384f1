import UtilityClass.Name
import UtilityClass.Signature.Basic

/-!
# Classes

What the verifier sees of a class: its names, its place in the hierarchy, and the members of its own
namespace. Members that construct objects are described to the last statement of their bodies, since
the verifier runs them; of other members only what it reads is kept.

A class takes part in lookups through its `order`, the linearisation of its ancestors with itself in
front, which is fixed when the class is made. Namespaces can change afterwards.

## Main definitions

* `Subject`, `Reference` : a class, or plain data in its place
* `Statement`, `Function` : functions with their bodies
* `Member` : the entries of a namespace
* `Instance` : an object of a class
* `ClassInfo` : one class
* `Hierarchy` : all of them
-/

namespace UtilityClass

/-- A class, or plain data where a class is asked for. -/
inductive Subject where
  | ofClass (c : ClassId)
  | plain (value : Json)

/-- What a statement names: a class, a label, which is looked up when the statement runs, or plain
data. -/
inductive Reference where
  | ofClass (c : ClassId)
  | label (text : String)
  | plain (value : Json)

/-- A statement in the body of a function. -/
inductive Statement where
  /-- Raises an exception that the class makes of the arguments, or the class itself, which then
  makes one of none. -/
  | raise (exception : Reference) (arguments : Option (List Json))
  /-- Ends the body with a value. -/
  | give (value : Json)
  /-- Calls the next function of the same role along the order of the receiver. A creating function
  ends with what it gives, any other one goes on. -/
  | callNext (arguments : List Json) (named : List (String × Json))
  /-- Ends the body with a bare object of the class, or of the receiver. -/
  | allocate (of : Option Reference)
  /-- Calls a class and keeps what the call gives. -/
  | callClass (c : Reference) (arguments : List Json)
  /-- Ends the body with what was kept last. -/
  | giveKept
  /-- Verifies a class. -/
  | verify (c : Reference)
  /-- Sets an attribute of the class that defines the function. -/
  | assign (name : String) (value : Json)
  /-- Ends the body with one of several bodies: the first run takes the first one and so on, and the
  last one repeats. The label tells these statements apart. -/
  | inTurn (label : Nat) (bodies : List (List Statement))

instance : Inhabited Statement := ⟨.giveKept⟩

/-- What the functions of the library do that are written like any other function. -/
inductive Service where
  | nothing
  /-- Keeps protocols from being instantiated. -/
  | guardProtocol
  /-- Finds the member of an enumeration that has a value. -/
  | findMember
  /-- Answers the call of an enumeration. -/
  | callEnumeration
  /-- Creates a class whose abstract methods are kept track of. -/
  | createAbstract
  /-- Creates an enumeration. -/
  | createEnumeration
  /-- Creates a fraction. -/
  | createFraction
  /-- Fills a dictionary that wraps another one. -/
  | fillDictionary
  deriving DecidableEq

/-- What a function does when it is called. -/
inductive Body where
  | statements (list : List Statement)
  | service (s : Service)

/-- A function. -/
structure Function where
  /-- The name under which errors of its calls mention it. -/
  qualname : String
  /-- The class in which it was defined, from where `callNext` searches on. -/
  owner : ClassId
  /-- Whether the function creates objects. -/
  creates : Bool
  /-- What a call has to fit. -/
  parameters : List Parameter
  /-- What can be read of it; a wrapper shows the signature of the function it wraps. -/
  readable : Option Signature
  /-- The value of its marker attribute, if it has one. -/
  marker : Option Json
  isAbstract : Bool
  body : Body

namespace Function

/-- Whether the function is the one that keeps protocols from being instantiated. -/
def isProtocolGuard (f : Function) : Bool :=
  match f.body with
  | .service .guardProtocol => true
  | _ => false

end Function

/-- What is implemented outside of the functions described here. -/
inductive Native where
  /-- The creating function of a library class. -/
  | create (of : LibraryClass)
  /-- The initialising function of a library class. -/
  | initialise (of : LibraryClass)
  /-- The function that gives an exception of a library class its text. -/
  | describe (of : LibraryClass)
  /-- An attribute that each class has by being a class, whatever its namespace holds. -/
  | field (name : String)
  | length
  | iterate
  | update
  /-- A method of dictionaries, shown as one of the class. -/
  | pop (of : ClassId)
  /-- A method of dictionaries, shown as one of the class. -/
  | clear (of : ClassId)
  deriving DecidableEq

namespace Native

/-- The function as it is shown where it is handed out for an object of a class. -/
def shownFor (c : ClassId) : Native → Native
  | .pop _ => .pop c
  | .clear _ => .clear c
  | n => n

end Native

/-- An entry of a namespace. -/
inductive Member where
  /-- Plain data. -/
  | data (value : Json)
  /-- A function, which works on the object it is looked up on. -/
  | function (f : Function)
  /-- A function that works on nothing, with the marker of the wrapper that says so. -/
  | static (f : Function) (marker : Option Json)
  /-- A function that works on the class, with the marker of the wrapper that says so. -/
  | classwise (f : Function) (marker : Option Json)
  /-- An object that can be called but is no function. -/
  | callable (f : Function)
  | native (n : Native)
  /-- Something of which no more is known than that it is there, and whether it is an abstract
  method. -/
  | part (isAbstract : Bool)
  /-- A place for a value that every object of the class has. -/
  | place (name : String)
  /-- A member of the enumeration, and whether it counts as true. -/
  | enumerated (truthy : Bool)

/-- What an exception of the operating system keeps apart from its arguments. -/
structure SystemDetails where
  number : Option Json
  text : Option Json
  file : Option Json
  otherFile : Option Json

namespace SystemDetails

/-- No details. -/
def empty : SystemDetails := ⟨none, none, none, none⟩

end SystemDetails

/-- An object of a class. -/
structure Instance where
  type : ClassId
  /-- What an exception carries. -/
  arguments : List Json
  system : SystemDetails
  /-- The plain data that the object stands for, if its class derives from a type of data. -/
  content : Option Json

namespace Instance

/-- An object of which no more is known than its class. -/
def bare (type : ClassId) : Instance := ⟨type, [], .empty, none⟩

end Instance

/-- A member of an enumeration. -/
structure EnumerationMember where
  name : String
  made : Instance
  /-- The value, as far as it is plain data. -/
  value : Option Json
  /-- Whether the member counts among those that the enumeration lists: a further name of a member
  does not. -/
  listed : Bool

/-- What an enumeration knows of itself. -/
structure Enumeration where
  /-- The type of data that the members are mixed with. -/
  dataType : ClassId
  /-- The bits that occur in the values of flags. -/
  mask : Int
  /-- Those of them that are values by themselves. -/
  singles : Int
  /-- Whether flags know what to do about other bits. -/
  conforms : Bool
  members : List EnumerationMember
  /-- The combinations of flags that have been found so far. -/
  combinations : List (Int × Instance)

/-- What a class has answered so far to the question which classes derive from it. -/
structure SubclassAnswers where
  accepted : List ClassId
  refused : List ClassId

namespace SubclassAnswers

/-- No answers. -/
def empty : SubclassAnswers := ⟨[], []⟩

end SubclassAnswers

/-- One class. -/
structure ClassInfo where
  /-- The short name. -/
  name : String
  /-- The name inside the module. -/
  qualname : String
  /-- The module of a class whose namespace does not name it. -/
  module : Json
  /-- The name under which the runtime itself mentions the class. -/
  runtimeName : String
  bases : List ClassId
  /-- The class and its ancestors in the order of lookups. -/
  order : List ClassId
  /-- The base that decides on the layout of objects. -/
  primary : ClassId
  metaclass : ClassId
  /-- The own namespace. -/
  members : List (String × Member)
  /-- Whether objects are refused because methods are still abstract. -/
  isBarred : Bool
  enumeration : Option Enumeration
  /-- The answers that the class keeps if it keeps track of abstract methods. -/
  answers : SubclassAnswers
  /-- The class whose native function creates objects directly, if no other function does. -/
  creator : Option LibraryClass
  /-- Whether the namespace refuses changes. -/
  immutable : Bool
  /-- Whether the class may be a base. -/
  subclassable : Bool
  /-- Whether its objects have a layout of their own. -/
  solid : Bool
  /-- Whether its objects take attributes of their own. -/
  takesAttributes : Bool
  /-- Whether its objects can be referred to without being kept. -/
  takesReferences : Bool

instance : Inhabited ClassInfo where
  default := {
    name := ""
    qualname := ""
    module := .null
    runtimeName := ""
    bases := []
    order := []
    primary := .library .object
    metaclass := .library .type
    members := []
    isBarred := false
    enumeration := none
    answers := .empty
    creator := none
    immutable := true
    subclassable := false
    solid := false
    takesAttributes := false
    takesReferences := false }

/-- All classes there are. -/
structure Hierarchy where
  info : ClassId → ClassInfo
  /-- How many classes have been declared. -/
  declared : Nat

/-- The name of the entry that holds the names of the methods that are still abstract. -/
def abstractMethodsName : String := "__abstractmethods__"

namespace ClassInfo

/-- The own member of a name. -/
def own? (c : ClassInfo) (name : String) : Option Member := c.members.lookup name

/-- The entries with a member put under a name, in the place of an earlier one. -/
def putEntry (name : String) (m : Member) : List (String × Member) → List (String × Member)
  | [] => [(name, m)]
  | (key, old) :: rest =>
    if key = name then (name, m) :: rest else (key, old) :: putEntry name m rest

/-- The namespace with a member put under a name. -/
def setMember (c : ClassInfo) (name : String) (m : Member) : ClassInfo :=
  { c with members := putEntry name m c.members }

/-- The namespace without the member of a name. -/
def eraseMember (c : ClassInfo) (name : String) : ClassInfo :=
  { c with members := c.members.filter fun entry => entry.1 != name }

end ClassInfo

namespace Hierarchy

/-- The hierarchy with one class changed. -/
def modify (h : Hierarchy) (c : ClassId) (change : ClassInfo → ClassInfo) : Hierarchy :=
  let changed := change (h.info c)
  { h with info := fun d => if d = c then changed else h.info d }

@[simp] theorem modify_info_self (h : Hierarchy) (c : ClassId) (change : ClassInfo → ClassInfo) :
    (h.modify c change).info c = change (h.info c) := by
  simp [modify]

theorem modify_info_of_ne (h : Hierarchy) {c d : ClassId} (hd : d ≠ c)
    (change : ClassInfo → ClassInfo) : (h.modify c change).info d = h.info d := by
  simp [modify, hd]

end Hierarchy

end UtilityClass
