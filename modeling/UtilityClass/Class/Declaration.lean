import UtilityClass.Class.Basic

/-!
# Declarations

A declaration says what a new class is to hold: its names and bases, and the entries of its
namespace in the order in which they are put there. Constructors are declared as drafts, since a
function knows the class in which it is defined.

A function may wrap others. It is then shown with the signature of the innermost one, and it takes
over the marker and the value in the place of the signature, the innermost ones first.

## Main definitions

* `FunctionDraft`, `ConstructorDraft`, `ConstructorDraft.member` : constructors
* `Declaration`, `Declaration.entries` : what is declared of a class
-/

namespace UtilityClass

/-- In which form a function is put into a namespace. -/
inductive Form where
  | plain
  | static
  | classwise
  /-- As an object that can be called but is no function. -/
  | callable
  deriving DecidableEq

/-- What can be read of a function or of one that it wraps. -/
structure Layer where
  parameters : List Parameter
  result : Option Annotation
  /-- The value of its marker attribute, if it has one. -/
  marker : Option Json
  /-- A value put in the place where a signature is looked for. -/
  signatureValue : Option Json

/-- A function before it belongs to a class. -/
structure FunctionDraft where
  form : Form
  outer : Layer
  /-- The functions that it wraps, each wrapped by the one before. -/
  inner : List Layer
  /-- Whether the wrapper that says how the function works is marked. -/
  marksWrapper : Bool
  body : List Statement

/-- What is declared as a constructor. -/
inductive ConstructorDraft where
  | function (draft : FunctionDraft)
  | data (value : Json)
  | native (n : Native)

namespace FunctionDraft

/-- The layers from the innermost one on. -/
def layers (d : FunctionDraft) : List Layer := (d.outer :: d.inner).reverse

/-- The marker of the function. -/
def marker (d : FunctionDraft) : Option Json := d.layers.findSome? (·.marker)

/-- The parameters with the annotations that others of the same names have. -/
def annotated (parameters others : List Parameter) : List Parameter :=
  parameters.map fun p =>
    { p with annotation := (others.find? fun q => q.name == p.name).bind fun q => q.annotation }

/-- The signature that can be read. A value in its place hides it, and `null` there hides only the
parameters of wrapped functions, but not what they say of them. -/
def readable (d : FunctionDraft) : Option Signature :=
  let innermost := d.layers.head?.getD d.outer
  let value : Option Json := d.layers.findSome? (·.signatureValue)
  match value with
  | none => some ⟨innermost.parameters, innermost.result⟩
  | some .null => some ⟨annotated d.outer.parameters innermost.parameters, innermost.result⟩
  | some _ => none

/-- The function. An object that can be called is its own first argument, which its signature leaves
out, and errors of its calls mention its own function. -/
def function (d : FunctionDraft) (owner : ClassId) (className name : String) : Function where
  qualname := if d.form = .callable then "Callable.__call__" else className ++ "." ++ name
  owner
  creates := name == "__new__"
  parameters :=
    if d.form = .callable then .bare .plain "this" :: d.outer.parameters else d.outer.parameters
  readable := d.readable
  marker := d.marker
  isAbstract := false
  body := .statements d.body

/-- The marker of the wrapper. -/
def wrapperMarker (d : FunctionDraft) : Option Json :=
  if d.marksWrapper then some (.bool true) else none

end FunctionDraft

/-- The entry that a draft makes under a name in the namespace of a class. -/
def ConstructorDraft.member (d : ConstructorDraft) (owner : ClassId) (className name : String) :
    Member :=
  match d with
  | .data value => .data value
  | .native n => .native n
  | .function draft =>
    let f := draft.function owner className name
    match draft.form with
    | .plain => .function f
    | .static => .static f draft.wrapperMarker
    | .classwise => .classwise f draft.wrapperMarker
    | .callable => .callable f

/-- What is declared of a class. -/
structure Declaration where
  name : Json
  qualname : Json
  module : Json
  /-- No bases stand for the root class. -/
  bases : List Reference
  metaclass : Option Reference
  /-- Whether the class is marked as final. -/
  isFinal : Bool
  attributes : List (String × Json)
  /-- Further methods, and whether they are abstract. -/
  methods : List (String × Bool)
  creator : Option ConstructorDraft
  initialiser : Option ConstructorDraft
  /-- The body of the function that gives objects their text. -/
  describer : Option (List Statement)
  /-- The body of the function that is run when an object is called. -/
  caller : Option (List Statement)
  /-- The members of an enumeration. -/
  members : List (String × Json)

namespace Declaration

/-- A method of the class. -/
def method (d : Declaration) (self : ClassId) (name : String) (parameters : List Parameter)
    (isAbstract : Bool) (body : List Statement) : Member :=
  .function {
    qualname := d.qualname.text ++ "." ++ name
    owner := self
    creates := false
    parameters
    readable := some ⟨parameters, none⟩
    marker := none
    isAbstract
    body := .statements body }

/-- The entries of the namespace, in the order in which they are put there. -/
def entries (d : Declaration) (self : ClassId) : List (String × Member) :=
  let receiver : List Parameter := [.bare .plain "self"]
  let constructor (name : String) (c : Option ConstructorDraft) : List (String × Member) :=
    (c.map fun draft => (name, draft.member self d.qualname.text name)).toList
  [("__module__", .data d.module), ("__qualname__", .data d.qualname)] ++
    d.attributes.map (fun (name, value) => (name, .data value)) ++
    d.methods.map (fun (name, isAbstract) => (name, d.method self name receiver isAbstract [])) ++
    constructor "__new__" d.creator ++
    constructor "__init__" d.initialiser ++
    (d.describer.map fun body =>
      ("__str__", d.method self "__str__" receiver false body)).toList ++
    (d.caller.map fun body => ("__call__", d.method self "__call__"
      [.bare .plain "cls", .bare .rest "args", .bare .namedRest "kwargs"] false body)).toList ++
    d.members.map (fun (name, value) => (name, .data value))

end Declaration

end UtilityClass
