import UtilityClass.Class.LibraryClass
import UtilityClass.Text.Literal

/-!
# Qualified names

A qualified name says where a class can be imported from: a module and a name inside it. It is
written `module.name`, and just `name` for the module whose names need no import. Both parts are
taken from attributes of the named object, which may hold any value; a name is accepted unless its
second part counts as false, and it has a text unless that part would have to stand alone and is not
a string.

## Main definitions

* `QualifiedName.make` : a name from its two parts
* `QualifiedName.ofAttributes` : the name of an object with the given attributes
* `QualifiedName.text` : the written form
-/

namespace UtilityClass

/-- Where an object can be imported from. -/
structure QualifiedName where
  module : Json
  qualname : Json

/-- Why a name is refused, or has no text. -/
inductive NameError where
  | empty
  | notText (kind : String)
  deriving DecidableEq

namespace QualifiedName

/-- The module whose names are written without it. -/
def implicitModule : String := "builtins"

/-- A name from its two parts. -/
def make (module qualname : Json) : Except NameError QualifiedName :=
  if qualname.truthy then .ok ⟨module, qualname⟩ else .error .empty

/-- The name of an object, from those of its three naming attributes that it has. The short name
stands in for a qualified one that is missing or counts as false. -/
def ofAttributes (module qualname name : Option Json) : Except NameError QualifiedName :=
  let long := qualname.getD .null
  make (module.getD .null) (if long.truthy then long else name.getD (.str ""))

/-- Whether the module is left out of the written form. -/
def omitsModule (n : QualifiedName) : Bool :=
  match n.module with
  | .null => true
  | .str module => decide (module = implicitModule)
  | _ => false

/-- The written form. -/
def text (n : QualifiedName) : Except NameError String :=
  if n.omitsModule then
    match n.qualname with
    | .str qualname => .ok qualname
    | other => .error (.notText other.kind)
  else .ok (n.module.text ++ "." ++ n.qualname.text)

/-- The name as it is shown inside a message that tells values apart. -/
def literal (n : QualifiedName) : String :=
  "QualifiedName(module=" ++ n.module.literal ++ ", qualname=" ++ n.qualname.literal ++ ")"

/-- Names are equal when both parts are. -/
def same (m n : QualifiedName) : Bool := m.module.same n.module && m.qualname.same n.qualname

/-- A name whose second part is a string has a text. -/
theorem text_isOk_of_str (module : Json) (qualname : String) :
    ∃ t, text ⟨module, .str qualname⟩ = .ok t := by
  unfold text
  split <;> exact ⟨_, rfl⟩

end QualifiedName

/-- What is said of a refused name. -/
def NameError.message : NameError → String
  | .empty => "El qualname no puede estar vacío."
  | .notText kind => "__str__ returned non-string (type " ++ kind ++ ")"

/-- The class of the exception that a refused name becomes. -/
def NameError.kind : NameError → LibraryClass
  | .empty => .valueError
  | .notText _ => .typeError

end UtilityClass
