import UtilityClass.Json.Basic
import UtilityClass.Text.CodePoint

/-!
# Documents

A document is what can be printed and read: plain data whose texts consist of code points. Plain
data itself, with its texts of characters, is a document.

An object keeps each name once. Whoever gives it a name again replaces the value and not the place.

## Main definitions

* `Document`
* `Document.collected` : fields as an object keeps them
* `Json.document` : plain data as a document
-/

namespace UtilityClass

/-- Data that can be printed and read. -/
inductive Document where
  | null
  | bool (value : Bool)
  | int (value : Int)
  | float (value : Double)
  | str (text : Text)
  | arr (items : List Document)
  | obj (fields : List (Text × Document))

namespace Document

/-- A value put under a name, in the place of an earlier one or at the end. -/
def put (name : Text) (value : Document) : List (Text × Document) → List (Text × Document)
  | [] => [(name, value)]
  | (key, old) :: rest =>
    if key = name then (name, value) :: rest else (key, old) :: put name value rest

/-- Fields as an object keeps them that is given one after the other. -/
def collected (fields : List (Text × Document)) : List (Text × Document) :=
  fields.foldl (fun kept field => put field.1 field.2 kept) []

end Document

/-! ## Plain data -/

namespace Json

mutual

/-- Plain data as a document. -/
def document : Json → Document
  | .null => .null
  | .bool value => .bool value
  | .int value => .int value
  | .float value => .float value
  | .str text => .str text
  | .arr items => .arr (itemDocuments items)
  | .obj fields => .obj (fieldDocuments fields)

/-- The items of a list, each on its own. -/
def itemDocuments : List Json → List Document
  | [] => []
  | item :: rest => document item :: itemDocuments rest

/-- The fields of an object, each on its own. -/
def fieldDocuments : List (String × Json) → List (Text × Document)
  | [] => []
  | (name, value) :: rest => (↑name, document value) :: fieldDocuments rest

end

instance : Coe Json Document := ⟨document⟩

end Json

end UtilityClass
