import UtilityClass.Fault
import UtilityClass.Value

/-!
# What a class shows as its namespace

A class shows the namespace that it has, unless its metaclass hides this behind an entry of its own.
Then plain data or something else stands in the place of the namespace, and whoever looks into it
has to be prepared for what is no container, or has no entries.

## Main definitions

* `Namespace`
* `Namespace.contains`, `Namespace.entry`, `Namespace.get?`, `Namespace.entries`
-/

namespace UtilityClass

/-- What a class shows as its namespace. -/
inductive Namespace where
  | own (entries : List (String × Member))
  | data (value : Json)
  /-- Something of which only two words are known: that for its type, and that for the type whose
  attributes it has. -/
  | other (kind holder : String)

namespace Namespace

/-- Refuses to look for something in what is no container. -/
def refuse (kind : String) : Except Fault Bool :=
  .error (typeComplaint ("argument of type '" ++ kind ++ "' is not iterable"))

/-- Whether a word stands somewhere in a text. -/
def occurs (word : List Char) : List Char → Bool
  | [] => word.isEmpty
  | c :: rest => word.isPrefixOf (c :: rest) || occurs word rest

/-- Whether a name is contained. -/
def contains (name : String) : Namespace → Except Fault Bool
  | .own entries => .ok (entries.lookup name).isSome
  | .data (.obj fields) => .ok (fields.lookup name).isSome
  | .data (.arr items) => .ok (items.any fun item => item.same (.str name))
  | .data (.str text) => .ok (occurs name.toList text.toList)
  | .data value => refuse value.kind
  | .other kind _ => refuse kind

/-- The entry of a name that is contained. -/
def entry (name : String) : Namespace → Except Fault Member
  | .own entries => .ok ((entries.lookup name).getD (.part false))
  | .data (.obj fields) => .ok (.data ((fields.lookup name).getD .null))
  | .data (.arr _) => .error (typeComplaint "list indices must be integers or slices, not str")
  | .data (.str _) => .error (typeComplaint "string indices must be integers, not 'str'")
  | .data value => .error (typeComplaint ("'" ++ value.kind ++ "' object is not subscriptable"))
  | .other kind _ => .error (typeComplaint ("'" ++ kind ++ "' object is not subscriptable"))

/-- The entry of a name, if there is one. -/
def get? (name : String) : Namespace → Except Fault (Option Member)
  | .own entries => .ok (entries.lookup name)
  | .data (.obj fields) => .ok ((fields.lookup name).map .data)
  | .data value => .error (.noAttribute value.kind "get")
  | .other _ holder => .error (.noAttribute holder "get")

/-- All entries. -/
def entries : Namespace → Except Fault (List (String × Member))
  | .own entries => .ok entries
  | .data (.obj fields) => .ok (fields.map fun (name, value) => (name, .data value))
  | .data value => .error (.noAttribute value.kind "items")
  | .other _ holder => .error (.noAttribute holder "items")

end Namespace

end UtilityClass
