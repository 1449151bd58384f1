import UtilityClass.Class.Lookup

/-!
# Values

What functions are called with and what they give. Of an object only its class is known, and what an
exception was made with. While a class is made, its bases and its namespace are values as well.

A lookup hands a member out together with what the member works on: a function that is looked up on
an object is called with the object in front of all other arguments.

## Main definitions

* `Blueprint` : the namespace from which a class is made
* `Value` : what functions are called with and what they give
* `Member.onObject`, `Member.onClass` : a member as a lookup hands it out
-/

namespace UtilityClass

/-- What is noted of an enumeration while its namespace is filled. -/
structure EnumerationDraft where
  /-- The name of the class. -/
  className : String
  /-- The names of the members, in their order. -/
  names : List String
  /-- Names that are to be forgotten again. -/
  ignored : List Json

/-- How the members of an enumeration are made. -/
structure MemberPlan where
  /-- The type of data that the members are mixed with. -/
  dataType : ClassId
  /-- The enumeration that is the last of the bases. -/
  parent : ClassId
  /-- The creating function, and the classes that it is called with in front. -/
  creator : Member
  bound : List ClassId
  /-- Whether the function is called with the value of the member. -/
  takesValue : Bool
  /-- The creating function that the namespace declares itself. -/
  declaredCreator : Option Member
  /-- The order of the members as it is given. -/
  order : Option Member
  /-- The bits that occur in the values. -/
  mask : Int
  /-- Those of them that are values by themselves. -/
  singles : Int
  /-- Whether the enumeration knows what to do about other bits. -/
  conforms : Bool
  /-- The members with what was declared for them. -/
  pending : List (String × Json)

/-- The namespace from which a class is made. -/
structure Blueprint where
  /-- The class that will be made. -/
  self : ClassId
  entries : List (String × Member)
  draft : Option EnumerationDraft
  plan : Option MemberPlan

namespace Blueprint

/-- The namespace of a class without entries. -/
def empty (self : ClassId) : Blueprint := ⟨self, [], none, none⟩

/-- The entry of a name. -/
def get? (b : Blueprint) (name : String) : Option Member := b.entries.lookup name

/-- The namespace with an entry put under a name. -/
def put (b : Blueprint) (name : String) (m : Member) : Blueprint :=
  { b with entries := ClassInfo.putEntry name m b.entries }

/-- The namespace without the entry of a name. -/
def erase (b : Blueprint) (name : String) : Blueprint :=
  { b with entries := b.entries.filter fun entry => entry.1 != name }

end Blueprint

/-- What functions are called with and what they give. -/
inductive Value where
  | data (value : Json)
  | object (i : Instance)
  | ofClass (c : ClassId)
  /-- Several values that belong together, such as the bases of a class under way. -/
  | tuple (items : List Subject)
  /-- The namespace of a class under way. -/
  | blueprint (b : Blueprint)

instance : Inhabited Value := ⟨.data .null⟩

/-- The class of plain data. -/
def Json.type : Json → LibraryClass
  | .null => .noneType
  | .bool _ => .bool
  | .int _ => .int
  | .float _ => .float
  | .str _ => .str
  | .arr _ => .list
  | .obj _ => .dict

namespace Value

/-- The value that stands for nothing. -/
def null : Value := .data .null

/-- Whether a value stands for nothing. -/
def isNull : Value → Bool
  | .data .null => true
  | _ => false

/-- The class of a value. -/
def type (h : Hierarchy) : Value → ClassId
  | .data value => value.type
  | .object i => i.type
  | .ofClass c => (h.info c).metaclass
  | .tuple _ => LibraryClass.tuple
  | .blueprint _ => LibraryClass.dict

/-- The runtime name of the class of a value. -/
def kind (h : Hierarchy) (v : Value) : String := (h.info (v.type h)).runtimeName

/-- Whether a value is an object of a class or of one derived from it. -/
def isOf (h : Hierarchy) (c : ClassId) (v : Value) : Bool := h.derives (v.type h) c

/-- The plain data that a value is or stands for. -/
def content? : Value → Option Json
  | .data value => some value
  | .object i => i.content
  | _ => none

/-- A value among the bases of a class under way or the classes of exceptions. Of an object nothing
more matters there than that it is no class. -/
def subject : Value → Subject
  | .ofClass c => .ofClass c
  | .data value => .plain value
  | _ => .plain .null

end Value

namespace Subject

/-- The class, if it is one. -/
def class? : Subject → Option ClassId
  | .ofClass c => some c
  | .plain _ => none

/-- A subject as a value. -/
def value : Subject → Value
  | .ofClass c => .ofClass c
  | .plain value => .data value

end Subject

namespace Member

/-- A member as a lookup on an object of a class hands it out, with the arguments that it gets in
front. -/
def onObject (m : Member) (receiver : Value) (c : ClassId) : Member × List Value :=
  match m with
  | .function f => (.function f, [receiver])
  | .static f _ => (.function f, [])
  | .classwise f _ => (.function f, [.ofClass c])
  | .native (.create l) => (.native (.create l), [])
  | .native .length => (.native .length, [])
  | .native .iterate => (.native .iterate, [])
  | .native n => (.native n, [receiver])
  | .part isAbstract => (.part isAbstract, [receiver])
  | .place name => (.place name, [receiver])
  | .data value => (.data value, [])
  | .callable f => (.callable f, [])
  | .enumerated truthy => (.enumerated truthy, [])

/-- A member as a lookup on a class hands it out, with the arguments that it gets in front. -/
def onClass (m : Member) (c : ClassId) : Member × List Value :=
  match m with
  | .static f _ => (.function f, [])
  | .classwise f _ => (.function f, [.ofClass c])
  | m => (m, [])

end Member

end UtilityClass
