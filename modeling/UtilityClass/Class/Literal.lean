import UtilityClass.Class.Reading

/-!
# How classes are shown

A class is shown by its metaclass. The metaclass of the library shows the qualified name, the one of
enumerations the short name. A declared metaclass may have a method of its own for this; like all
methods that are declared by name only, it gives nothing, and that is no text.

## Main definitions

* `Json.shown`, `Hierarchy.literal`, `Subject.literal`, `Value.literal` : what is shown
-/

namespace UtilityClass

/-- Plain data as it is shown inside a message, unless it holds too long an integer. -/
def Json.shown (value : Json) : Except Fault String :=
  if value.isShowable then .ok value.literal
  else .error (valueComplaint ("Exceeds the limit (" ++ intText digitLimit ++
    " digits) for integer string conversion; " ++
    "use sys.set_int_max_str_digits() to increase the limit"))

/-- The qualified name of a subject. Plain data has none. -/
def Subject.name (h : Hierarchy) : Subject → Except Fault QualifiedName
  | .ofClass c => h.nameOf c
  | .plain _ => (QualifiedName.ofAttributes none none none).mapError .name

namespace Hierarchy

variable (h : Hierarchy)

/-- An enumeration as its metaclass shows it. -/
def enumerationLiteral (c : ClassId) : Except Fault String := do
  let word := if h.derives c (.library .flag) then "flag" else "enum"
  return "<" ++ word ++ " " ++ (← h.shortName c).literal ++ ">"

/-- A class as it is shown inside a message that tells values apart. -/
def literal (c : ClassId) : Except Fault String :=
  match h.resolve? (h.info c).metaclass "__repr__" with
  | some (.declared _, hook) => do
    h.tryHook c hook 0
    .error (.refusal (.nonText "__repr__" "NoneType"))
  | some (.library .enumType, _) => h.enumerationLiteral c
  | _ => .ok (h.plainLiteral c)

end Hierarchy

/-- A subject as it is shown inside a message. -/
def Subject.literal (h : Hierarchy) : Subject → Except Fault String
  | .ofClass c => h.literal c
  | .plain value => value.shown

/-- An exception as it is shown inside a message: its class, and what it carries. -/
def Instance.exceptionLiteral (h : Hierarchy) (i : Instance) : Except Fault String :=
  (i.arguments.mapM Json.shown).map fun shown =>
    (h.info i.type).name ++ "(" ++ joinText ", " shown ++ ")"

/-- An object as it is shown inside a message, as far as it is known. -/
def Instance.literal (h : Hierarchy) (i : Instance) : Except Fault String :=
  match h.resolve? i.type "__repr__" with
  | some (.declared _, hook) => do
    let (hook, front) := hook.onObject (.object i) i.type
    hook.tryCall front.length
    .error (.refusal (.nonText "__repr__" "NoneType"))
  | _ =>
    if h.derives i.type LibraryClass.baseException then i.exceptionLiteral h
    else (i.content.map Json.shown).getD (.ok "")

/-- A value as it is shown inside a message, as far as it is known. -/
def Value.literal (h : Hierarchy) : Value → Except Fault String
  | .ofClass c => h.literal c
  | .object i => i.literal h
  | .data value => value.shown
  | .tuple _ | .blueprint _ => .ok ""

end UtilityClass
