import UtilityClass.Outcome
import UtilityClass.Report

/-!
# Snapshots

Names, descriptors, outcomes, policies and reports are snapshots: they have named fields, are shown
field by field, are equal when their fields are, and cannot be changed. Some of them also answer to
properties that are no fields. The object that a successful construction made is kept, but takes no
part in how its outcome is shown or compared.

## Main definitions

* `Snapshot`, `Snapshot.fields`
* `Snapshot.literal`, `Snapshot.get`, `Snapshot.same`, `Snapshot.checkHashable`
-/

namespace UtilityClass

/-- A snapshot of one of the kinds there are. -/
inductive Snapshot where
  | name (n : QualifiedName)
  | type (d : TypeDescriptor)
  | constructor (d : ConstructorDescriptor)
  | outcome (o : Outcome)
  | policy (p : VerificationPolicy)
  | report (r : Report)

/-- What a field of a snapshot holds. -/
inductive Held where
  | data (value : Json)
  | name (n : QualifiedName)
  | subject (s : Subject)
  | classification (c : Classification)
  | visibility (v : Visibility)
  | texts (list : List String)

namespace Held

/-- A field as it is shown inside a message. -/
def literal (h : Hierarchy) : Held → Except Fault String
  | .data value => .ok value.literal
  | .name n => .ok n.literal
  | .subject s => s.literal h
  | .classification c => .ok ("<Classification." ++ c.word ++ ": " ++ intText c.ordinal ++ ">")
  | .visibility v => .ok ("<Visibility." ++ v.word ++ ": " ++ intText v.ordinal ++ ">")
  | .texts list => .ok (Json.parenthesised (list.map Quoted.text))

/-- Equality of two fields. Classes may have something to say to it. -/
def same (h : Hierarchy) : Held → Held → Except Fault Bool
  | .data x, .data y => .ok (x.same y)
  | .name m, .name n => .ok (m.same n)
  | .subject (.ofClass c), .subject (.ofClass d) => h.sameClass c d
  | .subject (.plain x), .subject (.plain y) => .ok (x.same y)
  | .subject (.ofClass c), .subject (.plain _) | .subject (.plain _), .subject (.ofClass c) =>
    h.samePlain c
  | .classification c, .classification d => .ok (decide (c = d))
  | .visibility v, .visibility w => .ok (decide (v = w))
  | .texts s, .texts t => .ok (decide (s = t))
  | _, _ => .ok false

/-- Refuses plain data that can be no part of a key. -/
def checkPlain (value : Json) : Except Fault Unit :=
  if value.isHashable then .ok () else .error (.unhashable value.kind)

/-- Refuses a field that can be no part of a key. -/
def checkHashable (h : Hierarchy) : Held → Except Fault Unit
  | .data value | .subject (.plain value) => checkPlain value
  | .subject (.ofClass c) => h.checkHashable c
  | .name n => do
    checkPlain n.module
    checkPlain n.qualname
  | _ => .ok ()

end Held

namespace Snapshot

/-- An optional message as data. -/
def messageData (message : Option String) : Json :=
  match message with
  | some text => .str text
  | none => .null

/-- The word for the kind of a snapshot. -/
def kind : Snapshot → String
  | .name _ => "QualifiedName"
  | .type _ => "TypeDescriptor"
  | .constructor _ => "ConstructorDescriptor"
  | .outcome (.constructed _) => "Constructed"
  | .outcome (.failedWith _ _) => "FailedWith"
  | .outcome .noDefaultConstructor => "NoSuchDefaultConstructor"
  | .outcome (.accessRefused _ _) => "AccessRefused"
  | .outcome (.unknown value) => value.kind
  | .policy _ => "VerificationPolicy"
  | .report (.ok _) => "Ok"
  | .report (.failed _ _ _) => "Failed"

/-- The fields that are shown and compared, in their order. -/
def fields : Snapshot → List (String × Held)
  | .name n => [("module", .data n.module), ("qualname", .data n.qualname)]
  | .type d =>
    [("name", .name d.name), ("classification", .classification d.classification),
      ("is_abstract", .data (.bool d.isAbstract)), ("is_final", .data (.bool d.isFinal))]
  | .constructor d =>
    [("signature", .data (.str d.signature)), ("parameter_count", .data d.parameterCount),
      ("visibility", .visibility d.visibility)]
  | .outcome (.failedWith error message) | .outcome (.accessRefused error message) =>
    [("error_type", .subject error), ("message", .data (messageData message))]
  | .outcome _ => []
  | .policy p => [("blocking_exception", .subject (.ofClass p.blocking))]
  | .report (.ok subject) => [("subject", .name subject)]
  | .report (.failed subject issues message) =>
    [("subject", .name subject), ("issues", .texts issues), ("message", .data (.str message))]

/-- What a snapshot answers to beyond its fields. -/
def property? (h : Hierarchy) (s : Snapshot) (property : String) :
    Option (Except Fault Held) :=
  match s, property with
  | .constructor d, "is_private" => some (.ok (.data (.bool d.isPrivate)))
  | .outcome (.constructed (.data value)), "instance" => some (.ok (.data value))
  | .outcome (.failedWith error _), "kind" | .outcome (.accessRefused error _), "kind" =>
    some ((error.name h).map .name)
  | .policy p, "blocking_kind" => some ((h.nameOf p.blocking).map .name)
  | .report r, "is_valid" => some (.ok (.data (.bool r.isValid)))
  | _, _ => none

/-- The field or property of a name. -/
def get (h : Hierarchy) (s : Snapshot) (key : String) : Except Fault Held :=
  match s.fields.lookup key, s.property? h key with
  | some held, _ => .ok held
  | none, some result => result
  | none, none => .error (.noAttribute s.kind key)

/-- A snapshot as it is shown inside a message. -/
def literal (h : Hierarchy) (s : Snapshot) : Except Fault String := do
  let parts ← s.fields.mapM fun (key, held) => (held.literal h).map (key ++ "=" ++ ·)
  return s.kind ++ "(" ++ joinText ", " parts ++ ")"

/-- A snapshot as plain text: only names have one of their own. -/
def text (h : Hierarchy) : Snapshot → Except Fault String
  | .name n => n.text.mapError .name
  | s => s.literal h

/-- Equality: the same kind and equal fields. -/
def same (h : Hierarchy) (s t : Snapshot) : Except Fault Bool :=
  if s.kind ≠ t.kind ∨ s.fields.length ≠ t.fields.length then .ok false
  else (s.fields.zip t.fields).allM fun ((_, x), (_, y)) => x.same h y

/-- Equal snapshots stand for the same key of a table, unless a field can be no part of a key. -/
def checkHashable (h : Hierarchy) (s : Snapshot) : Except Fault Unit :=
  s.fields.forM fun (_, held) => held.checkHashable h

end Snapshot

end UtilityClass
