import UtilityClass.Class.Declaration
import UtilityClass.Enumeration.Search
import UtilityClass.Subclass

/-!
# Declaring classes

A declared class is made by its metaclass, which derives from the metaclasses of all bases. The
metaclass is asked for a namespace, the entries of the declaration are put there one after the
other, and then it is called with the name, the bases and the namespace. What it gives takes the
place of the class, whatever it is.

## Main definitions

* `Declaration.declare`
-/

namespace UtilityClass

namespace Declaration

/-- The metaclass that derives from all of some metaclasses, beginning with one of them. Unlike the
language itself, whoever makes a class in several steps asks the metaclasses. -/
def winnerOf (first : ClassId) : List ClassId → Act ClassId
  | [] => return first
  | next :: rest => do
    if ← Act.isSubclass first next then winnerOf first rest
    else if ← Act.isSubclass next first then winnerOf next rest
    else Act.fail (.declaration .metaclassConflict)

/-- The metaclass of a class with the given bases. One that is named has to be called even if it is
no class. -/
def metaclassOf (named : Option Value) (bases : List Value) : Act Value := do
  let kinds := bases.map (·.type (← Act.classes))
  match named.getD (.ofClass (kinds.head?.getD LibraryClass.type)) with
  | .ofClass c => return .ofClass (← winnerOf c kinds)
  | v => return v

/-- Marks what was made as final, if it takes attributes. -/
def markFinal (made : Value) : Act Unit := do
  match made with
  | .ofClass c =>
    match (← Act.classes).assign c "__final__" (.data (.bool true)) with
    | .ok h => Act.setClasses h
    | .error fault =>
      if fault.kind = .attributeError ∨ fault.kind = .typeError then return else Act.fail fault
  | _ => return

/-- Makes the class that is declared. -/
def declare (m : Machinery) (d : Declaration) : Act Value := do
  let bases ← d.bases.mapM Act.resolve
  let named ← match d.metaclass with
    | some r => do pure (some (← Act.resolve r))
    | none => pure none
  let metaclass ← metaclassOf named bases
  let self ← Act.takeClass
  let subjects := bases.map Value.subject
  let b ← match metaclass with
    | .ofClass c => Enumeration.prepare c self d.name (subjects.filterMap Subject.class?)
    | _ => pure (Blueprint.empty self)
  let b ← Act.ofExcept ((d.entries self).foldlM (fun b (name, member) => b.declare name member) b)
  let made ← m.call metaclass [.data d.name, .tuple subjects, .blueprint b] []
  if d.isFinal then markFinal made
  return made

end Declaration

end UtilityClass
