import UtilityClass.Construction.Call

/-!
# Levels of machinery

The machinery that bodies use is the machinery that runs them, one level down. At the lowest level
every construction and every call ends with the exception that stands for too deep a recursion, so
the number of levels bounds how deep constructors can be nested.

## Main definitions

* `Machinery.level`
* `Machinery.standard` : enough levels for every program that does not recur without end
-/

namespace UtilityClass

namespace Machinery

/-- The machinery that refuses everything. -/
def exhausted : Machinery where
  construct _ := Act.fail .recursion
  call _ _ _ := Act.fail .recursion
  textOf _ := Act.fail .recursion
  apply _ _ _ := Act.fail .recursion

/-- The machinery whose bodies use another one. -/
def above (m : Machinery) : Machinery where
  construct c := Construction.constructWith m c [] []
  call := Construction.call m
  textOf := Construction.textOf m
  apply := Construction.apply m

/-- The machinery with a number of levels. -/
def level : Nat → Machinery
  | 0 => exhausted
  | n + 1 => (level n).above

/-- How deep constructors can be nested. -/
def depth : Nat := 1000

/-- The machinery that classes are verified with. -/
def standard : Machinery := level depth

end Machinery

end UtilityClass
