import UtilityClass.Machinery
import UtilityClass.Subclass

/-!
# Catching exceptions

Whoever catches an exception first makes sure that it is one of the class that was raised. The class
is asked for this like any other one, so it may complain, and then the complaint takes the place of
the exception. Where the class that was raised had made an exception of another class, it makes
another one of it.

## Main definitions

* `Raised.settle` : the exception that is found by whoever catches
* `Act.catching` : an act whose exceptions are results
-/

namespace UtilityClass

/-- The exception that a class makes of an exception of another class. -/
def Machinery.remake (m : Machinery) (c : ClassId) (i : Instance) : Act Instance := do
  let made ← m.call (.ofClass c) [.object i] []
  let h ← Act.classes
  let refused : Act Instance := do
    Act.refuse (.notMadeException (← Act.ofExcept (h.literal c)) (made.kind h))
  match made with
  | .object i => if h.derives i.type LibraryClass.baseException then return i else refused
  | _ => refused

namespace Raised

/-- The exception that is found by whoever catches. A complaint that arises meanwhile keeps the
traces of the exception unless it has some of its own, the first of which is then the place where it
is caught. The fuel bounds how many complaints follow each other. -/
def settleWithin (m : Machinery) : Nat → Raised → Act Raised
  | 0, e => return e
  | fuel + 1, e => do
    match ← Act.attempt (Act.isSubclass e.error.type e.raisedAs) with
    | .ok true => return { e with raisedAs := e.error.type }
    | .ok false =>
      match ← Act.attempt (m.remake e.raisedAs e.error) with
      | .ok made => return { e with error := made, raisedAs := made.type }
      | .error other =>
        let frames := if other.frames = 0 then e.frames else other.frames
        settleWithin m fuel { other with frames }
    | .error other =>
      let frames := if other.frames = 0 then e.frames else other.frames - 1
      settleWithin m fuel { other with frames }

/-- The exception that is found by whoever catches. -/
def settle (m : Machinery) (e : Raised) : Act Raised := settleWithin m 32 e

end Raised

namespace Act

/-- The act with its exception as a result, as whoever catches it finds it. -/
def catching {α : Type} (m : Machinery) (act : Act α) : Act (Except Raised α) := do
  match ← attempt act with
  | .ok a => return .ok a
  | .error e => return .error (← e.settle m)

end Act

end UtilityClass
