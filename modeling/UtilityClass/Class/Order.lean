import UtilityClass.Class.LibraryClass

/-!
# The order of lookups

The order of a class starts with the class itself and merges the orders of its bases with the list
of the bases. At each step the merge takes the leftmost class that heads a list and stands behind no
other head; such a class may be missing, and then the bases admit no order.

## Main definitions

* `ClassOrder.eligible?` : the class that a step of the merge takes
* `ClassOrder.merge` : the merged list, or the heads that are left when no class can be taken
-/

namespace UtilityClass

namespace ClassOrder

/-- The heads of the lists, each once, in the order of the lists. -/
def heads (lists : List (List ClassId)) : List ClassId :=
  (lists.filterMap List.head?).eraseDups

/-- Whether a class stands in one of the lists behind its head. -/
def isBehind (lists : List (List ClassId)) (c : ClassId) : Bool :=
  lists.any fun list => list.tail.contains c

/-- The leftmost head that stands behind no other head. -/
def eligible? (lists : List (List ClassId)) : Option ClassId :=
  (heads lists).find? fun c => !isBehind lists c

/-- The lists without a class at their heads. -/
def advance (c : ClassId) (lists : List (List ClassId)) : List (List ClassId) :=
  lists.map fun list => if list.head? = some c then list.tail else list

/-- The merge of the lists; the fuel is the number of entries, of which each step takes one away. -/
def mergeWithin : Nat → List (List ClassId) → Except (List ClassId) (List ClassId)
  | 0, lists => if (heads lists).isEmpty then .ok [] else .error (heads lists)
  | fuel + 1, lists =>
    if (heads lists).isEmpty then .ok []
    else match eligible? lists with
      | some c => (mergeWithin fuel (advance c lists)).map (c :: ·)
      | none => .error (heads lists)

/-- The merge of the lists, or the heads for which there is none. -/
def merge (lists : List (List ClassId)) : Except (List ClassId) (List ClassId) :=
  mergeWithin lists.flatten.length lists

end ClassOrder

end UtilityClass
