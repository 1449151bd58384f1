/-!
# Names with underscores

The underscores on both ends of a name say who may give it a meaning: names with two of them belong
to the language, and names with one are reserved by whoever defines a kind of classes.

## Main definitions

* `Underscored.isDouble`, `Underscored.isSingle`
-/

namespace UtilityClass

namespace Underscored

/-- Whether a name has two underscores on both ends. -/
def isDouble (name : String) : Bool :=
  let chars := name.toList
  decide (4 < chars.length) && name.startsWith "__" && name.endsWith "__" &&
    chars[2]? != some '_' && chars.reverse[2]? != some '_'

/-- Whether a name has one underscore on both ends. -/
def isSingle (name : String) : Bool :=
  let chars := name.toList
  decide (2 < chars.length) && name.startsWith "_" && name.endsWith "_" &&
    chars[1]? != some '_' && chars.reverse[1]? != some '_'

end Underscored

end UtilityClass
