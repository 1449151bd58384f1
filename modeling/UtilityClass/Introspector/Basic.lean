import UtilityClass.Descriptor
import UtilityClass.Machinery
import UtilityClass.Outcome

/-!
# Introspectors

An introspector answers three questions about a class: what it is, how it is constructed, and what
becomes of constructing it without arguments. The verifier asks nothing else.
-/

namespace UtilityClass

/-- What answers questions about classes. -/
structure Introspector where
  describe : Handle → Act TypeDescriptor
  constructors : Handle → Act (List ConstructorDescriptor)
  invoke : Handle → Act Outcome

end UtilityClass
