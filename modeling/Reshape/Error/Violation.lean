import Reshape.Conversion.Cast

/-!
# Violations

What can be wrong with the description of a type to synthesize.  Each rule that a descriptor breaks
is one of these; the rules themselves are in `Schema.Validation`.
-/

namespace Reshape

/-- A rule that a descriptor breaks. -/
inductive Violation where
  /-- A name is empty. -/
  | emptyName
  /-- A name has characters beyond ASCII. -/
  | foreignName (name : String)
  /-- A name is no identifier. -/
  | malformedName (name : String)
  /-- The type has no members. -/
  | noMembers
  /-- A member name is used again. -/
  | repeatedMember (name : String)
  /-- A field is visible to nobody. -/
  | invisibleField
  /-- Null stands for a member that may not be null. -/
  | nullDefault
  /-- A default is not a value of its member's type. -/
  | badDefault (value : Value) (type : ValueType) (cause : CastError)
  /-- A parameter name is given for a member that the constructor does not take. -/
  | unboundParameter (parameter : String)
  /-- The type name is longer than the limit. -/
  | longTypeName (limit : Nat)
  /-- A member name is longer than the limit. -/
  | longMemberName (limit : Nat)
  /-- There are more members than the limit. -/
  | tooManyMembers (count limit : Nat)
  /-- A member hides one of the base. -/
  | shadows (member : String) (owner : TypeId)
  /-- Two members share a constructor parameter. -/
  | repeatedParameter (parameter other : String)
deriving DecidableEq, Inhabited

end Reshape
