import Reshape.Text.Camel

/-!
# Matching names

Binding a projection compares names: constructor parameters with target members and with source
members, and target members with source members.  A strategy says when two names mean the same thing
in each of the three cases.
-/

namespace Reshape

/-- When two names mean the same thing. -/
structure NameStrategy where
  /-- What the strategy is called. -/
  name : String
  /-- Whether a constructor parameter initialises a target member. -/
  parameterMatchesMember : String → String → Bool
  /-- Whether a constructor parameter can be fed from a source member. -/
  parameterMatchesSource : String → String → Bool
  /-- Whether a target member takes its value from a source member. -/
  memberMatchesSource : String → String → Bool

/-- Names mean the same if they are equal or have the same camel-case form. -/
def sameInCamelCase (a b : String) : Bool :=
  a == b || Text.camel a == Text.camel b

namespace NameStrategy

/-- Names are compared in camel case. -/
def camelCase : NameStrategy where
  name := "CamelCaseMatchStrategy"
  parameterMatchesMember := sameInCamelCase
  parameterMatchesSource := sameInCamelCase
  memberMatchesSource := sameInCamelCase

/-- Names are compared as they are. -/
def exact : NameStrategy where
  name := "ExactMatchStrategy"
  parameterMatchesMember := (· == ·)
  parameterMatchesSource := (· == ·)
  memberMatchesSource := (· == ·)

instance : Inhabited NameStrategy := ⟨camelCase⟩

end NameStrategy
end Reshape
