import Reshape.Expr.Lambda
import Reshape.Projection.NameMatch
import Reshape.Projection.ValueMap

/-!
# Configuring projections

How objects of a source type become objects of a target type: for each target member where its value
comes from, optionally through a value map, and whether the constructor or an assignment takes it;
and for constructor parameters without member, where their values come from.
-/

namespace Reshape

/-- A target member, by reference or by name. -/
inductive ProjectedMember where
  /-- A declared member. -/
  | declared (m : MemberRef)
  /-- A name that is looked up on the target. -/
  | name (name : String)
deriving DecidableEq, Inhabited

/-- The name of a projected member. -/
def ProjectedMember.text : ProjectedMember → String
  | declared m => m.name
  | name n => n

/-- Where a value comes from. -/
inductive Source where
  /-- A fixed value. -/
  | constant (value : Value)
  /-- An expression over the source object. -/
  | expression (e : Expr)
  /-- The one source member that matches the name. -/
  | inferred
  /-- A lambda on the source object. -/
  | lambda (l : Lambda)
  /-- A dotted path of members; after the first, null gives null. -/
  | path (path : String)
deriving Inhabited

/-- What takes the value of a member. -/
inductive Placement where
  /-- The constructor if it has a matching parameter, and an assignment otherwise. -/
  | auto
  /-- The constructor. -/
  | parameter
  /-- An assignment. -/
  | member
deriving DecidableEq, Repr, Inhabited

/-- What is configured for a target member. -/
structure MemberTarget where
  /-- The member. -/
  member : ProjectedMember
  /-- Where its value comes from. -/
  source : Source
  /-- What takes the value. -/
  placement : Placement
  /-- Replacements of source values. -/
  map? : Option ValueMap
  /-- The constructor parameter it is bound to, if one is named. -/
  parameter? : Option String
deriving Inhabited

namespace MemberTarget

/-- A member that everything is left open for. -/
def of (member : ProjectedMember) : MemberTarget :=
  ⟨member, .inferred, .auto, none, none⟩

/-- The name of the member. -/
def name (m : MemberTarget) : String :=
  m.member.text

/-- Bind the member to a constructor parameter. -/
def bindTo (m : MemberTarget) (parameter : String) : MemberTarget :=
  { m with parameter? := some parameter, placement := .parameter }

end MemberTarget

/-- A constructor parameter, by name or by place. -/
inductive ParameterSelector where
  /-- By name. -/
  | name (name : String)
  /-- By place. -/
  | position (place : Nat)
deriving DecidableEq, Repr, Inhabited

/-- A selected parameter as it is written. -/
def ParameterSelector.text : ParameterSelector → String
  | name n => named n
  | position place => "#" ++ count place

/-- What is configured for a constructor parameter that no member stands for. -/
structure ParameterTarget where
  /-- The parameter. -/
  parameter : ParameterSelector
  /-- Where its value comes from. -/
  source : Source
  /-- Replacements of source values. -/
  map? : Option ValueMap
deriving Inhabited

/-- The type of the objects that are made. -/
inductive TargetSpec where
  /-- A declared type. -/
  | declared (type : TypeId)
  /-- A record type of this name, synthesized from the configured members. -/
  | synthesized (name : String)
deriving DecidableEq, Repr, Inhabited

/-- How objects of one type become objects of another. -/
structure Configuration where
  /-- The source type. -/
  source : TypeId
  /-- The target type. -/
  target : TargetSpec
  /-- What is configured for target members. -/
  members : List MemberTarget
  /-- What is configured for constructor parameters. -/
  parameters : List ParameterTarget
  /-- The constructor, if one is chosen. -/
  constructor? : Option ConstructorRef
  /-- How names are compared, if that is chosen. -/
  strategy? : Option NameStrategy
deriving Inhabited

namespace Configuration

/-- A configuration for a source type.  The target is synthesized and named after the source. -/
def of (t : TypeTable) (source : TypeId) : Configuration :=
  ⟨source, .synthesized (t.name source ++ "Projection"), [], [], none, none⟩

/-- Configure a member; what was configured for its name before is dropped. -/
def addMember (c : Configuration) (m : MemberTarget) : Configuration :=
  { c with members := c.members.filter (·.name != m.name) ++ [m] }

/-- Configure a parameter; what was configured for it before is dropped. -/
def addParameter (c : Configuration) (p : ParameterTarget) : Configuration :=
  { c with parameters := c.parameters.filter (·.parameter != p.parameter) ++ [p] }

/-- The names that a configuration offers to constructors, for messages. -/
def offered (c : Configuration) : List String :=
  c.parameters.map (·.parameter.text) ++
    (c.members.filter (·.placement != .member)).map fun m => m.parameter?.getD m.name

end Configuration
end Reshape
