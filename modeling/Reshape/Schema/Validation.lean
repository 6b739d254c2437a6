import Reshape.Schema.Descriptor
import Reshape.Schema.ErrorTree

/-!
# Validation of descriptors

The rules that a descriptor has to keep before a type is made from it.  Rules that concern one node
(a type, a member, an attribute) are filed under the node's route; limits and rules across members
follow, filed under the type.  A descriptor is accepted when nothing was filed.
-/

namespace Reshape

/-- Limits on descriptors, and whether a name may be synthesized again with another signature. -/
structure SynthesisOptions where
  /-- Most bytes of a type or member name. -/
  maxNameLength : Nat
  /-- Most members. -/
  maxMembers : Nat
  /-- Whether a registered name may be given a new definition. -/
  allowResynthesis : Bool
deriving DecidableEq, Repr, Inhabited

/-- The limits that hold if none are given. -/
def SynthesisOptions.default : SynthesisOptions :=
  ⟨128, 256, true⟩

/-- The rule that a name breaks as an identifier, if it breaks one: it is not empty, is ASCII, and
has letters, digits and underscores only, the first no digit. -/
def nameViolation? (name : String) : Option Violation :=
  match name.toList with
  | [] => some .emptyName
  | first :: rest =>
    if (first :: rest).any (fun c => 128 ≤ c.toNat) then some (.foreignName name)
    else if (first.isAlpha || first == '_') && rest.all fun c => c.isAlphanum || c == '_' then none
    else some (.malformedName name)

/-- The names among several that were used before. -/
def repeatedNames : List String → List String → List String
  | _, [] => []
  | seen, name :: rest =>
    if seen.contains name then name :: repeatedNames seen rest
    else repeatedNames (name :: seen) rest

namespace TypeTable

variable (t : TypeTable)

/-! ## Rules of one node -/

/-- The rules that the constructor binding of a member breaks. -/
def bindingViolations (binding : ConstructorBinding) (parameter? : Option String)
    (type : ValueType) (nullable : Bool) : List Violation :=
  let ofDefault : Option Violation :=
    match binding.default? with
    | none => none
    | some v =>
      if v.isNull && !nullable then some .nullDefault
      else
        match t.cast type v with
        | .ok _ => none
        | .error cause => some (.badDefault v type cause)
  let ofParameter : Option Violation :=
    match parameter? with
    | none => none
    | some parameter =>
      if binding.isBound then nameViolation? parameter else some (.unboundParameter parameter)
  ofDefault.toList ++ ofParameter.toList

/-- The rules that a member breaks by itself. -/
def memberViolations (m : MemberDescriptor) : List Violation :=
  let visible :=
    match m with
    | .field f => if f.visibility.exists then [] else [Violation.invisibleField]
    | .property _ => []
  let nullable :=
    match m with
    | .field f => f.nullable
    | .property p => p.nullable
  (nameViolation? m.name).toList ++ visible ++
    t.bindingViolations m.binding m.parameter? m.type nullable

/-- The rules that an attribute breaks by itself. -/
def attributeViolations (a : Attribute) : List Violation :=
  (nameViolation? a.name).toList ++ a.named.filterMap fun (name, _) => nameViolation? name

/-- The rules that a type breaks by itself. -/
def ownViolations (d : Descriptor) : List Violation :=
  (nameViolation? d.name).toList ++
    (if d.members.isEmpty then [.noMembers] else []) ++
    (repeatedNames [] (d.members.map (·.name))).map .repeatedMember ++
    d.interfaces.filterMap nameViolation?

/-- The route of a node below a type; a node without name has the route of the type. -/
def nodeRoute (type node : String) : String :=
  ".".intercalate ([type, node].filter (!·.isEmpty))

/-- The rules that each node breaks, with the route of the node. -/
def nodeViolations (d : Descriptor) : List (String × List Violation) :=
  (d.name, ownViolations d) ::
    (d.members.map fun m => (nodeRoute d.name m.name, t.memberViolations m)) ++
    (d.attributes.map fun a => (nodeRoute d.name ("@" ++ a.name), attributeViolations a))

/-! ## Rules across nodes -/

/-- A broken rule, and the member that breaks it, if it is not the type as a whole. -/
abbrev Filed := Option String × Violation

/-- The names and counts that exceed the limits. -/
def limitViolations (o : SynthesisOptions) (d : Descriptor) : List Filed :=
  let long (name : String) : Bool := o.maxNameLength < name.utf8ByteSize
  (if long d.name then [(none, .longTypeName o.maxNameLength)] else []) ++
    ((d.members.filter fun m => long m.name).map fun m =>
      (some m.name, .longMemberName o.maxNameLength)) ++
    (if o.maxMembers < d.members.length then
      [(none, .tooManyMembers d.members.length o.maxMembers)]
    else [])

/-- The members that hide one of the base. -/
def shadowViolations (d : Descriptor) : List Filed :=
  match d.base? with
  | none => []
  | some base =>
    d.members.filterMap fun m =>
      (t.findMember? base m.name).map fun hidden =>
        (some m.name, .shadows hidden.name hidden.owner)

/-- The constructor parameters whose name another member has taken, with the last to take it. -/
def parameterViolations : List (String × String) → List ConstructorParameter → List Filed
  | _, [] => []
  | taken, p :: rest =>
    let others := parameterViolations ((p.name, p.member) :: taken) rest
    match taken.find? (·.1 == p.name) with
    | some (_, other) => (some p.member, .repeatedParameter p.name other) :: others
    | none => others

/-- The rules across nodes that a descriptor breaks. -/
def crossViolations (o : SynthesisOptions) (d : Descriptor) : List Filed :=
  limitViolations o d ++ t.shadowViolations d ++ parameterViolations [] (d.parameters t)

/-! ## The whole -/

/-- The rules that one node breaks, as a tree of their own. -/
def nodeTree (violations : List Violation) : ErrorTree Violation :=
  violations.foldl (fun tree v => tree.add v) .empty

/-- The rules across nodes, filed under the members that break them. -/
def crossTree (violations : List Filed) : ErrorTree Violation :=
  violations.foldl
    (fun tree (member?, v) =>
      match member? with
      | some member => tree.addAt member v
      | none => tree.add v)
    .empty

/-- Everything that is wrong with a descriptor, filed by route. -/
def violations (o : SynthesisOptions) (d : Descriptor) : ErrorTree Violation :=
  let nodes : ErrorTree Violation := (t.nodeViolations d).foldl
    (fun tree (route, vs) => if vs.isEmpty then tree else ErrorTree.mergeAt route (nodeTree vs) tree)
    .empty
  ErrorTree.mergeAt d.name (crossTree (t.crossViolations o d)) nodes

/-- Accept a descriptor, or say what is wrong with it. -/
def validate (o : SynthesisOptions) (d : Descriptor) : Except Error Unit :=
  match (t.violations o d).result with
  | .ok _ => .ok ()
  | .error tree => .error (.invalidDescriptor d.name tree.flatten)

end TypeTable
end Reshape
