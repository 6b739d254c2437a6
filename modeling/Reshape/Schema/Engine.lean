import Reshape.Schema.Signature
import Reshape.Schema.Validation

/-!
# The synthesis engine

The engine makes types from descriptors.  It keeps the latest definition of each name with its
signature: a descriptor with the signature of the registered definition yields that definition, and
another one yields a new definition, if that is allowed.  Every definition ever made stays in the
module, which only grows.
-/

namespace Reshape

/-- A parameter of the synthesized constructor as the type model has it. -/
def ConstructorParameter.toParameter (p : ConstructorParameter) : Parameter :=
  ⟨p.name, p.type, p.default?⟩

namespace Descriptor

/-- The steps of the synthesized constructor: each member that it takes is assigned its parameter,
in order of declaration. -/
def steps (d : Descriptor) (parameters : List ConstructorParameter) : List (Nat × String) :=
  d.members.filterMap fun m =>
    (parameters.findIdx? (·.member == m.name)).map fun place => (place, m.name)

/-- The constructors of the synthesized type: one that takes nothing, and one that takes the members
that are bound, if there are any. -/
def constructors (t : TypeTable) (d : Descriptor) : List ConstructorSpec :=
  let parameters := d.parameters t
  if parameters.isEmpty then [.parameterless]
  else
    [.parameterless,
      ⟨parameters.map (·.toParameter), .open, .assign (d.steps parameters)⟩]

/-- The declaration of the synthesized type: one slot for each member, and slot accessors for each
property. -/
def declaration (t : TypeTable) (d : Descriptor) : Declaration where
  name := d.name
  origin := .synthesized
  base? := d.base?
  interfaces := d.interfaces
  attributes := d.attributes
  fields := d.fields.map fun f =>
    ⟨f.name, effectiveType f.type f.nullable, f.visibility, false, f.initOnly⟩
  properties := d.properties.map fun p =>
    ⟨p.name, effectiveType p.type p.nullable, p.get, p.set, false, .slot⟩
  methods := []
  constructors := d.constructors t

end Descriptor

/-- The latest definition of a name. -/
structure Registration where
  /-- Its signature. -/
  signature : Signature
  /-- Its handle. -/
  handle : TypeId
deriving DecidableEq, Inhabited

/-- The synthesis engine. -/
structure Engine where
  /-- Limits and permissions. -/
  options : SynthesisOptions
  /-- The latest definition of each name. -/
  registry : List (String × Registration)
  /-- Every definition made, in order. -/
  definitions : List TypeId
deriving DecidableEq, Inhabited

namespace Engine

/-- An engine that has made nothing. -/
def new (options : SynthesisOptions) : Engine := ⟨options, [], []⟩

/-- What is registered under a name. -/
def registered? (e : Engine) (name : String) : Option Registration :=
  (e.registry.find? (·.1 == name)).map (·.2)

/-- The latest definition of a name. -/
def lookup? (e : Engine) (name : String) : Option TypeId :=
  (e.registered? name).map (·.handle)

/-- The signature of the latest definition of a name. -/
def signature? (e : Engine) (name : String) : Option Signature :=
  (e.registered? name).map (·.signature)

/-- Record a definition as the latest of a name. -/
def register (e : Engine) (name : String) (r : Registration) : Engine :=
  { e with
    registry := (name, r) :: e.registry.filter (·.1 != name)
    definitions := e.definitions ++ [r.handle] }

/-- Make a new definition from a descriptor and register it. -/
def emit (e : Engine) (t : TypeTable) (d : Descriptor) :
    Except Error (TypeTable × Engine × TypeId) := do
  let (t, id) ← t.declare (d.declaration t)
  pure (t, e.register d.name ⟨d.signature, id⟩, id)

/-- The type of a descriptor: the registered one of its name if the signatures agree, and otherwise
a new definition. -/
def synthesize (e : Engine) (t : TypeTable) (d : Descriptor) :
    Except Error (TypeTable × Engine × TypeId) := do
  t.validate e.options d
  match e.registered? d.name with
  | some previous =>
    if previous.signature = d.signature then pure (t, e, previous.handle)
    else if e.options.allowResynthesis then e.emit t d
    else throw (.resynthesisDisabled d.name (t.fingerprint previous.signature))
  | none => e.emit t d

end Engine
end Reshape
