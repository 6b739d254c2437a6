import Reshape.Error.Message
import Reshape.Schema.Descriptor
import Reshape.Text.Fingerprint

/-!
# Signatures

What decides whether a name is synthesized again: the members of a descriptor with their kinds and
types, and its base.
-/

namespace Reshape

/-- A member as a signature has it. -/
structure SignatureMember where
  /-- What the member is. -/
  kind : MemberKind
  /-- Name. -/
  name : String
  /-- Type. -/
  type : ValueType
deriving DecidableEq, Inhabited

/-- The name, base and members of a descriptor. -/
structure Signature where
  /-- Name. -/
  name : String
  /-- The base. -/
  base? : Option TypeId
  /-- Members, in order. -/
  members : List SignatureMember
deriving DecidableEq, Inhabited

/-- The signature of a descriptor. -/
def Descriptor.signature (d : Descriptor) : Signature where
  name := d.name
  base? := d.base?
  members := d.members.map fun m => ⟨m.kind, m.name, m.type⟩

namespace TypeTable

variable (t : TypeTable)

/-- A member of a signature as it is written. -/
def signatureMemberText (m : SignatureMember) : String :=
  m.kind.text ++ " " ++ m.name ++ ": " ++ t.typeText m.type

/-- A signature as it is written, given how the handle of a base is. -/
def signatureTextWith (handle : TypeId → String) (s : Signature) : String :=
  let base := match s.base? with
    | some base => " : " ++ t.name base ++ "#" ++ handle base
    | none => ""
  let members := joined "; " (s.members.map t.signatureMemberText)
  s.name ++ base ++ " \x7b" ++ (if s.members.isEmpty then "" else " " ++ members) ++ " \x7d"

/-- A signature as it is written. -/
def signatureText (s : Signature) : String :=
  t.signatureTextWith count s

/-- The fingerprint of a signature. -/
def fingerprint (s : Signature) : UInt64 :=
  Text.fingerprint (t.signatureText s)

end TypeTable
end Reshape
