import Reshape.Model.Table

/-!
# The conversion table

`classify` says by which rule a value of one type becomes a value of another.  Implicit rules lose
nothing and cannot fail; explicit rules add those that are checked when they run, and fail rather
than truncate.  Where no rule is found the conversion is refused.
-/

namespace Reshape

/-- Who asks for a conversion. -/
inductive ConversionKind where
  /-- The conversion is inserted. -/
  | implicit
  /-- The conversion is written out. -/
  | explicit
deriving DecidableEq, Repr, Inhabited

/-- Why a conversion is allowed. -/
inductive ConversionRule where
  /-- Anything becomes `any`. -/
  | box
  /-- An object of a base becomes one of a type that derives from it. -/
  | downcast
  /-- The types agree. -/
  | identity
  /-- A conversion of the types inside two nullables. -/
  | lift
  /-- A number becomes one of a type that holds fewer. -/
  | narrow
  /-- A nullable becomes what it wraps. -/
  | nullableUnwrap
  /-- A plain value becomes nullable. -/
  | nullableWrap
  /-- An integer becomes a floating-point number. -/
  | toFloat
  /-- Something typed `any` becomes what it is. -/
  | unbox
  /-- An object becomes one of a base. -/
  | upcast
  /-- A number becomes one of a type that holds more. -/
  | widen
deriving DecidableEq, Repr, Inhabited

namespace ConversionRule

/-- Whether a conversion by this rule can fail when it runs. -/
def isChecked : ConversionRule → Bool
  | downcast | narrow | nullableUnwrap | toFloat | unbox => true
  | _ => false

/-- The name of the rule. -/
def text : ConversionRule → String
  | box => "Box"
  | downcast => "Downcast"
  | identity => "Identity"
  | lift => "Lift"
  | narrow => "Narrow"
  | nullableUnwrap => "NullableUnwrap"
  | nullableWrap => "NullableWrap"
  | toFloat => "ToFloat"
  | unbox => "Unbox"
  | upcast => "Upcast"
  | widen => "Widen"

end ConversionRule

/-- Whether every number of the first type is one of the second, for distinct types. -/
def ValueType.widensTo : ValueType → ValueType → Bool
  | .int32, .int64 | .int32, .float64 => true
  | .uint32, .uint64 | .uint32, .int64 | .uint32, .float64 => true
  | .float32, .float64 => true
  | _, _ => false

namespace TypeTable

variable (t : TypeTable)

/-- The rule of an implicit conversion. -/
def implicitRule? (source : ValueType) : ValueType → Option ConversionRule
  | .any => if source = .any then some .identity else some .box
  | .nullable inner =>
    if source = .nullable inner then some .identity
    else
      match source with
      | .nullable content => (implicitRule? content inner).map fun _ => .lift
      | plain =>
        if plain.isPlain then (implicitRule? plain inner).map fun _ => .nullableWrap else none
  | .object base =>
    match source with
    | .object derived =>
      if derived = base then some .identity
      else if t.isSubtype derived base then some .upcast
      else none
    | _ => none
  | target =>
    if source = target then some .identity
    else if source.widensTo target then some .widen
    else none

/-- The rule of an explicit conversion from a type that is not nullable. -/
def explicitRuleFlat? (source : ValueType) (target : ValueType) : Option ConversionRule :=
  match t.implicitRule? source target with
  | some rule => some rule
  | none =>
    match source, target with
    | .any, _ => some .unbox
    | .object base, .object derived => if t.isSubtype derived base then some .downcast else none
    | .float64, .float32 => some .narrow
    | plain, .nullable inner =>
      if plain.isPlain then (explicitRuleFlat? plain inner).map fun _ => .nullableWrap else none
    | number, target =>
      if number.isInteger && target.isInteger then some .narrow
      else if number.isInteger && target.isFloat then some .toFloat
      else none

/-- The rule of an explicit conversion. -/
def explicitRule? : ValueType → ValueType → Option ConversionRule
  | .nullable content, target =>
    match t.implicitRule? (.nullable content) target with
    | some rule => some rule
    | none =>
      match target with
      | .nullable inner => (explicitRule? content inner).map fun _ => .lift
      | target => (explicitRule? content target).map fun _ => .nullableUnwrap
  | source, target => t.explicitRuleFlat? source target

/-- The rule by which a conversion is allowed, if it is. -/
def classify (source target : ValueType) : ConversionKind → Option ConversionRule
  | .implicit => t.implicitRule? source target
  | .explicit => t.explicitRule? source target

end TypeTable
end Reshape
