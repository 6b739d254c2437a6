import Reshape.Store.Rendering

/-!
# Wording of errors

The one place where causes become sentences.  Values are worded as they stand in the world when the
error is reported.
-/

namespace Reshape

/-- A name between single quotes. -/
def named (name : String) : String :=
  "'" ++ name ++ "'"

/-- A natural number as it is written. -/
def count (n : Nat) : String :=
  Number.digitText n

namespace World

variable (w : World)

/-- The wording of a failed conversion. -/
def castMessage : CastError → String
  | .null target => "cannot convert null to " ++ w.types.typeText target
  | .notInstance actual expected =>
    "object of type " ++ named (w.types.name actual) ++ " is not a " ++ named (w.types.name expected)
  | .lossy value target =>
    w.valueText value ++ " does not fit in " ++ w.types.typeText target ++ " without loss"
  | .unrelated label target => "cannot convert " ++ label ++ " to " ++ w.types.typeText target

/-- The wording of a literal that does not fit. -/
def constantMessage (value : Value) (target : ValueType) (cause : CastError) : String :=
  "constant " ++ w.valueText value ++ " is not assignable to " ++ w.types.typeText target ++ ": " ++
    w.castMessage cause

/-- The wording of a broken rule. -/
def violationMessage : Violation → String
  | .emptyName => "identifier is empty"
  | .foreignName name => "identifier " ++ named name ++ " must be ASCII"
  | .malformedName name => "identifier " ++ named name ++ " is not a valid identifier"
  | .noMembers => "type declares no members"
  | .repeatedMember name => "duplicate member name " ++ named name
  | .invisibleField => "field visibility cannot be None"
  | .nullDefault => "null default on a member that is not nullable"
  | .badDefault value type cause =>
    "default value is not assignable: " ++ w.constantMessage value type cause
  | .unboundParameter parameter =>
    "ctor parameter " ++ named parameter ++ " set on a member that is not constructor-bound"
  | .longTypeName limit => "type name exceeds max length " ++ count limit
  | .longMemberName limit => "member name exceeds max length " ++ count limit
  | .tooManyMembers n limit =>
    "type declares " ++ count n ++ " members, more than the limit of " ++ count limit
  | .shadows member owner =>
    "shadows member " ++ named member ++ " of base type " ++ named (w.types.name owner)
  | .repeatedParameter parameter other =>
    "ctor parameter " ++ named parameter ++ " is already bound to member " ++ named other

/-- The name of a data member with its type. -/
def memberPath (owner : TypeId) (member : String) : String :=
  w.types.name owner ++ "." ++ member

/-- The name of a method with its type. -/
def methodPath (owner : TypeId) (method : String) : String :=
  w.types.name owner ++ "::" ++ method

/-- A member of any kind as messages name it. -/
def subjectText : Subject → String
  | .data owner name => w.memberPath owner name
  | .method owner name => w.methodPath owner name
  | .constructor owner c => w.constructorText owner c

/-- What was being done, in words. -/
def contextText : ErrorContext → String
  | .argument parameter callee => "argument " ++ named parameter ++ " of " ++ named callee
  | .mapKey key => "value map key " ++ w.valueText key
  | .member name => "member " ++ named name
  | .parameter name => "parameter " ++ named name

/-- The wording of a rejected binding. -/
def rejectionMessage : Rejection → String
  | .noFreeParameter parameter => "no free parameter for parameter " ++ parameter
  | .missingParameter member parameter =>
    "member " ++ named member ++ " is bound to missing parameter " ++ named parameter
  | .noMatchingParameter member =>
    "no parameter matches constructor-bound member " ++ named member

/-- A route and a message on one line; a message at the root has no route. -/
def routeLine (route message : String) : String :=
  if route.isEmpty then message else route ++ ": " ++ message

/-- The wording of a refused conversion. -/
def notConvertibleMessage (source target : ValueType) (kind : ConversionKind) : String :=
  let how := match kind with
    | .implicit => "implicitly"
    | .explicit => "explicitly"
  w.types.typeText source ++ " cannot be converted " ++ how ++ " to " ++ w.types.typeText target

/-- The wording of an error. -/
def message : Error → String
  | .cast cause => w.castMessage cause
  | .badConstant value target cause => w.constantMessage value target cause
  | .inContext context cause => w.contextText context ++ ": " ++ message cause
  | .native _ _ text => text
  | .unnamedType => "type name is empty"
  | .unnamedMember type => "type " ++ named type ++ " has an unnamed member"
  | .repeatedMember type member =>
    "type " ++ named type ++ " declares member " ++ named member ++ " more than once"
  | .repeatedParameter type parameter =>
    "constructor of " ++ named type ++ " declares parameter " ++ named parameter ++
      " more than once"
  | .badDefault value parameter type =>
    "default " ++ w.valueText value ++ " of parameter " ++ named parameter ++ " is not a " ++
      w.types.typeText type
  | .missingParameter type index =>
    "constructor of " ++ named type ++ " assigns missing parameter #" ++ count index
  | .noInstanceSlot type member =>
    "constructor of " ++ named type ++ " assigns " ++ named member ++
      ", which has no instance slot"
  | .badInitialiser parameter source member target =>
    "constructor parameter " ++ named parameter ++ " (" ++ w.types.typeText source ++
      ") cannot initialise " ++ named member ++ " (" ++ w.types.typeText target ++ ")"
  | .slotOutOfRange slot type =>
    "slot " ++ count slot ++ " out of range on " ++ named (w.types.name type)
  | .staticSlotOutOfRange slot type =>
    "static slot " ++ count slot ++ " out of range on " ++ named (w.types.name type)
  | .noMember type member =>
    "type " ++ named (w.types.name type) ++ " has no member " ++ named member
  | .nullInstance member => "null reference while accessing instance member " ++ named member
  | .setterArity member given =>
    "setter " ++ named member ++ " expects exactly one argument, got " ++ count given
  | .constructorArity owner c given =>
    "constructor " ++ w.constructorText owner c ++ " called with " ++ count given ++ " arguments"
  | .unreadableProperty property => "property " ++ named property ++ " has no getter"
  | .notConvertible source target kind => w.notConvertibleMessage source target kind
  | .undefinedOperator op lhs rhs =>
    "operator " ++ named op.text ++ " is not defined for " ++ w.types.typeText lhs ++ " and " ++
      w.types.typeText rhs
  | .notBool what found => what ++ " must be bool, found " ++ w.types.typeText found
  | .noCommonType thenType otherwiseType =>
    "conditional branches " ++ w.types.typeText thenType ++ " and " ++
      w.types.typeText otherwiseType ++ " have no common type"
  | .emptySequence => "empty sequence"
  | .notIndexable found => "cannot index into " ++ w.types.typeText found
  | .writeOnce owner field =>
    "field " ++ w.memberPath owner field ++ " is write-once and cannot be assigned directly"
  | .staticThroughInstance member =>
    "static member " ++ named member ++ " cannot be accessed through an instance"
  | .instanceRequired member => "instance member " ++ named member ++ " requires an instance"
  | .declaredElsewhere member owner source =>
    named member ++ " is declared on " ++ named (w.types.name owner) ++ ": " ++
      w.notConvertibleMessage source (.object owner) .implicit
  | .staticNavigation owner member =>
    "cannot navigate to static member " ++ w.memberPath owner member
  | .unreadableNavigation owner member =>
    "member " ++ w.memberPath owner member ++ " has no getter"
  | .notAnObject found =>
    "member initialisation needs an object, found " ++ w.types.typeText found
  | .notSetter owner method => w.methodPath owner method ++ " is not a setter"
  | .foreignMember member type =>
    named member ++ " is not a member of " ++ named (w.types.name type)
  | .argumentCount callee required most given =>
    named callee ++ " takes " ++ count required ++ "..=" ++ count most ++ " arguments, " ++
      count given ++ " given"
  | .parameterMismatch name declared referenced =>
    "parameter " ++ named name ++ " is declared " ++ w.types.typeText declared ++
      " but referenced as " ++ w.types.typeText referenced
  | .undeclaredParameter index => "parameter #" ++ count index ++ " is not declared"
  | .unboundLocal id => "local $" ++ count id ++ " is read outside its binding"
  | .lambdaArity takes given =>
    "lambda takes " ++ count takes ++ " arguments, " ++ count given ++ " given"
  | .noArgument index => "no argument supplied for parameter #" ++ count index
  | .invocationArity takes given =>
    "compiled lambda takes " ++ count takes ++ " arguments, " ++ count given ++ " given"
  | .wrongArgument index label type =>
    "argument #" ++ count index ++ " (" ++ label ++ ") is not a " ++ w.types.typeText type
  | .arithmetic op lhs rhs =>
    w.valueText lhs ++ " " ++ op.text ++ " " ++ w.valueText rhs ++ " overflows or divides by zero"
  | .operandKinds op lhs rhs =>
    "operator " ++ named op.text ++ " applied to " ++ lhs ++ " and " ++ rhs
  | .notShortCircuited op =>
    "logical operator " ++ named op.text ++ " must be short-circuited by the caller"
  | .noElement label index => "argument list " ++ label ++ " has no element #" ++ count index
  | .initialisedNothing => "member initialisation produced no object"
  | .unreadableFrom member label => "cannot read " ++ named member ++ " from " ++ label
  | .parameterMissing index => "parameter #" ++ count index ++ " missing"
  | .expectedBool label => "expected bool, found " ++ label
  | .nullReceiver member => "null reference while accessing " ++ named member
  | .badReceiver member label => "cannot access " ++ named member ++ " on " ++ label
  | .staticRequestedAsInstance member =>
    w.subjectText member ++ " is static but an instance accessor was requested"
  | .instanceRequestedAsStatic member =>
    w.subjectText member ++ " is an instance member but a static accessor was requested"
  | .noGetter owner member => w.memberPath owner member ++ " has no getter"
  | .noSetter owner member => w.memberPath owner member ++ " has no settable accessor"
  | .boundaryArity callee takes given =>
    named callee ++ " takes " ++ count takes ++ " parameters, " ++ count given ++
      " parameter types requested"
  | .invalidDescriptor type violations =>
    let lines := violations.map fun (route, v) => routeLine route (w.violationMessage v)
    "type " ++ named type ++ " failed validation:\n" ++ joined "\n" lines
  | .resynthesisDisabled type fingerprint =>
    "type " ++ named type ++ " is already synthesized with signature " ++ Text.paddedHex 16 fingerprint.toNat ++
      " and re-synthesis is disabled"
  | .sourceArity takes =>
    "source lambda must take the source object only, it takes " ++ count takes ++ " parameters"
  | .pathBeyondObjects segment path found =>
    named segment ++ " in path " ++ named path ++ " is read from " ++ w.types.typeText found ++
      ", which has no members"
  | .pathNotFound segment path type =>
    named segment ++ " in path " ++ named path ++ " is not a member of " ++ w.types.name type
  | .noMatchingSource source name =>
    "no member of " ++ w.types.name source ++ " matches " ++ named name
  | .severalSources name source candidates =>
    named name ++ " matches several members of " ++ w.types.name source ++ ": " ++
      joined ", " candidates
  | .foreignTargetMember owner member target =>
    w.memberPath owner member ++ " is not a member of " ++ w.types.name target
  | .noTargetMember target member => w.types.name target ++ " has no member " ++ named member
  | .staticTargetMember owner member =>
    "static member " ++ w.memberPath owner member ++ " cannot be projected"
  | .explicitBindings target =>
    "synthesized target " ++ named target ++ " cannot honour explicit constructor bindings"
  | .declaredMember owner member target =>
    w.memberPath owner member ++ " cannot be a member of synthesized target " ++ named target
  | .foreignConstructor c owner target =>
    "constructor " ++ w.signatureText c ++ " belongs to " ++ w.types.name owner ++ ", not " ++
      w.types.name target
  | .ambiguousConstructors first second target offered =>
    "constructors " ++ w.signatureText first ++ " and " ++ w.signatureText second ++ " of " ++
      w.types.name target ++ " are equally good for [" ++ joined ", " offered ++ "]"
  | .noConstructor target offered tried =>
    "no constructor of " ++ w.types.name target ++ " accepts [" ++ joined ", " offered ++
      "]; tried " ++ joined ", " (tried.map w.signatureText)
  | .unboundParameters parameters owner c =>
    "required parameter " ++ joined ", " (parameters.map named) ++ " of " ++
      w.constructorText owner c ++ " has no source and no default"
  | .rejected owner c reason => w.constructorText owner c ++ ": " ++ rejectionMessage reason
  | .unassignable member owner c =>
    "member " ++ named member ++ " of " ++ w.types.name owner ++ " has no setter and " ++
      w.signatureText c ++ " takes no parameter for it"
  | .unknownColumn column target known =>
    named column ++ " is not a projected member of " ++ w.types.name target ++ "; projected: " ++
      joined ", " known
  | .repeatedColumn column position =>
    "column " ++ named column ++ " is listed more than once (position " ++ count position ++ ")"

/-- An error as it is reported. -/
def report (e : Error) : Report :=
  ⟨e.errorClass, e.origin, w.message e⟩

end World
end Reshape
