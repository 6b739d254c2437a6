import Reshape.Conversion.Rule
import Reshape.Error.Violation
import Reshape.Expr.Operator
import Reshape.Model.Member

/-!
# Errors

Everything that can go wrong while types are declared, expressions are built and run, accessors are
made and projections are compiled.  An error is a cause, with the things it is about; its wording is
in `Error.Message`.  Callers match on the class, and the origin says which part of the library
complains.
-/

namespace Reshape

/-- What kind of failure an error is; the part that callers match on. -/
inductive ErrorClass where
  /-- No constructor, or more than one, fits. -/
  | constructorResolutionFailed
  /-- A type description is malformed. -/
  | descriptorInvalid
  /-- Types do not fit together. -/
  | incompatibleType
  /-- Something happened that checked construction rules out. -/
  | internal
  /-- A value is not of the type it has to be of. -/
  | invalidCast
  /-- An operation is not allowed here. -/
  | invalidOperation
  /-- A member cannot be located. -/
  | memberResolutionFailed
  /-- A required parameter has neither source nor default. -/
  | unboundRequiredParameter
deriving DecidableEq, Repr, Inhabited

/-- The name of an error class. -/
def ErrorClass.text : ErrorClass → String
  | .constructorResolutionFailed => "ConstructorResolutionFailed"
  | .descriptorInvalid => "DescriptorInvalid"
  | .incompatibleType => "IncompatibleType"
  | .internal => "Internal"
  | .invalidCast => "InvalidCast"
  | .invalidOperation => "InvalidOperation"
  | .memberResolutionFailed => "MemberResolutionFailed"
  | .unboundRequiredParameter => "UnboundRequiredParameter"

/-- Which part of the library complains. -/
inductive ErrorOrigin where
  /-- Accessor synthesis. -/
  | accessor
  /-- Settings. -/
  | config
  /-- Expressions. -/
  | expression
  /-- Type models and objects. -/
  | model
  /-- Projections. -/
  | projection
  /-- Queries. -/
  | query
  /-- Descriptors. -/
  | schema
  /-- Type synthesis. -/
  | synthesis
deriving DecidableEq, Repr, Inhabited

/-- The name of an error origin. -/
def ErrorOrigin.text : ErrorOrigin → String
  | .accessor => "Accessor"
  | .config => "Config"
  | .expression => "Ir"
  | .model => "Model"
  | .projection => "Projection"
  | .query => "Query"
  | .schema => "Schema"
  | .synthesis => "Synthesis"

/-- The number of a local binding in an expression. -/
abbrev LocalId := Nat

/-- What was being done when an error arose. -/
inductive ErrorContext where
  /-- Converting an argument. -/
  | argument (parameter callee : String)
  /-- Converting a key of a value map. -/
  | mapKey (key : Value)
  /-- Binding a projected member. -/
  | member (name : String)
  /-- Binding a constructor parameter. -/
  | parameter (name : String)
deriving DecidableEq, Inhabited

/-- Why a constructor cannot take a configured binding. -/
inductive Rejection where
  /-- An explicit parameter target has no free parameter; the text names the parameter. -/
  | noFreeParameter (parameter : String)
  /-- A member is bound to a parameter that is missing or taken. -/
  | missingParameter (member parameter : String)
  /-- No parameter matches a member that must be constructed. -/
  | noMatchingParameter (member : String)
deriving DecidableEq, Repr, Inhabited

/-- A member of any kind, as messages name it. -/
inductive Subject where
  /-- A field or property. -/
  | data (owner : TypeId) (name : String)
  /-- A method. -/
  | method (owner : TypeId) (name : String)
  /-- A constructor. -/
  | constructor (owner : TypeId) (constructor : Constructor)
deriving DecidableEq, Inhabited

/-- A cause of failure. -/
inductive Error where
  /-- A value is not converted when code runs. -/
  | cast (cause : CastError)
  /-- A literal is not a value of a type. -/
  | badConstant (value : Value) (target : ValueType) (cause : CastError)
  /-- A cause, and what was being done. -/
  | inContext (context : ErrorContext) (cause : Error)
  /-- A body that the program supplies fails. -/
  | native (errorClass : ErrorClass) (origin : ErrorOrigin) (message : String)
  -- declaring types
  /-- A type has no name. -/
  | unnamedType
  /-- A member has no name. -/
  | unnamedMember (type : String)
  /-- A member name is used again. -/
  | repeatedMember (type member : String)
  /-- A parameter name is used again. -/
  | repeatedParameter (type parameter : String)
  /-- A default is not a value of the parameter's type. -/
  | badDefault (value : Value) (parameter : String) (type : ValueType)
  /-- A constructor step names a parameter that is not there. -/
  | missingParameter (type : String) (index : Nat)
  /-- A constructor step names a member without instance slot. -/
  | noInstanceSlot (type member : String)
  /-- A constructor parameter does not convert to the member it initialises. -/
  | badInitialiser (parameter : String) (source : ValueType) (member : String) (target : ValueType)
  -- objects and members
  /-- An object has no such slot. -/
  | slotOutOfRange (slot : Nat) (type : TypeId)
  /-- A type has no such static slot. -/
  | staticSlotOutOfRange (slot : Nat) (type : TypeId)
  /-- A type has no member of the name. -/
  | noMember (type : TypeId) (member : String)
  /-- An instance member is used without instance. -/
  | nullInstance (member : String)
  /-- A generated setter is not given one argument. -/
  | setterArity (member : String) (given : Nat)
  /-- A constructor is not given an argument for each parameter. -/
  | constructorArity (owner : TypeId) (constructor : Constructor) (given : Nat)
  /-- A property is read that has no getter. -/
  | unreadableProperty (property : String)
  -- building expressions
  /-- No rule converts one type to the other. -/
  | notConvertible (source target : ValueType) (kind : ConversionKind)
  /-- An operator is not defined on two types. -/
  | undefinedOperator (op : Operator) (lhs rhs : ValueType)
  /-- Something other than a truth value stands where one must. -/
  | notBool (what : String) (found : ValueType)
  /-- Two branches have no common type. -/
  | noCommonType (thenType otherwiseType : ValueType)
  /-- A sequence is empty. -/
  | emptySequence
  /-- Something other than a list is indexed. -/
  | notIndexable (found : ValueType)
  /-- A write-once field is assigned directly. -/
  | writeOnce (owner : TypeId) (field : String)
  /-- A static member is used through an instance. -/
  | staticThroughInstance (member : String)
  /-- An instance member is used without instance. -/
  | instanceRequired (member : String)
  /-- The instance is not of the declaring type; the two types cannot be converted. -/
  | declaredElsewhere (member : String) (owner : TypeId) (source : ValueType)
  /-- A static member is navigated to. -/
  | staticNavigation (owner : TypeId) (member : String)
  /-- A member without getter is navigated to. -/
  | unreadableNavigation (owner : TypeId) (member : String)
  /-- Members are initialised on something other than an object. -/
  | notAnObject (found : ValueType)
  /-- A method that does not take one parameter is used as a setter. -/
  | notSetter (owner : TypeId) (method : String)
  /-- A member is initialised that the object does not have. -/
  | foreignMember (member : String) (type : TypeId)
  /-- A callee is not given a fitting number of arguments. -/
  | argumentCount (callee : String) (required most given : Nat)
  /-- A parameter is referenced at another type than it is declared with. -/
  | parameterMismatch (name : String) (declared referenced : ValueType)
  /-- A parameter is referenced that is not declared. -/
  | undeclaredParameter (index : Nat)
  /-- A local is read outside its binding. -/
  | unboundLocal (id : LocalId)
  /-- A lambda is applied to a wrong number of arguments. -/
  | lambdaArity (takes given : Nat)
  /-- Substitution has no argument for a parameter. -/
  | noArgument (index : Nat)
  -- running expressions
  /-- Compiled code is run on a wrong number of arguments. -/
  | invocationArity (takes given : Nat)
  /-- An argument does not belong to its parameter's type. -/
  | wrongArgument (index : Nat) (label : String) (type : ValueType)
  /-- The operands of arithmetic have no result in their type. -/
  | arithmetic (op : Operator) (lhs rhs : Value)
  /-- An operator meets operands of the wrong kinds. -/
  | operandKinds (op : Operator) (lhs rhs : String)
  /-- A logical operator is applied to values. -/
  | notShortCircuited (op : Operator)
  /-- A list has no element of the number. -/
  | noElement (label : String) (index : Nat)
  /-- Members are initialised on something that is no object. -/
  | initialisedNothing
  /-- A member is read from something that is no object. -/
  | unreadableFrom (member label : String)
  /-- A parameter has no value. -/
  | parameterMissing (index : Nat)
  /-- A condition yields no truth value. -/
  | expectedBool (label : String)
  /-- The receiver of a member is null. -/
  | nullReceiver (member : String)
  /-- The receiver of a member is no object. -/
  | badReceiver (member label : String)
  -- accessors
  /-- An instance accessor is requested for a static member. -/
  | staticRequestedAsInstance (member : Subject)
  /-- A static accessor is requested for an instance member. -/
  | instanceRequestedAsStatic (member : Subject)
  /-- A getter is requested for a member without one. -/
  | noGetter (owner : TypeId) (member : String)
  /-- A setter is requested for a property without one. -/
  | noSetter (owner : TypeId) (member : String)
  /-- Parameter types are requested in a wrong number. -/
  | boundaryArity (callee : String) (takes given : Nat)
  -- synthesis
  /-- A descriptor breaks rules; each with the route it is filed under. -/
  | invalidDescriptor (type : String) (violations : List (String × Violation))
  /-- A type of the name exists with another signature, and may not be replaced. -/
  | resynthesisDisabled (type : String) (fingerprint : UInt64)
  -- projections
  /-- A source lambda does not take exactly one parameter. -/
  | sourceArity (takes : Nat)
  /-- A path goes on where there are no members. -/
  | pathBeyondObjects (segment path : String) (found : ValueType)
  /-- A path names a member that is not there. -/
  | pathNotFound (segment path : String) (type : TypeId)
  /-- No source member matches a name. -/
  | noMatchingSource (source : TypeId) (name : String)
  /-- Several source members match a name. -/
  | severalSources (name : String) (source : TypeId) (candidates : List String)
  /-- A configured member is of another type. -/
  | foreignTargetMember (owner : TypeId) (member : String) (target : TypeId)
  /-- The target has no member of the name. -/
  | noTargetMember (target : TypeId) (member : String)
  /-- A static member is projected. -/
  | staticTargetMember (owner : TypeId) (member : String)
  /-- A synthesized target is to honour explicit constructor bindings. -/
  | explicitBindings (target : String)
  /-- A synthesized target is to have a declared member. -/
  | declaredMember (owner : TypeId) (member target : String)
  /-- The configured constructor makes another type. -/
  | foreignConstructor (constructor : Constructor) (owner target : TypeId)
  /-- Two constructors fit equally well. -/
  | ambiguousConstructors (first second : Constructor) (target : TypeId) (offered : List String)
  /-- No constructor fits. -/
  | noConstructor (target : TypeId) (offered : List String) (tried : List Constructor)
  /-- Required parameters have no source. -/
  | unboundParameters (parameters : List String) (owner : TypeId) (constructor : Constructor)
  /-- The only constructor cannot take a binding. -/
  | rejected (owner : TypeId) (constructor : Constructor) (reason : Rejection)
  /-- A member can only be set by a constructor that does not take it. -/
  | unassignable (member : String) (owner : TypeId) (constructor : Constructor)
  /-- A column is not projected. -/
  | unknownColumn (column : String) (target : TypeId) (known : List String)
  /-- A column is listed twice. -/
  | repeatedColumn (column : String) (position : Nat)
deriving Inhabited

namespace Error

/-- The class of an error; context does not change it. -/
def errorClass : Error → ErrorClass
  | inContext _ cause => errorClass cause
  | native errorClass _ _ => errorClass
  | cast _ | nullInstance _ | wrongArgument .. | noElement .. | unreadableFrom .. | nullReceiver _
  | badReceiver .. => .invalidCast
  | badConstant .. | badInitialiser .. | notConvertible .. | undefinedOperator .. | notBool ..
  | noCommonType .. | notIndexable _ | notAnObject _ | parameterMismatch .. => .incompatibleType
  | unnamedType | unnamedMember _ | repeatedMember .. | repeatedParameter .. | badDefault ..
  | missingParameter .. | noInstanceSlot .. | invalidDescriptor .. | resynthesisDisabled .. =>
    .descriptorInvalid
  | slotOutOfRange .. | staticSlotOutOfRange .. | setterArity .. | constructorArity ..
  | emptySequence | undeclaredParameter _ | unboundLocal _ | noArgument _ | operandKinds ..
  | notShortCircuited _ | initialisedNothing | parameterMissing _ | expectedBool _ => .internal
  | noMember .. | declaredElsewhere .. | foreignMember .. | pathBeyondObjects .. | pathNotFound ..
  | noMatchingSource .. | severalSources .. | foreignTargetMember .. | noTargetMember ..
  | declaredMember .. | unknownColumn .. => .memberResolutionFailed
  | explicitBindings _ | foreignConstructor .. | ambiguousConstructors .. | noConstructor ..
  | rejected .. => .constructorResolutionFailed
  | unboundParameters .. | unassignable .. => .unboundRequiredParameter
  | unreadableProperty _ | writeOnce .. | staticThroughInstance _ | instanceRequired _
  | staticNavigation .. | unreadableNavigation .. | notSetter .. | argumentCount ..
  | lambdaArity .. | invocationArity .. | arithmetic .. | staticRequestedAsInstance _
  | instanceRequestedAsStatic _ | noGetter .. | noSetter .. | boundaryArity .. | sourceArity _
  | staticTargetMember .. | repeatedColumn .. => .invalidOperation

/-- The origin of an error; context does not change it. -/
def origin : Error → ErrorOrigin
  | inContext _ cause => origin cause
  | native _ origin _ => origin
  | unnamedType | unnamedMember _ | repeatedMember .. | repeatedParameter .. | badDefault ..
  | missingParameter .. | noInstanceSlot .. | badInitialiser .. | slotOutOfRange ..
  | staticSlotOutOfRange .. | noMember .. | setterArity .. | constructorArity ..
  | unreadableProperty _ => .model
  | staticRequestedAsInstance _ | instanceRequestedAsStatic _ | noGetter .. | noSetter ..
  | boundaryArity .. => .accessor
  | invalidDescriptor .. => .schema
  | resynthesisDisabled .. => .synthesis
  | sourceArity _ | pathBeyondObjects .. | pathNotFound .. | noMatchingSource ..
  | severalSources .. | foreignTargetMember .. | noTargetMember .. | staticTargetMember ..
  | explicitBindings _ | declaredMember .. | foreignConstructor .. | ambiguousConstructors ..
  | noConstructor .. | unboundParameters .. | rejected .. | unassignable .. | unknownColumn .. =>
    .projection
  | repeatedColumn .. => .query
  | cast _ | badConstant .. | nullInstance _ | notConvertible .. | undefinedOperator ..
  | notBool .. | noCommonType .. | emptySequence | notIndexable _ | writeOnce ..
  | staticThroughInstance _ | instanceRequired _ | declaredElsewhere .. | staticNavigation ..
  | unreadableNavigation .. | notAnObject _ | notSetter .. | foreignMember .. | argumentCount ..
  | parameterMismatch .. | undeclaredParameter _ | unboundLocal _ | lambdaArity .. | noArgument _
  | invocationArity .. | wrongArgument .. | arithmetic .. | operandKinds .. | notShortCircuited _
  | noElement .. | initialisedNothing | unreadableFrom .. | parameterMissing _ | expectedBool _
  | nullReceiver _ | badReceiver .. => .expression

end Error

/-- An error as it is reported: its class, its origin and its wording. -/
structure Report where
  /-- Class of the error. -/
  errorClass : ErrorClass
  /-- Origin of the error. -/
  origin : ErrorOrigin
  /-- Wording. -/
  message : String
deriving DecidableEq, Repr, Inhabited

end Reshape
