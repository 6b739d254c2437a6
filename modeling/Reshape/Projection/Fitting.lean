import Reshape.Projection.Configuration

/-!
# Choosing the constructor

A constructor fits a configuration if it has a free parameter for every binding that names one, for
every member that must be constructed, and if every required parameter is fed; members that remain
have to be assignable.  Explicit parameter targets are placed first, then members that name a
parameter, then members whose names match.  Of several constructors that fit, the one that takes the
most bindings is chosen, and of those the one with the fewest parameters; two that are equally good
are refused.
-/

namespace Reshape

/-- What feeds a constructor parameter: a configured member or parameter, by place. -/
inductive Feed where
  /-- A configured member. -/
  | member (place : Nat)
  /-- A configured parameter. -/
  | parameter (place : Nat)
deriving DecidableEq, Repr, Inhabited

/-- What feeds each parameter of a constructor. -/
abbrev Feeds := List (Option Feed)

/-- How well a constructor fits. -/
inductive Fit where
  /-- It fits. -/
  | bound (feeds : Feeds)
  /-- Nothing feeds some required parameters; the number of bindings it takes. -/
  | missing (parameters : List String) (consumed : Nat)
  /-- It cannot take a binding. -/
  | rejected (reason : Rejection)
  /-- A member is left for assignment that cannot be assigned. -/
  | unassignable (member : String)
deriving DecidableEq, Inhabited

namespace Feeds

/-- Whether a configured member feeds a parameter. -/
def uses (feeds : Feeds) (place : Nat) : Bool :=
  feeds.contains (some (.member place))

/-- The number of parameters that are fed. -/
def consumed (feeds : Feeds) : Nat :=
  feeds.countP (·.isSome)

/-- Feed a parameter that is free. -/
def place? (feeds : Feeds) (index? : Option Nat) (feed : Feed) : Option Feeds :=
  index?.bind fun index =>
    match feeds[index]? with
    | some none => some (feeds.set index (some feed))
    | _ => none

end Feeds

namespace Fitting

/-- The place of a parameter of a name. -/
def indexOf? (parameters : List Parameter) (name : String) : Option Nat :=
  parameters.findIdx? (·.name == name)

/-- The place of a selected parameter. -/
def selected? (parameters : List Parameter) : ParameterSelector → Option Nat
  | .name name => indexOf? parameters name
  | .position place => if place < parameters.length then some place else none

/-- Place the configured parameters. -/
def placeParameters (parameters : List Parameter) :
    Feeds → List (ParameterTarget × Nat) → Except Rejection Feeds
  | feeds, [] => .ok feeds
  | feeds, (target, place) :: rest =>
    match feeds.place? (selected? parameters target.parameter) (.parameter place) with
    | some feeds => placeParameters parameters feeds rest
    | none => .error (.noFreeParameter target.parameter.text)

/-- Place the members that name a parameter. -/
def placeNamed (parameters : List Parameter) :
    Feeds → List (MemberTarget × Nat) → Except Rejection Feeds
  | feeds, [] => .ok feeds
  | feeds, (m, place) :: rest =>
    match m.parameter? with
    | none => placeNamed parameters feeds rest
    | some name =>
      match feeds.place? (indexOf? parameters name) (.member place) with
      | some feeds => placeNamed parameters feeds rest
      | none => .error (.missingParameter m.name name)

/-- The first member that may feed a parameter by its name. -/
def matching? (strategy : NameStrategy) (members : List (MemberTarget × Nat)) (feeds : Feeds)
    (parameter : Parameter) : Option Nat :=
  (members.find? fun (m, place) =>
    !feeds.uses place && m.placement != .member && m.parameter?.isNone &&
      strategy.parameterMatchesMember parameter.name m.name).map (·.2)

/-- Place members at the free parameters that their names match, parameter by parameter. -/
def placeMatching (strategy : NameStrategy) (members : List (MemberTarget × Nat)) :
    Feeds → List (Parameter × Nat) → Feeds
  | feeds, [] => feeds
  | feeds, (p, index) :: rest =>
    if feeds[index]? = some none then
      match matching? strategy members feeds p with
      | some place => placeMatching strategy members (feeds.set index (some (.member place))) rest
      | none => placeMatching strategy members feeds rest
    else placeMatching strategy members feeds rest

/-- Place everything that a constructor can take. -/
def placeAll (parameters : List Parameter) (c : Configuration) (strategy : NameStrategy) :
    Except Rejection Feeds := do
  let members := c.members.zipIdx
  let feeds ← placeParameters parameters (List.replicate parameters.length none)
    c.parameters.zipIdx
  let feeds ← placeNamed parameters feeds members
  let feeds := placeMatching strategy members feeds parameters.zipIdx
  match members.find? fun (m, place) => !feeds.uses place && m.placement == .parameter with
  | some (m, _) => throw (.noMatchingParameter m.name)
  | none => pure feeds

/-- The required parameters that nothing feeds. -/
def unfed (parameters : List Parameter) (feeds : Feeds) : List String :=
  (parameters.zip feeds).filterMap fun (p, feed) =>
    if feed.isNone && !p.isOptional then some p.name else none

/-- Whether a member that is left for assignment cannot be assigned. -/
def blocked (t : TypeTable) (owner : TypeId) (m : MemberTarget) : Bool :=
  let found := match m.member with
    | .declared m => some m
    | .name name => t.findMember? owner name
  found.any fun m => !m.isStatic && !m.isAssignable

/-- How well a constructor fits a configuration. -/
def fit (t : TypeTable) (c : Configuration) (strategy : NameStrategy) (r : ConstructorRef) : Fit :=
  let parameters := r.constructor.parameters
  match placeAll parameters c strategy with
  | .error reason => .rejected reason
  | .ok feeds =>
    let missing := unfed parameters feeds
    if !missing.isEmpty then .missing missing feeds.consumed
    else
      match c.members.zipIdx.find? fun (m, place) => !feeds.uses place && blocked t r.owner m with
      | some (m, _) => .unassignable m.name
      | none => .bound feeds

/-- The feeds of a constructor that has to be taken, or why it cannot be. -/
def accept (r : ConstructorRef) : Fit → Except Error Feeds
  | .bound feeds => .ok feeds
  | .missing parameters _ => .error (.unboundParameters parameters r.owner r.constructor)
  | .rejected reason => .error (.rejected r.owner r.constructor reason)
  | .unassignable member => .error (.unassignable member r.owner r.constructor)

/-- Those of a list that none is strictly better than. -/
def best {α : Type} (better : α → α → Bool) (candidates : List α) : List α :=
  candidates.filter fun a => candidates.all fun b => !better b a

/-- A constructor that fits is better if it takes more bindings, or as many with fewer parameters. -/
def betterFit (a b : ConstructorRef × Feeds) : Bool :=
  let size (e : ConstructorRef × Feeds) : Nat := e.1.constructor.parameters.length
  b.2.consumed < a.2.consumed || (a.2.consumed == b.2.consumed && size a < size b)

/-- A constructor that misses sources is better if it takes more bindings, or as many and misses
fewer. -/
def betterMiss (a b : ConstructorRef × List String × Nat) : Bool :=
  b.2.2 < a.2.2 || (a.2.2 == b.2.2 && a.2.1.length < b.2.1.length)

/-- Why no constructor fits.  If one is nearest, and only misses sources, these are reported. -/
def unresolved (target : TypeId) (c : Configuration) (fits : List (ConstructorRef × Fit)) : Error :=
  let missing := fits.filterMap fun (r, fit) =>
    match fit with
    | .missing parameters consumed => some (r, parameters, consumed)
    | _ => none
  match best betterMiss missing with
  | [(r, parameters, _)] => .unboundParameters parameters r.owner r.constructor
  | _ => .noConstructor target c.offered (fits.map fun (r, _) => r.constructor)

/-- The constructors that fit, with what feeds their parameters. -/
def fitting (fits : List (ConstructorRef × Fit)) : List (ConstructorRef × Feeds) :=
  fits.filterMap fun (r, fit) =>
    match fit with
    | .bound feeds => some (r, feeds)
    | _ => none

/-- Choose among several constructors. -/
def choose (target : TypeId) (c : Configuration) (fits : List (ConstructorRef × Fit)) :
    Except Error (ConstructorRef × Feeds) :=
  match best betterFit (fitting fits) with
  | [] => .error (unresolved target c fits)
  | [one] => .ok one
  | first :: second :: _ =>
    .error (.ambiguousConstructors first.1.constructor second.1.constructor target c.offered)

/-- The constructor of a target that a configuration is bound to, with what feeds its parameters. -/
def resolve (t : TypeTable) (target : TypeId) (c : Configuration) (strategy : NameStrategy) :
    Except Error (ConstructorRef × Feeds) :=
  match c.constructor? with
  | some r =>
    if r.owner = target then (accept r (fit t c strategy r)).map fun feeds => (r, feeds)
    else .error (.foreignConstructor r.constructor r.owner target)
  | none =>
    match t.constructors target with
    | [r] => (accept r (fit t c strategy r)).map fun feeds => (r, feeds)
    | rs => choose target c (rs.map fun r => (r, fit t c strategy r))

end Fitting
end Reshape
