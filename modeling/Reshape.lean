import Reshape.Accessor.Cache
import Reshape.Accessor.Request
import Reshape.Accessor.Synthesis
import Reshape.Config.Settings
import Reshape.Config.Toml
import Reshape.Conversion.Cast
import Reshape.Conversion.Conforms
import Reshape.Conversion.Rule
import Reshape.Error.Basic
import Reshape.Error.Message
import Reshape.Error.Violation
import Reshape.Expr.Arithmetic
import Reshape.Expr.Basic
import Reshape.Expr.Build
import Reshape.Expr.Evaluation
import Reshape.Expr.Lambda
import Reshape.Expr.Operator
import Reshape.Expr.Rendering
import Reshape.Expr.Substitution
import Reshape.Expr.Unify
import Reshape.Model.Basic
import Reshape.Model.Declaration
import Reshape.Model.Member
import Reshape.Model.Table
import Reshape.Number.Binary
import Reshape.Number.Power
import Reshape.Number.Shortest
import Reshape.Number.Written
import Reshape.Projection.Binding
import Reshape.Projection.Compilation
import Reshape.Projection.Compiled
import Reshape.Projection.Configuration
import Reshape.Projection.Fitting
import Reshape.Projection.NameMatch
import Reshape.Projection.Query
import Reshape.Projection.ValueMap
import Reshape.Proofs.Accessor.Assembly
import Reshape.Proofs.Accessor.Cache
import Reshape.Proofs.Accessor.Operation
import Reshape.Proofs.Accessor.Reading
import Reshape.Proofs.Accessor.Refusal
import Reshape.Proofs.Accessor.RoundTrip
import Reshape.Proofs.Accessor.Running
import Reshape.Proofs.Accessor.Shapes
import Reshape.Proofs.Accessor.Transparency
import Reshape.Proofs.Conversion.Cast
import Reshape.Proofs.Conversion.Checked
import Reshape.Proofs.Conversion.Order
import Reshape.Proofs.Conversion.Retraction
import Reshape.Proofs.Conversion.Unruled
import Reshape.Proofs.Expr.Application
import Reshape.Proofs.Expr.Arguments
import Reshape.Proofs.Expr.Arithmetic
import Reshape.Proofs.Expr.Computation
import Reshape.Proofs.Expr.Construction
import Reshape.Proofs.Expr.Discipline
import Reshape.Proofs.Expr.Draft
import Reshape.Proofs.Expr.Exactness
import Reshape.Proofs.Expr.Failure
import Reshape.Proofs.Expr.Frames
import Reshape.Proofs.Expr.Initialisation
import Reshape.Proofs.Expr.Integers
import Reshape.Proofs.Expr.Lexical
import Reshape.Proofs.Expr.Numbering
import Reshape.Proofs.Expr.Parameters
import Reshape.Proofs.Expr.Preservation
import Reshape.Proofs.Expr.Purity
import Reshape.Proofs.Expr.Running
import Reshape.Proofs.Expr.Scoping
import Reshape.Proofs.Expr.Script
import Reshape.Proofs.Expr.SideEffects
import Reshape.Proofs.Expr.Slots
import Reshape.Proofs.Expr.Substitution
import Reshape.Proofs.Expr.Typing
import Reshape.Proofs.Expr.Unification
import Reshape.Proofs.Expr.WriteOnce
import Reshape.Proofs.Model.Allocation
import Reshape.Proofs.Model.Declared
import Reshape.Proofs.Model.Layout
import Reshape.Proofs.Model.Lineage
import Reshape.Proofs.Model.Members
import Reshape.Proofs.Model.Shadowing
import Reshape.Proofs.Number.Comparison
import Reshape.Proofs.Number.Widening
import Reshape.Proofs.Outcome
import Reshape.Proofs.Projection.Accounting
import Reshape.Proofs.Projection.Assembly
import Reshape.Proofs.Projection.Bound
import Reshape.Proofs.Projection.Chains
import Reshape.Proofs.Projection.Choice
import Reshape.Proofs.Projection.Correctness
import Reshape.Proofs.Projection.Delivery
import Reshape.Proofs.Projection.Feeding
import Reshape.Proofs.Projection.Inference
import Reshape.Proofs.Projection.Mapping
import Reshape.Proofs.Projection.NameMatching
import Reshape.Proofs.Projection.Ordering
import Reshape.Proofs.Projection.Ownership
import Reshape.Proofs.Projection.Quiet
import Reshape.Proofs.Projection.Reduction
import Reshape.Proofs.Projection.Running
import Reshape.Proofs.Projection.Sources
import Reshape.Proofs.Projection.Workshop
import Reshape.Proofs.Schema.Constructors
import Reshape.Proofs.Schema.Emission
import Reshape.Proofs.Schema.History
import Reshape.Proofs.Schema.Identifiers
import Reshape.Proofs.Schema.Messages
import Reshape.Proofs.Schema.Realisation
import Reshape.Proofs.Schema.Registry
import Reshape.Proofs.Schema.Validation
import Reshape.Proofs.Store.Access
import Reshape.Proofs.Store.Action
import Reshape.Proofs.Store.Bisimulation
import Reshape.Proofs.Store.Cells
import Reshape.Proofs.Store.Equality
import Reshape.Proofs.Store.Failure
import Reshape.Proofs.Store.History
import Reshape.Proofs.Store.Receivers
import Reshape.Proofs.Store.Rendering
import Reshape.Proofs.Store.Script
import Reshape.Proofs.Store.Serialization
import Reshape.Proofs.Store.Setters
import Reshape.Proofs.Store.Slots
import Reshape.Proofs.Store.Typing
import Reshape.Proofs.Store.Visits
import Reshape.Proofs.Store.WriteOnce
import Reshape.Proofs.Store.Writes
import Reshape.Proofs.Text.Camel
import Reshape.Proofs.Text.Dotted
import Reshape.Schema.Descriptor
import Reshape.Schema.Engine
import Reshape.Schema.ErrorTree
import Reshape.Schema.Signature
import Reshape.Schema.Validation
import Reshape.Store.Access
import Reshape.Store.Basic
import Reshape.Store.Equality
import Reshape.Store.Rendering
import Reshape.Store.Serialization
import Reshape.Store.Visit
import Reshape.Text.Camel
import Reshape.Text.Case
import Reshape.Text.CaseTable
import Reshape.Text.Cluster
import Reshape.Text.ClusterTable
import Reshape.Text.CodePointSet
import Reshape.Text.Fingerprint
import Reshape.Text.Hex
import Reshape.Text.Json
import Reshape.Text.Quoted
import Reshape.Text.Unprintable
import Reshape.Value.Basic
import Reshape.Value.Type
import Reshape.Workspace
