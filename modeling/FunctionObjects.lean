import FunctionObjects.Text.Unicode.CodePoints
import FunctionObjects.Text.Unicode.IdentifierStart
import FunctionObjects.Text.Unicode.IdentifierExtra
import FunctionObjects.Text.Unicode.GraphemeExtend
import FunctionObjects.Text.Unicode.Unprintable
import FunctionObjects.Data.OrderedMap
import FunctionObjects.Data.Chain
import FunctionObjects.Text.CodeUnits
import FunctionObjects.Text.Identifier
import FunctionObjects.Text.Quoted
import FunctionObjects.Number.Double
import FunctionObjects.Number.Shortest
import FunctionObjects.Number.Text
import FunctionObjects.Value
import FunctionObjects.WellKnownKey
import FunctionObjects.Error
import FunctionObjects.Syntax.Tree
import FunctionObjects.Syntax.BoundNames
import FunctionObjects.Syntax.Definition
import FunctionObjects.Reference
import FunctionObjects.Property
import FunctionObjects.Realm.Basic
import FunctionObjects.Function.Slots
import FunctionObjects.Object
import FunctionObjects.Scope.Basic
import FunctionObjects.Scope.Private
import FunctionObjects.Store.Basic
import FunctionObjects.Store.Effect
import FunctionObjects.Store.Prototype
import FunctionObjects.Scope.Resolution
import FunctionObjects.Realm.Creation
import FunctionObjects.Context
import FunctionObjects.Function.Creation
import FunctionObjects.Function.Expression
import FunctionObjects.Settings
import FunctionObjects.Evaluation.Agent
import FunctionObjects.Evaluation.Basic
import FunctionObjects.Summary
import FunctionObjects.CommandLine.Arguments
import FunctionObjects.CommandLine.Parameter
import FunctionObjects.CommandLine.Request
import FunctionObjects.CommandLine.Listing
import FunctionObjects.Main
import FunctionObjects.Proofs.Moves
import FunctionObjects.Proofs.Store.Change
import FunctionObjects.Proofs.Store.Effects
import FunctionObjects.Proofs.Store.Reachable
import FunctionObjects.Proofs.Number.Exact
import FunctionObjects.Proofs.Value.Same
import FunctionObjects.Proofs.Object.Integrity
import FunctionObjects.Proofs.Scope.Operations
import FunctionObjects.Proofs.Scope.LifeCycle
import FunctionObjects.Proofs.Scope.Chains
import FunctionObjects.Proofs.Scope.Visibility
import FunctionObjects.Proofs.Scope.PrivateNames
import FunctionObjects.Proofs.Prototype.Chains
import FunctionObjects.Proofs.Store.Extension
import FunctionObjects.Proofs.Realm.Creation
import FunctionObjects.Proofs.Function.Instantiation
import FunctionObjects.Proofs.Function.Wiring
import FunctionObjects.Proofs.Store.Functions
import FunctionObjects.Proofs.Function.SelfReference
import FunctionObjects.Proofs.Evaluation.Changes
import FunctionObjects.Proofs.Evaluation.Runs
import FunctionObjects.Proofs.Evaluation.Strictness
import FunctionObjects.Proofs.Evaluation.Stack
import FunctionObjects.Proofs.Evaluation.Lexical
import FunctionObjects.Proofs.Store.Building
import FunctionObjects.Proofs.Evaluation.Building
import FunctionObjects.Proofs.Evaluation.Additions
import FunctionObjects.Proofs.Store.Closed
import FunctionObjects.Proofs.Store.Consistent
import FunctionObjects.Proofs.Evaluation.Handles
import FunctionObjects.Proofs.Function.Population
import FunctionObjects.Proofs.Function.Ownership
import FunctionObjects.Proofs.Realm.Separation
import FunctionObjects.Proofs.Store.Frame
import FunctionObjects.Proofs.Store.Identity
import FunctionObjects.Proofs.Store.Renaming
import FunctionObjects.Proofs.Function.Commutation
import FunctionObjects.Proofs.Text.CodeUnits
import FunctionObjects.Proofs.Text.Surrogates
import FunctionObjects.Proofs.Text.Concatenation
import FunctionObjects.Proofs.Syntax.BoundNames
import FunctionObjects.Proofs.Syntax.Directives
import FunctionObjects.Proofs.CommandLine.Parameter
import FunctionObjects.Proofs.CommandLine.Request
import FunctionObjects.Proofs.CommandLine.Listing
import FunctionObjects.Proofs.Object.Definition
import FunctionObjects.Proofs.Function.Constructors
import FunctionObjects.Proofs.Evaluation.Orderly
import FunctionObjects.Proofs.Evaluation.Steps
import FunctionObjects.Proofs.Evaluation.Order
import FunctionObjects.Proofs.Evaluation.Flattening
import FunctionObjects.Proofs.Evaluation.Nesting
import FunctionObjects.Proofs.Evaluation.Captures
import FunctionObjects.Proofs.Evaluation.Bodies
import FunctionObjects.Proofs.Scope.Rules
import FunctionObjects.Proofs.Evaluation.Names
import FunctionObjects.Proofs.Prototype.Relinking
import FunctionObjects.Proofs.Prototype.Inheritance
import FunctionObjects.Proofs.Evaluation.Repetition
import FunctionObjects.Proofs.Object.Redefinition
import FunctionObjects.Proofs.Function.Naming
