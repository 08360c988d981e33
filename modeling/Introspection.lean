import Introspection.Primitive
import Introspection.Descriptor
import Introspection.Text.CodeSet
import Introspection.Text.Hidden
import Introspection.Text.Quoted
import Introspection.Signature.Fault
import Introspection.Signature.Reader
import Introspection.Signature.Descent
import Introspection.Decimal
import Introspection.Double
import Introspection.ValueType
import Introspection.Resolution
import Introspection.Value
import Introspection.Code.TypeExpr
import Introspection.Code.Expr
import Introspection.Text.Alphanumeric
import Introspection.Text.Case
import Introspection.Text.BreakClass
import Introspection.Text.Words
import Introspection.Identifier.Syntax
import Introspection.Identifier
import Introspection.Element
import Introspection.Error
import Introspection.Interface
import Introspection.Interface.Build
import Introspection.Interface.Merge
import Introspection.Outline
import Introspection.Markup.Syntax
import Introspection.Markup.Reader
import Introspection.Document
import Introspection.Settings.Syntax
import Introspection.Settings
import Introspection.Proofs.Outcome
import Introspection.Proofs.Signature.Grammar
import Introspection.Proofs.Signature.Completeness
import Introspection.Proofs.Signature.Steps
import Introspection.Proofs.Signature.Soundness
import Introspection.Proofs.Signature.Acceptance
import Introspection.Proofs.Signature.Viability
import Introspection.Proofs.Signature.Faults
import Introspection.Proofs.Signature.UniqueReading
import Introspection.Proofs.Interface.Parts
import Introspection.Proofs.Interface.Sides
import Introspection.Proofs.Resolution.Wire
import Introspection.Proofs.Resolution.Erasure
import Introspection.Proofs.Resolution.Defaults
import Introspection.Proofs.Resolution.Positions
import Introspection.Proofs.Resolution.UniqueTexts
import Introspection.Proofs.Resolution.Native
import Introspection.Proofs.Code.Typing
import Introspection.Proofs.Code.Literals
import Introspection.Proofs.Interface.Faults
import Introspection.Proofs.Interface.Validity
import Introspection.Proofs.Interface.Modes
import Introspection.Proofs.Interface.Merge
import Introspection.Proofs.Interface.Content
import Introspection.Proofs.Interface.Mirror
import Introspection.Proofs.Identifier.Parts
import Introspection.Proofs.Identifier.Plain
import Introspection.Proofs.Identifier.Bridges
import Introspection.Proofs.Identifier.Repair
import Introspection.Proofs.Interface.ArgNames
import Introspection.Proofs.Interface.Parameters
import Introspection.Proofs.Outline.Faithful
import Introspection.Proofs.Interface.Policies
import Introspection.Proofs.Interface.FreshNames
import Introspection.Proofs.Markup.Grammar
import Introspection.Proofs.Signature.Joining
import Introspection.Proofs.Markup.Steps
import Introspection.Proofs.Markup.Tags
import Introspection.Proofs.Markup.Content
import Introspection.Proofs.Markup.Prolog
import Introspection.Proofs.Document.Fields
import Introspection.Proofs.Document.Loading
import Introspection.Proofs.Identifier.Validity
import Introspection.Proofs.Identifier.Letters
import Introspection.Proofs.Code.Failures
import Introspection.Proofs.Value.Conformance
import Introspection.Proofs.Code.TypeTexts
import Introspection.Proofs.Decimal.Positional
import Introspection.Proofs.Decimal.Rounding
import Introspection.Proofs.Code.Tokens
import Introspection.Proofs.Code.ExprTexts
import Introspection.Proofs.Code.Shown
import Introspection.Proofs.Code.Content
import Introspection.Proofs.Text.Boundaries
import Introspection.Proofs.Signature.Visits
import Introspection.Proofs.Signature.Agreement
import Introspection.Proofs.Signature.Descent
