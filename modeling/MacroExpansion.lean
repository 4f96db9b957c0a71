import MacroExpansion.Catalogue
import MacroExpansion.Color.Literal
import MacroExpansion.Color.Value
import MacroExpansion.Context
import MacroExpansion.Decimal.Binary64
import MacroExpansion.Decimal.Layout
import MacroExpansion.Decimal.Shortest
import MacroExpansion.Diagnostic
import MacroExpansion.Entry
import MacroExpansion.Expand.Basic
import MacroExpansion.Expand.Color
import MacroExpansion.Expand.Render
import MacroExpansion.Expand.UniqueName
import MacroExpansion.Expand.Unwrap
import MacroExpansion.Grammar.Atom
import MacroExpansion.Grammar.Attribute
import MacroExpansion.Grammar.Basic
import MacroExpansion.Grammar.Error
import MacroExpansion.Grammar.Function
import MacroExpansion.Grammar.Generic
import MacroExpansion.Grammar.Item
import MacroExpansion.Grammar.Lookahead
import MacroExpansion.Grammar.Member
import MacroExpansion.Grammar.Operator
import MacroExpansion.Grammar.Path
import MacroExpansion.Grammar.Pattern
import MacroExpansion.Grammar.Postfix
import MacroExpansion.Grammar.Precedence
import MacroExpansion.Grammar.Printer
import MacroExpansion.Grammar.Record
import MacroExpansion.Grammar.Rules
import MacroExpansion.Grammar.Statement
import MacroExpansion.Grammar.TokenReader
import MacroExpansion.Grammar.Tree
import MacroExpansion.Grammar.Type
import MacroExpansion.Invocation
import MacroExpansion.Manifest
import MacroExpansion.Options
import MacroExpansion.Session
import MacroExpansion.Source.Span
import MacroExpansion.Text.Blank
import MacroExpansion.Text.IdentExtend
import MacroExpansion.Text.IdentStart
import MacroExpansion.Text.Identifier
import MacroExpansion.Text.Name
import MacroExpansion.Text.Quoted
import MacroExpansion.Text.Ranges
import MacroExpansion.Text.Unprintable
import MacroExpansion.Token.Basic
import MacroExpansion.Token.Lexer
import MacroExpansion.Token.Literal
import MacroExpansion.Token.Printer
import MacroExpansion.Toml.Reader
import MacroExpansion.Toml.Value
import MacroExpansion.Trace
import MacroExpansion.Proofs.Outcome
import MacroExpansion.Proofs.ClosureCall
import MacroExpansion.Proofs.Unwrap.Acceptance
import MacroExpansion.Proofs.Unwrap.Guard
import MacroExpansion.Proofs.Unwrap.Reference
import MacroExpansion.Proofs.Render
import MacroExpansion.Proofs.UniqueNames
import MacroExpansion.Proofs.Conservation
import MacroExpansion.Proofs.Color.HexLiteral
import MacroExpansion.Proofs.Color.Reference
import MacroExpansion.Proofs.Reading.Forward
import MacroExpansion.Proofs.Reading.Rules
import MacroExpansion.Proofs.Reading.Progress
import MacroExpansion.Proofs.Reading.Boundary
import MacroExpansion.Proofs.Reading.Apart
import MacroExpansion.Proofs.Reading.Follows
import MacroExpansion.Proofs.Reading.TypeBefore
import MacroExpansion.Proofs.Reading.ExprBefore
import MacroExpansion.Proofs.Reading.Receiver
import MacroExpansion.Proofs.Reading.Depth
import MacroExpansion.Proofs.Invocation.Grammar
import MacroExpansion.Proofs.Invocation.RoundTrip
import MacroExpansion.Proofs.History
import MacroExpansion.Proofs.RuntimePath
import MacroExpansion.Proofs.Tracing
import MacroExpansion.Proofs.Reading.Gives
import MacroExpansion.Proofs.Reading.Shown
import MacroExpansion.Proofs.Silence
import MacroExpansion.Proofs.Reading.Held
import MacroExpansion.Proofs.Unwrap.Faults
import MacroExpansion.Proofs.Unwrap.Tail
import MacroExpansion.Proofs.Unwrap.Attributes
import MacroExpansion.Proofs.RuntimeLookup
import MacroExpansion.Proofs.Color.Channel
import MacroExpansion.Proofs.Color.Lossless
import MacroExpansion.Proofs.Color.ChannelText
import MacroExpansion.Proofs.Transparency
import MacroExpansion.Proofs.Reading.PlainPath
import MacroExpansion.Proofs.Reading.PlainCall
import MacroExpansion.Proofs.Unwrap.GuardReading
import MacroExpansion.Proofs.Reading.StepNames
import MacroExpansion.Proofs.Generated
import MacroExpansion.Proofs.OptionSequence
import MacroExpansion.Proofs.ReportedPlace
import MacroExpansion.Proofs.Text.Lexing
import MacroExpansion.Proofs.Text.ReadBack
import MacroExpansion.Proofs.EmbeddedText
