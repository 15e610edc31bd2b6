import LineScript.Arith.Builtin
import LineScript.Arith.Evaluate
import LineScript.Arith.Fault
import LineScript.Arith.Operator
import LineScript.Arith.Symbol
import LineScript.Arith.Token
import LineScript.Arith.Tokens
import LineScript.Block.Basic
import LineScript.Block.Header
import LineScript.Block.Kind
import LineScript.Block.Run
import LineScript.Block.Scan
import LineScript.CommandLine
import LineScript.Comparison
import LineScript.Condition
import LineScript.Error
import LineScript.Expression
import LineScript.Json.Basic
import LineScript.Json.Fault
import LineScript.Json.Number
import LineScript.Json.Reader
import LineScript.Json.Writer
import LineScript.Main
import LineScript.Number.Binary64
import LineScript.Number.Hexadecimal
import LineScript.Number.Integer
import LineScript.Number.Layout
import LineScript.Number.Reader
import LineScript.Number.Shortest
import LineScript.Options
import LineScript.Program
import LineScript.Session
import LineScript.Statement.Basic
import LineScript.Statement.Run
import LineScript.Table
import LineScript.Text.Blank
import LineScript.Text.Letter
import LineScript.Text.Words
import LineScript.Unicode.Combining
import LineScript.Unicode.Composition
import LineScript.Unicode.Direction
import LineScript.Unicode.DomainTable
import LineScript.Unicode.Joining
import LineScript.Unicode.Span
import LineScript.Url.Basic
import LineScript.Url.Domain
import LineScript.Url.Error
import LineScript.Url.Family
import LineScript.Url.Host
import LineScript.Url.Ipv4
import LineScript.Url.Ipv6
import LineScript.Url.Path
import LineScript.Url.Percent
import LineScript.Url.Punycode
import LineScript.Url.Reader
import LineScript.Value.Basic
import LineScript.Value.Data
import LineScript.World
import LineScript.World.Draws
import LineScript.World.Files
import LineScript.World.Network
import LineScript.Proofs.Except
import LineScript.Proofs.Block.Balance
import LineScript.Proofs.Run.Frame
import LineScript.Proofs.Block.Meaning
import LineScript.Proofs.Arith.Lexeme
import LineScript.Proofs.Arith.Tree
import LineScript.Proofs.Arith.Parse
import LineScript.Proofs.Arith.Meaning
import LineScript.Proofs.Arith.Exact
import LineScript.Proofs.Condition.Cut
import LineScript.Proofs.Condition.Tokens
import LineScript.Proofs.Condition.Loosened
import LineScript.Proofs.Condition.Padding
import LineScript.Proofs.Condition.Sides
import LineScript.Proofs.Condition.Agreement
import LineScript.Proofs.Run.Machine
import LineScript.Proofs.Block.Cut
import LineScript.Proofs.Program.Lines
import LineScript.Proofs.Program.Annotations
import LineScript.Proofs.Json.Scalar
import LineScript.Proofs.Json.Spelled
import LineScript.Proofs.Json.Order
import LineScript.Proofs.Json.Restored
import LineScript.Proofs.World.Files
import LineScript.Proofs.Arith.Scalar
import LineScript.Proofs.Run.Order
import LineScript.Proofs.Run.Saved
import LineScript.Proofs.Run.Continuity
import LineScript.Proofs.Run.Atomic
import LineScript.Proofs.Block.Separated
import LineScript.Proofs.Program.Modes
import LineScript.Proofs.Run.Moves
import LineScript.Proofs.Run.Report
import LineScript.Proofs.Run.Marker
import LineScript.Proofs.Run.Trace
import LineScript.Proofs.Json.Inverse
import LineScript.Proofs.Block.Like
import LineScript.Proofs.Run.Twin
import LineScript.Proofs.Program.Layout
import LineScript.Proofs.Program.Depth
import LineScript.Proofs.Run.Log
import LineScript.Proofs.Run.Supply
import LineScript.Proofs.Text.OneLine
import LineScript.Proofs.Run.Wording
import LineScript.Proofs.Run.Quotes
import LineScript.Proofs.Program.Outcome
import LineScript.Proofs.Block.Span
import LineScript.Proofs.Block.Walk
import LineScript.Proofs.Expression.Concatenation
import LineScript.Proofs.Expression.Origin
import LineScript.Proofs.Expression.Bounded
import LineScript.Proofs.Json.Items
import LineScript.Proofs.Arith.Grammar
import LineScript.Proofs.Arith.Hidden
import LineScript.Proofs.Arith.Depth
import LineScript.Proofs.Expression.Path
import LineScript.Proofs.Number.Nearest
import LineScript.Proofs.Value.Relation
import LineScript.Proofs.Value.Coherence
import LineScript.Proofs.Value.Mixed
import LineScript.Proofs.Block.Offset
import LineScript.Proofs.Condition.Inserted
import LineScript.Proofs.Text.Utf8
import LineScript.Proofs.Json.Keys
import LineScript.Proofs.Run.Canonical
import LineScript.Proofs.Number.Reading
import LineScript.Proofs.Number.Grid
import LineScript.Proofs.Number.Digits
import LineScript.Proofs.Number.Written
import LineScript.Proofs.Number.Reread
import LineScript.Proofs.Number.Whole
import LineScript.Proofs.Expression.Reread
