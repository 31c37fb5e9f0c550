import Blueprint.Number.Binary
import Blueprint.Number.Shortest
import Blueprint.Number.Literal
import Blueprint.Number.Word
import Blueprint.Number.FromText
import Blueprint.Text.Blank
import Blueprint.Text.Identifier
import Blueprint.Text.Search
import Blueprint.Value.Basic
import Blueprint.Value.Render
import Blueprint.Fault
import Blueprint.OrderedMap
import Blueprint.Expr.Operator
import Blueprint.Expr.Basic
import Blueprint.Builtin
import Blueprint.Graph.Handle
import Blueprint.Graph.Node
import Blueprint.Graph.Basic
import Blueprint.Graph.Build
import Blueprint.Flow.State
import Blueprint.Flow.Context
import Blueprint.Expr.Eval
import Blueprint.Flow.Node
import Blueprint.Settings.Basic
import Blueprint.Ron.Lexeme
import Blueprint.Ron.Number
import Blueprint.Ron.Value
import Blueprint.Settings.Ron
import Blueprint.Flow.Run
import Blueprint.Proofs.Graph.WellFormed
import Blueprint.Proofs.Graph.Change
import Blueprint.Proofs.Graph.Construction
import Blueprint.Proofs.Flow.Defensive
import Blueprint.Proofs.Flow.Clean
import Blueprint.Proofs.Flow.Frames
import Blueprint.Proofs.Flow.Safety
import Blueprint.Proofs.Flow.Break
import Blueprint.Proofs.Flow.Runs
import Blueprint.Proofs.Flow.Effects
import Blueprint.Proofs.Flow.Depth
import Blueprint.Proofs.Flow.Variables
import Blueprint.Proofs.Flow.Failure
import Blueprint.Proofs.Flow.WhileLoop
import Blueprint.Proofs.Graph.Branch
import Blueprint.Proofs.Flow.Extension
import Blueprint.Proofs.Flow.EmptyBody
import Blueprint.Proofs.Flow.CursorLoop
import Blueprint.Proofs.Graph.Binding
import Blueprint.Proofs.Flow.Delivery
import Blueprint.Proofs.Flow.ArrayLoop
import Blueprint.Proofs.Number.ExactIntegers
import Blueprint.Proofs.Flow.CountingLoop
import Blueprint.Proofs.Expr.Reads
import Blueprint.Proofs.Number.Unpacked
import Blueprint.Proofs.Number.Remainder
import Blueprint.Proofs.Number.Words
import Blueprint.Proofs.Number.Signs
import Blueprint.Proofs.Number.Numerals
import Blueprint.Proofs.Number.Reading
import Blueprint.Proofs.Number.Rounding
import Blueprint.Proofs.Number.Order
import Blueprint.Proofs.Number.Scientific
import Blueprint.Proofs.Number.Shortest
import Blueprint.Proofs.Number.RoundTrip
import Blueprint.Proofs.Number.IntegerText
import Blueprint.Proofs.Text.Search
import Blueprint.Proofs.Text.Utf8
import Blueprint.Proofs.Builtin.Text
import Blueprint.Proofs.Value.Types
