import Calculator.Text.Blank
import Calculator.Text.CodeRange
import Calculator.Text.Printable
import Calculator.Text.Extending
import Calculator.Text.Quoted
import Calculator.Decimal
import Calculator.Decimal.Shortest
import Calculator.Decimal.Float
import Calculator.Decimal.Read
import Calculator.Number
import Calculator.Operation
import Calculator.Failure
import Calculator.Arithmetic
import Calculator.Token
import Calculator.Token.Scan
import Calculator.Expr
import Calculator.Expr.Parse
import Calculator.Store
import Calculator.Eval
import Calculator.Session
import Calculator.Command
import Calculator.FileTree
import Calculator.Main
import Calculator.Proofs.Tiling
import Calculator.Proofs.Writes
import Calculator.Proofs.Grammar
import Calculator.Proofs.Parsing
import Calculator.Proofs.SyntaxErrors
import Calculator.Proofs.Footprint
import Calculator.Proofs.Kinds
import Calculator.Proofs.ExactIntegers
import Calculator.Proofs.IntegerTrees
import Calculator.Proofs.Grouping
import Calculator.Proofs.LexicalErrors
import Calculator.Proofs.Transcript
import Calculator.Proofs.Names
import Calculator.Proofs.Causes
import Calculator.Proofs.Promotion
import Calculator.Proofs.TokenStream
import Calculator.Proofs.Descent
import Calculator.Proofs.CursorAgreement
import Calculator.Proofs.Boundaries
