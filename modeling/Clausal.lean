import Clausal.Text.Character
import Clausal.Text.Blank
import Clausal.Text.Lines
import Clausal.Error
import Clausal.Token.Scan
import Clausal.Token.Items
import Clausal.Value.Text
import Clausal.Value.Operate
import Clausal.Expr.Text
import Clausal.Expr.Parser
import Clausal.Pattern.Parser
import Clausal.Pattern.Match
import Clausal.Interpreter.Eval
import Clausal.Line
import Clausal.Session.Outcome
import Clausal.Config.Reader
import Clausal.Main
import Clausal.Proofs.Text.Character
import Clausal.Proofs.Text.Lines
import Clausal.Proofs.Token.Lexeme
import Clausal.Proofs.Line
import Clausal.Proofs.Grammar.Parser
import Clausal.Proofs.Grammar.Single
import Clausal.Proofs.Matching.Bindings
import Clausal.Proofs.Matching.Constants
import Clausal.Proofs.Matching.Lexeme
import Clausal.Proofs.Evaluation.Limit
import Clausal.Proofs.Evaluation.Renaming
import Clausal.Proofs.Evaluation.Agreement
import Clausal.Proofs.Evaluation.FreshNames
import Clausal.Proofs.Evaluation.ClauseOrder
import Clausal.Proofs.Evaluation.ClauseChoice
import Clausal.Proofs.Evaluation.Builtins
import Clausal.Proofs.Evaluation.Heads
import Clausal.Proofs.Evaluation.Concatenation
import Clausal.Proofs.Session.Trace
import Clausal.Proofs.Session.Continuation
import Clausal.Proofs.Session.Meaning
import Clausal.Proofs.Session.FunctionNames
import Clausal.Proofs.Session.ReadBack
import Clausal.Proofs.Matching.Rebuilding
import Clausal.Proofs.Matching.Occurrences
import Clausal.Proofs.Token.Nesting
import Clausal.Proofs.Token.Spelling
import Clausal.Proofs.Token.Coverage
import Clausal.Proofs.Definition
import Clausal.Proofs.Number.Encoding
import Clausal.Proofs.Number.ReadBack
import Clausal.Proofs.Grammar.Written
import Clausal.Proofs.Value.ReadBack
import Clausal.Proofs.Expr.ReadBack
import Clausal.Proofs.Token.Balance
import Clausal.Proofs.Expr.Bracketed
import Clausal.Proofs.Console.Conversation
import Clausal.Proofs.Expr.Layout
