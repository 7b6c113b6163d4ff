import RuleText.CommandLine.Directory
import RuleText.Main
import RuleText.Proofs.Regex.Places
import RuleText.Proofs.Regex.Reach
import RuleText.Proofs.Regex.Route
import RuleText.Proofs.Regex.Syntax.Layout
import RuleText.Proofs.Regex.Syntax.Escape
import RuleText.Proofs.Regex.Syntax.Bracket
import RuleText.Proofs.Regex.Anchors
import RuleText.Proofs.Evaluation.Agreement
import RuleText.Proofs.Grammar.Parser
import RuleText.Proofs.Grammar.Reads
import RuleText.Proofs.Program.Tokens
import RuleText.Proofs.Token.Lexer
import RuleText.Proofs.Text.Mark
import RuleText.Proofs.Token.Lexeme
import RuleText.Proofs.Token.Splits
import RuleText.Proofs.Program.Document
import RuleText.Proofs.Program.Printer
import RuleText.Proofs.Compile
import RuleText.Proofs.Token.Row
import RuleText.Proofs.Regex.Word
import RuleText.Proofs.Regex.Syntax.Refusals
import RuleText.Proofs.Regex.Breakout
import RuleText.Proofs.Token.Tiling
import RuleText.Proofs.Program.Spacing
import RuleText.Proofs.Evaluation.Answers
import RuleText.Proofs.Evaluation.History
import RuleText.Proofs.Grammar.Failure
import RuleText.Proofs.Grammar.Pinpoint
import RuleText.Proofs.Program.Mistake
import RuleText.Proofs.Program.Viable
import RuleText.Proofs.Text.Utf8
import RuleText.Proofs.Grammar.Shift
import RuleText.Proofs.Program.Composition
import RuleText.Proofs.Program.Offender
import RuleText.Proofs.Evaluation.Relevance
import RuleText.Proofs.CommandLine.Steps
import RuleText.Proofs.CommandLine.Rejected
import RuleText.Proofs.Token.Pieces
import RuleText.Proofs.Grammar.Bounds
import RuleText.Proofs.Grammar.Combination
import RuleText.Proofs.Result
import RuleText.Proofs.Program.Verbatim
import RuleText.Proofs.Grammar.Lists
import RuleText.Proofs.Grammar.Choices
import RuleText.Proofs.CommandLine.Assignments
import RuleText.Proofs.Property.Json
import RuleText.Proofs.Token.Order
import RuleText.Proofs.Program.Shown
import RuleText.Proofs.CommandLine.Check
import RuleText.Proofs.Binary64.Exact
import RuleText.Proofs.Binary64.Interval
import RuleText.Proofs.Binary64.Shortest
import RuleText.Proofs.Property.Fraction
import RuleText.Proofs.Source
import RuleText.Proofs.Program.Ranges
