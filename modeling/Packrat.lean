import Packrat.Main
import Packrat.Parse.Log
import Packrat.Proofs.Memo.Transparency
import Packrat.Proofs.Peg.Adequacy
import Packrat.Proofs.Peg.Tiling
import Packrat.Proofs.Rollback
import Packrat.Proofs.Peg.Nesting
import Packrat.Proofs.Memo.Closed
import Packrat.Proofs.Memo.Reuse
import Packrat.Proofs.Grammar.Matchers
import Packrat.Proofs.Memo.Once
import Packrat.Proofs.Steps.Machine
import Packrat.Proofs.Steps.Pace
import Packrat.Proofs.Steps.Termination
import Packrat.Proofs.Peg.Limit
import Packrat.Proofs.Events.LeftRecursion
import Packrat.Proofs.Events.Balance
import Packrat.Proofs.Events.Recognition
import Packrat.Proofs.Calculator.Adjacency
import Packrat.Proofs.Calculator.Language
import Packrat.Proofs.Grammar.References
import Packrat.Proofs.Peg.Parallel
import Packrat.Proofs.Calculator.Spans
import Packrat.Proofs.Calculator.Snippets
import Packrat.Proofs.Walk
import Packrat.Proofs.Peg.Algebra
import Packrat.Proofs.Pattern.Whole
import Packrat.Proofs.Calculator.Faults
import Packrat.Proofs.Calculator.Tally
import Packrat.Proofs.Walk.Alone
import Packrat.Proofs.Calculator.Reread
import Packrat.Proofs.Calculator.LineEnds
import Packrat.Proofs.Calculator.Stepping
import Packrat.Proofs.Peg.Shift
import Packrat.Proofs.Grammar.Definitions
import Packrat.Proofs.Peg.Made
import Packrat.Proofs.Node.Sharing
import Packrat.Proofs.Diagnostic.Rows
import Packrat.Proofs.Diagnostic.Colour
import Packrat.Proofs.Text.Position
import Packrat.Proofs.Text.Join
import Packrat.Proofs.Text.Words
import Packrat.Proofs.Grammar.WellFormed
import Packrat.Proofs.Text.Quoted
import Packrat.Proofs.CommandLine.Session
import Packrat.Proofs.Node.Display
