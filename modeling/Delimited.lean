import Delimited.Command.Run
import Delimited.Decimal.Shortest
import Delimited.Grammar.Listing
import Delimited.GrammarFile.Load
import Delimited.Handler.Registry
import Delimited.Main
import Delimited.Part.Json
import Delimited.Part.Listing
import Delimited.Scan.Run
import Delimited.Trace.Log
import Delimited.Proofs.Scan.Reachable
import Delimited.Proofs.Scan.Termination
import Delimited.Proofs.Scan.Sound
import Delimited.Proofs.Grammar.Resolved
import Delimited.Proofs.Pattern.Places
import Delimited.Proofs.Scan.Effect
import Delimited.Proofs.Scan.Situation
import Delimited.Proofs.Scan.Refinement
import Delimited.Proofs.Scan.Descent
import Delimited.Proofs.Scan.Agree
import Delimited.Proofs.Scan.Substitution
import Delimited.Proofs.Scan.Checked
import Delimited.Proofs.Scan.Safety
import Delimited.Proofs.Trace.Replay
import Delimited.Proofs.Scan.Events
import Delimited.Proofs.Scan.Conservation
import Delimited.Proofs.Pattern.Start
import Delimited.Proofs.Pattern.Anchoring
import Delimited.Proofs.Scan.Extension
import Delimited.Proofs.Scan.Closing
import Delimited.Proofs.Grammar.Tree
import Delimited.Proofs.Grammar.Index
import Delimited.Proofs.Grammar.Lookup
import Delimited.Proofs.Grammar.Sharing
import Delimited.Proofs.Grammar.Block
import Delimited.Proofs.Grammar.Validity
import Delimited.Proofs.Grammar.WellFormed
import Delimited.Proofs.Scan.Translation
import Delimited.Proofs.Grammar.Inlining
import Delimited.Proofs.Scan.Run
import Delimited.Proofs.Scan.Quoting
import Delimited.Proofs.Text.Pieces
import Delimited.Proofs.Scan.Splitting
import Delimited.Proofs.Scan.Arrival
import Delimited.Proofs.Scan.Row
import Delimited.Proofs.Scan.Segments
import Delimited.Proofs.Grammar.Edit
import Delimited.Proofs.Grammar.Rules
import Delimited.Proofs.Grammar.RootHandler
import Delimited.Proofs.Scan.Rerooted
import Delimited.Proofs.Scan.RootHandler
import Delimited.Proofs.GrammarFile.Layout
import Delimited.Proofs.GrammarFile.Reading
import Delimited.Proofs.Scan.Loosening
import Delimited.Proofs.Grammar.Nesting
import Delimited.Proofs.Grammar.Spelling
import Delimited.Proofs.Scan.Deferral
import Delimited.Proofs.Grammar.Naming
import Delimited.Proofs.GrammarFile.Sharing
import Delimited.Proofs.Pattern.Wrapping
import Delimited.Proofs.Pattern.Escaping
import Delimited.Proofs.Pattern.Literal
import Delimited.Proofs.Scan.Literals
import Delimited.Proofs.Pattern.Seam
import Delimited.Proofs.Pattern.ClassSeam
import Delimited.Proofs.Pattern.GroupSeam
import Delimited.Proofs.Pattern.Alone
import Delimited.Proofs.Grammar.Accepted
import Delimited.Proofs.Scan.Priority
import Delimited.Proofs.Trace.Lines
import Delimited.Proofs.Scan.Rendering
import Delimited.Proofs.GrammarFile.Paths
import Delimited.Proofs.Scan.Parse
import Delimited.Proofs.Scan.NormalForm
import Delimited.Proofs.Part.Regrouping
