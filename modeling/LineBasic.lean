import LineBasic.Main
import LineBasic.Proofs.Grammar.Printing
import LineBasic.Proofs.Grammar.Rendering
import LineBasic.Proofs.Grammar.Slicing
import LineBasic.Proofs.Machine.Anchoring
import LineBasic.Proofs.Machine.Calling
import LineBasic.Proofs.Machine.Halting
import LineBasic.Proofs.Machine.Renumbering
import LineBasic.Proofs.Machine.Replies
import LineBasic.Proofs.Machine.Structured
import LineBasic.Proofs.Machine.Timing
import LineBasic.Proofs.Grammar.Grouping
import LineBasic.Proofs.Machine.Driving
import LineBasic.Proofs.Machine.Answering
import LineBasic.Proofs.Machine.Restarting
import LineBasic.Proofs.Machine.Lagging
import LineBasic.Proofs.Program.Remarking
import LineBasic.Proofs.Machine.Remarking
import LineBasic.Proofs.Machine.Recording
import LineBasic.Proofs.Machine.Releasing
import LineBasic.Proofs.Machine.Mirroring
import LineBasic.Proofs.Machine.Decoding
import LineBasic.Proofs.Machine.Holding
import LineBasic.Proofs.Machine.Tracing
import LineBasic.Proofs.Machine.Evaluating
import LineBasic.Proofs.Machine.Aborting
import LineBasic.Proofs.Machine.Attributing
import LineBasic.Proofs.Grammar.Escaping
import LineBasic.Proofs.Machine.Quoting
import LineBasic.Proofs.Grammar.Margins
import LineBasic.Proofs.Program.Ordering
import LineBasic.Proofs.Program.Layout
import LineBasic.Program.Store
import LineBasic.Proofs.Program.Lookup
import LineBasic.Proofs.Machine.Dwindling
import LineBasic.Proofs.Machine.Naming
import LineBasic.Proofs.Machine.Numerals
import LineBasic.Proofs.Machine.Echoing
import LineBasic.Proofs.Value.Substrings
import LineBasic.Proofs.Machine.Sharing
import LineBasic.Proofs.Cli.Counting
