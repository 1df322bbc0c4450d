import Graft.Anchor.Basic
import Graft.Anchor.Index
import Graft.Cli.Arguments
import Graft.Cli.Command
import Graft.Cli.Run
import Graft.Config.Basic
import Graft.Config.Environment
import Graft.Config.Literal
import Graft.Config.Loading
import Graft.Config.Setting
import Graft.Directory
import Graft.Hash.Sha256
import Graft.Indent.Detect
import Graft.Indent.Style
import Graft.Json
import Graft.Language
import Graft.Log.Event
import Graft.Log.Filter
import Graft.Main
import Graft.Patch.Comparison
import Graft.Patch.Grafting
import Graft.Patch.Operation
import Graft.Path
import Graft.Pattern.Atom
import Graft.Pattern.CharSet
import Graft.Pattern.Expr
import Graft.Pattern.Flaw
import Graft.Proofs.Agreement
import Graft.Proofs.Bodies
import Graft.Proofs.Breaks
import Graft.Proofs.Comparison
import Graft.Proofs.Content
import Graft.Proofs.Convergence
import Graft.Proofs.Conversion
import Graft.Proofs.Detection
import Graft.Proofs.Excerpts
import Graft.Proofs.Faithfulness
import Graft.Proofs.Faults
import Graft.Proofs.Files
import Graft.Proofs.Grafting
import Graft.Proofs.Identities
import Graft.Proofs.Indexing
import Graft.Proofs.Limits
import Graft.Proofs.Lines
import Graft.Proofs.Listing
import Graft.Proofs.Lookup
import Graft.Proofs.Lowering
import Graft.Proofs.Merging
import Graft.Proofs.Modes
import Graft.Proofs.Moving
import Graft.Proofs.Pairing
import Graft.Proofs.Pieces
import Graft.Proofs.Precedence
import Graft.Proofs.Pruning
import Graft.Proofs.Quoting
import Graft.Proofs.Reach
import Graft.Proofs.Reindenting
import Graft.Proofs.Rendering
import Graft.Proofs.Rewriting
import Graft.Proofs.Runs
import Graft.Proofs.Sessions
import Graft.Proofs.Shape
import Graft.Proofs.Sharing
import Graft.Proofs.Spacing
import Graft.Proofs.Splitting
import Graft.Proofs.Stability
import Graft.Proofs.Tables
import Graft.Proofs.Voting
import Graft.Proofs.Walk
import Graft.Proofs.Writable
import Graft.Proofs.Writing
import Graft.Proposal
import Graft.Session
import Graft.Syntax.Category
import Graft.Syntax.Concrete
import Graft.Syntax.Document
import Graft.Syntax.Fault
import Graft.Syntax.Lowering
import Graft.Syntax.Node
import Graft.Syntax.Outline
import Graft.Syntax.Printing
import Graft.Syntax.Rebuild
import Graft.Syntax.Trivia
import Graft.Text.Cut
import Graft.Text.Number
import Graft.Text.Quoted
import Graft.Text.Ranges
import Graft.Text.Slice
import Graft.Toml.Document
import Graft.Toml.Line
import Graft.Toml.Moment
import Graft.Toml.Quoted
import Graft.Toml.Reserved
import Graft.Toml.Scalar
import Graft.Toml.Table
import Graft.Toml.Value
