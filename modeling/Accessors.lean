import Accessors.Grammar.Reading
import Accessors.Pass.Progress
import Accessors.Proofs.Agreement
import Accessors.Proofs.Aliases
import Accessors.Proofs.Arms
import Accessors.Proofs.Batch
import Accessors.Proofs.Below
import Accessors.Proofs.Blocks
import Accessors.Proofs.Bodies
import Accessors.Proofs.Borders
import Accessors.Proofs.Candidates
import Accessors.Proofs.Choice
import Accessors.Proofs.Clauses
import Accessors.Proofs.Clearance
import Accessors.Proofs.Commas
import Accessors.Proofs.Composition
import Accessors.Proofs.Continuation
import Accessors.Proofs.Declared
import Accessors.Proofs.Depth
import Accessors.Proofs.Derivation
import Accessors.Proofs.Deriving
import Accessors.Proofs.Extension
import Accessors.Proofs.FileNames
import Accessors.Proofs.Frame
import Accessors.Proofs.Isolation
import Accessors.Proofs.Listing
import Accessors.Proofs.Logging
import Accessors.Proofs.Markers
import Accessors.Proofs.Placement
import Accessors.Proofs.Places
import Accessors.Proofs.References
import Accessors.Proofs.Reordering
import Accessors.Proofs.Repetition
import Accessors.Proofs.Requests
import Accessors.Proofs.Rules
import Accessors.Proofs.Scopes
import Accessors.Proofs.Sequences
import Accessors.Proofs.Sessions
import Accessors.Proofs.Setups
import Accessors.Proofs.Signatures
import Accessors.Proofs.Stripping
import Accessors.Proofs.Subjects
import Accessors.Proofs.Sweeping
import Accessors.Proofs.Validity
