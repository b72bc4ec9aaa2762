import ActionTree.Action.Builder
import ActionTree.Json.Forms
import ActionTree.Json.Reader
import ActionTree.Script.Session
import ActionTree.Proofs.Quiet
import ActionTree.Proofs.Derivation
import ActionTree.Proofs.Nesting
import ActionTree.Proofs.Transport
import ActionTree.Proofs.Invariance
import ActionTree.Proofs.Level
import ActionTree.Proofs.Restoration
import ActionTree.Proofs.Telling
import ActionTree.Proofs.Position
import ActionTree.Proofs.Sight
import ActionTree.Proofs.Lexical
import ActionTree.Proofs.Refinement
import ActionTree.Proofs.Course
import ActionTree.Proofs.Following
import ActionTree.Proofs.Rounds
import ActionTree.Proofs.Snapshot
import ActionTree.Proofs.Failure
import ActionTree.Proofs.Tracing
import ActionTree.Proofs.Halting
import ActionTree.Proofs.Watching
import ActionTree.Proofs.Upholding
import ActionTree.Proofs.Asking
import ActionTree.Proofs.Scoping
import ActionTree.Proofs.Grounding
import ActionTree.Proofs.Silence
import ActionTree.Proofs.Likeness
import ActionTree.Proofs.Blindness
import ActionTree.Proofs.Qualifiers
import ActionTree.Proofs.Fuel
import ActionTree.Proofs.Operations
import ActionTree.Proofs.Footing
import ActionTree.Proofs.Stages
import ActionTree.Proofs.Dispatching
import ActionTree.Proofs.Marks
import ActionTree.Proofs.Verdicts
import ActionTree.Proofs.Balance
import ActionTree.Proofs.Logging
import ActionTree.Proofs.Spelling
import ActionTree.Proofs.Forms
import ActionTree.Proofs.Finishing
import ActionTree.Proofs.Termination
import ActionTree.Proofs.Indexes
import ActionTree.Proofs.Grammar
import ActionTree.Proofs.Decomposition
import ActionTree.Proofs.Resolving
import ActionTree.Proofs.Answers
import ActionTree.Proofs.Iterations
import ActionTree.Proofs.Layers
import ActionTree.Proofs.Overwriting
import ActionTree.Proofs.Building
