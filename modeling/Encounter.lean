import Encounter.Main
import Encounter.Proofs.Policy.Effect
import Encounter.Proofs.Policy.Flat
import Encounter.Proofs.Policy.FlatRefinement
import Encounter.Proofs.Task.Request
import Encounter.Proofs.Task.Run
import Encounter.Proofs.Task.Lifecycle
import Encounter.Proofs.Task.Completion
import Encounter.Proofs.Task.Refinement
import Encounter.Proofs.Policy.Warrant
import Encounter.Proofs.Task.Chronicle
import Encounter.Proofs.World.Expiry
import Encounter.Proofs.Task.Defeat
import Encounter.Proofs.Task.Mirror
import Encounter.Proofs.Task.Spacing
import Encounter.Proofs.Task.Standoff
import Encounter.Proofs.Drive.Waiting
import Encounter.Proofs.Task.Targeting
import Encounter.Proofs.Task.Transport
import Encounter.Proofs.Drive.Ending
import Encounter.Proofs.Drive.StopRequest
import Encounter.Proofs.Replay.Course
import Encounter.Proofs.Replay.Length
import Encounter.Proofs.Replay.Causality
import Encounter.Proofs.World.Visibility
import Encounter.Proofs.Task.Indifference
import Encounter.Proofs.Policy.Translation
import Encounter.Proofs.Task.Translation
import Encounter.Proofs.Task.Following
import Encounter.Proofs.Replay.Switching
import Encounter.Proofs.Replay.Leftover
import Encounter.Proofs.Text.Denotation
import Encounter.Proofs.Config.Reading
import Encounter.Proofs.Config.Ranking
import Encounter.Proofs.Config.Acceptance
import Encounter.Proofs.Config.Precedence
import Encounter.Proofs.Config.Spelling
import Encounter.Proofs.World.Nearest
import Encounter.Proofs.World.History
import Encounter.Proofs.Config.Overlong
import Encounter.Proofs.Document.Gaps
import Encounter.Proofs.Document.Numerals
import Encounter.Proofs.Document.Lexing
import Encounter.Proofs.Document.Written
import Encounter.Proofs.Config.Documented
import Encounter.Proofs.Tree.Table
import Encounter.Proofs.Tree.Execution
import Encounter.Proofs.Tree.Flattening
import Encounter.Proofs.Policy.Table
import Encounter.Proofs.Task.Sweep
import Encounter.Proofs.Replay.Showing
import Encounter.Proofs.Text.Parting
import Encounter.Proofs.Replay.Rendering
import Encounter.Proofs.Replay.Printing
