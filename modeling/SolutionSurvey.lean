import SolutionSurvey.Main
import SolutionSurvey.Journal.Logger
import SolutionSurvey.Json.Printer
import SolutionSurvey.Json.Reader
import SolutionSurvey.Syntax.Heap
import SolutionSurvey.Proofs.Package.Identity
import SolutionSurvey.Proofs.Solution.Circle
import SolutionSurvey.Proofs.Solution.Opening
import SolutionSurvey.Proofs.Solution.Presence
import SolutionSurvey.Proofs.Survey.Packages
import SolutionSurvey.Proofs.Survey.Sources
import SolutionSurvey.Proofs.Value.Mapping
import SolutionSurvey.Proofs.Value.Layers
import SolutionSurvey.Proofs.Yaml.Sound
import SolutionSurvey.Proofs.Config.Checks
import SolutionSurvey.Proofs.Config.Leaf
import SolutionSurvey.Proofs.Config.Variables
import SolutionSurvey.Proofs.Config.Precedence
import SolutionSurvey.Proofs.Config.Escape
import SolutionSurvey.Proofs.Command.Limit
import SolutionSurvey.Proofs.Journal.Streams
import SolutionSurvey.Proofs.Files.Copies
import SolutionSurvey.Proofs.Project.Relocation
import SolutionSurvey.Proofs.Files.Change
import SolutionSurvey.Proofs.Journal.Levels
import SolutionSurvey.Proofs.Command.Crash
import SolutionSurvey.Proofs.Solution.Fault
import SolutionSurvey.Proofs.Command.Ending
import SolutionSurvey.Proofs.Survey.References
import SolutionSurvey.Proofs.Project.Listing
import SolutionSurvey.Proofs.Project.Removal
import SolutionSurvey.Proofs.Package.Rereading
import SolutionSurvey.Proofs.Package.Ranking
import SolutionSurvey.Proofs.Syntax.LateChange
import SolutionSurvey.Proofs.Syntax.Duality
import SolutionSurvey.Proofs.Syntax.Enclosing
import SolutionSurvey.Proofs.Syntax.Identifier
import SolutionSurvey.Proofs.Text.Lowered
import SolutionSurvey.Proofs.Config.Rereading
