import Walkthrough.Main
import Walkthrough.Settings.Json
import Walkthrough.Walk.Action
import Walkthrough.Proofs.Answering
import Walkthrough.Proofs.Building
import Walkthrough.Proofs.Reached
import Walkthrough.Proofs.Route
import Walkthrough.Proofs.CurrentStop
import Walkthrough.Proofs.Muting
import Walkthrough.Proofs.Wording
import Walkthrough.Proofs.Playing
import Walkthrough.Proofs.Ledger
import Walkthrough.Proofs.Moving
import Walkthrough.Proofs.Trimming
import Walkthrough.Proofs.Questions
import Walkthrough.Proofs.FullAnswers
import Walkthrough.Proofs.Escaping
import Walkthrough.Proofs.Tokens
import Walkthrough.Proofs.Writing
import Walkthrough.Proofs.Attributes
import Walkthrough.Proofs.BrokenTokens
import Walkthrough.Proofs.Truncation
import Walkthrough.Proofs.RecordsReadBack
import Walkthrough.Proofs.Calendar
import Walkthrough.Proofs.Delimiting
import Walkthrough.Proofs.Resuming
import Walkthrough.Proofs.InsideTrees
import Walkthrough.Proofs.HiddenAnswers
import Walkthrough.Proofs.OptionRoutes
import Walkthrough.Proofs.EnteredNumbers
import Walkthrough.Proofs.LeftBehind
import Walkthrough.Proofs.LinkTargets
import Walkthrough.Proofs.Grading
import Walkthrough.Proofs.Thresholds
import Walkthrough.Proofs.GoingBack
import Walkthrough.Proofs.Loosening
import Walkthrough.Proofs.Speaking
import Walkthrough.Proofs.Declarations
import Walkthrough.Proofs.Nesting
import Walkthrough.Proofs.CharacterData
import Walkthrough.Proofs.Hinting
import Walkthrough.Proofs.Ticking
import Walkthrough.Proofs.Opening
import Walkthrough.Proofs.Collecting
import Walkthrough.Proofs.FoundMedia
import Walkthrough.Proofs.NameComponents
import Walkthrough.Proofs.LineBreaks
import Walkthrough.Proofs.SettingsReadBack
