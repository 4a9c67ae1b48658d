import Onboarding.Application
import Onboarding.CommandLine
import Onboarding.Config
import Onboarding.Decimal.Layout
import Onboarding.Decimal.Shortest
import Onboarding.Environment
import Onboarding.Environment.DotEnv
import Onboarding.Event
import Onboarding.Failure
import Onboarding.Json.Fault
import Onboarding.Json.Number
import Onboarding.Json.Read
import Onboarding.Json.Skip
import Onboarding.Json.Text
import Onboarding.Log.Directive
import Onboarding.Log.Filter
import Onboarding.Log.Logger
import Onboarding.Main
import Onboarding.Navigator
import Onboarding.Path
import Onboarding.Program
import Onboarding.Proofs.Accounts
import Onboarding.Proofs.Activations
import Onboarding.Proofs.Bases
import Onboarding.Proofs.Bindings
import Onboarding.Proofs.Encodings
import Onboarding.Proofs.Families
import Onboarding.Proofs.Grammar
import Onboarding.Proofs.Histories
import Onboarding.Proofs.Initialisation
import Onboarding.Proofs.Lines
import Onboarding.Proofs.Literals
import Onboarding.Proofs.LogSettings
import Onboarding.Proofs.Logging
import Onboarding.Proofs.Messages
import Onboarding.Proofs.Names
import Onboarding.Proofs.Navigation
import Onboarding.Proofs.Outcomes
import Onboarding.Proofs.PathFaults
import Onboarding.Proofs.Paths
import Onboarding.Proofs.Presses
import Onboarding.Proofs.Scopes
import Onboarding.Proofs.Sequences
import Onboarding.Proofs.Settings
import Onboarding.Proofs.Steps
import Onboarding.Proofs.Targets
import Onboarding.Route
import Onboarding.Router
import Onboarding.Router.Store
import Onboarding.Screen
import Onboarding.Screen.Action
import Onboarding.Screen.Message
import Onboarding.Sequence
import Onboarding.Text.Alphanumeric
import Onboarding.Text.Blank
import Onboarding.Text.Hex
import Onboarding.Text.Hidden
import Onboarding.Text.Pattern
import Onboarding.Text.Pattern.Reader
import Onboarding.Text.Quoted
import Onboarding.Text.Slice
import Onboarding.Text.Unstyled
import Onboarding.Trace
import Onboarding.Trigger
import Onboarding.Vocabulary
