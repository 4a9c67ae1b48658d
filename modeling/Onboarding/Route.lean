import Onboarding.Failure
import Onboarding.Vocabulary

/-! Routes: the closed vocabularies of the flow's levels, and segments known only when the program
runs. -/
namespace Onboarding

inductive Section
  | setup
  | accountCreation
  | importAccount
  | ledger
deriving DecidableEq, Repr

inductive CreationStep
  | seedPhrase
  | seedPhraseConfirmation
  | password
  | completion
deriving DecidableEq, Repr

inductive ImportStep
  | seedPhrase
  | password
  | completion
deriving DecidableEq, Repr

inductive LedgerStep
  | connect
  | importing
  | completion
deriving DecidableEq, Repr

instance : Vocabulary Section where
  all := [.setup, .accountCreation, .importAccount, .ledger]
  word
    | .setup => "setup"
    | .accountCreation => "accountCreation"
    | .importAccount => "importAccount"
    | .ledger => "ledger"
  label
    | .setup => "Setup"
    | .accountCreation => "AccountCreation"
    | .importAccount => "ImportAccount"
    | .ledger => "Ledger"

instance : Vocabulary CreationStep where
  all := [.seedPhrase, .seedPhraseConfirmation, .password, .completion]
  word
    | .seedPhrase => "seedPhrase"
    | .seedPhraseConfirmation => "seedPhraseConfirmation"
    | .password => "password"
    | .completion => "completion"
  label
    | .seedPhrase => "SeedPhrase"
    | .seedPhraseConfirmation => "SeedPhraseConfirmation"
    | .password => "Password"
    | .completion => "Completion"

instance : Vocabulary ImportStep where
  all := [.seedPhrase, .password, .completion]
  word
    | .seedPhrase => "seedPhrase"
    | .password => "password"
    | .completion => "completion"
  label
    | .seedPhrase => "SeedPhrase"
    | .password => "Password"
    | .completion => "Completion"

instance : Vocabulary LedgerStep where
  all := [.connect, .importing, .completion]
  word
    | .connect => "connect"
    | .importing => "import"
    | .completion => "completion"
  label
    | .connect => "Connect"
    | .importing => "Import"
    | .completion => "Completion"

instance : Described Section := ⟨Vocabulary.label⟩
instance : Described CreationStep := ⟨Vocabulary.label⟩
instance : Described ImportStep := ⟨Vocabulary.label⟩
instance : Described LedgerStep := ⟨Vocabulary.label⟩

structure Segment where
  text : String
  valid : Path.segmentFault? text = none
deriving DecidableEq

def Segment.ofString (text : String) : Except Path.Fault Segment :=
  match h : Path.segmentFault? text with
  | some fault => .error fault
  | none => .ok ⟨text, h⟩

instance : Described Segment := ⟨fun s => Text.variant "Segment" (describe s.text)⟩

inductive Route
  | top (word : Section)
  | creation (word : CreationStep)
  | importing (word : ImportStep)
  | ledger (word : LedgerStep)
  | param (segment : Segment)
deriving DecidableEq

def Route.word : Route → String
  | .top w => Vocabulary.word w
  | .creation w => Vocabulary.word w
  | .importing w => Vocabulary.word w
  | .ledger w => Vocabulary.word w
  | .param s => s.text

instance : Described Route where
  describe
    | .top w => Text.variant "TopLevel" (describe w)
    | .creation w => Text.variant "AccountCreation" (describe w)
    | .importing w => Text.variant "ImportAccount" (describe w)
    | .ledger w => Text.variant "Ledger" (describe w)
    | .param s => Text.variant "Param" (describe s)

end Onboarding
