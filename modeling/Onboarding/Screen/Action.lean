import Onboarding.Sequence

/-! The actions that the buttons of the start screen carry. -/
namespace Onboarding

inductive Action
  | createAccount
  | importAccount
  | connectLedger
deriving DecidableEq, Repr

instance : Vocabulary Action where
  all := [.createAccount, .importAccount, .connectLedger]
  word
    | .createAccount => "createAccount"
    | .importAccount => "importAccount"
    | .connectLedger => "connectLedger"
  label
    | .createAccount => "CreateAccount"
    | .importAccount => "ImportAccount"
    | .connectLedger => "ConnectLedger"

instance : Described Action := ⟨Vocabulary.label⟩

namespace Action

def word (action : Action) : String := Vocabulary.word action

def caption : Action → String
  | .createAccount => "Create an account"
  | .importAccount => "Import an account"
  | .connectLedger => "Connect to Ledger"

def target : Action → Target
  | .createAccount => .path ((Sequence.start (.top .accountCreation)).push (.creation .seedPhrase))
  | .importAccount => .path ((Sequence.start (.top .importAccount)).push (.importing .seedPhrase))
  | .connectLedger => .terminal .ledger

def ofString (w : String) : Except Failure Action :=
  match Vocabulary.find? w with
  | some action => .ok action
  | none => .error (.unknownAction w)

end Action
end Onboarding
