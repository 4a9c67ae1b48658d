import Onboarding.Path
import Onboarding.Text.Quoted

/-! Failures as they are reported to the user and to the host. -/
namespace Onboarding

structure Refusal where
  target : String
  reason : String
deriving DecidableEq, Repr

def Refusal.message (refusal : Refusal) : String :=
  "Navigation to '" ++ refusal.target ++ "' failed: " ++ refusal.reason

inductive Failure
  | invalidArgument (reason : String)
  | navigation (refusal : Refusal)
  | unknownAction (action : String)
  | config (reason : String)
  | decoding (reason : String)
deriving DecidableEq, Repr

def Failure.code : Failure → String
  | .invalidArgument _ => "InvalidArgument"
  | .navigation _ => "NavigationFailure"
  | .unknownAction _ => "UnknownAction"
  | .config _ => "Config"
  | .decoding _ => "Decoding"

/-- The full account, for logs and reports. -/
def Failure.message : Failure → String
  | .invalidArgument reason => "Invalid argument: " ++ reason
  | .navigation refusal => refusal.message
  | .unknownAction action => "Unknown action: " ++ action
  | .config reason => "Configuration error: " ++ reason
  | .decoding reason => "Decoding error: " ++ reason

def Failure.userMessage : Failure → String
  | .invalidArgument reason => reason
  | .navigation refusal => "Could not open '" ++ refusal.target ++ "'. Please try again."
  | .unknownAction action => "Nothing is bound to '" ++ action ++ "'"
  | .config _ => "An internal error occurred"
  | .decoding _ => "The request could not be understood"

/-- A path fault is the fault of the argument it was found in. -/
def Path.Fault.failure (fault : Path.Fault) : Failure := .invalidArgument fault.message

instance : Described Refusal :=
  ⟨fun r => Text.record "NavigationFailure"
    [("target", describe r.target), ("reason", describe r.reason)]⟩

instance : Described Failure where
  describe
    | .invalidArgument reason => Text.variant "InvalidArgument" (describe reason)
    | .navigation refusal => Text.variant "Navigation" (describe refusal)
    | .unknownAction action => Text.variant "UnknownAction" (describe action)
    | .config reason => Text.variant "Config" (describe reason)
    | .decoding reason => Text.variant "Decoding" (describe reason)

end Onboarding
