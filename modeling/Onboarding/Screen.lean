import Onboarding.Screen.Message
import Onboarding.Trigger

/-! The start screen: a title, a sentence and three buttons. A press activates the button's action
within a trace scope of its own. -/
namespace Onboarding

structure Button where
  caption : String
  action : Action
deriving DecidableEq, Repr

structure Screen where
  trigger : Trigger Action
deriving DecidableEq

structure Session (σ : Type) where
  state : σ
  trace : Trace

namespace Screen

variable {σ : Type}

def title : String := "Create Your Account"

def body : String := "Create an account for your wallet, or connect to Ledger."

def start : Screen :=
  ⟨(Vocabulary.all : List Action).foldl (fun t action => t.bind action action.target) Trigger.empty⟩

def buttons (screen : Screen) : List Button :=
  screen.trigger.actions.map fun action => ⟨action.caption, action⟩

/-- Presses a button. The answer is the text handed to the navigator. -/
def press (screen : Screen) (navigator : Navigator σ) (action : Action) (s : Session σ) :
    Reply Record (Session σ) (Except Failure String) :=
  let inner := s.trace.enter
  let reply := screen.trigger.activate navigator inner.current action s.state
  let outer := Trace.leave s.trace inner
  { result := reply.result
    state := ⟨reply.state, outer⟩
    reports :=
      (Event.pressed action.word :: reply.reports).map (⟨·, inner.current⟩) ++
        [⟨.traceCompleted ⟨s.trace.supply⟩, outer.current⟩] }

def dispatch (screen : Screen) (navigator : Navigator σ) (text : String) (s : Session σ) :
    Reply Record (Session σ) (Except Failure String) :=
  match Json.readWhole Json.readMessage text.toList with
  | .ok message => screen.press navigator message.action s
  | .error fault =>
    { result := .error (fault.failure text.toList)
      state := s
      reports := [⟨.rejected (fault.message text.toList), s.trace.current⟩] }

inductive Command
  | press (action : Action)
  | dispatch (text : String)
  /-- The navigator is called past the screen. -/
  | navigate (goal : String)
deriving DecidableEq, Repr

inductive Answer
  | pressed (result : Except Failure String)
  | navigated (result : Except Refusal Unit)

def perform (screen : Screen) (navigator : Navigator σ) (s : Session σ) :
    Command → Reply Record (Session σ) Answer
  | .press action =>
    let reply := screen.press navigator action s
    ⟨.pressed reply.result, reply.state, reply.reports⟩
  | .dispatch text =>
    let reply := screen.dispatch navigator text s
    ⟨.pressed reply.result, reply.state, reply.reports⟩
  | .navigate goal =>
    let reply := navigator.call s.trace.current goal s.state
    ⟨.navigated reply.result, { s with state := reply.state },
      reply.reports.map (⟨·, s.trace.current⟩)⟩

def run (screen : Screen) (navigator : Navigator σ) (s : Session σ) (commands : List Command) :
    Reply Record (Session σ) (List Answer) :=
  Reply.run (screen.perform navigator) s commands

def render (screen : Screen) : String :=
  let line (b : Button) : String := "  [" ++ b.action.word ++ "]  " ++ b.caption ++ "\n"
  let text := title ++ "\n\n" ++ body ++ "\n\n" ++ String.join (screen.buttons.map line)
  String.ofList (Text.trimEnd text.toList)

end Screen
end Onboarding
