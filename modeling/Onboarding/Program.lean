import Onboarding.CommandLine
import Onboarding.Application

/-! The whole program: arguments, configuration, logger, router, and one request. -/
namespace Onboarding

structure Outcome where
  exit : Nat
  output : String
  report : Option String
  lines : List LogLine
deriving DecidableEq, Repr

namespace Program

def failed (report : String) (lines : List LogLine) : Outcome := ⟨1, "", some ("Error: " ++ report), lines⟩

def indented (text : String) : String :=
  String.ofList (margin ++ text.toList.flatMap fun c => if c = '\n' then c :: margin else [c])
where
  margin : List Char := [' ', ' ', ' ', ' ']

/-- The report on a press that failed: what the user is told, and the cause. -/
def pressReport (failure : Failure) : String :=
  failure.userMessage ++ " (" ++ failure.code ++ ")\n\nCaused by:\n" ++ indented failure.message

def perform (p : Application) (request : Request) : Outcome :=
  let finish (answer : Option (Reply Record Application (Except Failure String))) : Outcome :=
    match answer with
    | none => failed "" p.lines
    | some reply =>
      match reply.result with
      | .error failure => failed (pressReport failure) reply.state.lines
      | .ok destination =>
        let q := reply.state.emit (.pressHandled destination)
        ⟨0, (q.router.map History.location).getD "" ++ "\n", none, q.lines⟩
  match request with
  | .screen => ⟨0, Screen.start.render ++ "\n", none, p.lines⟩
  | .press action => finish (p.press action)
  | .dispatch message => finish (p.dispatch message)

def crashExit : Nat := 101

def crashed (crash : Crash) : Outcome := ⟨crashExit, "", none, crash.lines⟩

/-- Goes on with what a step of the set-up led to, unless it crashed or failed. -/
def proceed {α : Type} (step : Except Crash (Reply Record Application (Except Failure α)))
    (next : α → Application → Outcome) : Outcome :=
  match step with
  | .error crash => crashed crash
  | .ok reply =>
    match reply.result with
    | .error failure => failed failure.message reply.state.lines
    | .ok a => next a reply.state

/-- Sets the application up and carries out a request. -/
def serve (p : Application) (request : Request) : Outcome :=
  proceed p.configure fun config p =>
    proceed (p.startLogger config) fun _ p =>
      proceed (.ok p.openScreen) fun _ p => perform p request

def run (arguments : List String) (p : Application) : Outcome :=
  match CommandLine.read arguments with
  | .error fault => ⟨2, "", some fault.message, []⟩
  | .ok .help => ⟨0, CommandLine.help, none, []⟩
  | .ok (.request request) => serve p request

end Program
end Onboarding
