import Onboarding.Environment.DotEnv
import Onboarding.Log.Logger
import Onboarding.Screen

/-! The running application: its environment, the configuration that is set once, the logger that is started
once, the panic hooks, the trace in force, and the router behind the screen once it is open. A change that
the environment cannot take and a log filter cut within a character crash it. -/
namespace Onboarding

structure Application where
  environment : Environment
  /-- The text of the file of variables, if there is one. -/
  dotEnv : Option String
  /-- Set by the first initialisation that succeeds. -/
  config : Option Config
  /-- Set by the first start of the logger. -/
  logger : Option Logger
  /-- The panic hooks that were put in. Each reports a panic and hands it on to the one before. -/
  hooks : Nat
  trace : Trace
  router : Option History
  lines : List LogLine

/-- What is left of an application that crashed: the lines of its log, and what the crash reported. -/
structure Crash where
  lines : List LogLine
  reports : List Record
deriving DecidableEq, Repr

namespace Application

def start (environment : Environment) (dotEnv : Option String) (supply : Nat) : Application :=
  ⟨environment, dotEnv, none, none, 0, Trace.start supply, none, []⟩

inductive Source
  | fallback
  | configured
deriving DecidableEq, Repr

/-- The configuration in force: the default one until the first successful initialisation. -/
def currentConfig (p : Application) : Config := p.config.getD Config.default

def configSource (p : Application) : Source := if p.config.isSome then .configured else .fallback

def log (p : Application) (records : List Record) : Application :=
  { p with lines := p.lines ++ p.logger.toList.flatMap (·.write records) }

def emit (p : Application) (event : Event) : Application := p.log [⟨event, p.trace.current⟩]

variable {β : Type}

def silently (p : Application) (result : β) : Reply Record Application β := ⟨result, p, []⟩

/-- Answers with what is reported, which the logger in force has written. -/
def reporting (p : Application) (records : List Record) (result : β) : Reply Record Application β :=
  ⟨result, p.log records, records⟩

/-- Panics, within a trace scope or outside one, and is caught. The answer says whether a trace is in force
then. -/
def panic (p : Application) (text : Option String) (inScope : Bool) : Reply Record Application Bool :=
  let inner := if inScope then p.trace.enter else p.trace
  let outer := Trace.leave p.trace inner
  let report : Record := ⟨.panicked text inner.current, inner.current⟩
  { p with trace := outer }.reporting (List.replicate p.hooks report) outer.current.isSome

/-- Crashes: the panic is reported and nothing catches it. -/
def crash (p : Application) (message : String) : Crash :=
  let reply := p.panic (some message) false
  ⟨reply.state.lines, reply.reports⟩

def alreadyInitialized : Failure := .config "Config has already been initialized"

def loaded (p : Application) : Except Environment.Impossible Environment :=
  match p.dotEnv with
  | some text => DotEnv.load text p.environment
  | none => .ok p.environment

def adoptConfig (p : Application) : Reply Record Application (Except Failure Config) :=
  let config := Config.ofEnvironment p.environment
  match config.validate with
  | .error fault => p.silently (.error fault.failure)
  | .ok () =>
    if p.config.isSome then p.silently (.error alreadyInitialized)
    else { p with config := some config }.reporting [⟨.configured, p.trace.current⟩] (.ok config)

def configure (p : Application) : Except Crash (Reply Record Application (Except Failure Config)) :=
  match p.loaded with
  | .error change => .error (p.crash change.message)
  | .ok environment => .ok { p with environment }.adoptConfig

def putHook (p : Application) : Application := { p with hooks := p.hooks + 1 }

def alreadyLogging : Failure :=
  .config ("Logger already initialized: " ++
    "a global default trace dispatcher has already been set")

/-- Starts the logger for a configuration and puts a panic hook in, unless a logger is running. The
filter is read in any case. -/
def startLogger (p : Application) (config : Config) :
    Except Crash (Reply Record Application (Except Failure Unit)) :=
  match Logger.start p.environment config with
  | .error cut => .error (p.crash cut.message)
  | .ok logger =>
    if p.logger.isSome then .ok (p.silently (.error alreadyLogging))
    else
      let record : Record :=
        ⟨.loggingStarted config.logLevel config.logJson config.routerBase, p.trace.current⟩
      let reply : Reply Record Application (Except Failure Unit) :=
        { p with logger := some logger }.reporting [record] (.ok ())
      .ok { reply with state := reply.state.putHook }

def openScreen (p : Application) : Reply Record Application (Except Failure String) :=
  match History.ofConfig p.currentConfig with
  | .error fault => p.silently (.error fault.failure)
  | .ok h => { p with router := some h }.silently (.ok h.location)

def absorb (p : Application) (reply : Reply Record (Session History) β) : Reply Record Application β :=
  { p with router := some reply.state.state, trace := reply.state.trace }.reporting reply.reports
    reply.result

/-- Presses a button; without an open screen there is no answer. -/
def press (p : Application) (action : Action) :
    Option (Reply Record Application (Except Failure String)) :=
  p.router.map fun h => p.absorb (Screen.start.press Navigator.memory action ⟨h, p.trace⟩)

def dispatch (p : Application) (text : String) :
    Option (Reply Record Application (Except Failure String)) :=
  p.router.map fun h => p.absorb (Screen.start.dispatch Navigator.memory text ⟨h, p.trace⟩)

inductive Command
  | readConfig
  | configure
  | setVariable (name : String) (value : ByteArray)
  | unsetVariable (name : String)
  /-- Starts the logger for the given configuration, or for the one in force. -/
  | startLogger (config : Option Config)
  | openScreen
  | press (action : Action)
  | dispatch (text : String)
  /-- The text is that of the payload, if it is one. -/
  | panic (text : Option String) (inScope : Bool)

inductive Answer
  | config (config : Config) (source : Source)
  | configured (result : Except Failure Config)
  | changed
  | started (result : Except Failure Unit)
  | opened (result : Except Failure String)
  | pressed (result : Except Failure String)
  /-- A panic was caught; whether a trace is in force then. -/
  | caught (traced : Bool)
  | closed

def answerPress (p : Application) :
    Option (Reply Record Application (Except Failure String)) → Reply Record Application Answer
  | none => p.silently .closed
  | some reply => reply.map .pressed

def change (p : Application) (changed : Except Environment.Impossible Environment) :
    Except Crash (Reply Record Application Answer) :=
  match changed with
  | .error change => .error (p.crash change.message)
  | .ok environment => .ok ({ p with environment }.silently .changed)

def perform (p : Application) : Command → Except Crash (Reply Record Application Answer)
  | .readConfig => .ok (p.silently (.config p.currentConfig p.configSource))
  | .configure => p.configure.map (·.map .configured)
  | .setVariable name value => p.change (p.environment.store name value)
  | .unsetVariable name => p.change (p.environment.remove name)
  | .startLogger config => (p.startLogger (config.getD p.currentConfig)).map (·.map .started)
  | .openScreen => .ok (p.openScreen.map .opened)
  | .press action => .ok (p.answerPress (p.press action))
  | .dispatch text => .ok (p.answerPress (p.dispatch text))
  | .panic text inScope => .ok ((p.panic text inScope).map .caught)

def run (p : Application) : List Command → Except Crash (Reply Record Application (List Answer))
  | [] => .ok (p.silently [])
  | command :: commands =>
    match p.perform command with
    | .error crash => .error crash
    | .ok reply =>
      (run reply.state commands).map fun others =>
        ⟨reply.result :: others.result, others.state, reply.reports ++ others.reports⟩

end Application
end Onboarding
