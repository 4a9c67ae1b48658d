import Onboarding.Environment
import Onboarding.Failure

/-! The configuration: where the router starts, the log filter and the log format. -/
namespace Onboarding

structure Config where
  routerBase : String
  logLevel : String
  logJson : Bool
deriving DecidableEq, Repr

namespace Config

def defaultFilter : String := "setup=info,lib_router=info,warn"

def default : Config := ⟨"/", defaultFilter, false⟩

def baseVariable : String := "SETUP_ROUTER_BASE"
def filterVariable : String := "RUST_LOG"
def jsonVariable : String := "SETUP_LOG_JSON"

/-- The configuration that an environment gives, each field by its own variable. -/
def ofEnvironment (env : Environment) : Config where
  routerBase := env.getOr baseVariable default.routerBase
  logLevel := env.getOr filterVariable default.logLevel
  logJson := env.getFlag jsonVariable default.logJson

inductive Fault
  | relativeBase (base : String)
  | emptySegmentInBase (base : String)
  | blankFilter
deriving DecidableEq, Repr

def Fault.message : Fault → String
  | .relativeBase base => "SETUP_ROUTER_BASE must start with '/', got '" ++ base ++ "'"
  | .emptySegmentInBase base =>
    "SETUP_ROUTER_BASE must not contain empty segments, got '" ++ base ++ "'"
  | .blankFilter => "RUST_LOG cannot be empty"

def Fault.failure (fault : Fault) : Failure := .config fault.message

/-- What is wrong with the place where the router is to start. -/
def baseFault? (base : String) : Option Fault :=
  let cs := base.toList
  if ¬Path.IsAbsolute base then some (.relativeBase base)
  else if 1 < base.utf8ByteSize ∧ (cs.getLast? = some Path.separator ∨ Path.hasDoubled cs) then
    some (.emptySegmentInBase base)
  else none

/-- The first fault of a configuration, the base before the filter. -/
def validate (config : Config) : Except Fault Unit :=
  match baseFault? config.routerBase with
  | some fault => .error fault
  | none =>
    if Text.trim config.logLevel.toList = [] then .error .blankFilter else .ok ()

end Config

instance : Described Config :=
  ⟨fun c => Text.record "Config"
    [("router_base", describe c.routerBase), ("log_level", describe c.logLevel),
     ("log_json", describe c.logJson)]⟩

end Onboarding
