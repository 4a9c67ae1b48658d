import Onboarding.Failure
import Onboarding.Trace

/-! Events: what the parts of the program report while they work, with the level, the origin and the
fields under which a log shows them. -/
namespace Onboarding

inductive Level
  | error
  | warn
  | info
  | debug
  | trace
deriving DecidableEq, Repr

/-- The more a level lets through, the higher its rank; rank zero is left for silence. -/
def Level.rank : Level → Nat
  | .error => 1
  | .warn => 2
  | .info => 3
  | .debug => 4
  | .trace => 5

def Level.name : Level → String
  | .error => "ERROR"
  | .warn => "WARN"
  | .info => "INFO"
  | .debug => "DEBUG"
  | .trace => "TRACE"

inductive FieldValue
  | text (value : String)
  | flag (value : Bool)
deriving DecidableEq, Repr

inductive Event
  /-- The router moves. -/
  | transition (origin destination : String)
  /-- An action without a binding was activated. -/
  | unbound (action : String)
  /-- The target of an action makes no path. -/
  | uncomposable (action error : String)
  /-- The navigator refused. -/
  | refused (action destination reason : String)
  | navigated (action destination : String)
  | pressed (action : String)
  /-- A message of the host could not be read. -/
  | rejected (error : String)
  | traceCompleted (id : TraceId)
  | configured
  | loggingStarted (filter : String) (json : Bool) (base : String)
  /-- A panic, with its text when it has one and the identity in force. -/
  | panicked (text : Option String) (id : Option TraceId)
  /-- A press of the whole program's run was carried out. -/
  | pressHandled (destination : String)
deriving DecidableEq, Repr

namespace Event

def level : Event → Level
  | .transition .. => .debug
  | .unbound .. => .warn
  | .uncomposable .. => .warn
  | .refused .. => .warn
  | .navigated .. => .info
  | .pressed .. => .debug
  | .rejected .. => .warn
  | .traceCompleted .. => .debug
  | .configured => .debug
  | .loggingStarted .. => .info
  | .panicked .. => .error
  | .pressHandled .. => .debug

/-- The part of the program that reports the event, as a log filter names it. -/
def origin : Event → String
  | .transition .. => "lib_router::navigator"
  | .unbound .. | .uncomposable .. | .refused .. | .navigated .. => "lib_router::trigger"
  | .pressed .. | .rejected .. => "setup::page"
  | .traceCompleted .. => "setup::debug::trace_context"
  | .configured => "lib_core::config"
  | .loggingStarted .. | .panicked .. => "setup::debug::logger"
  | .pressHandled .. => "setup"

def message : Event → String
  | .transition .. => "Memory router transition"
  | .unbound .. => "Activation of unbound action"
  | .uncomposable .. => "Navigation target could not be composed"
  | .refused .. => "Navigator reported failure"
  | .navigated .. => "Navigated"
  | .pressed .. => "Button pressed"
  | .rejected .. => "Rejected host message"
  | .traceCompleted .. => "Trace context completed"
  | .configured => "Configuration initialized"
  | .loggingStarted .. => "Logging initialized"
  | .panicked text _ => text.getD "unknown panic message"
  | .pressHandled .. => "Press handled"

/-- What stands for the place of a panic, which is not kept. -/
def panicPlace : String := "<location>"

def details : Event → List (String × FieldValue)
  | .transition origin destination => [("from", .text origin), ("to", .text destination)]
  | .unbound action => [("action", .text action)]
  | .uncomposable action error => [("action", .text action), ("error", .text error)]
  | .refused action destination reason =>
    [("action", .text action), ("to", .text destination), ("reason", .text reason)]
  | .navigated action destination => [("action", .text action), ("to", .text destination)]
  | .pressed action => [("action", .text action)]
  | .rejected error => [("error", .text error)]
  | .traceCompleted id => [("trace_id", .text id.text)]
  | .configured => []
  | .loggingStarted filter json base =>
    [("log_level", .text filter), ("json", .flag json), ("router_base", .text base)]
  | .panicked _ id =>
    (id.toList.map fun id => ("trace_id", FieldValue.text id.text)) ++
      [("location", .text panicPlace)]
  | .pressHandled destination => [("to", .text destination)]

def fields (e : Event) : List (String × FieldValue) := ("message", .text e.message) :: e.details

end Event

structure Record where
  event : Event
  activation : Option TraceId
deriving DecidableEq, Repr

/-- The answer of a part that works on a state and reports what it does. -/
structure Reply (ε σ β : Type) where
  result : β
  state : σ
  reports : List ε

def Reply.map {ε σ β γ : Type} (f : β → γ) (reply : Reply ε σ β) : Reply ε σ γ :=
  ⟨f reply.result, reply.state, reply.reports⟩

def Reply.run {ε σ κ β : Type} (perform : σ → κ → Reply ε σ β) (s : σ) : List κ → Reply ε σ (List β)
  | [] => ⟨[], s, []⟩
  | command :: commands =>
    let reply := perform s command
    let others := run perform reply.state commands
    ⟨reply.result :: others.result, others.state, reply.reports ++ others.reports⟩

theorem Reply.run_append {ε σ κ β : Type} (perform : σ → κ → Reply ε σ β) (s : σ) (xs ys : List κ) :
    run perform s (xs ++ ys) =
      let first := run perform s xs
      let second := run perform first.state ys
      ⟨first.result ++ second.result, second.state, first.reports ++ second.reports⟩ := by
  induction xs generalizing s with
  | nil => rfl
  | cons command commands ih => simp [run, ih]

theorem Reply.length_run {ε σ κ β : Type} (perform : σ → κ → Reply ε σ β) (s : σ) (commands : List κ) :
    (run perform s commands).result.length = commands.length := by
  induction commands generalizing s with
  | nil => rfl
  | cons command commands ih => simp [run, ih]

/-- The answer to a command is the one given where the commands before it lead. -/
theorem Reply.getElem?_run {ε σ κ β : Type} (perform : σ → κ → Reply ε σ β) (s : σ) (before : List κ)
    (command : κ) (after : List κ) :
    (run perform s (before ++ command :: after)).result[before.length]? =
      some (perform (run perform s before).state command).result := by
  simp [run_append, run, ← length_run perform s before]

/-- What each command preserves, a run of such commands preserves. -/
theorem Reply.run_preserves {ε σ κ β : Type} {perform : σ → κ → Reply ε σ β}
    (property : σ → Prop) (admitted : κ → Prop)
    (preserved : ∀ s command, admitted command → property s → property (perform s command).state)
    (s : σ) (commands : List κ) (all : ∀ command ∈ commands, admitted command) (h : property s) :
    property (run perform s commands).state := by
  induction commands generalizing s with
  | nil => exact h
  | cons command commands ih =>
    obtain ⟨first, others⟩ := List.forall_mem_cons.mp all
    exact ih _ others (preserved s command first h)

/-- Where each command preserves a property, all answers of a run are as those given under it. -/
theorem Reply.forall_result_run {ε σ κ β : Type} {perform : σ → κ → Reply ε σ β}
    (property : σ → Prop) (answers : β → Prop)
    (preserved : ∀ s command, property s → property (perform s command).state)
    (answered : ∀ s command, property s → answers (perform s command).result)
    (s : σ) (commands : List κ) (h : property s) :
    ∀ answer ∈ (run perform s commands).result, answers answer := by
  induction commands generalizing s with
  | nil => simp [run]
  | cons command commands ih =>
    exact List.forall_mem_cons.mpr ⟨answered s command h, ih _ (preserved s command h)⟩

end Onboarding
