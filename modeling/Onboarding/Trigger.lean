import Onboarding.Navigator
import Onboarding.Sequence

/-! Triggers: actions bound to targets, in the order of their first binding. An activation calls the
navigator at most once. -/
namespace Onboarding

structure Binding (α : Type) where
  action : α
  target : Target
deriving DecidableEq

structure Trigger (α : Type) where
  bindings : List (Binding α)
deriving DecidableEq

namespace Trigger

variable {α σ : Type}

def empty : Trigger α := ⟨[]⟩

/-- The bindings after one more: an action that is bound keeps its place and gets the new target. -/
def rebind [BEq α] (action : α) (target : Target) : List (Binding α) → List (Binding α)
  | [] => [⟨action, target⟩]
  | b :: others =>
    if b.action == action then ⟨b.action, target⟩ :: others else b :: rebind action target others

def bind [BEq α] (t : Trigger α) (action : α) (target : Target) : Trigger α :=
  ⟨rebind action target t.bindings⟩

def actions (t : Trigger α) : List α := t.bindings.map Binding.action

def target? [BEq α] (t : Trigger α) (action : α) : Option Target :=
  (t.bindings.find? fun b => b.action == action).map Binding.target

/-- Calls the navigator with the text that the action's target resolves to, and answers with it. -/
def activate [BEq α] [Described α] (t : Trigger α) (navigator : Navigator σ) (id : Option TraceId)
    (action : α) (state : σ) : Reply Event σ (Except Failure String) :=
  match t.target? action with
  | none => ⟨.error (.unknownAction (describe action)), state, [.unbound (describe action)]⟩
  | some target =>
    match target.resolve with
    | .error fault =>
      ⟨.error fault.failure, state, [.uncomposable (describe action) fault.failure.message]⟩
    | .ok goal =>
      let reply := navigator.call id goal state
      match reply.result with
      | .error refusal =>
        ⟨.error (.navigation refusal), reply.state,
          reply.reports ++ [.refused (describe action) goal refusal.reason]⟩
      | .ok () => ⟨.ok goal, reply.state, reply.reports ++ [.navigated (describe action) goal]⟩

inductive Command (α : Type)
  | bind (action : α) (target : Target)
  | activate (action : α)
  /-- The navigator is called past the trigger. -/
  | navigate (goal : String)

inductive Answer
  | bound
  | activated (result : Except Failure String)
  | navigated (result : Except Refusal Unit)

def perform [BEq α] [Described α] (navigator : Navigator σ) (s : Trigger α × σ) :
    Command α → Reply Event (Trigger α × σ) Answer
  | .bind action target => ⟨.bound, (s.1.bind action target, s.2), []⟩
  | .activate action =>
    let reply := s.1.activate navigator none action s.2
    ⟨.activated reply.result, (s.1, reply.state), reply.reports⟩
  | .navigate goal =>
    let reply := navigator.call none goal s.2
    ⟨.navigated reply.result, (s.1, reply.state), reply.reports⟩

def run [BEq α] [Described α] (navigator : Navigator σ) (s : Trigger α × σ)
    (commands : List (Command α)) : Reply Event (Trigger α × σ) (List Answer) :=
  Reply.run (perform navigator) s commands

end Trigger

instance {α : Type} [Described α] : Described (Binding α) :=
  ⟨fun b => Text.record "Binding" [("action", describe b.action), ("target", describe b.target)]⟩

instance {α : Type} [Described α] : Described (Trigger α) :=
  ⟨fun t => Text.openRecord "NavigationTrigger" [("bindings", describe t.bindings)]⟩

end Onboarding
