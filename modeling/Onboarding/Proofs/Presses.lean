import Onboarding.Proofs.Activations
import Onboarding.Screen

/-! What runs of the start screen come to with any navigator. A button that is pressed, by hand or by a
message that can be read, calls the navigator once, within a trace scope of its own; a message that
cannot be read changes nothing. Calls are watched through a journal. -/
namespace Onboarding

def Action.goal : Action → String
  | .createAccount => "/accountCreation/seedPhrase"
  | .importAccount => "/importAccount/seedPhrase"
  | .connectLedger => "ledger"

theorem Action.resolve_target (action : Action) : action.target.resolve = .ok action.goal := by
  cases action <;> rfl

namespace Screen

variable {σ : Type}

theorem target?_start (action : Action) : start.trigger.target? action = some action.target := by
  cases action <;> rfl

/-- The action whose button a command presses. A message that cannot be read presses none. -/
def pressed? : Command → Option Action
  | .press action => some action
  | .dispatch text => (Json.readWhole Json.readMessage text.toList).toOption.map Message.action
  | .navigate _ => none

def presses (command : Command) : Bool := (pressed? command).isSome

/-- The trace after some presses: each spends an identity of the supply and restores the one before. -/
def spend (presses : Nat) (t : Trace) : Trace := { t with supply := t.supply + presses }

def traceAfter (t : Trace) (commands : List Command) : Trace := spend (commands.countP presses) t

def identity (t : Trace) (before : List Command) : TraceId := ⟨(traceAfter t before).supply⟩

/-- What a command calls the navigator with. -/
def request? (t : Trace) : Command → Option (Option TraceId × String)
  | .navigate goal => some (t.current, goal)
  | .press action => some (some ⟨t.supply⟩, action.goal)
  | .dispatch text =>
    (pressed? (.dispatch text)).map fun action => (some ⟨t.supply⟩, action.goal)

def requests (t : Trace) : List Command → List (Option TraceId × String)
  | [] => []
  | command :: commands =>
    (request? t command).toList ++ requests (traceAfter t [command]) commands

section

variable {navigator : Navigator σ} {action : Action} {s : Session σ}

theorem press_refused {refusal : Refusal}
    (refused : (navigator.call (some ⟨s.trace.supply⟩) action.goal s.state).result = .error refusal) :
    start.press navigator action s =
      let reply := navigator.call (some ⟨s.trace.supply⟩) action.goal s.state
      ⟨.error (.navigation refusal), ⟨reply.state, spend 1 s.trace⟩,
        (Event.pressed action.word ::
            (reply.reports ++ [.refused (describe action) action.goal refusal.reason])).map
          (⟨·, some ⟨s.trace.supply⟩⟩) ++ [⟨.traceCompleted ⟨s.trace.supply⟩, s.trace.current⟩]⟩ := by
  rw [press, Trace.current_enter,
    Trigger.activate_refused (target?_start action) action.resolve_target refused]
  rfl

theorem press_navigated
    (done : (navigator.call (some ⟨s.trace.supply⟩) action.goal s.state).result = .ok ()) :
    start.press navigator action s =
      let reply := navigator.call (some ⟨s.trace.supply⟩) action.goal s.state
      ⟨.ok action.goal, ⟨reply.state, spend 1 s.trace⟩,
        (Event.pressed action.word ::
            (reply.reports ++ [.navigated (describe action) action.goal])).map
          (⟨·, some ⟨s.trace.supply⟩⟩) ++ [⟨.traceCompleted ⟨s.trace.supply⟩, s.trace.current⟩]⟩ := by
  rw [press, Trace.current_enter,
    Trigger.activate_navigated (target?_start action) action.resolve_target done]
  rfl

end

/-- However a press ends, the navigator is left as the call left it and the trace scope is closed. -/
theorem state_press (navigator : Navigator σ) (action : Action) (s : Session σ) :
    (start.press navigator action s).state =
      ⟨(navigator.call (some ⟨s.trace.supply⟩) action.goal s.state).state,
        spend 1 s.trace⟩ := by
  cases answer : (navigator.call (some ⟨s.trace.supply⟩) action.goal s.state).result with
  | error refusal => rw [press_refused answer]
  | ok done => rw [press_navigated answer]

theorem dispatch_read {screen : Screen} {text : String} {message : Message}
    (read : Json.readWhole Json.readMessage text.toList = .ok message) (navigator : Navigator σ)
    (s : Session σ) : screen.dispatch navigator text s = screen.press navigator message.action s := by
  rw [dispatch, read]

theorem dispatch_unread {screen : Screen} {text : String} {fault : Json.Fault}
    (unread : Json.readWhole Json.readMessage text.toList = .error fault) (navigator : Navigator σ)
    (s : Session σ) :
    screen.dispatch navigator text s =
      ⟨.error (fault.failure text.toList), s,
        [⟨.rejected (fault.message text.toList), s.trace.current⟩]⟩ := by
  rw [dispatch, unread]

theorem dispatch_of_pressed? {text : String} {action : Action}
    (pressed : pressed? (.dispatch text) = some action) (navigator : Navigator σ) (s : Session σ) :
    start.dispatch navigator text s = start.press navigator action s := by
  rw [pressed?] at pressed
  cases read : Json.readWhole Json.readMessage text.toList with
  | error fault =>
    rw [read] at pressed
    contradiction
  | ok message =>
    rw [read] at pressed
    obtain rfl := Option.some.inj pressed
    exact dispatch_read read navigator s

/-- A command presses a button, is a message that cannot be read, or passes by the screen. -/
theorem pressed?_cases (command : Command) :
    (∃ action, pressed? command = some action) ∨
    (∃ text fault, command = .dispatch text ∧
      Json.readWhole Json.readMessage text.toList = .error fault) ∨
    (∃ goal, command = .navigate goal) := by
  cases command with
  | press action => exact .inl ⟨action, rfl⟩
  | navigate goal => exact .inr (.inr ⟨goal, rfl⟩)
  | dispatch text =>
    cases read : Json.readWhole Json.readMessage text.toList with
    | error fault => exact .inr (.inl ⟨text, fault, rfl, read⟩)
    | ok message => exact .inl ⟨message.action, by rw [pressed?, read]; rfl⟩

theorem pressed?_eq_none_iff {text : String} :
    pressed? (.dispatch text) = none ↔
      ∃ fault, Json.readWhole Json.readMessage text.toList = .error fault := by
  rw [pressed?]
  cases Json.readWhole Json.readMessage text.toList with
  | error fault => exact iff_of_true rfl ⟨fault, rfl⟩
  | ok message => exact iff_of_false (by simp [Except.toOption]) (by simp)

section

variable {command : Command} {action : Action} (pressed : pressed? command = some action)
include pressed

theorem perform_of_pressed? (navigator : Navigator σ) (s : Session σ) :
    start.perform navigator s command =
      let reply := start.press navigator action s
      ⟨.pressed reply.result, reply.state, reply.reports⟩ := by
  cases command with
  | navigate goal => contradiction
  | press other =>
    obtain rfl := Option.some.inj pressed
    rfl
  | dispatch text => rw [perform, dispatch_of_pressed? pressed]

theorem presses_of_pressed? : presses command = true := by
  rw [presses, pressed]
  rfl

theorem request?_of_pressed? (t : Trace) : request? t command = some (some ⟨t.supply⟩, action.goal) := by
  cases command with
  | navigate goal => contradiction
  | press other =>
    obtain rfl := Option.some.inj pressed
    rfl
  | dispatch text =>
    rw [request?, pressed]
    rfl

end

theorem perform_unread {text : String} {fault : Json.Fault}
    (unread : Json.readWhole Json.readMessage text.toList = .error fault) (navigator : Navigator σ)
    (s : Session σ) :
    start.perform navigator s (.dispatch text) =
      ⟨.pressed (.error (fault.failure text.toList)), s,
        [⟨.rejected (fault.message text.toList), s.trace.current⟩]⟩ := by
  rw [perform, dispatch_unread unread]

theorem trace_perform (navigator : Navigator σ) (s : Session σ) (command : Command) :
    (start.perform navigator s command).state.trace = traceAfter s.trace [command] := by
  rcases pressed?_cases command with ⟨action, pressed⟩ | ⟨text, fault, rfl, unread⟩ | ⟨goal, rfl⟩
  · rw [perform_of_pressed? pressed, state_press]
    simp [traceAfter, presses_of_pressed? pressed]
  · rw [perform_unread unread]
    simp [traceAfter, presses, pressed?_eq_none_iff.mpr ⟨fault, unread⟩, spend]
  · rfl

theorem press_noting (navigator : Navigator σ) (j : Navigator.Journal σ) (t : Trace) (action : Action) :
    let reply := start.press navigator action ⟨j.state, t⟩
    start.press navigator.noting action ⟨j, t⟩ =
      ⟨reply.result, ⟨⟨(some ⟨t.supply⟩, action.goal) :: j.calls, reply.state.state⟩, reply.state.trace⟩,
        reply.reports⟩ := by
  cases answer : (navigator.call (some ⟨t.supply⟩) action.goal j.state).result with
  | error refusal =>
    have noted : (navigator.noting.call (some ⟨t.supply⟩) action.goal j).result = .error refusal := answer
    rw [press_refused answer, press_refused noted]
    rfl
  | ok done =>
    have noted : (navigator.noting.call (some ⟨t.supply⟩) action.goal j).result = .ok () := answer
    rw [press_navigated answer, press_navigated noted]
    rfl

/-- A journal adds to its calls what the command calls the navigator with, and the navigator behind it
does what it would do without one. -/
theorem perform_noting (navigator : Navigator σ) (j : Navigator.Journal σ) (t : Trace)
    (command : Command) :
    let reply := start.perform navigator ⟨j.state, t⟩ command
    start.perform navigator.noting ⟨j, t⟩ command =
      ⟨reply.result,
        ⟨⟨(request? t command).toList ++ j.calls, reply.state.state⟩, reply.state.trace⟩,
        reply.reports⟩ := by
  rcases pressed?_cases command with ⟨action, pressed⟩ | ⟨text, fault, rfl, unread⟩ | ⟨goal, rfl⟩
  · rw [perform_of_pressed? pressed, perform_of_pressed? pressed, press_noting,
      request?_of_pressed? pressed]
    rfl
  · rw [perform_unread unread, perform_unread unread, request?,
      pressed?_eq_none_iff.mpr ⟨fault, unread⟩]
    rfl
  · rfl

theorem run_noting (navigator : Navigator σ) (j : Navigator.Journal σ) (t : Trace)
    (commands : List Command) :
    let reply := start.run navigator ⟨j.state, t⟩ commands
    start.run navigator.noting ⟨j, t⟩ commands =
      ⟨reply.result,
        ⟨⟨(requests t commands).reverse ++ j.calls, reply.state.state⟩, reply.state.trace⟩,
        reply.reports⟩ := by
  induction commands generalizing j t with
  | nil => rfl
  | cons command commands ih =>
    have later := trace_perform navigator ⟨j.state, t⟩ command
    simp only [run, Reply.run, perform_noting, requests] at ih ⊢
    rw [ih, ← later]
    cases request? t command <;> simp

theorem traceAfter_append (t : Trace) (before after : List Command) :
    traceAfter t (before ++ after) = traceAfter (traceAfter t before) after := by
  simp [traceAfter, spend, Nat.add_assoc]

theorem trace_run (navigator : Navigator σ) (s : Session σ) (commands : List Command) :
    (start.run navigator s commands).state.trace = traceAfter s.trace commands := by
  induction commands generalizing s with
  | nil => rfl
  | cons command commands ih =>
    have others := ih (start.perform navigator s command).state
    rw [trace_perform, ← traceAfter_append] at others
    exact others

theorem requests_concat (t : Trace) (before : List Command) (command : Command) :
    requests t (before ++ [command]) =
      requests t before ++ (request? (traceAfter t before) command).toList := by
  induction before generalizing t with
  | nil => simp [requests, traceAfter, spend]
  | cons first before ih =>
    rw [List.cons_append, requests, requests, ih, ← traceAfter_append, List.append_assoc]
    rfl

/-- The calls that the navigator gets in a run, the earliest first. -/
def calls (navigator : Navigator σ) (s : Session σ) (commands : List Command) :
    List (Option TraceId × String) :=
  (start.run navigator.noting ⟨.start s.state, s.trace⟩ commands).state.state.calls.reverse

theorem calls_eq (navigator : Navigator σ) (s : Session σ) (commands : List Command) :
    calls navigator s commands = requests s.trace commands := by
  rw [calls, run_noting]
  simp [Navigator.Journal.start]

theorem calls_concat (navigator : Navigator σ) (s : Session σ) (before : List Command)
    (command : Command) :
    calls navigator s (before ++ [command]) =
      calls navigator s before ++ (request? (traceAfter s.trace before) command).toList := by
  rw [calls_eq, calls_eq, requests_concat]

theorem identity_ne {t : Trace} {before between : List Command} {command : Command}
    (pressed : presses command = true) :
    identity t (before ++ command :: between) ≠ identity t before := by
  intro same
  have same := congrArg TraceId.serial same
  simp [identity, traceAfter, spend, pressed] at same

/-- In a run of the start screen every press, by hand or by a message that can be read, calls the
navigator once with what its action's target resolves to, under an identity of its own, and answers with
what the navigator makes of it. A message that cannot be read is answered by a fault and changes nothing.
The identity in force outside is always the same, and the screen answers the rest of a run as it would
answer it alone. -/
theorem run_presses (navigator : Navigator σ) (s : Session σ) :
    (∀ action : Action, start.trigger.target? action = some action.target ∧
      ∃ goal, action.target.resolve = .ok goal) ∧
    (∀ before command after action goal, pressed? command = some action →
      action.target.resolve = .ok goal →
      let id := identity s.trace before
      let reply := navigator.call (some id) goal (start.run navigator s before).state.state
      calls navigator s (before ++ [command]) = calls navigator s before ++ [(some id, goal)] ∧
      (∀ between, identity s.trace (before ++ command :: between) ≠ id) ∧
      ∃ result,
        (start.run navigator s (before ++ command :: after)).result[before.length]? =
          some (.pressed result) ∧
        (reply.result = .ok () → result = .ok goal) ∧
        (∀ refusal, reply.result = .error refusal → result = .error (.navigation refusal))) ∧
    (∀ before text after, pressed? (.dispatch text) = none →
      calls navigator s (before ++ [.dispatch text]) = calls navigator s before ∧
      (start.run navigator s (before ++ [.dispatch text])).state = (start.run navigator s before).state ∧
      ∃ reason, (start.run navigator s (before ++ .dispatch text :: after)).result[before.length]? =
        some (.pressed (.error (.decoding reason)))) ∧
    (∀ before goal, calls navigator s (before ++ [.navigate goal]) =
      calls navigator s before ++ [(s.trace.current, goal)]) ∧
    (∀ commands, (start.run navigator s commands).state.trace.current = s.trace.current) ∧
    (∀ before after, (start.run navigator s (before ++ after)).result =
      (start.run navigator s before).result ++
        (start.run navigator (start.run navigator s before).state after).result) := by
  refine ⟨fun action => ⟨target?_start action, action.goal, action.resolve_target⟩, ?_, ?_, ?_, ?_, ?_⟩
  · intro before command after action goal pressed resolved id reply
    obtain rfl := Except.ok.inj (action.resolve_target.symm.trans resolved)
    refine ⟨?_, ?_, ?_⟩
    · rw [calls_concat, request?_of_pressed? pressed]
      rfl
    · intro between
      exact identity_ne (presses_of_pressed? pressed)
    · refine ⟨(start.press navigator action (start.run navigator s before).state).result, ?_, ?_, ?_⟩
      · rw [run, Reply.getElem?_run, perform_of_pressed? pressed, ← run]
      · intro done
        rw [press_navigated]
        rw [trace_run]
        exact done
      · intro refusal refused
        rw [press_refused]
        rw [trace_run]
        exact refused
  · intro before text after unread
    obtain ⟨fault, failed⟩ := pressed?_eq_none_iff.mp unread
    refine ⟨?_, ?_, "JSON error: " ++ fault.message text.toList, ?_⟩
    · rw [calls_concat, request?, unread]
      exact List.append_nil _
    · rw [run, Reply.run_append, ← run]
      simp only [Reply.run, perform_unread failed]
    · rw [run, Reply.getElem?_run, perform_unread failed]
      rfl
  · intro before goal
    exact calls_concat navigator s before (.navigate goal)
  · intro commands
    rw [trace_run]
    rfl
  · intro before after
    exact congrArg Reply.result (Reply.run_append ..)

def threeCommands : List Command :=
  [.press .connectLedger, .dispatch "\x7b", .dispatch "\x7b\"action\":\"createAccount\"\x7d"]

/-- The navigator goes once and then refuses, naming a place it was not asked for. -/
theorem run_presses_goesOnce :
    let s : Session Nat := ⟨0, .start 0⟩
    calls Trigger.goesOnce s threeCommands =
      [(some ⟨0⟩, "ledger"), (some ⟨1⟩, "/accountCreation/seedPhrase")] ∧
    (start.run Trigger.goesOnce s threeCommands).result[0]? = some (.pressed (.ok "ledger")) ∧
    (∃ reason, (start.run Trigger.goesOnce s threeCommands).result[1]? =
      some (.pressed (.error (.decoding reason)))) ∧
    (start.run Trigger.goesOnce s threeCommands).result[2]? =
      some (.pressed (.error (.navigation ⟨"elsewhere", "busy"⟩))) := by
  intro s
  obtain ⟨_, pressing, unread, _⟩ := run_presses Trigger.goesOnce s
  have broken : pressed? (.dispatch "\x7b") = none := by decide +kernel
  have whole : pressed? (.dispatch "\x7b\"action\":\"createAccount\"\x7d") = some .createAccount := by
    decide +kernel
  obtain ⟨first, _, went, answered, navigated, _⟩ :=
    pressing [] (.press .connectLedger) (threeCommands.drop 1) .connectLedger "ledger" rfl rfl
  obtain ⟨second, kept, faulty⟩ := unread (threeCommands.take 1) "\x7b" (threeCommands.drop 2) broken
  obtain ⟨third, _, refused, last, _, answer⟩ :=
    pressing (threeCommands.take 2) _ [] .createAccount "/accountCreation/seedPhrase" whole rfl
  refine ⟨?_, ?_, faulty, ?_⟩
  · have used : identity s.trace (threeCommands.take 2) = ⟨1⟩ := by decide +kernel
    have early : calls Trigger.goesOnce s (threeCommands.take 2) = [(some ⟨0⟩, "ledger")] :=
      second.trans first
    rw [used, early] at third
    exact third
  · rw [navigated rfl] at answered
    exact answered
  · have moved : (start.run Trigger.goesOnce s (threeCommands.take 2)).state.state = 1 :=
      congrArg Session.state kept
    rw [answer ⟨"elsewhere", "busy"⟩ (by rw [moved]; rfl)] at last
    exact last

end Screen
end Onboarding
