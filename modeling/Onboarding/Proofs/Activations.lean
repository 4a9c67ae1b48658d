import Onboarding.Trigger

/-! What runs of a trigger come to with any navigator. A command asks the navigator for one text or for
none; which, is decided by the bindings made before it and by nothing that was activated. Calls are
watched through a journal, which changes neither the navigator's answers nor its states. -/
namespace Onboarding.Trigger

variable {α σ : Type} [BEq α]

/-- The trigger after a command. Only bindings change it. -/
def follow (t : Trigger α) : Command α → Trigger α
  | .bind action target => t.bind action target
  | .activate _ => t
  | .navigate _ => t

/-- The trigger that the bindings among some commands make. -/
def bound (commands : List (Command α)) : Trigger α := commands.foldl follow empty

/-- The text that a command asks the navigator for. -/
def request? (t : Trigger α) : Command α → Option String
  | .bind _ _ => none
  | .activate action => (t.target? action).bind fun target => target.resolve.toOption
  | .navigate goal => some goal

def requests (t : Trigger α) : List (Command α) → List String
  | [] => []
  | command :: commands => (t.request? command).toList ++ requests (t.follow command) commands

def latest? (action : α) (commands : List (Command α)) : Option Target :=
  commands.reverse.findSome? fun
    | .bind other target => if other == action then some target else none
    | _ => none

/-- When equality is an equivalence, a binding is found again under every equal action, and hides none
of the others. -/
theorem target?_bind [EquivBEq α] (t : Trigger α) (action other : α) (target : Target) :
    (t.bind other target).target? action =
      if other == action then some target else t.target? action := by
  obtain ⟨bindings⟩ := t
  simp only [bind, target?]
  induction bindings with
  | nil => by_cases same : other == action <;> simp [rebind, same]
  | cons b bindings ih =>
    by_cases replaced : b.action == other
    · have agree : (b.action == action) = (other == action) := BEq.congr_left replaced
      by_cases same : other == action <;> simp [rebind, replaced, agree, same]
    · by_cases found : b.action == action
      · -- The binding that stays in front equals the action, so the new one cannot.
        have apart : ¬other == action := by
          intro same
          exact replaced (BEq.trans found (BEq.symm same))
        simp [rebind, replaced, found, apart]
      · simpa [rebind, replaced, found] using ih

theorem target?_foldl_follow [EquivBEq α] (t : Trigger α) (commands : List (Command α)) (action : α) :
    (commands.foldl follow t).target? action = (latest? action commands).or (t.target? action) := by
  induction commands generalizing t with
  | nil => rfl
  | cons command commands ih =>
    rw [List.foldl_cons, ih, latest?, latest?, List.reverse_cons, List.findSome?_append, Option.or_assoc]
    congr 1
    cases command with
    | bind other target =>
      rw [follow, target?_bind]
      by_cases same : other == action <;> simp [same]
    | activate other => rfl
    | navigate goal => rfl

/-- An action has no target, one that resolves to no text, or one that resolves. -/
theorem target?_cases (t : Trigger α) (action : α) :
    t.target? action = none ∨
    (∃ target fault, t.target? action = some target ∧ target.resolve = .error fault) ∨
    (∃ target goal, t.target? action = some target ∧ target.resolve = .ok goal) := by
  cases t.target? action with
  | none => exact .inl rfl
  | some target =>
    cases resolved : target.resolve with
    | error fault => exact .inr (.inl ⟨target, fault, rfl, resolved⟩)
    | ok goal => exact .inr (.inr ⟨target, goal, rfl, resolved⟩)

section

variable [Described α]

theorem activate_unbound {t : Trigger α} {action : α} (unbound : t.target? action = none)
    (navigator : Navigator σ) (id : Option TraceId) (state : σ) :
    t.activate navigator id action state =
      ⟨.error (.unknownAction (describe action)), state, [.unbound (describe action)]⟩ := by
  simp only [activate, unbound]

theorem activate_unresolved {t : Trigger α} {action : α} {target : Target} {fault : Path.Fault}
    (found : t.target? action = some target) (resolved : target.resolve = .error fault)
    (navigator : Navigator σ) (id : Option TraceId) (state : σ) :
    t.activate navigator id action state =
      ⟨.error fault.failure, state, [.uncomposable (describe action) fault.failure.message]⟩ := by
  simp only [activate, found, resolved]

theorem activate_refused {t : Trigger α} {action : α} {target : Target} {goal : String}
    {navigator : Navigator σ} {id : Option TraceId} {state : σ} {refusal : Refusal}
    (found : t.target? action = some target) (resolved : target.resolve = .ok goal)
    (refused : (navigator.call id goal state).result = .error refusal) :
    t.activate navigator id action state =
      ⟨.error (.navigation refusal), (navigator.call id goal state).state,
        (navigator.call id goal state).reports ++ [.refused (describe action) goal refusal.reason]⟩ := by
  simp only [activate, found, resolved, refused]

theorem activate_navigated {t : Trigger α} {action : α} {target : Target} {goal : String}
    {navigator : Navigator σ} {id : Option TraceId} {state : σ}
    (found : t.target? action = some target) (resolved : target.resolve = .ok goal)
    (done : (navigator.call id goal state).result = .ok ()) :
    t.activate navigator id action state =
      ⟨.ok goal, (navigator.call id goal state).state,
        (navigator.call id goal state).reports ++ [.navigated (describe action) goal]⟩ := by
  simp only [activate, found, resolved, done]

/-- A journal adds to its calls what the command asks for, and the navigator behind it does what it
would do without one. -/
theorem perform_noting (navigator : Navigator σ) (t : Trigger α) (j : Navigator.Journal σ)
    (command : Command α) :
    perform navigator.noting (t, j) command =
      ⟨(perform navigator (t, j.state) command).result,
        (t.follow command, ⟨(t.request? command).toList.map (none, ·) ++ j.calls,
          (perform navigator (t, j.state) command).state.2⟩),
        (perform navigator (t, j.state) command).reports⟩ := by
  cases command with
  | bind action target => rfl
  | navigate goal => rfl
  | activate action =>
    simp only [perform, follow, request?]
    rcases target?_cases t action with unbound | ⟨target, fault, found, resolved⟩ |
      ⟨target, goal, found, resolved⟩
    · simp [activate_unbound unbound, unbound]
    · simp [activate_unresolved found resolved, found, resolved, Except.toOption]
    · have asked : target.resolve.toOption = some goal := by rw [resolved, Except.toOption]
      cases answer : (navigator.call none goal j.state).result with
      | error refusal =>
        have noted : (navigator.noting.call none goal j).result = .error refusal := answer
        rw [activate_refused found resolved answer, activate_refused found resolved noted]
        simp [Navigator.noting, found, asked]
      | ok done =>
        have noted : (navigator.noting.call none goal j).result = .ok () := answer
        rw [activate_navigated found resolved answer, activate_navigated found resolved noted]
        simp [Navigator.noting, found, asked]

theorem run_noting (navigator : Navigator σ) (t : Trigger α) (j : Navigator.Journal σ)
    (commands : List (Command α)) :
    run navigator.noting (t, j) commands =
      ⟨(run navigator (t, j.state) commands).result,
        (commands.foldl follow t, ⟨(requests t commands).reverse.map (none, ·) ++ j.calls,
          (run navigator (t, j.state) commands).state.2⟩),
        (run navigator (t, j.state) commands).reports⟩ := by
  induction commands generalizing t j with
  | nil => rfl
  | cons command commands ih =>
    have next : (t.follow command, (perform navigator (t, j.state) command).state.2) =
        (perform navigator (t, j.state) command).state := by
      cases command <;> rfl
    simp only [run, Reply.run, perform_noting] at ih ⊢
    rw [ih, ← next]
    cases asked : t.request? command <;> simp [requests, asked]

theorem bindings_run (navigator : Navigator σ) (t : Trigger α) (state : σ)
    (commands : List (Command α)) :
    (run navigator (t, state) commands).state.1 = commands.foldl follow t := by
  induction commands generalizing t state with
  | nil => rfl
  | cons command commands ih => cases command <;> exact ih _ _

/-- The answers after some commands depend on them through the bindings and the navigator's state. -/
theorem drop_result_run (navigator : Navigator σ) (state : σ) (before after : List (Command α)) :
    (run navigator (empty, state) (before ++ after)).result.drop before.length =
      (run navigator (bound before, (run navigator (empty, state) before).state.2) after).result := by
  have here : (run navigator (empty, state) before).state =
      (bound before, (run navigator (empty, state) before).state.2) := by
    rw [bound, ← bindings_run navigator empty state before]
  rw [← here]
  simp only [run, Reply.run_append]
  apply List.drop_left'
  exact Reply.length_run ..

/-- The texts asked for in a run from an empty trigger, the answer of every activation, and what alone
an activation depends on: the bindings before it and the state in which the navigator is. -/
theorem run_requests (navigator : Navigator σ) (state : σ) :
    (∀ commands,
      (run navigator.noting (empty, .start state) commands).state.2.targets =
        requests (empty : Trigger α) commands ∧
      (run navigator.noting (empty, .start state) commands).result =
        (run navigator (empty, state) commands).result ∧
      (run navigator.noting (empty, .start state) commands).state.2.state =
        (run navigator (empty, state) commands).state.2) ∧
    (∀ commands, (run navigator ((empty : Trigger α), state) commands).state.1 = bound commands) ∧
    (∀ (before : List (Command α)) (action : α) (after : List (Command α)),
      ∃ result,
        (run navigator (empty, state) (before ++ .activate action :: after)).result[before.length]? =
          some (.activated result) ∧
        ((bound before).target? action = none → result = .error (.unknownAction (describe action))) ∧
        (∀ target, (bound before).target? action = some target →
          (∀ fault, target.resolve = .error fault → result = .error fault.failure) ∧
          (∀ goal, target.resolve = .ok goal →
            (∀ refusal,
              (navigator.call none goal (run navigator (empty, state) before).state.2).result =
                .error refusal → result = .error (.navigation refusal)) ∧
            ((navigator.call none goal (run navigator (empty, state) before).state.2).result = .ok () →
              result = .ok goal)))) ∧
    (∀ (before other after : List (Command α)) (start : σ), bound before = bound other →
      (run navigator (empty, state) before).state.2 = (run navigator (empty, start) other).state.2 →
      (run navigator (empty, state) (before ++ after)).result.drop before.length =
        (run navigator (empty, start) (other ++ after)).result.drop other.length) ∧
    (EquivBEq α → ∀ (before : List (Command α)) (action : α),
      (bound before).target? action = latest? action before) := by
  refine ⟨?_, bindings_run navigator empty state, ?_, ?_, ?_⟩
  · intro commands
    rw [run_noting]
    simp [Navigator.Journal.targets, Navigator.Journal.start, Function.comp_def]
  · intro before action after
    refine ⟨((bound before).activate navigator none action
      (run navigator (empty, state) before).state.2).result, ?_, ?_, ?_⟩
    · rw [run, Reply.getElem?_run, ← run, perform, bindings_run, bound]
    · intro unbound
      rw [activate_unbound unbound]
    · intro target found
      refine ⟨fun fault resolved => ?_,
        fun goal resolved => ⟨fun refusal refused => ?_, fun done => ?_⟩⟩
      · rw [activate_unresolved found resolved]
      · rw [activate_refused found resolved refused]
      · rw [activate_navigated found resolved done]
  · intro before other after start same alike
    rw [drop_result_run, drop_result_run, same, alike]
  · intro equivalence before action
    rw [bound, target?_foldl_follow]
    exact Option.or_none

/-- A navigator that goes once and then refuses, naming a place it was not asked for. -/
def goesOnce : Navigator Nat :=
  ⟨fun _ _ calls => ⟨if calls = 0 then .ok () else .error ⟨"elsewhere", "busy"⟩, calls + 1, []⟩⟩

def rebinding : List (Command String) :=
  [.activate "ledger", .bind "ledger" (.terminal .ledger), .bind "broken" (.segments ["a", "", "b"]),
    .activate "broken", .activate "ledger", .bind "ledger" (.terminal .setup), .activate "ledger"]

/-- An action without a target, one whose target makes no path, and one that goes, is bound again, and
is then refused. -/
theorem run_requests_goesOnce :
    (run goesOnce.noting (empty, .start 0) rebinding).state.2.targets = ["ledger", "setup"] ∧
    let answers := (run goesOnce (empty, 0) rebinding).result
    answers[0]? = some (.activated (.error (.unknownAction (describe "ledger")))) ∧
    answers[3]? = some (.activated (.error (.invalidArgument "route segment cannot be empty"))) ∧
    answers[4]? = some (.activated (.ok "ledger")) ∧
    answers[6]? = some (.activated (.error (.navigation ⟨"elsewhere", "busy"⟩))) := by
  obtain ⟨asked, _, answered, _, latest⟩ := @run_requests String Nat _ _ goesOnce 0
  have target (before : List (Command String)) (action : String) := latest inferInstance before action
  refine ⟨(asked rebinding).1.trans rfl, ?_, ?_, ?_, ?_⟩
  · obtain ⟨result, held, unbound, _⟩ := answered [] "ledger" (rebinding.drop 1)
    rw [unbound rfl] at held
    exact held
  · obtain ⟨result, held, _, found⟩ := answered (rebinding.take 3) "broken" (rebinding.drop 4)
    rw [(found _ (target _ _)).1 _ rfl] at held
    exact held
  · obtain ⟨result, held, _, found⟩ := answered (rebinding.take 4) "ledger" (rebinding.drop 5)
    rw [((found _ (target _ _)).2 "ledger" rfl).2 rfl] at held
    exact held
  · obtain ⟨result, held, _, found⟩ := answered (rebinding.take 6) "ledger" []
    rw [((found _ (target _ _)).2 "setup" rfl).1 _ rfl] at held
    exact held

end

end Onboarding.Trigger
