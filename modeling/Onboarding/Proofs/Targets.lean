import Onboarding.Proofs.Activations
import Onboarding.Proofs.Navigation

/-! What targets resolve to, and where the router kept in memory then goes. Every text that a target
resolves to is one that the router accepts, so over this router an activation is never refused. -/
namespace Onboarding

theorem Section.isSegment_word (w : Section) : Path.IsSegment (Vocabulary.word w) := by
  cases w <;> decide

namespace History

theorem isTarget_of_isSegment {text : String} (segment : Path.IsSegment text) :
    ¬Path.IsAbsolute text ∧ IsTarget text := by
  have relative : ¬Path.IsAbsolute text := fun absolute => segment.2 (List.mem_of_head? absolute)
  have child : Path.split ("/" ++ text) = .ok [text] := by
    simpa using Path.split_joined (List.cons_ne_nil text []) (by simpa using segment)
  exact ⟨relative, .inr (.inr ⟨relative, [text], child⟩)⟩

theorem isTarget_of_compose {segments : List String} {path : String}
    (composed : Path.compose segments = .ok path) : Path.IsAbsolute path ∧ IsTarget path := by
  have found : Path.split path = .ok segments :=
    Path.split_eq_ok_iff.mpr (Path.compose_eq_ok_iff.mp composed)
  refine ⟨?_, .inr (.inl ⟨segments, found⟩)⟩
  apply Decidable.byContradiction
  intro relative
  rw [Path.split_relative relative] at found
  contradiction

end History

/-- Where the router goes from a location with what a target resolves to. -/
def Target.place (location goal : String) : Target → String
  | .path _ => goal
  | .segments _ => goal
  | .terminal _ => if location = "/" then "/" ++ goal else location ++ "/" ++ goal

theorem Target.accepted {target : Target} {goal : String} (resolved : target.resolve = .ok goal)
    (location : String) :
    History.IsTarget goal ∧ History.destination location goal = target.place location goal := by
  cases target with
  | path sequence =>
    obtain ⟨absolute, accepted⟩ := History.isTarget_of_compose resolved
    exact ⟨accepted, if_pos absolute⟩
  | segments words =>
    obtain ⟨absolute, accepted⟩ := History.isTarget_of_compose resolved
    exact ⟨accepted, if_pos absolute⟩
  | terminal word =>
    obtain rfl := Except.ok.inj resolved
    obtain ⟨relative, accepted⟩ := History.isTarget_of_isSegment word.isSegment_word
    exact ⟨accepted, if_neg relative⟩

@[simp] theorem Navigator.call_memory (id : Option TraceId) (goal : String) (h : History) :
    memory.call id goal h = h.navigate goal := rfl

namespace Trigger

variable {α : Type} [BEq α] [Described α]

/-- The router takes every text that a target resolves to, and moves once. -/
theorem activate_memory {base : String} {h : History} (reached : History.Reached base h)
    {t : Trigger α} {action : α} {target : Target} {goal : String}
    (found : t.target? action = some target) (resolved : target.resolve = .ok goal)
    (id : Option TraceId) :
    t.activate .memory id action h =
      ⟨.ok goal, ⟨h.entries ++ [target.place h.location goal]⟩,
        [.transition h.location (target.place h.location goal), .navigated (describe action) goal]⟩ := by
  obtain ⟨accepted, lands⟩ := target.accepted resolved h.location
  have went := History.navigate_of_isTarget reached.invariant.isLocation accepted
  have done : (Navigator.memory.call id goal h).result = .ok () := by
    rw [Navigator.call_memory, went]
  rw [activate_navigated found resolved done, Navigator.call_memory, went, lands]
  rfl

theorem activate_reached {base : String} {h : History} (reached : History.Reached base h)
    (t : Trigger α) (id : Option TraceId) (action : α) :
    History.Reached base (t.activate .memory id action h).state := by
  rcases t.target?_cases action with unbound | ⟨target, fault, found, resolved⟩ |
    ⟨target, goal, found, resolved⟩
  · rw [activate_unbound unbound]
    exact reached
  · rw [activate_unresolved found resolved]
    exact reached
  · have moved := reached.navigate goal
    obtain ⟨accepted, lands⟩ := target.accepted resolved h.location
    rw [History.navigate_of_isTarget reached.invariant.isLocation accepted, lands] at moved
    rw [activate_memory reached found resolved]
    exact moved

theorem perform_reached {base : String} {s : Trigger α × History} (reached : History.Reached base s.2)
    (command : Command α) : History.Reached base (perform .memory s command).state.2 := by
  cases command with
  | bind action target => exact reached
  | activate action => exact activate_reached reached s.1 none action
  | navigate goal => exact reached.navigate goal

theorem activate_memory_error {base : String} {h : History} (reached : History.Reached base h)
    {t : Trigger α} {id : Option TraceId} {action : α} {failure : Failure}
    (failed : (t.activate .memory id action h).result = .error failure) :
    (t.activate .memory id action h).state = h ∧
      ((t.target? action = none ∧ failure = .unknownAction (describe action)) ∨
        ∃ target fault, t.target? action = some target ∧ target.resolve = .error fault ∧
          failure = .invalidArgument fault.message) := by
  rcases t.target?_cases action with unbound | ⟨target, fault, found, resolved⟩ |
    ⟨target, goal, found, resolved⟩
  · rw [activate_unbound unbound] at failed ⊢
    exact ⟨rfl, .inl ⟨unbound, (Except.error.inj failed).symm⟩⟩
  · rw [activate_unresolved found resolved] at failed ⊢
    exact ⟨rfl, .inr ⟨target, fault, found, resolved, (Except.error.inj failed).symm⟩⟩
  · rw [activate_memory reached found resolved] at failed
    contradiction

theorem perform_not_refused {base : String} {s : Trigger α × History}
    (reached : History.Reached base s.2) (command : Command α) (refusal : Refusal) :
    (perform .memory s command).result ≠ .activated (.error (.navigation refusal)) := by
  cases command with
  | bind action target => exact Answer.noConfusion
  | navigate goal => exact Answer.noConfusion
  | activate action =>
    intro refused
    obtain ⟨_, ⟨_, other⟩ | ⟨_, _, _, _, other⟩⟩ :=
      activate_memory_error reached (Answer.activated.inj refused)
    · contradiction
    · contradiction

/-- Over a router kept in memory an activation succeeds as soon as its target resolves, and otherwise
leaves the history; a refusal by the router is never its answer, however long triggers are run over it. -/
theorem activate_opens {base : String} {h : History} (reached : History.Reached base h) (t : Trigger α) :
    (∀ id action target goal, t.target? action = some target → target.resolve = .ok goal →
      (t.activate .memory id action h).result = .ok goal ∧
      (t.activate .memory id action h).state.entries = h.entries ++
        [match target with
          | .path _ => goal
          | .segments _ => goal
          | .terminal _ => if h.location = "/" then "/" ++ goal else h.location ++ "/" ++ goal]) ∧
    (∀ id action failure, (t.activate .memory id action h).result = .error failure →
      (t.activate .memory id action h).state = h ∧
      ((t.target? action = none ∧ failure = .unknownAction (describe action)) ∨
        ∃ target fault, t.target? action = some target ∧ target.resolve = .error fault ∧
          failure = .invalidArgument fault.message)) ∧
    (∀ commands, History.Reached base (run .memory (t, h) commands).state.2 ∧
      ∀ refusal, .activated (.error (.navigation refusal)) ∉ (run .memory (t, h) commands).result) := by
  refine ⟨?_, fun id action failure => activate_memory_error reached, fun commands => ⟨?_, ?_⟩⟩
  · intro id action target goal found resolved
    rw [activate_memory reached found resolved]
    exact ⟨rfl, by cases target <;> rfl⟩
  · apply Reply.run_preserves (fun s : Trigger α × History => History.Reached base s.2) (fun _ => True)
    · exact fun _ command _ here => perform_reached here command
    · exact fun _ _ => trivial
    · exact reached
  · intro refusal member
    refine Reply.forall_result_run (fun s : Trigger α × History => History.Reached base s.2)
      (· ≠ .activated (.error (.navigation refusal))) ?_ ?_ (t, h) commands reached _ member rfl
    · exact fun _ command here => perform_reached here command
    · exact fun _ command here => perform_not_refused here command refusal

/-- Below `/setup`: a terminal target leads further below, a path replaces the location, and segments
that make no path leave it. -/
theorem activate_opens_setup :
    let t : Trigger String :=
      ((empty.bind "ledger" (.terminal .ledger)).bind "create"
        (.path ⟨.top .accountCreation, [.creation .seedPhrase]⟩)).bind "broken" (.segments ["a", "", "b"])
    (t.activate .memory none "ledger" ⟨["/setup"]⟩).state.entries = ["/setup", "/setup/ledger"] ∧
    (t.activate .memory none "create" ⟨["/setup"]⟩).result = .ok "/accountCreation/seedPhrase" ∧
    (t.activate .memory none "broken" ⟨["/setup"]⟩).state = ⟨["/setup"]⟩ := by
  intro t
  have setup : History.Reached "/setup" ⟨["/setup"]⟩ := .start rfl
  obtain ⟨opened, failed, _⟩ := activate_opens setup t
  exact ⟨(opened none "ledger" (.terminal .ledger) "ledger" rfl rfl).2,
    (opened none "create" _ "/accountCreation/seedPhrase" rfl rfl).1,
    (failed none "broken" (.invalidArgument "route segment cannot be empty") rfl).1⟩

end Trigger
end Onboarding
