import Onboarding.Proofs.Families
import Onboarding.Proofs.Presses
import Onboarding.Proofs.Scopes
import Onboarding.Proofs.Targets

/-! Events as an account of what happened. An activation closes with one event that tells its result, behind
what the navigator reports; the transitions of a router and the steps back rebuild its history. -/
namespace Onboarding

/-- Where an event says that a router went. -/
def Event.destination? : Event → Option String
  | .transition _ destination => some destination
  | _ => none

namespace Trigger

/-- The event that closes an activation, by what the navigator was asked for and by the result. -/
inductive Closes (action : String) : Option String → Except Failure String → Event → Prop
  | unbound : Closes action none (.error (.unknownAction action)) (.unbound action)
  | uncomposable (reason : String) :
    Closes action none (.error (.invalidArgument reason))
      (.uncomposable action ("Invalid argument: " ++ reason))
  | refused (goal : String) (refusal : Refusal) :
    Closes action (some goal) (.error (.navigation refusal)) (.refused action goal refusal.reason)
  | navigated (goal : String) : Closes action (some goal) (.ok goal) (.navigated action goal)

def closingFields (action : String) (asked : Option String) :
    Except Failure String → List (String × FieldValue)
  | .ok goal => [("message", .text "Navigated"), ("action", .text action), ("to", .text goal)]
  | .error (.navigation refusal) =>
    [("message", .text "Navigator reported failure"), ("action", .text action)] ++
      asked.toList.map (("to", .text ·)) ++ [("reason", .text refusal.reason)]
  | .error (.unknownAction _) =>
    [("message", .text "Activation of unbound action"), ("action", .text action)]
  | .error failure =>
    [("message", .text "Navigation target could not be composed"), ("action", .text action),
      ("error", .text failure.message)]

section

variable {action : String} {asked : Option String} {result : Except Failure String} {event : Event}
  (closes : Closes action asked result event)
include closes

theorem Closes.fields_eq : event.fields = closingFields action asked result := by
  cases closes <;> rfl

theorem Closes.level_eq_warn_iff : event.level = .warn ↔ ∃ failure, result = .error failure := by
  cases closes <;> simp [Event.level]

theorem Closes.level_eq_info_iff :
    event.level = .info ∧ event.message = "Navigated" ↔ ∃ goal, result = .ok goal := by
  cases closes <;> simp [Event.level, Event.message]

theorem Closes.eq_navigated_iff (goal : String) :
    event = .navigated action goal ↔ result = .ok goal := by
  cases closes <;> simp

theorem Closes.destination?_eq_none : event.destination? = none := by
  cases closes <;> rfl

end

variable {α σ : Type} [BEq α] [Described α]

/-- Where the one call of an activation leaves the navigator, and what the navigator itself reports. -/
def consult (t : Trigger α) (navigator : Navigator σ) (id : Option TraceId) (action : α) (state : σ) :
    σ × List Event :=
  match t.request? (.activate action) with
  | none => (state, [])
  | some goal => ((navigator.call id goal state).state, (navigator.call id goal state).reports)

/-- An activation adds one event to what the navigator reports, at the end. -/
theorem activate_closes (t : Trigger α) (navigator : Navigator σ) (id : Option TraceId) (action : α)
    (state : σ) :
    ∃ event,
      Closes (describe action) (t.request? (.activate action)) (t.activate navigator id action state).result
        event ∧
      (t.activate navigator id action state).state = (t.consult navigator id action state).1 ∧
      (t.activate navigator id action state).reports =
        (t.consult navigator id action state).2 ++ [event] := by
  rw [consult]
  rcases t.target?_cases action with unbound | ⟨target, fault, found, resolved⟩ |
    ⟨target, goal, found, resolved⟩
  · have asked : t.request? (.activate action) = none := by rw [request?, unbound]; rfl
    rw [activate_unbound unbound, asked]
    exact ⟨_, .unbound, rfl, rfl⟩
  · have asked : t.request? (.activate action) = none := by
      simp [request?, found, resolved, Except.toOption]
    rw [activate_unresolved found resolved, asked]
    exact ⟨_, .uncomposable fault.message, rfl, rfl⟩
  · have asked : t.request? (.activate action) = some goal := by
      simp [request?, found, resolved, Except.toOption]
    rw [asked]
    cases answer : (navigator.call id goal state).result with
    | error refusal =>
      rw [activate_refused found resolved answer]
      exact ⟨_, .refused goal refusal, rfl, rfl⟩
    | ok done =>
      rw [activate_navigated found resolved answer]
      exact ⟨_, .navigated goal, rfl, rfl⟩

end Trigger

/-- What is seen of a router: the events of a run, and the steps back that lead somewhere. -/
inductive Sighting
  | reported (event : Event)
  | wentBack

/-- The entries after something is seen: a transition adds where it leads, a step back takes the latest
away. -/
def Sighting.replay (entries : List String) : Sighting → List String
  | .reported event => entries ++ event.destination?.toList
  | .wentBack => entries.dropLast

theorem Sighting.replay_reported (entries : List String) (events : List Event) :
    (events.map Sighting.reported).foldl replay entries =
      entries ++ events.filterMap Event.destination? := by
  induction events generalizing entries with
  | nil => simp
  | cons event events ih =>
    rw [List.map_cons, List.foldl_cons, ih, replay]
    cases found : event.destination? <;> simp [found]

namespace History

/-- A navigation reports the one transition that it makes, or nothing. -/
theorem navigate_reports (h : History) (goal : String) :
    ((h.navigate goal).result = .ok () →
      (h.navigate goal).reports = [.transition h.location (h.navigate goal).state.location]) ∧
    (∀ refusal, (h.navigate goal).result = .error refusal →
      (h.navigate goal).reports = [] ∧ (h.navigate goal).state = h) := by
  rcases navigate_cases h goal with ⟨next, _, reply⟩ | ⟨fault, _, reply⟩
  · rw [reply]
    exact ⟨fun _ => by simp [location], by simp⟩
  · rw [reply]
    exact ⟨by simp, fun _ _ => ⟨rfl, rfl⟩⟩

theorem navigate_accumulates (h : History) (goal : String) :
    (h.navigate goal).state.entries =
      h.entries ++ (h.navigate goal).reports.filterMap Event.destination? := by
  rcases navigate_cases h goal with ⟨next, _, reply⟩ | ⟨fault, _, reply⟩ <;>
    simp [reply, Event.destination?]

end History

namespace Store

def sightings (s : Store) (command : Command) : List Sighting :=
  (s.perform command).reports.map .reported ++
    if (s.perform command).result.retreated then [.wentBack] else []

/-- What is seen of a run, in order. -/
def tape (s : Store) : List Command → List Sighting
  | [] => []
  | command :: commands => s.sightings command ++ tape (s.perform command).state commands

structure Shows (s : Store) (entries : List String) : Prop where
  shared : s.Shares 0
  stored : s.histories[0]? = some ⟨entries⟩

theorem Shows.history?_cases {s : Store} {entries : List String} (shows : s.Shows entries)
    (handle : Nat) :
    s.history? handle = none ∨ s.origins[handle]? = some 0 ∧ s.history? handle = some ⟨entries⟩ := by
  cases found : s.origins[handle]? with
  | none => exact .inl (by simp [Store.history?, found])
  | some origin =>
    obtain rfl := shows.shared.origins origin (List.mem_of_getElem? found)
    exact .inr ⟨rfl, history?_eq_some_iff.mpr ⟨0, found, shows.stored⟩⟩

theorem Shows.put {s : Store} {entries : List String} (shows : s.Shows entries) {handle : Nat}
    (valid : s.origins[handle]? = some 0) (h : History) : (s.put handle h).Shows h.entries := by
  refine ⟨put_shares shows.shared, ?_⟩
  have bound := (List.getElem?_eq_some_iff.mp shows.stored).1
  simp only [Store.put, valid, List.getElem?_set_self bound]

/-- A command does to the history what is seen of it. -/
theorem Shows.perform {s : Store} {entries : List String} (shows : s.Shows entries) (command : Command)
    (clones : ∀ base, command ≠ .create base) :
    (s.perform command).state.Shows ((s.sightings command).foldl Sighting.replay entries) := by
  cases command with
  | create base => exact absurd rfl (clones base)
  | clone handle =>
    refine ⟨perform_shares _ clones shows.shared, ?_⟩
    rcases shows.history?_cases handle with missing | ⟨_, shown⟩
    · simpa [sightings, Store.perform, missing, Answer.retreated] using shows.stored
    · simpa [sightings, Store.perform, shown, Answer.retreated, clone] using shows.stored
  | navigate handle goal =>
    rcases shows.history?_cases handle with missing | ⟨valid, shown⟩
    · rw [sightings, (perform_of_no_handle missing).1]
      exact shows
    · rw [sightings, perform_navigate shown]
      have moved := shows.put valid (History.navigate ⟨entries⟩ goal).state
      rcases History.navigate_cases ⟨entries⟩ goal with ⟨next, _, reply⟩ | ⟨fault, _, reply⟩ <;>
        · rw [reply] at moved ⊢
          simpa [Answer.retreated, Sighting.replay, Event.destination?] using moved
  | back handle =>
    rcases shows.history?_cases handle with missing | ⟨valid, shown⟩
    · rw [sightings, (perform_of_no_handle missing).2]
      exact shows
    · rw [sightings, perform_back shown]
      have moved := shows.put valid (History.back ⟨entries⟩).2
      rcases History.back_cases ⟨entries⟩ with ⟨_, stayed⟩ | ⟨_, left⟩
      · rw [stayed] at moved ⊢
        exact moved
      · rw [left] at moved ⊢
        simpa [Answer.retreated, Sighting.replay] using moved

theorem Shows.run {s : Store} {entries : List String} (shows : s.Shows entries)
    (commands : List Command) (clones : ∀ base, .create base ∉ commands) :
    (s.run commands).state.Shows ((s.tape commands).foldl Sighting.replay entries) := by
  induction commands generalizing s entries with
  | nil => exact shows
  | cons command commands ih =>
    rw [tape, List.foldl_append]
    apply ih
    · exact shows.perform command fun base same => clones base (same ▸ List.mem_cons_self)
    · exact fun base member => clones base (List.mem_cons_of_mem _ member)

theorem shows_create {s : Store} {base : String} (created : empty.create base = .ok s) :
    s.Shows [base] := by
  obtain ⟨h, started, rfl⟩ := create_eq_ok_iff.mp created
  obtain ⟨_, rfl⟩ := History.start_eq_ok_iff.mp started
  exact ⟨⟨by simp [add], by simp [add, empty]⟩, rfl⟩

end Store

namespace Trigger

variable {α : Type} [BEq α] [Described α]

theorem activate_accumulates (t : Trigger α) (id : Option TraceId) (action : α) (h : History) :
    (t.activate .memory id action h).state.entries =
      h.entries ++ (t.activate .memory id action h).reports.filterMap Event.destination? := by
  obtain ⟨event, closes, state, reports⟩ := t.activate_closes .memory id action h
  rw [state, reports, List.filterMap_append, List.filterMap_cons_none closes.destination?_eq_none,
    List.filterMap_nil, List.append_nil, consult]
  cases t.request? (.activate action) with
  | none => exact (List.append_nil _).symm
  | some goal => exact h.navigate_accumulates goal

theorem perform_accumulates (s : Trigger α × History) (command : Command α) :
    (perform .memory s command).state.2.entries =
      s.2.entries ++ (perform .memory s command).reports.filterMap Event.destination? := by
  cases command with
  | bind action target => exact (List.append_nil _).symm
  | activate action => exact s.1.activate_accumulates none action s.2
  | navigate goal => exact s.2.navigate_accumulates goal

end Trigger

namespace Screen

variable {σ : Type}

/-- A message presses the button that it names, or is rejected with one report. -/
theorem dispatch_cases (screen : Screen) (navigator : Navigator σ) (text : String) (s : Session σ) :
    (∃ message, Json.readWhole Json.readMessage text.toList = .ok message ∧
      screen.dispatch navigator text s = screen.press navigator message.action s) ∨
    (∃ fault, Json.readWhole Json.readMessage text.toList = .error fault ∧
      screen.dispatch navigator text s = ⟨.error (fault.failure text.toList), s,
        [⟨.rejected (fault.message text.toList), s.trace.current⟩]⟩) := by
  cases read : Json.readWhole Json.readMessage text.toList with
  | ok message => exact .inl ⟨message, rfl, dispatch_read read navigator s⟩
  | error fault => exact .inr ⟨fault, rfl, dispatch_unread read navigator s⟩

/-- What is reported inside the scope of a press carries its identity, and the end of the scope is
reported outside. -/
theorem press_closes (screen : Screen) (navigator : Navigator σ) (action : Action) (s : Session σ) :
    let id : TraceId := ⟨s.trace.supply⟩
    ∃ event,
      Trigger.Closes (describe action) (screen.trigger.request? (.activate action))
        (screen.press navigator action s).result event ∧
      (screen.press navigator action s).reports =
        (Event.pressed action.word ::
          ((screen.trigger.consult navigator (some id) action s.state).2 ++ [event])).map
            (⟨·, some id⟩) ++ [⟨.traceCompleted id, s.trace.current⟩] := by
  intro id
  obtain ⟨event, closes, _, reports⟩ :=
    screen.trigger.activate_closes navigator (some id) action s.state
  refine ⟨event, closes, ?_⟩
  rw [← reports]
  rfl

theorem press_accumulates (screen : Screen) (action : Action) (s : Session History) :
    (screen.press .memory action s).state.state.entries =
      s.state.entries ++
        ((screen.press .memory action s).reports.map Record.event).filterMap Event.destination? := by
  have moved := screen.trigger.activate_accumulates (some ⟨s.trace.supply⟩) action s.state
  have opened : (Event.pressed action.word).destination? = none := rfl
  have closed : (Event.traceCompleted ⟨s.trace.supply⟩).destination? = none := rfl
  simpa [press, List.filterMap_cons, List.filterMap_map, Function.comp_def, opened, closed] using moved

theorem perform_accumulates (screen : Screen) (s : Session History) (command : Command) :
    (screen.perform .memory s command).state.state.entries =
      s.state.entries ++
        ((screen.perform .memory s command).reports.map Record.event).filterMap Event.destination? := by
  cases command with
  | press action => exact screen.press_accumulates action s
  | dispatch text =>
    simp only [perform]
    rcases screen.dispatch_cases .memory text s with ⟨message, _, pressed⟩ | ⟨fault, _, rejected⟩
    · rw [pressed]
      exact screen.press_accumulates message.action s
    · rw [rejected]
      exact (List.append_nil _).symm
  | navigate goal =>
    have moved := s.state.navigate_accumulates goal
    simpa [perform, List.filterMap_map, Function.comp_def] using moved

end Screen

/-- What is done with one router: it is moved by a trigger or by a screen, each with its way past it, or
goes back. -/
inductive Use (α : Type)
  | byTrigger (t : Trigger α) (command : Trigger.Command α)
  | byScreen (screen : Screen) (trace : Trace) (command : Screen.Command)
  | back

namespace Use

variable {α : Type} [BEq α] [Described α]

def perform (h : History) : Use α → Reply Sighting History Unit
  | .byTrigger t command =>
    let reply := Trigger.perform .memory (t, h) command
    ⟨(), reply.state.2, reply.reports.map .reported⟩
  | .byScreen screen trace command =>
    let reply := screen.perform .memory ⟨h, trace⟩ command
    ⟨(), reply.state.state, (reply.reports.map Record.event).map .reported⟩
  | .back => ⟨(), h.back.2, if h.back.1.isSome then [.wentBack] else []⟩

theorem perform_replays (h : History) (use : Use α) :
    (use.perform h).state.entries = (use.perform h).reports.foldl Sighting.replay h.entries := by
  cases use with
  | byTrigger t command =>
    simp only [perform, Sighting.replay_reported]
    exact Trigger.perform_accumulates (t, h) command
  | byScreen screen trace command =>
    simp only [perform, Sighting.replay_reported]
    exact screen.perform_accumulates ⟨h, trace⟩ command
  | back =>
    simp only [perform]
    rcases h.back_cases with ⟨_, stayed⟩ | ⟨_, left⟩
    · rw [stayed]
      rfl
    · rw [left]
      rfl

def run (h : History) (uses : List (Use α)) : Reply Sighting History (List Unit) :=
  Reply.run perform h uses

theorem run_replays (h : History) (uses : List (Use α)) :
    (run h uses).state.entries = (run h uses).reports.foldl Sighting.replay h.entries := by
  induction uses generalizing h with
  | nil => rfl
  | cons use uses ih =>
    simp only [run, Reply.run, List.foldl_append] at ih ⊢
    rw [ih, perform_replays]

end Use

/-- An activation is closed by one event, which tells its result under the fields for it; without a call of
the navigator there is no other. A router reports the transitions that it makes, so that they and the steps
back rebuild its history, whether it is moved through its handles, by a trigger or by a screen. A press
reports what happens inside a scope of its own, and the end of that scope outside it. A message that cannot
be read is reported, and nothing is done. -/
theorem Event.tells_runs {α σ : Type} [BEq α] [Described α] (t : Trigger α) (navigator : Navigator σ)
    (screen : Screen) :
    (∀ id action state,
      let reply := t.activate navigator id action state
      let asked := t.request? (.activate action)
      ∃ event, Trigger.Closes (describe action) asked reply.result event ∧
        reply.reports = (t.consult navigator id action state).2 ++ [event] ∧
        (asked = none → reply.reports = [event]) ∧
        (event.level = .warn ↔ ∃ failure, reply.result = .error failure) ∧
        (event.level = .info ∧ event.message = "Navigated" ↔ ∃ goal, reply.result = .ok goal) ∧
        (∀ goal, event = .navigated (describe action) goal ↔ reply.result = .ok goal) ∧
        event.fields = Trigger.closingFields (describe action) asked reply.result) ∧
    (∀ (h : History) goal,
      let reply := h.navigate goal
      (reply.result = .ok () →
        reply.reports = [.transition h.location reply.state.location] ∧
        (Event.transition h.location reply.state.location).fields =
          [("message", .text "Memory router transition"), ("from", .text h.location),
            ("to", .text reply.state.location)]) ∧
      ∀ refusal, reply.result = .error refusal → reply.reports = [] ∧ reply.state = h) ∧
    (∀ base s commands, Store.empty.create base = .ok s → (∀ other, .create other ∉ commands) →
      ∀ handle < (s.run commands).state.size,
        (s.run commands).state.history? handle =
          some ⟨(s.tape commands).foldl Sighting.replay [base]⟩) ∧
    (∀ (h : History) (uses : List (Use α)),
      (Use.run h uses).state.entries = (Use.run h uses).reports.foldl Sighting.replay h.entries) ∧
    (∀ action (s : Session σ),
      let id : TraceId := ⟨s.trace.supply⟩
      let reply := screen.press navigator action s
      (∃ event, Trigger.Closes (describe action) (screen.trigger.request? (.activate action)) reply.result
          event ∧
        reply.reports =
          (Event.pressed action.word ::
            ((screen.trigger.consult navigator (some id) action s.state).2 ++ [event])).map
              (⟨·, some id⟩) ++ [⟨.traceCompleted id, s.trace.current⟩]) ∧
      (Event.pressed action.word).fields =
        [("message", .text "Button pressed"), ("action", .text action.word)] ∧
      (Event.traceCompleted id).fields =
        [("message", .text "Trace context completed"), ("trace_id", .text id.text)] ∧
      (s.trace.Fresh → s.trace.current ≠ some id)) ∧
    (∀ text s,
      (∃ message, Json.readWhole Json.readMessage text.toList = .ok message ∧
        screen.dispatch navigator text s = screen.press navigator message.action s) ∨
      (∃ fault, Json.readWhole Json.readMessage text.toList = .error fault ∧
        screen.dispatch navigator text s = ⟨.error (fault.failure text.toList), s,
          [⟨.rejected (fault.message text.toList), s.trace.current⟩]⟩ ∧
        (Event.rejected (fault.message text.toList)).fields =
          [("message", .text "Rejected host message"), ("error", .text (fault.message text.toList))])) := by
  refine ⟨?_, fun h goal => ?_, ?_, Use.run_replays, ?_, fun text s => ?_⟩
  · intro id action state reply asked
    obtain ⟨event, closes, _, reports⟩ := t.activate_closes navigator id action state
    refine ⟨event, closes, reports, fun silent => ?_, closes.level_eq_warn_iff,
      closes.level_eq_info_iff, closes.eq_navigated_iff, closes.fields_eq⟩
    have nothing : (t.consult navigator id action state).2 = [] := by
      simp only [Trigger.consult, show t.request? (.activate action) = none from silent]
    rw [nothing] at reports
    exact reports
  · obtain ⟨moves, stays⟩ := h.navigate_reports goal
    exact ⟨fun moved => ⟨moves moved, rfl⟩, stays⟩
  · intro base s commands created clones handle valid
    have shows := (Store.shows_create created).run commands clones
    exact shows.shared.history? shows.stored valid
  · intro action s id reply
    refine ⟨screen.press_closes navigator action s, rfl, rfl, fun fresh same => ?_⟩
    exact Nat.lt_irrefl _ (fresh id same)
  · rcases screen.dispatch_cases navigator text s with pressed | ⟨fault, unread, rejected⟩
    · exact .inl pressed
    · exact .inr ⟨fault, unread, rejected, rfl⟩

/-- A router that is cloned, refuses once and goes back past its base; an action that is not bound; and a
press under an identity that is already in force. -/
theorem Event.tells_runs_setup :
    let s : Store := ⟨[⟨["/setup"]⟩], [0]⟩
    let commands : List Store.Command := [.clone 0, .navigate 1 "ledger", .back 0, .back 1,
      .navigate 0 "ledger//connect", .navigate 0 "/importAccount"]
    (s.run commands).state.history? 1 = some ⟨["/setup", "/importAccount"]⟩ ∧
    (History.navigate ⟨["/setup"]⟩ "ledger").reports = [.transition "/setup" "/setup/ledger"] ∧
    (History.navigate ⟨["/setup"]⟩ "").state = ⟨["/setup"]⟩ ∧
    ((Trigger.empty : Trigger String).activate .memory none "ledger" ⟨["/setup"]⟩).reports =
      [.unbound "\"ledger\""] ∧
    (⟨some ⟨3⟩, 4⟩ : Trace).current ≠ some ⟨4⟩ := by
  intro s commands
  obtain ⟨closed, moves, rebuilt, _, pressed, _⟩ :=
    Event.tells_runs (Trigger.empty : Trigger String) .memory Screen.start
  have replayed : (s.tape commands).foldl Sighting.replay ["/setup"] = ["/setup", "/importAccount"] := by
    decide +kernel
  have shown := rebuilt "/setup" s commands rfl (by simp [commands]) 1 (by decide +kernel)
  rw [replayed] at shown
  refine ⟨shown, ((moves ⟨["/setup"]⟩ "ledger").1 rfl).1,
    ((moves ⟨["/setup"]⟩ "").2 ⟨"", "navigation target is empty"⟩ rfl).2, ?_, ?_⟩
  · obtain ⟨event, closes, _, alone, _⟩ := closed none "ledger" ⟨["/setup"]⟩
    rw [alone rfl]
    cases closes
    rfl
  · refine (pressed .connectLedger ⟨⟨["/setup"]⟩, ⟨some ⟨3⟩, 4⟩⟩).2.2.2 ?_
    rintro id same
    obtain rfl := Option.some.inj same
    decide

end Onboarding
