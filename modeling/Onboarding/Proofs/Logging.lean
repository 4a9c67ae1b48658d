import Onboarding.Proofs.Accounts
import Onboarding.Proofs.Outcomes

/-! The logger and the panic hook of a running application. Nothing is logged before the first start, which
alone decides on filter and format and puts in the one hook; later starts fail and leave everything. A start
that comes upon a filter which is cut within a character crashes the application, be it the first or not. -/
namespace Onboarding

namespace Logger

/-- The filter that is due: that of the environment, else that of the configuration, else the default
one. -/
inductive Chooses (env : Environment) (config : Config) (filter : Filter) : Prop
  | given (text : String) : env.text? Config.filterVariable = some text → Filter.read text = .ok filter →
    Chooses env config filter
  | configured :
    (∀ text, env.text? Config.filterVariable = some text → Filter.read text = .error .malformed) →
    Filter.read config.logLevel = .ok filter → Chooses env config filter
  | standard :
    (∀ text, env.text? Config.filterVariable = some text → Filter.read text = .error .malformed) →
    Filter.read config.logLevel = .error .malformed → Filter.read Config.defaultFilter = .ok filter →
    Chooses env config filter

theorem read_defaultFilter :
    Filter.read Config.defaultFilter = .ok (knownFilter Config.defaultFilter) := by
  decide +kernel

theorem read_cases {text : String} (whole : ¬∃ cut, Filter.read text = .error (.cut cut)) :
    (∃ filter, Filter.read text = .ok filter) ∨ Filter.read text = .error .malformed := by
  cases found : Filter.read text with
  | ok filter => exact .inl ⟨filter, rfl⟩
  | error fault =>
    cases fault with
    | malformed => exact .inr rfl
    | cut cut => exact absurd ⟨cut, found⟩ whole

/-- Past the filter of the environment, that of the configuration or the default one is chosen. -/
theorem chooseFilter_passed {env : Environment} {config : Config}
    (passed : ∀ text, env.text? Config.filterVariable = some text → Filter.read text = .error .malformed) :
    chooseFilter env config =
      match Filter.read config.logLevel with
      | .ok filter => .ok filter
      | .error .malformed => .ok (knownFilter Config.defaultFilter)
      | .error (.cut cut) => .error cut := by
  unfold chooseFilter
  cases given : env.text? Config.filterVariable with
  | none => rfl
  | some text =>
    have other : Filter.read text = .error .malformed := passed text given
    cases configured : Filter.read config.logLevel with
    | ok filter => simp [other, configured]
    | error fault => cases fault <;> simp [other, configured]

/-- A filter that is cut within a character is come upon: that of the environment, or that of the
configuration behind one that is malformed or missing. -/
def Cuts (env : Environment) (config : Config) : Prop :=
  env.CutsFilter ∨
    (∀ text, env.text? Config.filterVariable = some text → Filter.read text = .error .malformed) ∧
      config.CutsFilter

theorem start_cut {env : Environment} {config : Config} (cuts : Cuts env config) :
    ∃ cut, start env config = .error cut := by
  suffices ∃ cut, chooseFilter env config = .error cut by
    obtain ⟨cut, stopped⟩ := this
    exact ⟨cut, by rw [start, stopped]; rfl⟩
  rcases cuts with ⟨text, cut, given, broken⟩ | ⟨passed, cut, broken⟩
  · exact ⟨cut, by simp [chooseFilter, given, broken]⟩
  · exact ⟨cut, by rw [chooseFilter_passed passed, broken]⟩

theorem start_chooses {env : Environment} {config : Config} (whole : ¬Cuts env config) :
    ∃ logger, start env config = .ok logger ∧ Chooses env config logger.filter ∧
      logger.json = config.logJson := by
  suffices ∃ filter, chooseFilter env config = .ok filter ∧ Chooses env config filter by
    obtain ⟨filter, chosen, chooses⟩ := this
    exact ⟨⟨filter, config.logJson⟩, by rw [start, chosen]; rfl, chooses, rfl⟩
  obtain ⟨environmentWhole, configWhole⟩ := not_or.mp whole
  by_cases passed :
      ∀ text, env.text? Config.filterVariable = some text → Filter.read text = .error .malformed
  · rw [chooseFilter_passed passed]
    rcases read_cases fun cut => configWhole ⟨passed, cut⟩ with ⟨filter, found⟩ | malformed
    · rw [found]
      exact ⟨filter, rfl, .configured passed found⟩
    · rw [malformed]
      exact ⟨_, rfl, .standard passed malformed read_defaultFilter⟩
  · simp only [not_forall] at passed
    obtain ⟨text, given, other⟩ := passed
    have textWhole : ¬∃ cut, Filter.read text = .error (.cut cut) := by
      rintro ⟨cut, broken⟩
      exact environmentWhole ⟨text, cut, given, broken⟩
    rcases read_cases textWhole with ⟨filter, found⟩ | malformed
    · exact ⟨filter, by simp [chooseFilter, given, found], .given text given found⟩
    · exact absurd malformed other

end Logger

/-- The panic that an event reports: its text, and whether it names an identity. -/
def Event.panic? : Event → Option (Option String × Bool)
  | .panicked text id => some (text, id.isSome)
  | _ => none

def Event.isStart : Event → Bool
  | .loggingStarted .. => true
  | _ => false

structure Event.Aside (event : Event) : Prop where
  panic : event.panic? = none
  start : event.isStart = false

theorem Event.traceId_mem_fields_panicked (text : Option String) (id : Option TraceId) :
    (∃ value, ("trace_id", value) ∈ (panicked text id).fields) ↔ id.isSome = true := by
  cases id <;> simp [fields, details]

theorem Event.message_mem_fields_panicked (message : String) (id : Option TraceId) :
    ("message", .text message) ∈ (panicked (some message) id).fields := List.mem_cons_self

theorem Trigger.Closes.aside {action : String} {asked : Option String}
    {result : Except Failure String} {event : Event} (closes : Closes action asked result event) :
    event.Aside := by
  cases closes <;> exact ⟨rfl, rfl⟩

theorem Trigger.consult_memory_aside {α : Type} [BEq α] [Described α] {t : Trigger α} {id : Option TraceId}
    {action : α} {h : History} {event : Event} (member : event ∈ (t.consult .memory id action h).2) :
    event.Aside := by
  unfold consult at member
  cases asked : t.request? (.activate action) with
  | none =>
    rw [asked] at member
    contradiction
  | some goal =>
    rw [asked] at member
    rcases History.navigate_cases h goal with ⟨next, _, reply⟩ | ⟨fault, _, reply⟩
    · simp only [Navigator.call_memory, reply, List.mem_singleton] at member
      exact member ▸ ⟨rfl, rfl⟩
    · simp [reply] at member

namespace Screen

theorem press_aside {screen : Screen} {action : Action} {s : Session History} :
    ∀ record ∈ (screen.press .memory action s).reports, record.event.Aside := by
  obtain ⟨event, closes, reports⟩ := screen.press_closes .memory action s
  intro record member
  rw [reports, List.mem_append, List.mem_map, List.mem_singleton] at member
  rcases member with ⟨inner, within, rfl⟩ | rfl
  · rcases List.mem_cons.mp within with rfl | later
    · exact ⟨rfl, rfl⟩
    rcases List.mem_append.mp later with relayed | last
    · exact Trigger.consult_memory_aside relayed
    · rw [List.mem_singleton.mp last]
      exact closes.aside
  · exact ⟨rfl, rfl⟩

theorem dispatch_aside {screen : Screen} {text : String} {s : Session History} :
    ∀ record ∈ (screen.dispatch .memory text s).reports, record.event.Aside := by
  rcases screen.dispatch_cases .memory text s with ⟨message, _, pressed⟩ | ⟨fault, _, rejected⟩
  · rw [pressed]
    exact press_aside
  · rw [rejected]
    intro record member
    rw [List.mem_singleton.mp member]
    exact ⟨rfl, rfl⟩

theorem current_dispatch {σ : Type} (screen : Screen) (navigator : Navigator σ) (text : String)
    (s : Session σ) : (screen.dispatch navigator text s).state.trace.current = s.trace.current := by
  rcases screen.dispatch_cases navigator text s with ⟨message, _, pressed⟩ | ⟨fault, _, rejected⟩
  · rw [pressed]
    rfl
  · rw [rejected]

end Screen

namespace Application

def panics (records : List Record) : List (Option String × Bool) :=
  records.filterMap fun record => record.event.panic?

def starts (records : List Record) : List Record := records.filter fun record => record.event.isStart

@[simp] theorem panics_append (xs ys : List Record) : panics (xs ++ ys) = panics xs ++ panics ys :=
  List.filterMap_append

@[simp] theorem starts_append (xs ys : List Record) : starts (xs ++ ys) = starts xs ++ starts ys :=
  List.filter_append ..

def Command.panic? : Command → Option (Option String × Bool)
  | .panic text inScope => some (text, inScope)
  | _ => none

/-- What holds between two commands, by the logger that was started, if one was: it runs, there is a hook
for it, and no identity is in force. -/
structure Latched (running : Option Logger) (p : Application) : Prop where
  logger : p.logger = running
  hooks : p.hooks = running.toList.length
  outside : p.trace.current = none

theorem latched_start (environment : Environment) (dotEnv : Option String) (supply : Nat) :
    (start environment dotEnv supply).Latched none := ⟨rfl, rfl, rfl⟩

structure Beside (p q : Application) : Prop where
  logger : q.logger = p.logger
  hooks : q.hooks = p.hooks
  current : q.trace.current = p.trace.current
  lines : q.lines = p.lines

variable {running : Option Logger} {p q : Application} {β : Type}

theorem Latched.beside (latched : p.Latched running) (beside : Beside p q) : q.Latched running :=
  ⟨beside.logger.trans latched.logger, beside.hooks.trans latched.hooks,
    beside.current.trans latched.outside⟩

/-- What a step that starts no logger comes to: the one that runs writes all that is reported, and the
panics that are raised are reported if one runs. -/
structure Goes (running : Option Logger) (p : Application) (raised : List (Option String × Bool))
    (reply : Reply Record Application β) : Prop where
  latched : reply.state.Latched running
  lines : reply.state.lines = p.lines ++ running.toList.flatMap (·.write reply.reports)
  panics : panics reply.reports = running.toList.flatMap fun _ => raised
  starts : starts reply.reports = []

section

variable {raised : List (Option String × Bool)} {records : List Record} {result : β}

theorem Goes.map {γ : Type} {reply : Reply Record Application β} (goes : Goes running p raised reply)
    (f : β → γ) : Goes running p raised (reply.map f) :=
  ⟨goes.latched, goes.lines, goes.panics, goes.starts⟩

theorem goes_silently (latched : p.Latched running) (beside : Beside p q) :
    Goes running p [] (q.silently result) := by
  refine ⟨latched.beside beside, ?_, ?_, rfl⟩
  · cases running <;> simp [silently, beside.lines, Logger.write_nil]
  · cases running <;> rfl

theorem goes_reporting (latched : p.Latched running) (beside : Beside p q)
    (raises : panics records = running.toList.flatMap fun _ => raised) (unstarted : starts records = []) :
    Goes running p raised (q.reporting records result) := by
  have next := latched.beside beside
  refine ⟨⟨next.logger, next.hooks, next.outside⟩, ?_, raises, unstarted⟩
  rw [reporting, log, next.logger, beside.lines]

theorem goes_aside (latched : p.Latched running) (beside : Beside p q)
    (aside : ∀ record ∈ records, record.event.Aside) : Goes running p [] (q.reporting records result) := by
  have quiet : panics records = [] :=
    List.filterMap_eq_nil_iff.mpr fun record member => (aside record member).panic
  have unstarted : starts records = [] :=
    List.filter_eq_nil_iff.mpr fun record member => by simp [(aside record member).start]
  refine goes_reporting latched beside ?_ unstarted
  rw [quiet]
  cases running <;> rfl

/-- The panic is reported by the one hook that is there for a logger. -/
theorem goes_panic (latched : p.Latched running) (text : Option String) (inScope : Bool) :
    Goes running p [(text, inScope)] (p.panic text inScope) := by
  refine goes_reporting latched ⟨rfl, rfl, rfl, rfl⟩ ?_ ?_
  all_goals rw [latched.hooks]
  · cases running <;> cases inScope <;> simp [panics, Event.panic?, latched.outside]
  · cases running <;> simp [starts, Event.isStart]

theorem goes_configure (latched : p.Latched running)
    {reply : Reply Record Application (Except Failure Config)} (configured : p.configure = .ok reply) :
    Goes running p [] (reply.map Answer.configured) := by
  unfold configure at configured
  cases loads : p.loaded with
  | error impossible =>
    rw [loads] at configured
    contradiction
  | ok environment =>
    rw [loads] at configured
    obtain rfl := Except.ok.inj configured
    have same : { p with environment }.adoptConfig.map .configured = p.take (.initialise environment) := rfl
    rw [same]
    rcases initialise_cases p environment with ⟨_, _, _, taken⟩ | ⟨_, _, ⟨_, taken⟩ | ⟨_, taken⟩⟩
    all_goals rw [taken]
    · exact goes_silently latched ⟨rfl, rfl, rfl, rfl⟩
    · exact goes_silently latched ⟨rfl, rfl, rfl, rfl⟩
    · refine goes_aside latched ⟨rfl, rfl, rfl, rfl⟩ fun record member => ?_
      rw [List.mem_singleton.mp member]
      exact ⟨rfl, rfl⟩

theorem goes_openScreen (latched : p.Latched running) : Goes running p [] p.openScreen := by
  unfold openScreen
  cases History.ofConfig p.currentConfig with
  | error fault => exact goes_silently latched ⟨rfl, rfl, rfl, rfl⟩
  | ok h => exact goes_silently latched ⟨rfl, rfl, rfl, rfl⟩

theorem goes_screen (latched : p.Latched running)
    {act : History → Reply Record (Session History) (Except Failure String)}
    (restored : ∀ h, (act h).state.trace.current = p.trace.current)
    (aside : ∀ h, ∀ record ∈ (act h).reports, record.event.Aside) :
    Goes running p [] (p.answerPress (p.router.map fun h => p.absorb (act h))) := by
  cases p.router with
  | none => exact goes_silently latched ⟨rfl, rfl, rfl, rfl⟩
  | some h =>
    refine Goes.map ?_ Answer.pressed
    exact goes_aside latched ⟨rfl, rfl, restored h, rfl⟩ (aside h)

theorem goes_change (latched : p.Latched running) {changed : Except Environment.Impossible Environment}
    {reply : Reply Record Application Answer} (made : p.change changed = .ok reply) :
    Goes running p [] reply := by
  cases changed with
  | error impossible => contradiction
  | ok environment =>
    obtain rfl := Except.ok.inj made
    exact goes_silently latched ⟨rfl, rfl, rfl, rfl⟩

end

/-- A start after the first fails, and leaves everything. -/
theorem startLogger_again {logger other : Logger} (latched : p.Latched (some logger)) {config : Config}
    (started : Logger.start p.environment config = .ok other) :
    p.startLogger config = .ok (p.silently (.error alreadyLogging)) := by
  simp only [startLogger, started, latched.logger]
  rfl

theorem startLogger_cut {config : Config} {cut : Text.Cut}
    (started : Logger.start p.environment config = .error cut) :
    p.startLogger config = .error (p.crash cut.message) := by
  simp only [startLogger, started]

/-- Once a logger runs every command leaves it and its hook, and before that all but a start do. -/
theorem goes_perform (latched : p.Latched running) {command : Command}
    {reply : Reply Record Application Answer}
    (settled : running ≠ none ∨ ∀ config, command ≠ .startLogger config)
    (performed : p.perform command = .ok reply) : Goes running p command.panic?.toList reply := by
  cases command with
  | readConfig =>
    obtain rfl := Except.ok.inj performed
    exact goes_silently latched ⟨rfl, rfl, rfl, rfl⟩
  | configure =>
    obtain ⟨adopted, configured, rfl⟩ := exists_of_map_ok performed
    exact goes_configure latched configured
  | setVariable name value => exact goes_change latched performed
  | unsetVariable name => exact goes_change latched performed
  | startLogger config =>
    obtain ⟨logger, rfl⟩ : ∃ logger, running = some logger :=
      Option.ne_none_iff_exists'.mp (settled.resolve_right fun other => other config rfl)
    obtain ⟨started, begun, rfl⟩ := exists_of_map_ok performed
    cases found : Logger.start p.environment (config.getD p.currentConfig) with
    | error cut =>
      rw [startLogger_cut found] at begun
      contradiction
    | ok other =>
      rw [startLogger_again latched found] at begun
      obtain rfl := Except.ok.inj begun
      exact (goes_silently latched ⟨rfl, rfl, rfl, rfl⟩).map _
  | openScreen =>
    obtain rfl := Except.ok.inj performed
    exact (goes_openScreen latched).map _
  | press action =>
    obtain rfl := Except.ok.inj performed
    exact goes_screen latched (fun _ => rfl) fun _ => Screen.press_aside
  | dispatch text =>
    obtain rfl := Except.ok.inj performed
    exact goes_screen latched (fun h => Screen.start.current_dispatch .memory text ⟨h, p.trace⟩)
      fun _ => Screen.dispatch_aside
  | panic text inScope =>
    obtain rfl := Except.ok.inj performed
    exact (goes_panic latched text inScope).map _

theorem goes_run (latched : p.Latched running) {commands : List Command}
    {reply : Reply Record Application (List Answer)}
    (settled : running ≠ none ∨ ∀ config, .startLogger config ∉ commands)
    (ran : p.run commands = .ok reply) :
    Goes running p (commands.filterMap Command.panic?) reply := by
  induction commands generalizing p reply with
  | nil =>
    obtain rfl := Except.ok.inj ran
    exact goes_silently latched ⟨rfl, rfl, rfl, rfl⟩
  | cons command commands ih =>
    obtain ⟨first, others, performed, rest, rfl⟩ := exists_of_run_cons ran
    have step : Goes running p command.panic?.toList first := by
      refine goes_perform latched ?_ performed
      exact settled.imp_right fun unstarted config same => unstarted config (same ▸ List.mem_cons_self)
    have later : Goes running first.state (commands.filterMap Command.panic?) others := by
      refine ih step.latched ?_ rest
      exact settled.imp_right fun unstarted config member =>
        unstarted config (List.mem_cons_of_mem _ member)
    have raised : (command :: commands).filterMap Command.panic? =
        command.panic?.toList ++ commands.filterMap Command.panic? := by
      rw [List.filterMap_cons]
      cases command.panic? <;> rfl
    refine ⟨later.latched, ?_, ?_, ?_⟩
    · rw [later.lines, step.lines]
      cases running <;> simp
    · rw [panics_append, step.panics, later.panics, raised]
      cases running <;> simp
    · rw [starts_append, step.starts, later.starts]
      rfl

theorem change_crashes {changed : Except Environment.Impossible Environment} {crash : Crash}
    (crashed : p.change changed = .error crash) : ∃ message, crash = p.crash message := by
  cases changed with
  | ok environment => contradiction
  | error impossible => exact ⟨_, (Except.error.inj crashed).symm⟩

/-- Whatever crashes the application, the crash is a panic there. -/
theorem perform_crashes {command : Command} {crash : Crash} (crashed : p.perform command = .error crash) :
    ∃ message, crash = p.crash message := by
  cases command with
  | configure =>
    simp only [perform, configure] at crashed
    cases loads : p.loaded with
    | ok environment =>
      rw [loads] at crashed
      contradiction
    | error impossible =>
      rw [loads] at crashed
      exact ⟨_, (Except.error.inj crashed).symm⟩
  | startLogger config =>
    simp only [perform, startLogger] at crashed
    cases started : Logger.start p.environment (config.getD p.currentConfig) with
    | ok logger =>
      simp only [started] at crashed
      split at crashed <;> contradiction
    | error cut =>
      rw [started] at crashed
      exact ⟨_, (Except.error.inj crashed).symm⟩
  | setVariable name value => exact change_crashes crashed
  | unsetVariable name => exact change_crashes crashed
  | readConfig => contradiction
  | openScreen => contradiction
  | press action => contradiction
  | dispatch text => contradiction
  | panic text inScope => contradiction

theorem crash_eq (latched : p.Latched running) (message : String) :
    let reports : List Record := running.toList.map fun _ => ⟨.panicked (some message) none, none⟩
    p.crash message = ⟨p.lines ++ running.toList.flatMap (·.write reports), reports⟩ := by
  intro reports
  have reported : (p.panic (some message) false).reports = reports := by
    simp only [panic, reporting, latched.hooks, Bool.false_eq_true, if_false, latched.outside]
    cases running <;> rfl
  rw [crash, (goes_panic latched (some message) false).lines, reported]

theorem error_of_map_error {ε γ : Type} {step : Except ε β} {f : β → γ} {e : ε}
    (mapped : step.map f = .error e) : step = .error e := by
  cases step with
  | error other => exact congrArg Except.error (Except.error.inj mapped)
  | ok b => contradiction

/-- A run that crashes does so on one of its commands, and performs those before. -/
theorem exists_of_run_crashes {commands : List Command} {crash : Crash}
    (crashed : p.run commands = .error crash) :
    ∃ done command rest reply, commands = done ++ command :: rest ∧ p.run done = .ok reply ∧
      reply.state.perform command = .error crash := by
  induction commands generalizing p with
  | nil => contradiction
  | cons command commands ih =>
    rw [run] at crashed
    cases performed : p.perform command with
    | error here =>
      rw [performed] at crashed
      obtain rfl := Except.error.inj crashed
      exact ⟨[], command, commands, _, rfl, rfl, performed⟩
    | ok first =>
      rw [performed] at crashed
      have later : first.state.run commands = .error crash := error_of_map_error crashed
      obtain ⟨done, next, rest, reply, rfl, ran, stopped⟩ := ih later
      refine ⟨command :: done, next, rest,
        ⟨first.result :: reply.result, reply.state, first.reports ++ reply.reports⟩, rfl, ?_, stopped⟩
      simp only [run, performed, ran]
      rfl

/-- The first start succeeds, reports itself, and puts in a hook. -/
theorem perform_startLogger_first (latched : p.Latched none) {config : Option Config} {logger : Logger}
    (started : Logger.start p.environment (config.getD p.currentConfig) = .ok logger) :
    let first := config.getD p.currentConfig
    let record : Record := ⟨.loggingStarted first.logLevel first.logJson first.routerBase, none⟩
    let q := p.logging first logger
    p.perform (.startLogger config) = .ok ⟨.started (.ok ()), q, [record]⟩ ∧
      q.Latched (some logger) ∧ q.lines = p.lines ++ logger.write [record] := by
  intro first record q
  have begun := startLogger_unlogged latched.logger started
  rw [latched.outside] at begun
  refine ⟨by rw [perform, begun]; rfl, ⟨rfl, ?_, latched.outside⟩, ?_⟩
  · exact congrArg (· + 1) latched.hooks
  · simp [q, logging, putHook, emit, log, latched.outside, record]

theorem perform_startLogger_cut {config : Option Config}
    (cuts : Logger.Cuts p.environment (config.getD p.currentConfig)) :
    ∃ message, p.perform (.startLogger config) = .error (p.crash message) := by
  obtain ⟨cut, stopped⟩ := Logger.start_cut cuts
  refine ⟨cut.message, ?_⟩
  rw [perform, startLogger_cut stopped]
  rfl

theorem perform_startLogger_again {logger : Logger} (latched : p.Latched (some logger))
    {config : Option Config} (whole : ¬Logger.Cuts p.environment (config.getD p.currentConfig)) :
    p.perform (.startLogger config) = .ok ⟨.started (.error alreadyLogging), p, []⟩ := by
  obtain ⟨other, started, _⟩ := Logger.start_chooses whole
  rw [perform, startLogger_again latched started]
  rfl

/-- What is left of a run that crashes, by the run up to there. -/
theorem run_crashes (latched : p.Latched running) {commands : List Command} {crash : Crash}
    (settled : running ≠ none ∨ ∀ config, .startLogger config ∉ commands)
    (crashed : p.run commands = .error crash) :
    ∃ message done reply, done <+: commands ∧ p.run done = .ok reply ∧
      crash.reports = running.toList.map (fun _ => ⟨.panicked (some message) none, none⟩) ∧
      crash.lines = p.lines ++ running.toList.flatMap (·.write (reply.reports ++ crash.reports)) := by
  obtain ⟨done, command, rest, reply, rfl, ran, stopped⟩ := exists_of_run_crashes crashed
  have goes : Goes running p (done.filterMap Command.panic?) reply := by
    refine goes_run latched ?_ ran
    exact settled.imp_right fun unstarted config member => unstarted config (List.mem_append_left _ member)
  obtain ⟨message, rfl⟩ := perform_crashes stopped
  refine ⟨message, done, reply, List.prefix_append _ _, ran, ?_, ?_⟩
  · rw [crash_eq goes.latched]
  · rw [crash_eq goes.latched, goes.lines]
    cases running <;> simp

section

variable {logger : Logger} {record : Record} (latched : q.Latched (some logger))
  (begun : q.lines = logger.write [record]) {commands : List Command}
include latched begun

/-- The logger writes all that is reported in a run, behind the start of its own. -/
theorem run_goes_on {later : Reply Record Application (List Answer)} (went : q.run commands = .ok later) :
    later.state.Latched (some logger) ∧ later.state.lines = logger.write (record :: later.reports) ∧
      panics later.reports = commands.filterMap Command.panic? ∧ starts later.reports = [] := by
  have goes := goes_run latched (.inl (Option.some_ne_none logger)) went
  refine ⟨goes.latched, ?_, goes.panics.trans (List.flatMap_singleton _ _), goes.starts⟩
  rw [goes.lines, begun, Option.toList_some, List.flatMap_singleton]
  exact (logger.write_append [record] later.reports).symm

theorem run_breaks_off {crash : Crash} (crashed : q.run commands = .error crash) :
    ∃ message done later, done <+: commands ∧ q.run done = .ok later ∧
      crash.reports = [⟨.panicked (some message) none, none⟩] ∧
      crash.lines = logger.write (record :: later.reports ++ crash.reports) := by
  obtain ⟨message, done, later, before, went, reports, lines⟩ :=
    run_crashes latched (.inl (Option.some_ne_none logger)) crashed
  refine ⟨message, done, later, before, went, reports, ?_⟩
  rw [lines, begun, Option.toList_some, List.flatMap_singleton]
  exact (logger.write_append [record] (later.reports ++ crash.reports)).symm

end

/-- Before the first start of the logger nothing is written, and a panic is not reported. That start succeeds
unless a filter is cut within a character, which crashes it, and is reported as no other is. The filter that
is due then and the format given with it stay in force through whatever is run later: all that is reported
from then on and passes the filter is written, later starts fail, and each panic is reported once, with its
text and with a trace identity if it is in a scope. -/
theorem run_latches_logger (environment : Environment) (dotEnv : Option String) (supply : Nat)
    (before : List Command) (unstarted : ∀ config, .startLogger config ∉ before) :
    (∀ crash, (start environment dotEnv supply).run before = .error crash → crash = ⟨[], []⟩) ∧
    (∀ early, (start environment dotEnv supply).run before = .ok early →
      let p := early.state
      p.lines = [] ∧ panics early.reports = [] ∧ starts early.reports = [] ∧
      ∀ config,
        let first := config.getD p.currentConfig
        let record : Record := ⟨.loggingStarted first.logLevel first.logJson first.routerBase, none⟩
        (Logger.Cuts p.environment first → p.perform (.startLogger config) = .error ⟨[], []⟩) ∧
        (¬Logger.Cuts p.environment first →
          ∃ logger q, Logger.Chooses p.environment first logger.filter ∧
            logger.write [] = [] ∧
            (∀ r records, logger.write (r :: records) =
              if logger.filter.passes r then
                ⟨first.logJson, r.event, if logger.filter.opens .activation then r.activation else none⟩ ::
                  logger.write records
              else logger.write records) ∧
            p.perform (.startLogger config) = .ok ⟨.started (.ok ()), q, [record]⟩ ∧
            record.event.fields =
              [("message", .text "Logging initialized"), ("log_level", .text first.logLevel),
                ("json", .flag first.logJson), ("router_base", .text first.routerBase)] ∧
            ∀ after,
              (∀ later, q.run after = .ok later →
                let r := later.state
                r.logger = some logger ∧ r.lines = logger.write (record :: later.reports) ∧
                panics later.reports = after.filterMap Command.panic? ∧ starts later.reports = [] ∧
                ∀ config,
                  let again := config.getD r.currentConfig
                  (Logger.Cuts r.environment again →
                    ∃ crash, r.perform (.startLogger config) = .error crash) ∧
                  (¬Logger.Cuts r.environment again → ∃ reason,
                    r.perform (.startLogger config) = .ok ⟨.started (.error (.config reason)), r, []⟩)) ∧
              (∀ crash, q.run after = .error crash →
                ∃ message done later, done <+: after ∧ q.run done = .ok later ∧
                  crash.reports = [⟨.panicked (some message) none, none⟩] ∧
                  crash.lines = logger.write (record :: later.reports ++ crash.reports)))) ∧
    (∀ (text : Option String) (id : Option TraceId),
      (Event.panicked text id).panic? = some (text, id.isSome) ∧
      ((∃ value, ("trace_id", value) ∈ (Event.panicked text id).fields) ↔ id.isSome = true) ∧
      ∀ message, text = some message → ("message", .text message) ∈ (Event.panicked text id).fields) := by
  have started := latched_start environment dotEnv supply
  refine ⟨fun crash crashed => ?_, fun early ran => ?_, fun text id => ⟨rfl,
    Event.traceId_mem_fields_panicked text id, ?_⟩⟩
  · obtain ⟨message, done, reply, _, _, reports, lines⟩ := run_crashes started (.inr unstarted) crashed
    obtain ⟨written, reported⟩ := crash
    obtain rfl : reported = [] := reports
    obtain rfl : written = [] := lines
    rfl
  · intro p
    have silent := goes_run started (.inr unstarted) ran
    refine ⟨silent.lines, silent.panics, silent.starts, fun config => ?_⟩
    intro first record
    refine ⟨fun cuts => ?_, fun whole => ?_⟩
    · obtain ⟨message, crashed⟩ := perform_startLogger_cut cuts
      rw [crashed, crash_eq silent.latched, silent.lines]
      rfl
    · obtain ⟨logger, begun, chooses, json⟩ := Logger.start_chooses whole
      obtain ⟨performed, latched, lines⟩ := perform_startLogger_first silent.latched begun
      have unwritten : early.state.lines = [] := silent.lines
      rw [unwritten, List.nil_append] at lines
      refine ⟨logger, _, chooses, logger.write_nil, fun r records => ?_, performed, rfl, fun after =>
        ⟨fun later went => ?_, fun crash => run_breaks_off latched lines⟩⟩
      · rw [logger.write_cons, Logger.line, json]
        rfl
      · obtain ⟨still, written, raised, started⟩ := run_goes_on latched lines went
        refine ⟨still.logger, written, raised, started, fun config => ⟨fun cuts => ?_, fun whole => ?_⟩⟩
        · obtain ⟨message, crashed⟩ := perform_startLogger_cut cuts
          exact ⟨_, crashed⟩
        · exact ⟨_, perform_startLogger_again still whole⟩
  · rintro message rfl
    exact Event.message_mem_fields_panicked message id

/-- A panic before the logger is started, a start whose filter the environment overrules, a panic in a
scope, one outside, and a second start. Where the filter of the environment is cut, the first start crashes. -/
theorem run_latches_logger_info :
    let environment : Environment := .ofList [(Config.filterVariable, "info")]
    let early : Command := .panic (some "early") false
    let config : Config := ⟨"/", "a=nothing", true⟩
    let record : Record := ⟨.loggingStarted "a=nothing" true "/", none⟩
    ∃ p q later, (start environment none 0).run [early] = .ok ⟨[.caught false], p, []⟩ ∧
      p.perform (.startLogger (some config)) = .ok ⟨.started (.ok ()), q, [record]⟩ ∧
      q.run [.panic none true, .panic (some "late") false] = .ok later ∧
      panics later.reports = [(none, true), (some "late", false)] ∧
      later.state.lines = [⟨true, record.event, none⟩, ⟨true, .panicked none (some ⟨0⟩), some ⟨0⟩⟩,
        ⟨true, .panicked (some "late") none, none⟩] ∧
      (∃ reason, later.state.perform (.startLogger (some config)) =
        .ok ⟨.started (.error (.config reason)), later.state, []⟩) ∧
      (start Program.cutting none 0).perform (.startLogger none) = .error ⟨[], []⟩ := by
  intro environment early config record
  let logger : Logger := ⟨Logger.knownFilter "info", true⟩
  have whole : ¬Logger.Cuts environment config := by
    rintro (cut | ⟨passed, _⟩)
    · exact absurd cut (by decide +kernel)
    · exact absurd (passed "info" rfl) (by decide +kernel)
  have cuts : Logger.Cuts Program.cutting Config.default := .inl (by decide +kernel)
  have begun : Logger.start environment config = .ok logger := by decide +kernel
  obtain ⟨_, silent, _⟩ := run_latches_logger environment none 0 [early] (by simp [early])
  obtain ⟨_, _, _, starts⟩ := silent ⟨[.caught false], start environment none 0, []⟩ rfl
  obtain ⟨found, q, chooses, _, _, performed, _, goes⟩ := (starts (some config)).2 whole
  obtain ⟨same, _, _⟩ := @perform_startLogger_first (start environment none 0)
    (latched_start environment none 0) (some config) logger begun
  obtain rfl : (start environment none 0).logging config logger = q :=
    congrArg Reply.state (Except.ok.inj (same.symm.trans performed))
  obtain ⟨running, lines, raised, _, again⟩ := (goes [.panic none true, .panic (some "late") false]).1 _ rfl
  obtain rfl : logger = found := Option.some.inj running
  refine ⟨start environment none 0, _, _, rfl, performed, rfl, raised, ?_, (again (some config)).2 whole, ?_⟩
  · rw [lines]
    decide +kernel
  · obtain ⟨_, uncut, _⟩ := run_latches_logger Program.cutting none 0 [] (by simp)
    obtain ⟨_, _, _, stops⟩ := uncut _ rfl
    exact (stops none).1 cuts

/-- A wide blank before a directive has the first start crash, in the filter of the environment as in that of
the configuration. -/
theorem startLogger_cutting :
    (∀ reply, (start Program.cutting none 0).perform (.startLogger none) ≠ .ok reply) ∧
    ∀ reply, (start .empty none 0).perform (.startLogger (some ⟨"/", "\u3000a=info", false⟩)) ≠ .ok reply := by
  have given : Logger.Cuts Program.cutting Config.default := .inl (by decide +kernel)
  have configured : Logger.Cuts .empty ⟨"/", "\u3000a=info", false⟩ :=
    .inr ⟨fun text absent => by contradiction, by decide +kernel⟩
  have crashes {p : Application} {config : Option Config}
      (cuts : Logger.Cuts p.environment (config.getD p.currentConfig)) (reply) :
      p.perform (.startLogger config) ≠ .ok reply := by
    obtain ⟨message, crashed⟩ := perform_startLogger_cut cuts
    simp [crashed]
  exact ⟨crashes given, crashes configured⟩

end Application
end Onboarding
