import Onboarding.Program
import Onboarding.Proofs.Initialisation
import Onboarding.Proofs.Presses
import Onboarding.Proofs.Targets

/-! How the whole program ends. Past the arguments it fails on its configuration or on a message that
cannot be read, and on nothing else: the router starts at every base that is valid, and goes wherever a
button leads. A file of variables or a log filter that cannot be taken apart crashes it. -/
namespace Onboarding

/-- Where the router stands after a press at a base. -/
def Action.landing (base : String) : Action → String
  | .createAccount => "/accountCreation/seedPhrase"
  | .importAccount => "/importAccount/seedPhrase"
  | .connectLedger => if base = "/" then "/ledger" else base ++ "/ledger"

theorem Action.place_target (base : String) (action : Action) :
    action.target.place base action.goal = action.landing base := by
  cases action with
  | createAccount => rfl
  | importAccount => rfl
  | connectLedger => simp [target, goal, landing, Target.place, String.append_assoc]

theorem Screen.press_memory {base : String} (stands : History.IsLocation base) (action : Action)
    (t : Trace) :
    (start.press .memory action ⟨⟨[base]⟩, t⟩).result = .ok action.goal ∧
      (start.press .memory action ⟨⟨[base]⟩, t⟩).state.state.location = action.landing base := by
  obtain ⟨accepted, lands⟩ := Target.accepted action.resolve_target base
  have went := History.navigate_of_isTarget (h := ⟨[base]⟩) stands accepted
  have done : (Navigator.memory.call (some ⟨t.supply⟩) action.goal ⟨[base]⟩).result = .ok () := by
    rw [Navigator.call_memory, went]
  rw [press_navigated done, Navigator.call_memory, went]
  refine ⟨rfl, ?_⟩
  rw [← action.place_target, ← lands]
  exact History.location_push [base] _

/-- Whether the filter of a configuration is cut within a character when it is read. -/
def Config.CutsFilter (config : Config) : Prop :=
  ∃ cut, Filter.read config.logLevel = .error (.cut cut)

instance (config : Config) : Decidable config.CutsFilter :=
  match read : Filter.read config.logLevel with
  | .ok _ => .isFalse fun ⟨_, cut⟩ => by simp [read] at cut
  | .error .malformed => .isFalse fun ⟨_, cut⟩ => by simp [read] at cut
  | .error (.cut cut) => .isTrue ⟨cut, read⟩

/-- Whether an environment has a filter and it is cut. -/
def Environment.CutsFilter (env : Environment) : Prop :=
  ∃ text cut, env.text? Config.filterVariable = some text ∧ Filter.read text = .error (.cut cut)

theorem Config.logLevel_ofEnvironment (env : Environment) :
    (ofEnvironment env).logLevel = (env.text? filterVariable).getD default.logLevel := rfl

/-- The default filter is not cut. -/
theorem Config.cutsFilter_ofEnvironment_iff (env : Environment) :
    (ofEnvironment env).CutsFilter ↔ env.CutsFilter := by
  rw [CutsFilter, logLevel_ofEnvironment, Environment.CutsFilter]
  cases env.text? filterVariable with
  | none =>
    have standard : ¬Config.default.CutsFilter := by decide +kernel
    exact iff_of_false standard (by simp)
  | some text => simp

instance (env : Environment) : Decidable env.CutsFilter :=
  decidable_of_iff _ (Config.cutsFilter_ofEnvironment_iff env)

namespace Logger

/-- The environment's filter and that of the configuration it gives are the same, so there is one choice
before the default filter. -/
theorem chooseFilter_ofEnvironment (env : Environment) :
    chooseFilter env (Config.ofEnvironment env) =
      match Filter.read (Config.ofEnvironment env).logLevel with
      | .ok filter => .ok filter
      | .error .malformed => .ok (knownFilter Config.defaultFilter)
      | .error (.cut cut) => .error cut := by
  rw [chooseFilter, Config.logLevel_ofEnvironment]
  cases env.text? Config.filterVariable with
  | none => rfl
  | some text =>
    simp only [Option.getD_some, Option.toList_some, List.cons_append, List.nil_append,
      List.foldr_cons, List.foldr_nil]
    cases Filter.read text with
    | ok filter => rfl
    | error fault => cases fault <;> rfl

theorem exists_start_error_iff (env : Environment) :
    (∃ cut, start env (Config.ofEnvironment env) = .error cut) ↔
      (Config.ofEnvironment env).CutsFilter := by
  rw [start, chooseFilter_ofEnvironment, Config.CutsFilter]
  cases Filter.read (Config.ofEnvironment env).logLevel with
  | ok filter => simp [Except.map]
  | error fault => cases fault <;> simp [Except.map]

end Logger

namespace Application

/-- A running application with the logger that is started for a configuration and one more hook. -/
def logging (p : Application) (config : Config) (logger : Logger) : Application :=
  ({ p with logger := some logger }.emit
    (.loggingStarted config.logLevel config.logJson config.routerBase)).putHook

theorem startLogger_unlogged {p : Application} (unlogged : p.logger = none) {config : Config}
    {logger : Logger} (started : Logger.start p.environment config = .ok logger) :
    p.startLogger config = .ok ⟨.ok (), p.logging config logger,
      [⟨.loggingStarted config.logLevel config.logJson config.routerBase, p.trace.current⟩]⟩ := by
  simp only [startLogger, started, unlogged]
  rfl

theorem openScreen_configured {p : Application} {config : Config} (configured : p.config = some config)
    (valid : config.validate = .ok ()) :
    p.openScreen = { p with router := some ⟨[config.routerBase]⟩ }.silently (.ok config.routerBase) := by
  simp [openScreen, currentConfig, configured, Config.start_of_validate valid, History.location]

/-- The configuration that an initialisation reads, unless the file of variables crashes it. -/
def settings? (p : Application) : Option Config := p.loaded.toOption.map Config.ofEnvironment

theorem settings?_eq_some_iff {p : Application} {config : Config} :
    p.settings? = some config ↔ ∃ loaded, p.loaded = .ok loaded ∧ Config.ofEnvironment loaded = config := by
  rw [settings?]
  cases p.loaded <;> simp [Except.toOption]

end Application

def Outcome.shown (o : Outcome) : Nat × String × Option String := (o.exit, o.output, o.report)

/-- The action whose button a request presses. A message that cannot be read presses none. -/
def Request.action? : Request → Option Action
  | .screen => none
  | .press action => some action
  | .dispatch message => Screen.pressed? (.dispatch message)

inductive Ending
  | usage (fault : CommandLine.Fault)
  | help
  | misconfigured (fault : Config.Fault)
  | unreadable (reason : String)
  | screen
  | location (path : String)

def Ending.shown : Ending → Nat × String × Option String
  | .usage fault => (2, "", some fault.message)
  | .help => (0, CommandLine.help, none)
  | .misconfigured fault => (1, "", some ("Error: Configuration error: " ++ fault.message))
  | .unreadable reason =>
    (1, "", some ("Error: The request could not be understood (Decoding)\n\nCaused by:\n" ++
      Program.indented ("Decoding error: " ++ reason)))
  | .screen => (0, Screen.start.render ++ "\n", none)
  | .location path => (0, path ++ "\n", none)

theorem Ending.exit_ne (ending : Ending) : ending.shown.1 ≠ 101 := by
  cases ending <;> simp [shown]

inductive Request.Leads (base : String) : Request → Ending → Prop
  | screen : Leads base .screen .screen
  | unreadable {message : String} {fault : Json.Fault} :
    Json.readWhole Json.readMessage message.toList = .error fault →
    Leads base (.dispatch message) (.unreadable ("JSON error: " ++ fault.message message.toList))
  | location {request : Request} {action : Action} :
    request.action? = some action → Leads base request (.location (action.landing base))

theorem Request.exists_leads (base : String) (request : Request) :
    ∃ ending, request.Leads base ending := by
  cases request with
  | screen => exact ⟨_, .screen⟩
  | press action => exact ⟨_, .location rfl⟩
  | dispatch message =>
    cases pressed : Screen.pressed? (.dispatch message) with
    | some action => exact ⟨_, .location pressed⟩
    | none =>
      obtain ⟨fault, unread⟩ := Screen.pressed?_eq_none_iff.mp pressed
      exact ⟨_, .unreadable unread⟩

theorem Request.Leads.unique {base : String} {request : Request} {first second : Ending}
    (leads : request.Leads base first) (also : request.Leads base second) : first = second := by
  have unpressed {message : String} {fault : Json.Fault}
      (unread : Json.readWhole Json.readMessage message.toList = .error fault) :
      (Request.dispatch message).action? = none := Screen.pressed?_eq_none_iff.mpr ⟨fault, unread⟩
  cases leads with
  | screen =>
    cases also with
    | screen => rfl
    | location pressed => contradiction
  | unreadable unread =>
    cases also with
    | unreadable same => rw [Except.error.inj (unread.symm.trans same)]
    | location pressed => simp [unpressed unread] at pressed
  | location pressed =>
    cases also with
    | screen => contradiction
    | unreadable unread => simp [unpressed unread] at pressed
    | location same => rw [Option.some.inj (pressed.symm.trans same)]

namespace Program

/-- The ending that arguments and the configuration read call for. -/
inductive Due (arguments : List String) (config? : Option Config) : Ending → Prop
  | usage {fault : CommandLine.Fault} :
    CommandLine.read arguments = .error fault → Due arguments config? (.usage fault)
  | help : CommandLine.read arguments = .ok .help → Due arguments config? .help
  | misconfigured {request : Request} {config : Config} {fault : Config.Fault} :
    CommandLine.read arguments = .ok (.request request) → config? = some config →
    config.validate = .error fault → Due arguments config? (.misconfigured fault)
  | served {request : Request} {config : Config} {ending : Ending} :
    CommandLine.read arguments = .ok (.request request) → config? = some config →
    config.validate = .ok () → request.Leads config.routerBase ending → Due arguments config? ending

theorem Due.unique {arguments : List String} {config? : Option Config} {first second : Ending}
    (due : Due arguments config? first) (also : Due arguments config? second) : first = second := by
  cases due with
  | usage wrong => cases also <;> simp_all
  | help asked => cases also <;> simp_all
  | misconfigured reading settings invalid => cases also <;> simp_all
  | served reading settings valid leads =>
    cases also with
    | usage wrong => simp [reading] at wrong
    | help asked => simp [reading] at asked
    | misconfigured _ same invalid =>
      obtain rfl := Option.some.inj (settings.symm.trans same)
      simp [valid] at invalid
    | served again same _ others =>
      obtain rfl := Option.some.inj (settings.symm.trans same)
      obtain rfl := CommandLine.Reading.request.inj (Except.ok.inj (reading.symm.trans again))
      exact leads.unique others

theorem shown_misconfigured (fault : Config.Fault) :
    (failed fault.failure.message []).shown = (Ending.misconfigured fault).shown := by
  have opening : "Error: " ++ "Configuration error: " = "Error: Configuration error: " := by decide
  rw [Ending.shown, ← opening, String.append_assoc]
  rfl

theorem pressReport_decoding (reason : String) :
    pressReport (.decoding reason) = "The request could not be understood (Decoding)\n\nCaused by:\n" ++
      indented ("Decoding error: " ++ reason) := by
  have opening : "The request could not be understood" ++ " (" ++ "Decoding" ++ ")\n\nCaused by:\n" =
    "The request could not be understood (Decoding)\n\nCaused by:\n" := by decide
  rw [← opening]
  rfl

section

variable {q : Application}

theorem perform_of_action? {request : Request} {action : Action}
    (pressed : request.action? = some action) (q : Application) :
    perform q request = perform q (.press action) := by
  cases request with
  | screen => contradiction
  | press other =>
    obtain rfl := Option.some.inj pressed
    rfl
  | dispatch message =>
    have same : q.dispatch message = q.press action := by
      simp only [Application.dispatch, Application.press, Screen.dispatch_of_pressed? pressed]
    simp only [perform, same]

theorem shown_press {base : String} (stands : History.IsLocation base) (opened : q.router = some ⟨[base]⟩)
    (action : Action) :
    (perform q (.press action)).shown = (Ending.location (action.landing base)).shown := by
  obtain ⟨answered, lands⟩ := Screen.press_memory stands action q.trace
  simp [perform, Application.press, opened, Application.absorb, Application.reporting, Application.emit,
    Application.log, answered, lands, Outcome.shown, Ending.shown]

theorem shown_unreadable {h : History} (opened : q.router = some h) {message : String}
    {fault : Json.Fault} (unread : Json.readWhole Json.readMessage message.toList = .error fault) :
    (perform q (.dispatch message)).shown =
      (Ending.unreadable ("JSON error: " ++ fault.message message.toList)).shown := by
  have answered : q.dispatch message = some (q.absorb
      ⟨.error (fault.failure message.toList), ⟨h, q.trace⟩,
        [⟨.rejected (fault.message message.toList), q.trace.current⟩]⟩) := by
    rw [Application.dispatch, opened, Option.map_some, Screen.dispatch_unread unread]
  rw [perform, answered]
  simp only [Application.absorb, Application.reporting, Outcome.shown, failed, Json.Fault.failure,
    pressReport_decoding, Ending.shown, ← String.append_assoc]
  rfl

theorem shown_perform {base : String} (stands : History.IsLocation base)
    (opened : q.router = some ⟨[base]⟩) {request : Request} {ending : Ending}
    (leads : request.Leads base ending) : (perform q request).shown = ending.shown := by
  cases leads with
  | screen => rfl
  | unreadable unread => exact shown_unreadable opened unread
  | location pressed =>
    rw [perform_of_action? pressed]
    exact shown_press stands opened _

end

theorem proceed_ok {α : Type} (a : α) (p : Application) (records : List Record)
    (next : α → Application → Outcome) : proceed (.ok ⟨.ok a, p, records⟩) next = next a p := rfl

section

variable {environment loaded : Environment} {dotEnv : Option String} {supply : Nat}

theorem serve_unloaded {change : Environment.Impossible}
    (unloaded : (Application.start environment dotEnv supply).loaded = .error change) (request : Request) :
    serve (.start environment dotEnv supply) request = ⟨101, "", none, []⟩ := by
  rw [serve, Application.configure, unloaded]
  rfl

variable (found : (Application.start environment dotEnv supply).loaded = .ok loaded)
include found

theorem serve_misconfigured {fault : Config.Fault}
    (wrong : (Config.ofEnvironment loaded).validate = .error fault) (request : Request) :
    serve (.start environment dotEnv supply) request = failed fault.failure.message [] := by
  simp only [serve, Application.configure, found, Application.adoptConfig, wrong]
  rfl

variable (valid : (Config.ofEnvironment loaded).validate = .ok ())
include valid

theorem configure_start :
    (Application.start environment dotEnv supply).configure =
      .ok ⟨.ok (Config.ofEnvironment loaded),
        ⟨loaded, dotEnv, some (Config.ofEnvironment loaded), none, 0, .start supply, none, []⟩,
        [⟨.configured, none⟩]⟩ := by
  simp only [Application.configure, found, Application.adoptConfig, valid]
  rfl

theorem serve_cut (cut : (Config.ofEnvironment loaded).CutsFilter) (request : Request) :
    serve (.start environment dotEnv supply) request = ⟨101, "", none, []⟩ := by
  obtain ⟨cut, stopped⟩ := (Logger.exists_start_error_iff loaded).mpr cut
  rw [serve, configure_start found valid]
  simp only [proceed, Application.startLogger, stopped]
  rfl

theorem serve_opened (whole : ¬(Config.ofEnvironment loaded).CutsFilter) (request : Request) :
    ∃ q : Application, q.router = some ⟨[(Config.ofEnvironment loaded).routerBase]⟩ ∧
      serve (.start environment dotEnv supply) request = perform q request := by
  cases started : Logger.start loaded (Config.ofEnvironment loaded) with
  | error cut => exact absurd ((Logger.exists_start_error_iff loaded).mp ⟨cut, started⟩) whole
  | ok logger =>
    rw [serve, configure_start found valid, proceed_ok, Application.startLogger_unlogged rfl started,
      proceed_ok, Application.openScreen_configured rfl valid, Application.silently, proceed_ok]
    exact ⟨_, rfl, rfl⟩

end

/-- The runs that crash: the file of variables sets what no environment can hold, or the filter of a
valid configuration is cut within a character. -/
def Crashes (arguments : List String) (p : Application) : Prop :=
  (∃ request, CommandLine.read arguments = .ok (.request request)) ∧
    ((∃ change, p.loaded = .error change) ∨
      ∃ config, p.settings? = some config ∧ config.validate = .ok () ∧ config.CutsFilter)

section

variable {arguments : List String} {environment : Environment} {dotEnv : Option String} {supply : Nat}

theorem run_of_crashes (crashes : Crashes arguments (.start environment dotEnv supply)) :
    run arguments (.start environment dotEnv supply) = ⟨101, "", none, []⟩ := by
  obtain ⟨⟨request, reading⟩, ⟨change, unloaded⟩ | ⟨config, settings, valid, cut⟩⟩ := crashes
  · rw [run, reading]
    exact serve_unloaded unloaded request
  · obtain ⟨loaded, found, rfl⟩ := Application.settings?_eq_some_iff.mp settings
    rw [run, reading]
    exact serve_cut found valid cut request

theorem run_of_not_crashes (whole : ¬Crashes arguments (.start environment dotEnv supply)) :
    ∃ ending, Due arguments (Application.start environment dotEnv supply).settings? ending ∧
      (run arguments (.start environment dotEnv supply)).shown = ending.shown ∧
      ∀ fault, ending = .misconfigured fault →
        (run arguments (.start environment dotEnv supply)).lines = [] := by
  cases reading : CommandLine.read arguments with
  | error fault =>
    refine ⟨.usage fault, .usage reading, ?_, nofun⟩
    rw [run, reading]
    rfl
  | ok understood =>
    cases understood with
    | help =>
      refine ⟨.help, .help reading, ?_, nofun⟩
      rw [run, reading]
      rfl
    | request request =>
      have served : run arguments (.start environment dotEnv supply) =
          serve (.start environment dotEnv supply) request := by rw [run, reading]
      rw [served]
      cases found : (Application.start environment dotEnv supply).loaded with
      | error change => exact absurd ⟨⟨request, reading⟩, .inl ⟨change, found⟩⟩ whole
      | ok loaded =>
        have settings := Application.settings?_eq_some_iff.mpr ⟨loaded, found, rfl⟩
        cases checked : (Config.ofEnvironment loaded).validate with
        | error fault =>
          refine ⟨.misconfigured fault, .misconfigured reading settings checked, ?_, fun _ _ => ?_⟩
          · rw [serve_misconfigured found checked]
            exact shown_misconfigured fault
          · rw [serve_misconfigured found checked]
            rfl
        | ok valid =>
          have uncut : ¬(Config.ofEnvironment loaded).CutsFilter := fun cut =>
            whole ⟨⟨request, reading⟩, .inr ⟨_, settings, checked, cut⟩⟩
          obtain ⟨q, opened, performed⟩ := serve_opened found checked uncut request
          obtain ⟨ending, leads⟩ := request.exists_leads (Config.ofEnvironment loaded).routerBase
          refine ⟨ending, .served reading settings checked leads, ?_, ?_⟩
          · rw [performed]
            exact shown_perform (Config.validate_eq_ok_iff.mp checked).1 opened leads
          · rintro fault rfl
            contradiction

/-- Without a file of variables only the filter of the environment crashes a run. -/
theorem cutsFilter_of_crashes (crashes : Crashes arguments (.start environment none supply)) :
    environment.CutsFilter := by
  obtain ⟨_, ⟨change, unloaded⟩ | ⟨config, settings, _, cut⟩⟩ := crashes
  · contradiction
  · obtain rfl := Option.some.inj settings
    exact (Config.cutsFilter_ofEnvironment_iff environment).mp cut

theorem exit_eq_iff_crashes :
    (run arguments (.start environment dotEnv supply)).exit = 101 ↔
      Crashes arguments (.start environment dotEnv supply) := by
  constructor
  · intro exits
    apply Classical.byContradiction
    intro whole
    obtain ⟨ending, _, shown, _⟩ := run_of_not_crashes whole
    exact ending.exit_ne (by rw [← shown, Outcome.shown, exits])
  · intro crashes
    rw [run_of_crashes crashes]

end

theorem failure_of_shown {outcome : Outcome} {ending : Ending} (shown : outcome.shown = ending.shown)
    (failing : outcome.exit = 1) : ∃ failure : Failure,
      (failure.code = "Config" ∧ outcome.report = some ("Error: " ++ failure.message)) ∨
      (failure.code = "Decoding" ∧ outcome.report = some ("Error: " ++ pressReport failure)) := by
  have exits : ending.shown.1 = 1 := by rw [← shown, Outcome.shown, failing]
  have reported : outcome.report = ending.shown.2.2 := by rw [← shown, Outcome.shown]
  cases ending with
  | misconfigured fault =>
    refine ⟨fault.failure, .inl ⟨rfl, ?_⟩⟩
    rw [reported, ← shown_misconfigured]
    rfl
  | unreadable reason =>
    refine ⟨.decoding reason, .inr ⟨rfl, ?_⟩⟩
    rw [reported, pressReport_decoding, ← String.append_assoc]
    rfl
  | usage fault => simp [Ending.shown] at exits
  | help => simp [Ending.shown] at exits
  | screen => simp [Ending.shown] at exits
  | location path => simp [Ending.shown] at exits

/-- The program crashes, or it ends in the one way that its arguments and its configuration call for. When
it fails, it fails on the configuration or on a message. -/
theorem run_ends (arguments : List String) (environment : Environment) (dotEnv : Option String)
    (supply : Nat) :
    let p := Application.start environment dotEnv supply
    let outcome := run arguments p
    (Crashes arguments p → outcome = ⟨101, "", none, []⟩) ∧
    (¬Crashes arguments p → ∃ ending, Due arguments p.settings? ending ∧
      (∀ other, Due arguments p.settings? other → other = ending) ∧
      outcome.shown = ending.shown ∧ (∀ fault, ending = .misconfigured fault → outcome.lines = [])) ∧
    (outcome.exit = 1 → ∃ failure : Failure,
      (failure.code = "Config" ∧ outcome.report = some ("Error: " ++ failure.message)) ∨
      (failure.code = "Decoding" ∧ outcome.report = some ("Error: " ++ pressReport failure))) := by
  intro p outcome
  refine ⟨run_of_crashes, fun whole => ?_, fun failing => ?_⟩
  · obtain ⟨ending, due, shown, unlogged⟩ := run_of_not_crashes whole
    exact ⟨ending, due, fun _ also => also.unique due, shown, unlogged⟩
  · by_cases crashes : Crashes arguments p
    · simp [outcome, p, run_of_crashes crashes] at failing
    · obtain ⟨ending, _, shown, _⟩ := run_of_not_crashes crashes
      exact failure_of_shown shown failing

def cutting : Environment := .ofList [(Config.filterVariable, "\u3000a=info")]

theorem crashes_cutting : Crashes ["connectLedger"] (.start cutting none 0) :=
  ⟨⟨.press .connectLedger, rfl⟩, .inr ⟨_, rfl, rfl, by decide +kernel⟩⟩

/-- Below `/setup` the ledger is a level further down, `setup` is no base to start at, and a filter that
is cut ends the run. -/
theorem run_ends_setup :
    (run ["connectLedger"] (.start (Application.basedAt "/setup") none 0)).shown =
      (0, "/setup/ledger\n", none) ∧
    (run ["connectLedger"] (.start (Application.basedAt "setup") none 0)).shown =
      (1, "", some "Error: Configuration error: SETUP_ROUTER_BASE must start with '/', got 'setup'") ∧
    (run ["connectLedger"] (.start (Application.basedAt "setup") none 0)).lines = [] ∧
    (run ["connectLedger"] (.start cutting none 0)).exit = 101 := by
  have whole (base : String) :
      ¬Crashes ["connectLedger"] (.start (Application.basedAt base) none 0) := by
    intro crashes
    obtain ⟨text, cut, given, _⟩ := cutsFilter_of_crashes crashes
    contradiction
  obtain ⟨_, opens, _⟩ := run_ends ["connectLedger"] (Application.basedAt "/setup") none 0
  obtain ⟨_, refuses, _⟩ := run_ends ["connectLedger"] (Application.basedAt "setup") none 0
  obtain ⟨crashes, _, _⟩ := run_ends ["connectLedger"] cutting none 0
  refine ⟨?_, ?_, ?_, by rw [crashes crashes_cutting]⟩
  · obtain ⟨ending, _, unique, shown, _⟩ := opens (whole "/setup")
    have leads : (Request.press .connectLedger).Leads "/setup"
        (.location (Action.connectLedger.landing "/setup")) := .location rfl
    rw [shown, ← unique _ (.served rfl rfl rfl leads)]
    rfl
  all_goals
    obtain ⟨ending, _, unique, shown, unlogged⟩ := refuses (whole "setup")
    have due : Due ["connectLedger"] (some { Config.default with routerBase := "setup" })
        (.misconfigured (.relativeBase "setup")) := .misconfigured rfl rfl rfl
    obtain rfl := unique _ due
  · exact shown
  · exact unlogged _ rfl

/-- The location is due, but the run crashes, which is no ending. -/
theorem run_cutting :
    Due ["connectLedger"] (Application.start cutting none 0).settings? (.location "/ledger") ∧
    (run ["connectLedger"] (.start cutting none 0)).shown = (101, "", none) ∧
    ∀ ending : Ending, (run ["connectLedger"] (.start cutting none 0)).shown ≠ ending.shown := by
  have leads : (Request.press .connectLedger).Leads "/"
    (.location (Action.connectLedger.landing "/")) := .location rfl
  rw [run_of_crashes crashes_cutting]
  exact ⟨.served rfl rfl rfl leads, rfl, fun ending same => ending.exit_ne (congrArg Prod.fst same).symm⟩

end Program

end Onboarding
