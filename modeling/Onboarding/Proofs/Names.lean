import Onboarding.Proofs.Lines
import Onboarding.Proofs.Messages
import Onboarding.Proofs.Outcomes

/-! The ways of naming a member of a vocabulary. A word, a name in a text and an argument stand for the
same member, whatever they are and whether or not they name one. So the program ends a press that is
asked for by a word as it ends one that is asked for by a message with that word. -/
namespace Onboarding

/-- What decodes from the text of a word is the one member with that word, and it has that text again. -/
def Vocabulary.Agrees (α : Type) [Vocabulary α] : Prop :=
  ∀ w : String,
    (∀ a : α, Json.decode Json.readChoice (Json.literal w) = .ok a ↔ word a = w) ∧
    (∀ a b : α, word a = w → word b = w → a = b) ∧
    (∀ a : α, word a = w → Json.encodeChoice a = Json.literal w)

theorem Vocabulary.agrees (α : Type) [Vocabulary α] [Lawful α] : Agrees α := by
  intro w
  refine ⟨fun a => ?_, fun a b first second => ?_, fun a named => ?_⟩
  · have read := Json.readWhole_choice_of_isText (α := α) (Json.isText_literal w)
    rw [Json.decode_eq_ok_iff, ← Json.toOption_eq_some_iff, read]
    exact named?_eq_some_iff
  · exact Lawful.injective (first.trans second.symm)
  · rw [Json.encodeChoice, Lawful.name_eq, named]

theorem Action.ofString_eq_ok_iff {w : String} {action : Action} :
    Action.ofString w = .ok action ↔ action.word = w := by
  have found : (Vocabulary.find? w = some action) ↔ action.word = w := Vocabulary.find?_eq_some_iff
  rw [← found, Action.ofString]
  cases (Vocabulary.find? w : Option Action) <;> simp

namespace Json

theorem decode_message_eq_ok_iff {w text : String} {action : Action}
    (h : IsText (.object [(Message.field, .text w)]) text.toList) :
    decode readMessage text = .ok ⟨action⟩ ↔ action.word = w := by
  have named : action? [(Message.field, .text w)] = Vocabulary.named? w := by
    simp [action?, valuesAt, Value.choice?]
  rw [decode_eq_ok_iff, ← toOption_eq_some_iff, readMessage_of_isText h, named]
  have same : (Vocabulary.named? w = some action) ↔ action.word = w := Vocabulary.named?_eq_some_iff
  simp [same]

/-- No text of an object looks like an option. -/
theorem head?_of_isText_object {members : List (String × Value)} {text : List Char}
    (h : IsText (.object members) text) : text.head? ≠ some '-' := by
  cases h with
  | @among before _ _ spaces written _ =>
    cases written with
    | object _ =>
      cases before with
      | nil => simp
      | cons b before =>
        have space := spaces b (List.mem_cons_self ..)
        rintro same
        obtain rfl : b = '-' := by simpa using same
        contradiction

end Json

namespace CommandLine

theorem read_word {w : String} (bare : w.toList.head? ≠ some '-') :
    read [w] =
      match Vocabulary.find? w with
      | some action => .ok (.request (.press action))
      | none => .error (.unknownAction w) := by
  have placed : State.start.place true w = .ok { State.start with pending := .action w, taken := true } := rfl
  simp only [read, parse, readArguments, Form.ofString_of_bare bare, placed, State.finish, State.settle]
  cases (Vocabulary.find? w : Option Action) <;> rfl

theorem read_message {text : String} (bare : text.toList.head? ≠ some '-') :
    read ["--json", text] = .ok (.request (.dispatch text)) := by
  have parsed := parse_eq_ok_iff.mpr (.plain (.apart (.inl bare)))
  rw [read, parsed]
  rfl

end CommandLine

namespace Program

theorem serve_of_action? {request : Request} {action : Action} (pressed : request.action? = some action)
    (p : Application) : serve p request = serve p (.press action) := by
  simp only [serve, perform_of_action? pressed]

section

variable {environment : Environment} {dotEnv : Option String} {supply : Nat}

/-- A run that carries out a request and ends well ends with what the request leads to. -/
theorem exists_leads_of_exit {arguments : List String} {request : Request}
    (reading : CommandLine.read arguments = .ok (.request request))
    (well : (run arguments (.start environment dotEnv supply)).exit = 0) :
    ∃ config ending, (Application.start environment dotEnv supply).settings? = some config ∧
      request.Leads config.routerBase ending ∧
      (run arguments (.start environment dotEnv supply)).shown = ending.shown := by
  have whole : ¬Crashes arguments (.start environment dotEnv supply) := by
    intro crashes
    simp [run_of_crashes crashes] at well
  obtain ⟨ending, due, shown, _⟩ := run_of_not_crashes whole
  cases due with
  | usage wrong => simp [reading] at wrong
  | help asked => simp [reading] at asked
  | misconfigured _ _ _ =>
    have exits := congrArg Prod.fst shown
    simp [Outcome.shown, Ending.shown, well] at exits
  | @served _ config _ again settings _ leads =>
    obtain rfl := CommandLine.Reading.request.inj (Except.ok.inj (reading.symm.trans again))
    exact ⟨config, ending, settings, leads, shown⟩

theorem exit_of_unread {arguments : List String} {text : String} {fault : Json.Fault}
    (reading : CommandLine.read arguments = .ok (.request (.dispatch text)))
    (unread : Json.readWhole Json.readMessage text.toList = .error fault) :
    (run arguments (.start environment dotEnv supply)).exit ≠ 0 := by
  intro well
  obtain ⟨config, ending, _, leads, shown⟩ := exists_leads_of_exit reading well
  rw [leads.unique (.unreadable unread)] at shown
  have exits := congrArg Prod.fst shown
  simp [Outcome.shown, Ending.shown, well] at exits

theorem output_of_press {arguments : List String} {action : Action}
    (reading : CommandLine.read arguments = .ok (.request (.press action)))
    (well : (run arguments (.start environment dotEnv supply)).exit = 0) :
    ∃ config, (Application.start environment dotEnv supply).settings? = some config ∧
      (run arguments (.start environment dotEnv supply)).output =
        action.landing config.routerBase ++ "\n" := by
  obtain ⟨config, ending, settings, leads, shown⟩ := exists_leads_of_exit reading well
  rw [leads.unique (.location rfl)] at shown
  exact ⟨config, settings, congrArg (fun shown => shown.2.1) shown⟩

theorem exit_of_press {arguments : List String} {action : Action} {config : Config}
    (reading : CommandLine.read arguments = .ok (.request (.press action)))
    (settings : (Application.start environment dotEnv supply).settings? = some config)
    (valid : config.validate = .ok ()) (whole : ¬config.CutsFilter) :
    (run arguments (.start environment dotEnv supply)).exit = 0 := by
  have stays : ¬Crashes arguments (.start environment dotEnv supply) := by
    rintro ⟨_, ⟨change, unloaded⟩ | ⟨other, same, _, cut⟩⟩
    · obtain ⟨loaded, found, _⟩ := Application.settings?_eq_some_iff.mp settings
      simp [unloaded] at found
    · obtain rfl := Option.some.inj (settings.symm.trans same)
      exact whole cut
  obtain ⟨ending, due, shown, _⟩ := run_of_not_crashes stays
  have landing := due.unique (.served reading settings valid (.location rfl))
  rw [landing] at shown
  exact congrArg Prod.fst shown

end

section

variable {w text : String} {p : Application}
  (means : Json.IsText (.object [(Message.field, .text w)]) text.toList)
  (bare : w.toList.head? ≠ some '-')
include means bare

/-- A word that names an action and a message that means it are the same request. -/
theorem run_message_of_named {action : Action} (named : Action.ofString w = .ok action) :
    CommandLine.read [w] = .ok (.request (.press action)) ∧ run ["--json", text] p = run [w] p := by
  have called := Action.ofString_eq_ok_iff.mp named
  have found : Vocabulary.find? w = some action := Vocabulary.find?_eq_some_iff.mpr called
  have typing := CommandLine.read_word bare
  rw [found] at typing
  have posting := CommandLine.read_message (Json.head?_of_isText_object means)
  have read := Json.decode_eq_ok_iff.mp ((Json.decode_message_eq_ok_iff means).mpr called)
  have pressed : (Request.dispatch text).action? = some action := by
    rw [Request.action?, Screen.pressed?, read]
    rfl
  refine ⟨typing, ?_⟩
  simp only [run, typing, posting, serve_of_action? pressed]

/-- A word that names no action is a usage error, and a message with it cannot be read. -/
theorem exit_of_unnamed {environment : Environment} {dotEnv : Option String} {supply : Nat}
    (unnamed : ∀ action : Action, Action.ofString w ≠ .ok action) :
    (run [w] p).exit ≠ 0 ∧ (run ["--json", text] (.start environment dotEnv supply)).exit ≠ 0 := by
  have unknown (action : Action) : action.word ≠ w := mt Action.ofString_eq_ok_iff.mpr (unnamed action)
  have found : (Vocabulary.find? w : Option Action) = none := by
    rw [← Vocabulary.named?_eq_find?]
    exact Vocabulary.named?_eq_none_iff.mpr unknown
  have typing := CommandLine.read_word bare
  rw [found] at typing
  have posting := CommandLine.read_message (Json.head?_of_isText_object means)
  have noAction : Json.action? [(Message.field, .text w)] = none :=
    Json.action?_eq_none (.inr ⟨w, by simp [Json.valuesAt], unknown⟩)
  obtain ⟨fault, unread⟩ := Json.readMessage_of_none means noAction
  exact ⟨by simp [run, typing], exit_of_unread posting unread⟩

end

/-- However a member of a vocabulary is named, the names agree on every text. The word of an action, its
name in a text and the message with that name mean the same, so the program ends well on an argument
exactly when it does on a message that means it, with the same outcome: the location where the action
leads. A valid configuration makes it end well, unless it has a filter that is cut. -/
theorem run_whichever_name :
    (Vocabulary.Agrees Section ∧ Vocabulary.Agrees CreationStep ∧ Vocabulary.Agrees ImportStep ∧
      Vocabulary.Agrees LedgerStep ∧ Vocabulary.Agrees Action) ∧
    (∀ w, Json.IsText (.object [("action", .text w)]) (Json.naming w).toList) ∧
    (∀ (w text : String), Json.IsText (.object [("action", .text w)]) text.toList →
      (∀ action : Action,
        (Action.ofString w = .ok action ↔ Json.decode Json.readChoice (Json.literal w) = .ok action) ∧
        (Action.ofString w = .ok action ↔ Json.decode Json.readMessage text = .ok ⟨action⟩)) ∧
      ∀ (environment : Environment) (dotEnv : Option String) (supply : Nat),
        w.toList.head? ≠ some '-' →
        let p := Application.start environment dotEnv supply
        let typed := run [w] p
        let posted := run ["--json", text] p
        (typed.exit = 0 ↔ posted.exit = 0) ∧
        (typed.exit = 0 → posted = typed ∧ ∃ action config, Action.ofString w = .ok action ∧
          p.settings? = some config ∧ typed.output = action.landing config.routerBase ++ "\n") ∧
        (∀ action config, Action.ofString w = .ok action → p.settings? = some config →
          config.validate = .ok () → ¬config.CutsFilter → typed.exit = 0)) := by
  refine ⟨⟨Vocabulary.agrees _, Vocabulary.agrees _, Vocabulary.agrees _, Vocabulary.agrees _,
    Vocabulary.agrees _⟩, Json.isText_naming, fun w text means => ⟨fun action => ⟨?_, ?_⟩, ?_⟩⟩
  · rw [Action.ofString_eq_ok_iff]
    exact ((Vocabulary.agrees Action w).1 action).symm
  · rw [Action.ofString_eq_ok_iff, Json.decode_message_eq_ok_iff means]
  · intro environment dotEnv supply bare p typed posted
    by_cases found : ∃ action, Action.ofString w = .ok action
    · obtain ⟨action, named⟩ := found
      obtain ⟨typing, same⟩ : _ ∧ posted = typed := run_message_of_named means bare named
      refine ⟨by rw [same], fun well => ⟨same, action, ?_⟩, fun other config also settings valid whole => ?_⟩
      · obtain ⟨config, settings, printed⟩ := output_of_press typing well
        exact ⟨config, named, settings, printed⟩
      · exact exit_of_press typing settings valid whole
    · obtain ⟨mistyped, refused⟩ : typed.exit ≠ 0 ∧ posted.exit ≠ 0 :=
        exit_of_unnamed means bare (not_exists.mp found)
      exact ⟨iff_of_false mistyped refused, fun well => absurd well mistyped,
        fun action _ named => absurd ⟨action, named⟩ found⟩

/-- Below `/setup` the ledger's action ends where it should, and a section of the flow is no action. -/
theorem run_whichever_name_setup :
    let p := Application.start (Application.basedAt "/setup") none 0
    (run ["connectLedger"] p).exit = 0 ∧
    run ["--json", Json.naming "connectLedger"] p = run ["connectLedger"] p ∧
    (run ["connectLedger"] p).output = "/setup/ledger\n" ∧
    Json.decode Json.readMessage (Json.naming "connectLedger") = .ok ⟨.connectLedger⟩ ∧
    ((run ["ledger"] p).exit = 0 ↔ (run ["--json", Json.naming "ledger"] p).exit = 0) := by
  intro p
  have settings : p.settings? = some { Config.default with routerBase := "/setup" } := rfl
  have whole : ¬(Config.CutsFilter { Config.default with routerBase := "/setup" }) := by decide +kernel
  obtain ⟨_, means, meant⟩ := run_whichever_name
  obtain ⟨agree, runs⟩ := meant "connectLedger" _ (means _)
  obtain ⟨_, same, ends⟩ := runs (Application.basedAt "/setup") none 0 (by decide)
  have well := ends .connectLedger _ rfl settings rfl whole
  obtain ⟨posted, action, config, named, found, printed⟩ := same well
  obtain rfl : .connectLedger = action := Except.ok.inj named
  obtain rfl := Option.some.inj (settings.symm.trans found)
  refine ⟨well, posted, printed, (agree .connectLedger).2.mp rfl, ?_⟩
  exact ((meant "ledger" _ (means _)).2 (Application.basedAt "/setup") none 0 (by decide)).1

end Program

end Onboarding
