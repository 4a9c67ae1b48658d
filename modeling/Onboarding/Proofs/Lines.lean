import Onboarding.Program

/-! The lines that are accepted. A state counts the values it holds, accepted or pending. Every argument
adds one, unless it divides the line or is the value of the option before it, and no line ends well with
two; so an accepted line holds an action, a message or nothing. -/
namespace Onboarding.CommandLine

/-- A value that no option or divider looks like. -/
def IsBare (argument : String) : Prop := argument.toList.head? ≠ some '-' ∨ argument = "-"

inductive Plain : List String → Line → Prop
  | nothing : Plain [] ⟨none, none⟩
  | word (action : Action) : Plain [action.word] ⟨some action, none⟩
  | apart {value : String} (bare : IsBare value) : Plain ["--json", value] ⟨none, some value⟩
  | attached (value : String) : Plain ["--json=" ++ value] ⟨none, some value⟩

/-- The lines that are accepted: a divider may end any other, or stand before a word. -/
inductive Accepted : List String → Line → Prop
  | plain {arguments : List String} {line : Line} : Plain arguments line → Accepted arguments line
  | ended {arguments : List String} {line : Line} :
    Plain arguments line → Accepted (arguments ++ ["--"]) line
  | behind (action : Action) : Accepted ["--", action.word] ⟨some action, none⟩

theorem Accepted.of_rest {arguments rest : List String} {line : Line} (plain : Plain arguments line)
    (ends : rest = [] ∨ rest = ["--"]) : Accepted (arguments ++ rest) line := by
  rcases ends with rfl | rfl
  · rw [List.append_nil]
    exact .plain plain
  · exact .ended plain

theorem Plain.cases {arguments : List String} {line : Line} (plain : Plain arguments line) :
    line = ⟨none, none⟩ ∨ (∃ action, line = ⟨some action, none⟩) ∨
      ∃ message, line = ⟨none, some message⟩ := by
  cases plain with
  | nothing => exact .inl rfl
  | word action => exact .inr (.inl ⟨action, rfl⟩)
  | apart bare => exact .inr (.inr ⟨_, rfl⟩)
  | attached value => exact .inr (.inr ⟨value, rfl⟩)

/-- An accepted line holds nothing, an action or a message. -/
theorem Accepted.cases {arguments : List String} {line : Line} (accepted : Accepted arguments line) :
    line = ⟨none, none⟩ ∨ (∃ action, line = ⟨some action, none⟩) ∨
      ∃ message, line = ⟨none, some message⟩ := by
  cases accepted with
  | plain plain => exact plain.cases
  | ended plain => exact plain.cases
  | behind action => exact .inr (.inl ⟨action, rfl⟩)

theorem isBare_word (action : Action) : IsBare action.word := by
  cases action <;> exact .inl (by decide)

namespace Form

theorem ofString_of_bare {argument : String} (bare : argument.toList.head? ≠ some '-') :
    ofString argument = .bare := by
  rw [ofString]
  split <;> simp_all

theorem ofString_of_isBare {argument : String} (bare : IsBare argument) : ofString argument = .bare := by
  rcases bare with other | rfl
  · exact ofString_of_bare other
  · rfl

theorem ofString_attached (value : String) : ofString ("--json=" ++ value) = .long "json" (some value) := by
  have begun : ("--json=" ++ value).toList = '-' :: '-' :: 'j' :: 's' :: 'o' :: 'n' :: '=' :: value.toList := by
    simp
  rw [ofString, begun]
  simp

/-- The name of an option ends where a value is attached. -/
theorem exists_long {argument : String} {c : Char} {rest : List Char}
    (begun : argument.toList = '-' :: '-' :: c :: rest) :
    ∃ name value, argument = "--" ++ name ++ value.elim "" ("=" ++ ·) ∧
      ofString argument = .long name value := by
  have parts := List.takeWhile_append_dropWhile (p := fun d => decide (d ≠ '=')) (l := c :: rest)
  generalize named : (c :: rest).takeWhile (fun d => decide (d ≠ '=')) = name at parts
  rw [ofString, begun]
  cases valued : (c :: rest).dropWhile (fun d => decide (d ≠ '=')) with
  | nil =>
    rw [valued, List.append_nil] at parts
    refine ⟨String.ofList name, none, ?_, by simp only [valued, named]⟩
    apply String.ext
    simp [begun, parts]
  | cons sign value =>
    have mark : sign = '=' := by
      have first := List.head?_dropWhile_not (fun d => decide (d ≠ '=')) (c :: rest)
      rw [valued] at first
      simpa using first
    rw [valued, mark] at parts
    refine ⟨String.ofList name, some (String.ofList value), ?_, by simp only [valued, named]⟩
    apply String.ext
    simp [begun, ← parts]

/-- What an argument is, by how it is spelt. -/
theorem ofString_cases (argument : String) :
    (argument = "--" ∧ ofString argument = .divider) ∨
    (∃ name value, argument = "--" ++ name ++ value.elim "" ("=" ++ ·) ∧
      ofString argument = .long name value) ∨
    (∃ letter, ofString argument = .short letter) ∨
    (IsBare argument ∧ ofString argument = .bare) := by
  by_cases dashed : argument.toList.head? = some '-'
  · obtain ⟨rest, begun⟩ := List.head?_eq_some_iff.mp dashed
    cases rest with
    | nil =>
      have alone : argument = "-" := String.toList_inj.mp begun
      exact .inr (.inr (.inr ⟨.inr alone, ofString_of_isBare (.inr alone)⟩))
    | cons c rest =>
      by_cases double : c = '-'
      · subst double
        cases rest with
        | nil =>
          have divides : argument = "--" := String.toList_inj.mp begun
          exact .inl ⟨divides, by rw [divides]; rfl⟩
        | cons d rest => exact .inr (.inl (exists_long begun))
      · refine .inr (.inr (.inl ⟨c, ?_⟩))
        rw [ofString, begun]
        simp [double]
  · exact .inr (.inr (.inr ⟨.inl dashed, ofString_of_bare dashed⟩))

end Form

namespace State

/-- How many values a state holds: the accepted ones, and one that is pending. -/
def held (s : State) : Nat := s.order.length + if s.pending = .nothing then 0 else 1

/-- The accepted values are counted in their order, and there is one place for an action. -/
structure Sound (s : State) : Prop where
  counted : s.order.length = s.action.toList.length + s.message.toList.length
  free : s.taken = false → s.action = none ∧ ∀ value, s.pending ≠ .action value
  single : ∀ value, s.pending = .action value → s.action = none

theorem start_sound : start.Sound := ⟨rfl, fun _ => ⟨rfl, by simp [start]⟩, by simp [start]⟩

variable {s t : State}

/-- Only a word that is pending needs the place for an action. -/
theorem pending_sound (sound : s.Sound) {pending : Pending} (other : ∀ value, pending ≠ .action value) :
    ({ s with pending := pending } : State).Sound :=
  ⟨sound.counted, fun untaken => ⟨(sound.free untaken).1, other⟩,
    fun value waits => absurd waits (other value)⟩

theorem cleared_sound (sound : s.Sound) : ({ s with pending := .nothing } : State).Sound :=
  pending_sound sound (by simp)

theorem waiting_sound (sound : s.Sound) (value : Option String) :
    ({ s with pending := .message value } : State).Sound :=
  pending_sound sound (by simp)

theorem accept_eq_ok_iff {value : String} :
    s.accept value = .ok t ↔
      s.message = none ∧ t = { s with message := some value, order := s.order ++ [.message] } := by
  rw [accept]
  cases s.message <;> simp [eq_comm]

theorem accept_sound (sound : s.Sound) (settled : s.pending = .nothing) {value : String}
    (accepted : s.accept value = .ok t) : t.Sound ∧ t.held = s.held + 1 := by
  obtain ⟨first, rfl⟩ := accept_eq_ok_iff.mp accepted
  refine ⟨⟨?_, sound.free, sound.single⟩, ?_⟩
  · simp [sound.counted, first]
  · simp [held, settled]

/-- Checking what is pending neither adds a value nor loses one. An option without its value fails. -/
theorem settle_sound (sound : s.Sound) (settled : s.settle = .ok t) :
    t.Sound ∧ t.pending = .nothing ∧ t.held = s.held ∧ t.taken = s.taken ∧ s.pending ≠ .message none := by
  rw [settle] at settled
  cases pending : s.pending with
  | nothing =>
    simp only [pending] at settled
    obtain rfl := Except.ok.inj settled
    exact ⟨cleared_sound sound, rfl, by simp [held, pending], rfl, by simp⟩
  | action value =>
    simp only [pending] at settled
    have place := sound.single value pending
    cases named : (Vocabulary.find? value : Option Action) with
    | none => simp [named] at settled
    | some action =>
      simp only [named] at settled
      obtain rfl := Except.ok.inj settled
      refine ⟨⟨?_, fun untaken => absurd pending ((sound.free untaken).2 value), by simp⟩, rfl, ?_, rfl, by simp⟩
      · simp [sound.counted, place]
        omega
      · simp [held, pending]
  | message value =>
    cases value with
    | none => simp [pending] at settled
    | some value =>
      simp only [pending] at settled
      obtain ⟨next, grown⟩ := accept_sound (cleared_sound sound) rfl settled
      obtain ⟨_, rfl⟩ := accept_eq_ok_iff.mp settled
      refine ⟨next, rfl, ?_, rfl, by simp⟩
      rw [grown]
      simp [held, pending]

/-- A value that stands alone is added, or it is the one that the option before it is waiting for. -/
theorem place_sound (sound : s.Sound) {afterOption : Bool} {value : String}
    (placed : s.place afterOption value = .ok t) :
    t.Sound ∧ (s.pending ≠ .message none ∧ t.held = s.held + 1 ∨
      afterOption = true ∧ s.pending = .message none ∧ t = { s with pending := .message (some value) }) := by
  rw [place] at placed
  by_cases awaited : s.pending = .message none ∧ afterOption = true
  · rw [if_pos awaited] at placed
    obtain rfl := Except.ok.inj placed
    exact ⟨waiting_sound sound _, .inr ⟨awaited.2, awaited.1, rfl⟩⟩
  · rw [if_neg awaited] at placed
    cases taken : s.taken with
    | true => simp [taken] at placed
    | false =>
      simp only [taken, Bool.false_eq_true, if_false] at placed
      cases settled : s.settle with
      | error fault =>
        rw [settled] at placed
        contradiction
      | ok u =>
        rw [settled] at placed
        obtain rfl := Except.ok.inj placed
        obtain ⟨next, empty, same, place, waited⟩ := settle_sound sound settled
        have untaken : u.action = none := (next.free (place.trans taken)).1
        refine ⟨⟨next.counted, by simp, fun _ _ => untaken⟩, .inl ⟨waited, ?_⟩⟩
        rw [← same]
        simp [held, empty]

/-- A line with two values does not end well. -/
theorem held_of_finish (sound : s.Sound) {line : Line} (finished : s.finish = .ok (.line line)) :
    s.held ≤ 1 := by
  rw [finish] at finished
  cases settled : s.settle with
  | error fault => simp [settled] at finished
  | ok t =>
    obtain ⟨next, empty, same, _⟩ := settle_sound sound settled
    have counted := next.counted
    simp only [settled] at finished
    rw [← same, held, if_pos empty]
    cases acted : t.action with
    | none =>
      rw [counted, acted]
      cases t.message <;> simp
    | some action =>
      cases told : t.message with
      | none => simp [counted, acted, told]
      | some message =>
        -- Both are counted, so the line fails as a conflict.
        rw [acted, told] at counted
        cases listed : t.order with
        | nil => simp [listed] at counted
        | cons first others =>
          cases others with
          | nil => simp [listed] at counted
          | cons second others => simp [acted, told, listed] at finished

end State

open State

variable {s : State} {argument : String} {arguments : List String} {line : Line}

/-- Behind the divider every argument adds a value. -/
theorem readValues_cons (sound : s.Sound)
    (read : readValues s (argument :: arguments) = .ok (.line line)) :
    ∃ t, s.place false argument = .ok t ∧ readValues t arguments = .ok (.line line) ∧ t.Sound ∧
      s.pending ≠ .message none ∧ t.held = s.held + 1 := by
  rw [readValues] at read
  cases placed : s.place false argument with
  | error fault => simp [placed] at read
  | ok t =>
    simp only [placed] at read
    obtain ⟨next, added | ⟨never, _⟩⟩ := place_sound sound placed
    · exact ⟨t, rfl, read, next, added⟩
    · contradiction

theorem held_of_readValues (sound : s.Sound) (read : readValues s arguments = .ok (.line line)) :
    s.held ≤ 1 := by
  induction arguments generalizing s with
  | nil => exact held_of_finish sound read
  | cons argument others ih =>
    obtain ⟨t, _, later, next, _, grown⟩ := readValues_cons sound read
    have := ih next later
    omega

/-- Behind the divider an option gets no value. -/
theorem not_waiting_of_readValues (sound : s.Sound) (read : readValues s arguments = .ok (.line line)) :
    s.pending ≠ .message none := by
  cases arguments with
  | nil =>
    intro waiting
    simp [readValues, finish, settle, waiting] at read
  | cons argument others =>
    obtain ⟨_, _, _, _, whole, _⟩ := readValues_cons sound read
    exact whole

/-- What an argument does when reading goes on. -/
inductive Takes (s : State) : String → State → Prop
  | option {t : State} : s.settle = .ok t → Takes s "--json" { t with pending := .message none }
  | attached {t u : State} {value : String} :
    s.settle = .ok t → t.accept value = .ok u → Takes s ("--json=" ++ value) u
  | value {argument : String} {t : State} :
    IsBare argument → s.place true argument = .ok t → Takes s argument t

theorem help_ne_line (settled : Except Fault State) :
    (settled.map fun _ => Parsing.help) ≠ .ok (.line line) := by
  intro same
  cases settled with
  | error fault => contradiction
  | ok t =>
    have := Except.ok.inj same
    contradiction

/-- Of the options only the one for a message lets reading go on. -/
theorem takes_of_long {name : String} {value : Option String}
    (spelt : argument = "--" ++ name ++ value.elim "" ("=" ++ ·))
    (form : Form.ofString argument = .long name value)
    (read : readArguments s (argument :: arguments) = .ok (.line line)) :
    ∃ t, Takes s argument t ∧ readArguments t arguments = .ok (.line line) := by
  simp only [readArguments, form] at read
  by_cases json : name = "json"
  · subst json
    simp only [if_true] at read
    cases settled : s.settle with
    | error fault => simp [settled] at read
    | ok t =>
      simp only [settled] at read
      cases value with
      | none =>
        obtain rfl : argument = "--json" := spelt
        exact ⟨_, .option settled, read⟩
      | some value =>
        simp only at read
        cases accepted : t.accept value with
        | error fault => simp [accepted] at read
        | ok u =>
          simp only [accepted] at read
          obtain rfl : argument = "--json=" ++ value := by
            apply String.ext
            simp [spelt]
          exact ⟨u, .attached settled accepted, read⟩
  · rw [if_neg json] at read
    split at read
    · cases value with
      | none => exact absurd read (help_ne_line _)
      | some value => contradiction
    · contradiction

/-- A line that ends well is divided here, or its next argument is taken. -/
theorem readArguments_cons (read : readArguments s (argument :: arguments) = .ok (.line line)) :
    (argument = "--" ∧ readValues s arguments = .ok (.line line)) ∨
    ∃ t, Takes s argument t ∧ readArguments t arguments = .ok (.line line) := by
  rcases Form.ofString_cases argument with ⟨divides, form⟩ | ⟨name, value, spelt, form⟩ |
    ⟨letter, form⟩ | ⟨bare, form⟩
  · rw [readArguments, form] at read
    exact .inl ⟨divides, read⟩
  · exact .inr (takes_of_long spelt form read)
  · simp only [readArguments, form] at read
    split at read
    · exact absurd read (help_ne_line _)
    · contradiction
  · simp only [readArguments, form] at read
    cases placed : s.place true argument with
    | error fault => simp [placed] at read
    | ok t =>
      simp only [placed] at read
      exact .inr ⟨t, .value bare placed, read⟩

/-- An argument adds a value, or it is the value that an option is waiting for. -/
theorem Takes.sound {t : State} (takes : Takes s argument t) (sound : s.Sound) :
    t.Sound ∧ (s.pending ≠ .message none ∧ t.held = s.held + 1 ∨
      IsBare argument ∧ s.pending = .message none ∧
        t = { s with pending := .message (some argument) }) := by
  cases takes with
  | option settled =>
    obtain ⟨next, empty, same, _, waited⟩ := settle_sound sound settled
    refine ⟨waiting_sound next none, .inl ⟨waited, ?_⟩⟩
    rw [← same]
    simp [held, empty]
  | attached settled accepted =>
    obtain ⟨next, empty, same, _, waited⟩ := settle_sound sound settled
    obtain ⟨last, grown⟩ := accept_sound next empty accepted
    exact ⟨last, .inl ⟨waited, by rw [grown, same]⟩⟩
  | value bare placed =>
    obtain ⟨next, added | ⟨_, waiting, given⟩⟩ := place_sound sound placed
    · exact ⟨next, .inl added⟩
    · exact ⟨next, .inr ⟨bare, waiting, given⟩⟩

/-- No line ends well with two values. -/
theorem held_le_one (sound : s.Sound) (read : readArguments s arguments = .ok (.line line)) :
    s.held ≤ 1 := by
  induction arguments generalizing s with
  | nil => exact held_of_finish sound read
  | cons argument others ih =>
    rcases readArguments_cons read with ⟨_, values⟩ | ⟨t, takes, later⟩
    · exact held_of_readValues sound values
    · obtain ⟨next, ⟨_, grown⟩ | ⟨_, waiting, rfl⟩⟩ := takes.sound sound
      · have := ih next later
        omega
      · have same : held { s with pending := .message (some argument) } = s.held := by
          simp [held, waiting]
        exact same ▸ ih next later

/-- Behind the divider a state that holds a value takes no other. -/
theorem readValues_full (sound : s.Sound) (full : s.held = 1)
    (read : readValues s arguments = .ok (.line line)) :
    arguments = [] ∧ s.finish = .ok (.line line) := by
  cases arguments with
  | nil => exact ⟨rfl, read⟩
  | cons argument others =>
    obtain ⟨t, _, later, next, _, grown⟩ := readValues_cons sound read
    have := held_of_readValues next later
    omega

/-- A state that holds a value whole takes no other: at most a divider is left. -/
theorem readArguments_full (sound : s.Sound) (full : s.held = 1) (whole : s.pending ≠ .message none)
    (read : readArguments s arguments = .ok (.line line)) :
    (arguments = [] ∨ arguments = ["--"]) ∧ s.finish = .ok (.line line) := by
  cases arguments with
  | nil => exact ⟨.inl rfl, read⟩
  | cons argument others =>
    rcases readArguments_cons read with ⟨rfl, values⟩ | ⟨t, takes, later⟩
    · obtain ⟨rfl, finished⟩ := readValues_full sound full values
      exact ⟨.inr rfl, finished⟩
    · obtain ⟨next, ⟨_, grown⟩ | ⟨_, waiting, _⟩⟩ := takes.sound sound
      · have := held_le_one next later
        omega
      · exact absurd waiting whole

/-- A word that is pending ends the line with its action, if it names one. -/
theorem finish_action {value : String} {taken : Bool} :
    finish ⟨none, none, [], .action value, taken⟩ = .ok (.line line) ↔
      ∃ action : Action, action.word = value ∧ line = ⟨some action, none⟩ := by
  constructor
  · intro finished
    rw [finish, settle] at finished
    cases named : (Vocabulary.find? value : Option Action) with
    | none => simp [named] at finished
    | some action =>
      simp only [named] at finished
      obtain rfl := Parsing.line.inj (Except.ok.inj finished)
      exact ⟨action, Vocabulary.word_of_find? named, rfl⟩
  · rintro ⟨action, rfl, rfl⟩
    cases action <;> rfl

def holding (value : String) : State := ⟨none, none, [], .action value, true⟩

theorem accepted_behind (values : readValues start arguments = .ok (.line line)) :
    Accepted ("--" :: arguments) line := by
  cases arguments with
  | nil =>
    obtain rfl := Parsing.line.inj (Except.ok.inj values)
    exact .ended .nothing
  | cons value others =>
    obtain ⟨t, placed, later, next, _, full⟩ := readValues_cons start_sound values
    obtain rfl : holding value = t := Except.ok.inj placed
    obtain ⟨rfl, finished⟩ := readValues_full next full later
    obtain ⟨action, rfl, rfl⟩ := finish_action.mp finished
    exact .behind action

/-- The option takes the next argument, which must look like a value, and then the line is full. -/
theorem accepted_apart
    (read : readArguments { start with pending := .message none } arguments = .ok (.line line)) :
    Accepted ("--json" :: arguments) line := by
  have waits := waiting_sound start_sound none
  cases arguments with
  | nil => contradiction
  | cons value others =>
    rcases readArguments_cons read with ⟨_, values⟩ | ⟨t, takes, later⟩
    · exact absurd rfl (not_waiting_of_readValues waits values)
    · obtain ⟨next, ⟨whole, _⟩ | ⟨bare, _, rfl⟩⟩ := takes.sound waits
      · exact absurd rfl whole
      · obtain ⟨ends, finished⟩ := readArguments_full next rfl (by simp) later
        obtain rfl := Parsing.line.inj (Except.ok.inj finished)
        exact .of_rest (.apart bare) ends

/-- The first argument decides which line of the grammar it is; what it leaves is full or waits. -/
theorem accepted_of_parse (parsed : parse arguments = .ok (.line line)) : Accepted arguments line := by
  rw [parse] at parsed
  cases arguments with
  | nil =>
    obtain rfl := Parsing.line.inj (Except.ok.inj parsed)
    exact .plain .nothing
  | cons argument others =>
    rcases readArguments_cons parsed with ⟨rfl, values⟩ | ⟨t, takes, later⟩
    · exact accepted_behind values
    · have next := (takes.sound start_sound).1
      cases takes with
      | option settled =>
        obtain rfl := Except.ok.inj settled
        exact accepted_apart later
      | attached settled accepted =>
        obtain rfl := Except.ok.inj settled
        obtain rfl := Except.ok.inj accepted
        obtain ⟨ends, finished⟩ := readArguments_full next rfl (by simp) later
        obtain rfl := Parsing.line.inj (Except.ok.inj finished)
        exact .of_rest (.attached _) ends
      | value bare placed =>
        obtain rfl : holding argument = t := Except.ok.inj placed
        obtain ⟨ends, finished⟩ := readArguments_full next rfl (by simp [holding]) later
        obtain ⟨action, rfl, rfl⟩ := finish_action.mp finished
        exact .of_rest (.word action) ends

theorem readArguments_rest {rest : List String} (ends : rest = [] ∨ rest = ["--"]) :
    readArguments s rest = s.finish := by
  rcases ends with rfl | rfl <;> rfl

theorem parse_of_plain {rest : List String} (plain : Plain arguments line)
    (ends : rest = [] ∨ rest = ["--"]) : parse (arguments ++ rest) = .ok (.line line) := by
  cases plain with
  | nothing => exact readArguments_rest ends
  | word action =>
    have placed : start.place true action.word = .ok (holding action.word) := rfl
    rw [parse, List.singleton_append, readArguments, Form.ofString_of_isBare (isBare_word action)]
    simp only [placed, readArguments_rest ends]
    exact finish_action.mpr ⟨action, rfl, rfl⟩
  | @apart value bare =>
    have option : Form.ofString "--json" = .long "json" none := by decide
    simp only [parse, List.cons_append, List.nil_append, readArguments, option,
      Form.ofString_of_isBare bare]
    exact readArguments_rest ends
  | attached value =>
    simp only [parse, List.cons_append, List.nil_append, readArguments, Form.ofString_attached]
    exact readArguments_rest ends

theorem parse_eq_ok_iff : parse arguments = .ok (.line line) ↔ Accepted arguments line := by
  constructor
  · exact accepted_of_parse
  · intro accepted
    cases accepted with
    | plain plain =>
      rw [← List.append_nil arguments]
      exact parse_of_plain plain (.inl rfl)
    | ended plain => exact parse_of_plain plain (.inr rfl)
    | behind action => cases action <;> rfl

/-- The lines that are accepted are those of the grammar, and each is what the grammar says. So a line never
holds an action beside a message, and the program carries out what the line holds. -/
theorem parse_accepts (arguments : List String) :
    (∀ line, parse arguments = .ok (.line line) ↔ Accepted arguments line) ∧
    (∀ line, parse arguments = .ok (.line line) →
      (line.action = none ∨ line.message = none) ∧
      (∀ p, Program.run arguments p = Program.serve p line.request) ∧
      (∀ action, line.action = some action → line.request = .press action) ∧
      (∀ message, line.message = some message → line.request = .dispatch message) ∧
      (line.action = none → line.message = none → line.request = .screen)) := by
  refine ⟨fun line => parse_eq_ok_iff, fun line parsed => ?_⟩
  have served (p : Application) : Program.run arguments p = Program.serve p line.request := by
    simp only [Program.run, read, parsed, Parsing.reading]
  rcases (parse_eq_ok_iff.mp parsed).cases with rfl | ⟨action, rfl⟩ | ⟨message, rfl⟩
  · exact ⟨.inl rfl, served, by simp, by simp, fun _ _ => rfl⟩
  · refine ⟨.inr rfl, served, fun other same => ?_, by simp, by simp⟩
    obtain rfl := Option.some.inj same
    rfl
  · refine ⟨.inl rfl, served, by simp, fun other same => ?_, by simp⟩
    obtain rfl := Option.some.inj same
    rfl

/-- A single dash is a message, and a divider may end the line; an action before a message is refused. -/
theorem parse_accepts_dash :
    parse ["--json", "-", "--"] = .ok (.line ⟨none, some "-"⟩) ∧
    (∀ p, Program.run ["--json", "-", "--"] p = Program.serve p (.dispatch "-")) ∧
    ∀ line, parse ["createAccount", "--json", "-"] ≠ .ok (.line line) := by
  obtain ⟨grammar, carried⟩ := parse_accepts ["--json", "-", "--"]
  have parsed : parse ["--json", "-", "--"] = .ok (.line ⟨none, some "-"⟩) :=
    (grammar _).mpr (.ended (.apart (.inr rfl)))
  obtain ⟨_, served, _, _, _⟩ := carried _ parsed
  have refused : parse ["createAccount", "--json", "-"] = .error (.conflict .action .message) := by rfl
  exact ⟨parsed, served, by simp [refused]⟩

end Onboarding.CommandLine
