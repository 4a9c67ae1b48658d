import Onboarding.Proofs.Encodings
import Onboarding.Proofs.Presses

/-! Messages by their meaning. What a message object presses depends on its members alone: the value of
the one member that has the field's key, wherever it stands and however it is written. Where there is no
such member, or more than one, or its value names no action, the message is refused. -/
namespace Onboarding

namespace Json

/-- The values that the members of an object have for a key, in order. -/
def valuesAt (key : String) (members : List (String × Value)) : List Value :=
  (members.filter fun member => member.1 = key).map Prod.snd

theorem valuesAt_cons (key : String) (member : String × Value) (members : List (String × Value)) :
    valuesAt key (member :: members) =
      if member.1 = key then member.2 :: valuesAt key members else valuesAt key members := by
  by_cases named : member.1 = key <;> simp [valuesAt, named]

/-- The action that the members of a message object stand for. -/
def action? (members : List (String × Value)) : Option Action :=
  match valuesAt Message.field members with
  | [value] => value.choice?
  | _ => none

/-- The action found after one more member, unless that is at fault. -/
def advance? (found : Option Action) (member : String × Value) : Option (Option Action) :=
  if member.1 = Message.field then
    match found with
    | some _ => none
    | none => member.2.choice?.map some
  else some found

def settled? (found : Option Action) : List (String × Value) → Option Action
  | [] => found
  | member :: members => (advance? found member).bind fun found => settled? found members

theorem settled?_some (action : Action) (members : List (String × Value)) :
    settled? (some action) members =
      if valuesAt Message.field members = [] then some action else none := by
  induction members with
  | nil => rfl
  | cons member members ih =>
    rw [valuesAt_cons]
    by_cases named : member.1 = Message.field <;> simp [settled?, advance?, named, ih]

theorem settled?_none (members : List (String × Value)) : settled? none members = action? members := by
  induction members with
  | nil => rfl
  | cons member members ih =>
    rw [action?, valuesAt_cons]
    by_cases named : member.1 = Message.field
    · simp only [settled?, advance?, if_pos named]
      cases chosen : (member.2.choice? : Option Action) with
      | none =>
        split
        next single => rw [← (List.cons.inj single).1, chosen]; rfl
        next => rfl
      | some action =>
        rw [Option.map_some, Option.bind_some, settled?_some]
        cases valuesAt Message.field members <;> simp [chosen]
    · simpa [settled?, advance?, named, action?] using ih

/-- What stands between the opening brace or a member and the next member. -/
inductive Lead : Bool → List Char → Prop
  | opening : Lead true []
  | comma {blank : List Char} : Blank blank → Lead false (blank ++ [','])

theorem nextKey?_lead {first : Bool} {lead before : List Char} (h : Lead first lead)
    (spaces : Blank before) (rest : List Char) :
    nextKey? first (lead ++ (before ++ '"' :: rest)) = .ok (some rest) := by
  have quote : skipSpaces (before ++ '"' :: rest) = '"' :: rest := skipSpaces_token spaces rfl rest
  cases h with
  | opening => simp [nextKey?, quote]
  | @comma blank closing =>
    have comma : skipSpaces (blank ++ ',' :: (before ++ '"' :: rest)) = ',' :: (before ++ '"' :: rest) :=
      skipSpaces_token closing rfl _
    simp [nextKey?, comma, quote]

theorem nextKey?_close {first : Bool} {blank rest : List Char} (spaces : Blank blank) :
    nextKey? first (blank ++ '}' :: rest) = .ok none := by
  have brace : skipSpaces (blank ++ '}' :: rest) = '}' :: rest := skipSpaces_token spaces rfl rest
  simp [nextKey?, brace]

theorem readMembers_close {first : Bool} {found : Option Action} {blank : List Char}
    (spaces : Blank blank) (rest : List Char) :
    (readMembers first found (blank ++ '}' :: rest)).toOption = found.map (·, rest) := by
  have ended : closed (blank ++ '}' :: rest) = rest := by
    have brace : skipSpaces (blank ++ '}' :: rest) = '}' :: rest := skipSpaces_token spaces rfl rest
    simp only [closed, brace]
  have stops : nextKey? first (blank ++ '}' :: rest) = .ok none := nextKey?_close spaces
  rw [readMembers.eq_def]
  split
  next failed => simp [stops] at failed
  next => cases found <;> simp [ended, Except.toOption]
  next more => simp [stops] at more

/-- What becomes of a member once its key and its colon are read. -/
theorem readMembers_member {first : Bool} {cs text key rest tail : List Char} {found : Option Action}
    (more : nextKey? first cs = .ok (some text)) (read : readText text = .ok (key, rest))
    (colon : readColon rest = .ok tail) :
    (readMembers first found cs).toOption =
      if String.ofList key = Message.field then
        match found with
        | some _ => none
        | none => (readChoice tail).toOption.bind fun r => (readMembers false (some r.1) r.2).toOption
      else (passValue tail).toOption.bind fun rest => (readMembers false found rest).toOption := by
  rw [readMembers.eq_def]
  split
  next failed => simp [more] at failed
  next ended => simp [more] at ended
  next again =>
    obtain rfl := Option.some.inj (Except.ok.inj (more.symm.trans again))
    split
    next failed => simp [read] at failed
    next also =>
      obtain ⟨rfl, rfl⟩ := Prod.mk.inj (Except.ok.inj (read.symm.trans also))
      split
      next named =>
        cases found with
        | some action => rfl
        | none =>
          simp only [Option.isSome_none, Bool.false_eq_true, if_false]
          split
          next failed => simp [colon] at failed
          next also =>
            obtain rfl := Except.ok.inj (colon.symm.trans also)
            split <;> simp_all [Except.toOption]
      next other =>
        split
        next failed => simp [colon] at failed
        next also =>
          obtain rfl := Except.ok.inj (colon.symm.trans also)
          split <;> simp_all [Except.toOption]

/-- Every member of the text counts for what it means, and no more of the text is taken. -/
theorem readMembers_of_writes_member {member : String × Value} {first : Bool} {found : Option Action}
    {lead before cs tail : List Char} (led : Lead first lead) (spaces : Blank before)
    (h : Writes (.member member) cs) (ends : Ends tail) :
    (readMembers first found (lead ++ (before ++ (cs ++ tail)))).toOption =
      (advance? found member).bind fun found => (readMembers false found tail).toOption := by
  cases h with
  | @member key spelling after inner cs value spelled colon opening written =>
    have more := nextKey?_lead led spaces (spelling ++ '"' :: (after ++ ':' :: (inner ++ (cs ++ tail))))
    have read := readText_of_spells spelled (after ++ ':' :: (inner ++ (cs ++ tail)))
    have shape : lead ++ (before ++ ('"' :: (spelling ++ '"' :: (after ++ ':' :: (inner ++ cs))) ++ tail)) =
        lead ++ (before ++ '"' :: (spelling ++ '"' :: (after ++ ':' :: (inner ++ (cs ++ tail))))) := by
      simp
    rw [shape, readMembers_member more read (readColon_of_blank colon _),
      readChoice_of_writes opening written, passValue_of_writes opening written ends]
    by_cases named : String.ofList key = Message.field
    · simp only [advance?, if_pos named]
      cases found with
      | some action => rfl
      | none => cases (value.choice? : Option Action) <;> rfl
    · simp only [advance?, if_neg named]
      rfl

theorem readMembers_of_writes {members : List (String × Value)} {cs : List Char}
    (h : Writes (.members members) cs) (some : members ≠ []) {first : Bool} {found : Option Action}
    {lead : List Char} (led : Lead first lead) (rest : List Char) :
    (readMembers first found (lead ++ (cs ++ '}' :: rest))).toOption =
      (settled? found members).map (·, rest) := by
  induction members generalizing cs first found lead with
  | nil => contradiction
  | cons member members ih =>
    rw [settled?]
    cases h with
    | lastMember spaces written closing =>
      rw [List.append_assoc, List.append_assoc,
        readMembers_of_writes_member led spaces written (ends_after closing (by decide) rest)]
      cases advance? found member with
      | none => rfl
      | some found => exact readMembers_close closing rest
    | @nextMember _ _ _ _ after more spaces written closing others text =>
      have ends : Ends (after ++ ',' :: (more ++ '}' :: rest)) := ends_after closing (by decide) _
      have shape : after ++ ',' :: (more ++ '}' :: rest) = (after ++ [',']) ++ (more ++ '}' :: rest) := by
        simp
      simp only [List.append_assoc, List.cons_append]
      rw [readMembers_of_writes_member led spaces written ends]
      cases advance? found member with
      | none => rfl
      | some found =>
        rw [shape]
        exact ih text others (.comma closing)

theorem readMembers_object {members : List (String × Value)} {cs : List Char}
    (h : Writes (.members members) cs) (rest : List Char) :
    (readMembers true none (cs ++ '}' :: rest)).toOption = (action? members).map (·, rest) := by
  cases members with
  | nil =>
    cases h with
    | noMember spaces => exact readMembers_close spaces rest
  | cons member members =>
    rw [← settled?_none]
    exact readMembers_of_writes h (by simp) .opening rest

/-- A message object is read as what its members stand for. -/
theorem readMessage_of_isText {members : List (String × Value)} {text : List Char}
    (h : IsText (.object members) text) :
    (readWhole readMessage text).toOption = (action? members).map Message.mk := by
  cases h with
  | @among before _ after spaces written closing =>
    cases written with
    | @object _ cs written =>
      refine readWhole_of_toOption ?_ closing
      have shape : before ++ ('{' :: (cs ++ ['}']) ++ after) = before ++ '{' :: (cs ++ '}' :: after) := by
        simp
      have brace : skipSpaces (before ++ '{' :: (cs ++ '}' :: after)) = '{' :: (cs ++ '}' :: after) :=
        skipSpaces_token spaces rfl _
      rw [shape, readMessage, brace]
      simp only [toOption_map, readMembers_object written, Option.map_map]
      rfl

def naming (w : String) : String := "\x7b" ++ literal Message.field ++ ":" ++ literal w ++ "\x7d"

theorem isText_naming (w : String) : IsText (.object [(Message.field, .text w)]) (naming w).toList := by
  have value : Writes (.value (.text w)) ('"' :: (w.toList.flatMap escapeChar ++ ['"'])) := by
    simpa using Writes.text (spells_written w.toList)
  have member := @Writes.member _ _ [] [] _ _ (spells_written Message.field.toList) (by decide) (by decide) value
  have written := (Writes.object (@Writes.lastMember _ [] _ [] (by decide) member (by decide))).isText
  simpa [naming, literal] using written

theorem encode_eq_naming (message : Message) : message.encode = naming message.action.word := by
  have same : Vocabulary.name message.action = message.action.word := Vocabulary.Lawful.name_eq _
  simp only [Message.encode, encodeChoice, same, naming]

theorem isText_encode (message : Message) :
    IsText (.object [(Message.field, .text message.action.word)]) message.encode.toList := by
  rw [encode_eq_naming]
  exact isText_naming message.action.word

section

variable {members : List (String × Value)} {text : List Char} (h : IsText (.object members) text)
include h

/-- The one member with the field's key decides, whatever the others are. -/
theorem readMessage_of_names {action : Action}
    (names : valuesAt Message.field members = [.text action.word]) :
    readWhole readMessage text = .ok ⟨action⟩ := by
  have named : (Vocabulary.named? action.word : Option Action) = some action :=
    Vocabulary.named?_eq_some_iff.mpr rfl
  have read : action? members = some action := by simp only [action?, names, Value.choice?, named]
  rw [← toOption_eq_some_iff, readMessage_of_isText h, read, Option.map_some]

theorem readMessage_of_none (unnamed : action? members = none) :
    ∃ fault, readWhole readMessage text = .error fault := by
  have unread := readMessage_of_isText h
  rw [unnamed] at unread
  cases read : readWhole readMessage text with
  | error fault => exact ⟨fault, rfl⟩
  | ok message => simp [read, Except.toOption] at unread

end

theorem action?_eq_none {members : List (String × Value)}
    (unnamed : (valuesAt Message.field members).length ≠ 1 ∨
      ∃ w, valuesAt Message.field members = [.text w] ∧ ∀ action : Action, action.word ≠ w) :
    action? members = none := by
  rw [action?]
  rcases unnamed with many | ⟨w, single, unknown⟩
  · split
    next single => simp [single] at many
    next => rfl
  · rw [single]
    exact Vocabulary.named?_eq_none_iff.mpr unknown

theorem decode_encode (message : Message) : decode readMessage message.encode = .ok message :=
  decode_eq_ok_iff.mpr (readMessage_of_names (isText_encode message) (by simp [valuesAt]))

end Json

/-- What a message object presses depends on its members, not on how it is written: the only member whose
key is the field's presses the action that its value names, whatever the others are. Without such a member,
with several, or with one that names no action, the message is refused and nothing changes. A message that
is written reads as itself, and one that is written again presses what it did. -/
theorem Screen.dispatches_by_meaning {σ : Type} (screen : Screen) (navigator : Navigator σ)
    (s : Session σ) :
    (∀ (text : String) (members : List (String × Json.Value)) (action : Action),
      Json.IsText (.object members) text.toList →
      Json.valuesAt "action" members = [.text action.word] →
      screen.dispatch navigator text s = screen.press navigator action s) ∧
    (∀ (text : String) (members : List (String × Json.Value)),
      Json.IsText (.object members) text.toList →
      ((Json.valuesAt "action" members).length ≠ 1 ∨
        ∃ w, Json.valuesAt "action" members = [.text w] ∧ ∀ action : Action, action.word ≠ w) →
      ∃ reason,
        (screen.dispatch navigator text s).result = .error (.decoding ("JSON error: " ++ reason)) ∧
        (screen.dispatch navigator text s).state = s) ∧
    (∀ message : Message,
      Json.IsText (.object [("action", .text message.action.word)]) message.encode.toList ∧
      Json.decode Json.readMessage message.encode = .ok message) ∧
    (∀ (text : String) (message : Message), Json.decode Json.readMessage text = .ok message →
      screen.dispatch navigator text s = screen.press navigator message.action s ∧
      screen.dispatch navigator message.encode s = screen.dispatch navigator text s) := by
  have read {text : String} {message : Message} (decoded : Json.decode Json.readMessage text = .ok message) :
      screen.dispatch navigator text s = screen.press navigator message.action s :=
    dispatch_read (Json.decode_eq_ok_iff.mp decoded) navigator s
  refine ⟨fun text members action h names => ?_, fun text members h unnamed => ?_,
    fun message => ⟨Json.isText_encode message, Json.decode_encode message⟩, fun text message decoded => ?_⟩
  · exact dispatch_read (Json.readMessage_of_names h names) navigator s
  · obtain ⟨fault, unread⟩ := Json.readMessage_of_none h (Json.action?_eq_none unnamed)
    rw [dispatch_unread unread]
    exact ⟨_, rfl, rfl⟩
  · exact ⟨read decoded, (read (Json.decode_encode message)).trans (read decoded).symm⟩

/-- A key with an escape behind a member that is passed over, an object without members, and a written
message. -/
theorem Screen.dispatches_by_meaning_escaped :
    let s : Session History := ⟨⟨["/setup"]⟩, .start 0⟩
    start.dispatch Navigator.memory "\x7b\"id\":[7] ,\n\"\\u0061ction\": \"createAccount\"\x7d" s =
      start.press Navigator.memory .createAccount s ∧
    (∃ reason, (start.dispatch Navigator.memory "\x7b \x7d" s).result =
        .error (.decoding ("JSON error: " ++ reason)) ∧
      (start.dispatch Navigator.memory "\x7b \x7d" s).state = s) ∧
    start.dispatch Navigator.memory "\x7b\"action\":\"connectLedger\"\x7d" s =
      start.press Navigator.memory .connectLedger s := by
  intro s
  have seven : Json.Number ['7'] :=
    @Json.Number.parts [] ['7'] [] [] (by decide)
      (.more (by decide) ⟨by decide, List.forall_mem_singleton.mpr (by decide)⟩) .none .none
  have id : Json.Writes (.member ("id", .list [.number ['7']])) "\"id\":[7]".toList :=
    @Json.Writes.member _ _ [] [] _ _ (Json.spells_written "id".toList) (by decide) (by decide)
      (.list (@Json.Writes.lastItem _ [] _ [] (by decide) (.number seven) (by decide)))
  have letter : Json.WritesHex 'a'.toNat ['0', '0', '6', '1'] :=
    @Json.WritesHex.digits _ _ _ _ _ 0 0 6 1 (.inl rfl) (.inl rfl) (.inl rfl) (.inl rfl) rfl
  have key : Json.Spells "action".toList "\\u0061ction".toList :=
    .cons (.escaped (.code letter)) (Json.spells_written "ction".toList)
  have action : Json.Writes (.member ("action", .text "createAccount"))
      "\"\\u0061ction\": \"createAccount\"".toList :=
    @Json.Writes.member _ _ [] [' '] _ _ key (by decide) (by decide)
      (.text (Json.spells_written "createAccount".toList))
  have escaped : Json.IsText (.object [("id", .list [.number ['7']]), ("action", .text "createAccount")])
      "\x7b\"id\":[7] ,\n\"\\u0061ction\": \"createAccount\"\x7d".toList :=
    (Json.Writes.object (@Json.Writes.nextMember _ [_] [] _ [' '] _ (by decide) id (by decide) (by simp)
      (@Json.Writes.lastMember _ ['\n'] _ [] (by decide) action (by decide)))).isText
  have empty : Json.IsText (.object []) "\x7b \x7d".toList :=
    (Json.Writes.object (@Json.Writes.noMember [' '] (by decide))).isText
  obtain ⟨presses, refuses, _, again⟩ := start.dispatches_by_meaning Navigator.memory s
  refine ⟨presses _ _ .createAccount escaped rfl, refuses _ _ empty (.inl (by decide)), ?_⟩
  exact (again (Message.encode ⟨.connectLedger⟩) _ (Json.decode_encode _)).1

end Onboarding
