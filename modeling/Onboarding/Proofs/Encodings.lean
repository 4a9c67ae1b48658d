import Onboarding.Proofs.Grammar
import Onboarding.Proofs.Sequences
import Onboarding.Screen.Action

/-! Names and segments as JSON texts. The names that messages use are the words of the vocabularies, and
a member is read from every text of its name. A segment is read from exactly the texts that spell it: the
check comes after the escapes are undone, so no way of writing a text gets around it. -/
namespace Onboarding

namespace Vocabulary

/-- A vocabulary that lists all its members and tells them apart by words, which are their names in
messages as well. -/
class Lawful (α : Type) [Vocabulary α] : Prop where
  complete : ∀ a : α, a ∈ (all : List α)
  injective : ∀ {a b : α}, word a = word b → a = b
  name_eq : ∀ a : α, name a = word a

instance : Lawful Section where
  complete a := by cases a <;> decide
  injective {a b} := by cases a <;> cases b <;> decide
  name_eq a := by cases a <;> rfl

instance : Lawful CreationStep where
  complete a := by cases a <;> decide
  injective {a b} := by cases a <;> cases b <;> decide
  name_eq a := by cases a <;> rfl

instance : Lawful ImportStep where
  complete a := by cases a <;> decide
  injective {a b} := by cases a <;> cases b <;> decide
  name_eq a := by cases a <;> rfl

instance : Lawful LedgerStep where
  complete a := by cases a <;> decide
  injective {a b} := by cases a <;> cases b <;> decide
  name_eq a := by cases a <;> rfl

instance : Lawful Action where
  complete a := by cases a <;> decide
  injective {a b} := by cases a <;> cases b <;> decide
  name_eq a := by cases a <;> rfl

section

variable {α : Type} [Vocabulary α] [Lawful α] {w : String} {a : α}

theorem find?_eq_some_iff : find? w = some a ↔ word a = w := by
  constructor
  · exact word_of_find?
  · rintro rfl
    obtain ⟨b, found⟩ : ∃ b : α, find? (word a) = some b :=
      Option.isSome_iff_exists.mp (List.find?_isSome.mpr ⟨a, Lawful.complete a, by simp⟩)
    rw [found, Lawful.injective (word_of_find? found)]

theorem named?_eq_find? (w : String) : (named? w : Option α) = find? w := by
  simp only [named?, find?, Lawful.name_eq]

theorem named?_eq_some_iff : named? w = some a ↔ word a = w := by
  rw [named?_eq_find?, find?_eq_some_iff]

theorem named?_eq_none_iff : (named? w : Option α) = none ↔ ∀ a : α, word a ≠ w := by
  simp [Option.eq_none_iff_forall_ne_some, named?_eq_some_iff]

end

end Vocabulary

namespace Json

theorem toOption_map {ε α β : Type} (f : α → β) (r : Except ε α) :
    (r.map f).toOption = r.toOption.map f := by
  cases r <;> rfl

theorem toOption_eq_some_iff {ε α : Type} {r : Except ε α} {a : α} : r.toOption = some a ↔ r = .ok a := by
  cases r <;> simp [Except.toOption]

theorem mapError_eq_ok_iff {ε δ α : Type} {f : ε → δ} {r : Except ε α} {a : α} :
    r.mapError f = .ok a ↔ r = .ok a := by
  cases r with
  | error fault =>
    have mapped : Except.mapError f (.error fault : Except ε α) = .error (f fault) := rfl
    rw [mapped]
    simp
  | ok b =>
    have mapped : Except.mapError f (.ok b : Except ε α) = .ok b := rfl
    rw [mapped, Except.ok.injEq, Except.ok.injEq]

def Value.isNull : Value → Bool
  | .null => true
  | _ => false

/-- The member of a vocabulary that a value stands for: its name, or an object whose only key is its name
and whose value there is null. -/
def Value.choice? {α : Type} [Vocabulary α] : Value → Option α
  | .text w => Vocabulary.named? w
  | .object [(w, value)] => if value.isNull then Vocabulary.named? w else none
  | _ => none

theorem readWhole_of_toOption {α β : Type} {read : Reader α} {text after : List Char} {b? : Option β}
    {f : β → α} (h : (read text).toOption = b?.map fun b => (f b, after)) (closing : Blank after) :
    (readWhole read text).toOption = b?.map f := by
  rw [readWhole]
  cases b? with
  | none =>
    cases found : read text with
    | error fault => rfl
    | ok r => simp [found, Except.toOption] at h
  | some b =>
    cases found : read text with
    | error fault => simp [found, Except.toOption] at h
    | ok r =>
      rw [found] at h
      obtain rfl : r = (f b, after) := Option.some.inj h
      simp only [skipSpaces_blank closing]
      rfl

section

variable {α : Type} [Vocabulary α]

theorem readNamed_of_spells {key spelling : List Char} (h : Spells key spelling) (rest : List Char) :
    readNamed (spelling ++ '"' :: rest) =
      match (Vocabulary.named? (String.ofList key) : Option α) with
      | some a => .ok (a, rest)
      | none => .error (.here (.unknownWord (String.ofList key) (Vocabulary.names α)) rest) := by
  cases named : (Vocabulary.named? (String.ofList key) : Option α) <;>
    simp only [readNamed, readText_of_spells h, named]

theorem readNull_null {blank : List Char} (spaces : Blank blank) (rest : List Char) :
    readNull (blank ++ (['n', 'u', 'l', 'l'] ++ rest)) = .ok rest := by
  have token : skipSpaces (blank ++ (['n', 'u', 'l', 'l'] ++ rest)) = 'n' :: ('u' :: 'l' :: 'l' :: rest) :=
    skipSpaces_token spaces rfl _
  simp only [readNull, token]
  rfl

theorem readNull_of_ne_null {value : Value} {blank cs : List Char} (spaces : Blank blank)
    (h : Writes (.value value) cs) (other : value ≠ .null) (rest : List Char) :
    ∃ fault, readNull (blank ++ (cs ++ rest)) = .error fault := by
  obtain ⟨c, tail, rfl, opens⟩ := h.exists_opens
  have token : skipSpaces (blank ++ (c :: tail ++ rest)) = c :: (tail ++ rest) :=
    skipSpaces_token spaces opens.token _
  rw [readNull, token]
  split
  next found => exact absurd (opens.null (List.cons.inj found).1) other
  next => exact ⟨_, rfl⟩

/-- Only null may stand behind the key, and no member behind null. -/
theorem readEmptyMember_of_writes {value : Value} {before after cs closing : List Char} {c : Char}
    (colon : Blank before) (spaces : Blank after) (h : Writes (.value value) cs) (closed : Blank closing)
    (separator : c = '}' ∨ c = ',') (rest : List Char) :
    (readEmptyMember (before ++ ':' :: (after ++ (cs ++ (closing ++ c :: rest))))).toOption =
      if value.isNull ∧ c = '}' then some rest else none := by
  simp only [readEmptyMember, readColon_of_blank colon]
  by_cases null : value.isNull
  · cases h <;> cases null
    simp only [readNull_null spaces]
    rcases separator with rfl | rfl
    · have token : skipSpaces (closing ++ '}' :: rest) = '}' :: rest := skipSpaces_token closed rfl rest
      simp only [token]
      rfl
    · have token : skipSpaces (closing ++ ',' :: rest) = ',' :: rest := skipSpaces_token closed rfl rest
      simp only [token]
      rfl
  · have other : value ≠ .null := by
      rintro rfl
      exact null rfl
    obtain ⟨fault, refused⟩ := readNull_of_ne_null spaces h other (closing ++ c :: rest)
    simp only [refused, null]
    rfl

theorem readChoice_text {blank key spelling : List Char} (spaces : Blank blank) (h : Spells key spelling)
    (rest : List Char) :
    (readChoice (blank ++ '"' :: (spelling ++ '"' :: rest))).toOption =
      (Vocabulary.named? (String.ofList key) : Option α).map (·, rest) := by
  have token : skipSpaces (blank ++ '"' :: (spelling ++ '"' :: rest)) = '"' :: (spelling ++ '"' :: rest) :=
    skipSpaces_token spaces rfl _
  simp only [readChoice, token, readNamed_of_spells h]
  cases (Vocabulary.named? (String.ofList key) : Option α) <;> rfl

theorem readChoice_member {blank before key spelling : List Char} (spaces : Blank blank)
    (inner : Blank before) (h : Spells key spelling) (tail : List Char) :
    (readChoice (blank ++ '{' :: (before ++ '"' :: (spelling ++ '"' :: tail)))).toOption =
      (Vocabulary.named? (String.ofList key) : Option α).bind fun a =>
        (readEmptyMember tail).toOption.map (a, ·) := by
  have brace : skipSpaces (blank ++ '{' :: (before ++ '"' :: (spelling ++ '"' :: tail))) =
    '{' :: (before ++ '"' :: (spelling ++ '"' :: tail)) := skipSpaces_token spaces rfl _
  have quote : skipSpaces (before ++ '"' :: (spelling ++ '"' :: tail)) = '"' :: (spelling ++ '"' :: tail) :=
    skipSpaces_token inner rfl _
  simp only [readChoice, brace, quote, readNamed_of_spells h]
  cases (Vocabulary.named? (String.ofList key) : Option α) with
  | none => rfl
  | some a =>
    simp only
    cases readEmptyMember tail <;> rfl

theorem readChoice_object {members : List (String × Value)} {blank cs : List Char} (spaces : Blank blank)
    (h : Writes (.members members) cs) (rest : List Char) :
    (readChoice (blank ++ '{' :: (cs ++ '}' :: rest))).toOption =
      ((Value.object members).choice? : Option α).map (·, rest) := by
  cases h with
  | noMember empty =>
    have brace : skipSpaces (blank ++ '{' :: (cs ++ '}' :: rest)) = '{' :: (cs ++ '}' :: rest) :=
      skipSpaces_token spaces rfl _
    have closing : skipSpaces (cs ++ '}' :: rest) = '}' :: rest := skipSpaces_token empty rfl _
    simp only [readChoice, brace, closing]
    rfl
  | lastMember inner written closed =>
    cases written with
    | @member key _ _ _ _ value spelled colon after written =>
      have read := readEmptyMember_of_writes colon after written closed (.inl rfl) rest
      simp only [List.append_assoc, List.cons_append, readChoice_member spaces inner spelled, read,
        Value.choice?]
      cases (Vocabulary.named? (String.ofList key) : Option α) <;> cases value.isNull <;> rfl
  | @nextMember _ members _ _ _ more inner written closed some others =>
    cases written with
    | @member key _ _ _ _ value spelled colon after written =>
      have read := readEmptyMember_of_writes colon after written closed (.inr rfl) (more ++ '}' :: rest)
      obtain ⟨next, members, rfl⟩ := List.exists_cons_of_ne_nil some
      simp only [List.append_assoc, List.cons_append, readChoice_member spaces inner spelled, read,
        Value.choice?]
      simp

/-- A value is read as what it stands for, and to its last character. -/
theorem readChoice_of_writes {value : Value} {blank cs : List Char} (spaces : Blank blank)
    (h : Writes (.value value) cs) (rest : List Char) :
    (readChoice (blank ++ (cs ++ rest))).toOption = (value.choice? : Option α).map (·, rest) := by
  have refused {c : Char} {tail : List Char} (token : isSpace c = false) (other : c ≠ '"' ∧ c ≠ '{') :
      (readChoice (α := α) (blank ++ c :: tail)).toOption = none := by
    rw [readChoice, skipSpaces_token spaces token]
    split <;> simp_all [Except.toOption]
  cases h with
  | null => exact refused rfl (by decide)
  | true => exact refused rfl (by decide)
  | false => exact refused rfl (by decide)
  | list _ => exact refused rfl (by decide)
  | number written =>
    obtain ⟨c, tail, rfl, first, _⟩ := passScalar_of_number written ends_nil
    obtain ⟨token, noQuote, _, noObject, _⟩ := token_of_number first
    exact refused token ⟨noQuote, noObject⟩
  | text spelled =>
    rw [List.cons_append, List.append_assoc]
    exact readChoice_text spaces spelled rest
  | object written =>
    rw [List.cons_append, List.append_assoc]
    exact readChoice_object spaces written rest

theorem readWhole_choice_of_isText {value : Value} {text : List Char} (h : IsText value text) :
    (readWhole readChoice text).toOption = (value.choice? : Option α) := by
  cases h with
  | among spaces written closing =>
    have read := readWhole_of_toOption (readChoice_of_writes (α := α) spaces written _) closing
    rwa [Option.map_id'] at read

end

theorem blank_of_isSpace {cs : List Char} (h : ∀ c ∈ cs, isSpace c = true) : Blank cs := by
  intro c member
  simpa [isSpace, or_assoc] using h c member

/-- What comes before the next token is blank. -/
theorem exists_blank_of_skipSpaces (cs : List Char) : ∃ blank, Blank blank ∧ cs = blank ++ skipSpaces cs := by
  refine ⟨cs.takeWhile isSpace, blank_of_isSpace fun c member => ?_, ?_⟩
  · exact List.all_eq_true.mp List.all_takeWhile c member
  · rw [skipSpaces, List.takeWhile_append_dropWhile]

theorem blank_of_skipSpaces {cs : List Char} (h : skipSpaces cs = []) : Blank cs := by
  obtain ⟨blank, spaces, same⟩ := exists_blank_of_skipSpaces cs
  rw [h, List.append_nil] at same
  rwa [same]

theorem readSegment_of_spells {blank content spelling : List Char} (spaces : Blank blank)
    (h : Spells content spelling) (rest : List Char) :
    readSegment (blank ++ '"' :: (spelling ++ '"' :: rest)) =
      match Segment.ofString (String.ofList content) with
      | .ok segment => .ok (segment, rest)
      | .error fault => .error (.unplaced (.refused fault.failure.message)) := by
  have quote : skipSpaces (blank ++ '"' :: (spelling ++ '"' :: rest)) = '"' :: (spelling ++ '"' :: rest) :=
    skipSpaces_token spaces rfl _
  cases checked : Segment.ofString (String.ofList content) <;>
    simp only [readSegment, quote, readText_of_spells h, checked]

/-- A text that spells a content is read as the segment with that content, if there is one. -/
theorem readWhole_segment_of_isText {s : String} {text : List Char} (h : IsText (.text s) text) :
    readWhole readSegment text =
      (Segment.ofString s).mapError fun fault => .unplaced (.refused fault.failure.message) := by
  cases h with
  | @among before _ after spaces written closing =>
    cases written with
    | @text content spelling spelled =>
      have read := readSegment_of_spells spaces spelled after
      have shape : before ++ ('"' :: (spelling ++ ['"']) ++ after) =
        before ++ '"' :: (spelling ++ '"' :: after) := by simp
      rw [shape, readWhole, read]
      cases Segment.ofString (String.ofList content) with
      | error fault => rfl
      | ok segment =>
        simp only [skipSpaces_blank closing]
        rfl

theorem spells_of_readSegment {cs rest : List Char} {segment : Segment}
    (h : readSegment cs = .ok (segment, rest)) :
    ∃ blank content spelling, Blank blank ∧ Spells content spelling ∧
      segment.text = String.ofList content ∧ cs = blank ++ '"' :: (spelling ++ '"' :: rest) := by
  obtain ⟨blank, spaces, begun⟩ := exists_blank_of_skipSpaces cs
  rw [readSegment] at h
  split at h
  next tail quote =>
    split at h
    next => contradiction
    next content rest' read =>
      split at h
      next checked =>
        obtain ⟨rfl, rfl⟩ := Prod.mk.inj (Except.ok.inj h)
        obtain ⟨spelling, spelled, rfl⟩ := spells_of_readText read
        exact ⟨blank, content, spelling, spaces, spelled, Segment.ofString_eq_ok_iff.mp checked,
          by rw [begun, quote]⟩
      next => contradiction
  next => contradiction

/-- A segment is read from exactly the texts that spell it. -/
theorem readWhole_segment_iff {text : List Char} {segment : Segment} :
    readWhole readSegment text = .ok segment ↔ IsText (.text segment.text) text := by
  constructor
  · intro h
    rw [readWhole] at h
    split at h
    next => contradiction
    next segment' rest read =>
      split at h
      next ended =>
        obtain rfl := Except.ok.inj h
        obtain ⟨blank, content, spelling, spaces, spelled, same, rfl⟩ := spells_of_readSegment read
        have written := IsText.among spaces (.text spelled) (blank_of_skipSpaces ended)
        simpa [same] using written
      next => contradiction
  · intro h
    rw [readWhole_segment_of_isText h, Segment.ofString_eq_ok_iff.mpr rfl]
    rfl

theorem decode_eq_ok_iff {α : Type} {read : Reader α} {text : String} {a : α} :
    decode read text = .ok a ↔ readWhole read text.toList = .ok a := mapError_eq_ok_iff

/-- The writer's text of a string is one of those that spell it. -/
theorem isText_literal (s : String) : IsText (.text s) (literal s).toList := by
  have written := (Writes.text (spells_written s.toList)).isText
  simpa [literal] using written

end Json

namespace Segment

theorem decode_eq_ok_iff {text : String} {segment : Segment} :
    Json.decode Json.readSegment text = .ok segment ↔ Json.IsText (.text segment.text) text.toList := by
  rw [Json.decode_eq_ok_iff, Json.readWhole_segment_iff]

theorem decode_of_isText {s text : String} (h : Json.IsText (.text s) text.toList) :
    Json.decode Json.readSegment text =
      (ofString s).mapError fun fault => .decoding ("JSON error: " ++ fault.failure.message) := by
  rw [Json.decode, Json.readWhole_segment_of_isText h]
  cases ofString s <;> rfl

theorem decode_literal (s : String) :
    Json.decode Json.readSegment (Json.literal s) =
      (ofString s).mapError fun fault => .decoding ("JSON error: " ++ fault.failure.message) :=
  decode_of_isText (Json.isText_literal s)

theorem decode_encode (segment : Segment) :
    Json.decode Json.readSegment (Json.encodeSegment segment) = .ok segment :=
  decode_eq_ok_iff.mpr (Json.isText_literal segment.text)

/-- A segment is decoded from a text exactly when what the text spells, its escapes undone, is its own. So
the written text of any string decodes as the check of the string goes, a text that spells no segment is
refused for the reason that the check gives, and what was decoded can be written and decoded again. -/
theorem decodes_as_checked :
    (∀ s segment, Json.decode Json.readSegment (Json.literal s) = .ok segment ↔
      ofString s = .ok segment) ∧
    (∀ segment, Json.decode Json.readSegment (Json.encodeSegment segment) = .ok segment) ∧
    (∀ (text : String) (segment : Segment), Json.decode Json.readSegment text = .ok segment ↔
      Json.IsText (.text segment.text) text.toList) ∧
    (∀ (text s : String) (fault : Path.Fault), Json.IsText (.text s) text.toList →
      ofString s = .error fault →
      Json.decode Json.readSegment text =
        .error (.decoding ("JSON error: " ++ fault.failure.message))) ∧
    (∀ (text : String) (segment : Segment), Json.decode Json.readSegment text = .ok segment →
      segment.text ≠ "" ∧ '/' ∉ segment.text.toList ∧
      Json.decode Json.readSegment (Json.encodeSegment segment) = .ok segment) := by
  refine ⟨fun s segment => ?_, decode_encode, fun text segment => decode_eq_ok_iff,
    fun text s fault spells wrong => ?_, fun text segment _ => ?_⟩
  · rw [decode_literal]
    exact Json.mapError_eq_ok_iff
  · rw [decode_of_isText spells, wrong]
    rfl
  · exact ⟨segment.isSegment_text.1, segment.isSegment_text.2, decode_encode segment⟩

/-- Whichever way the middle one of three characters is escaped, a separator is refused and a hyphen is
not. -/
theorem decodes_as_checked_escaped :
    Json.decode Json.readSegment "\"a\\u002Fb\"" =
      .error (.decoding "JSON error: Invalid argument: route segment 'a/b' contains the path separator '/'") ∧
    Json.decode Json.readSegment "\"a\\/b\"" =
      .error (.decoding "JSON error: Invalid argument: route segment 'a/b' contains the path separator '/'") ∧
    ∃ segment : Segment, Json.decode Json.readSegment " \"a\\u002db\"\n" = .ok segment ∧
      segment.text ≠ "" ∧ '/' ∉ segment.text.toList ∧
      Json.decode Json.readSegment (Json.encodeSegment segment) = .ok segment := by
  have spelled {c : Char} {escape : List Char} (middle : Json.SpellsEscape c escape) :
      Json.Spells ['a', c, 'b'] ('a' :: '\\' :: (escape ++ ['b'])) :=
    .cons (.plain (by decide) (by decide) (by decide))
      (.cons (.escaped middle) (.cons (.plain (by decide) (by decide) (by decide)) .nil))
  have slash : Json.SpellsEscape '/' ['u', '0', '0', '2', 'F'] :=
    .code (@Json.WritesHex.digits _ _ _ _ _ 0 0 2 15 (.inl rfl) (.inl rfl) (.inl rfl) (.inr rfl) rfl)
  have hyphen : Json.SpellsEscape '-' ['u', '0', '0', '2', 'd'] :=
    .code (@Json.WritesHex.digits _ _ _ _ _ 0 0 2 13 (.inl rfl) (.inl rfl) (.inl rfl) (.inl rfl) rfl)
  have code : Json.IsText (.text "a/b") "\"a\\u002Fb\"".toList := (Json.Writes.text (spelled slash)).isText
  have letter : Json.IsText (.text "a/b") "\"a\\/b\"".toList :=
    (Json.Writes.text (spelled (.letter (by decide)))).isText
  have among : Json.IsText (.text "a-b") " \"a\\u002db\"\n".toList :=
    @Json.IsText.among _ [' '] _ ['\n'] (by decide) (.text (spelled hyphen)) (by decide)
  obtain ⟨_, _, decodes, refuses, checked⟩ := decodes_as_checked
  have decoded := (decodes _ ⟨"a-b", rfl⟩).mpr among
  exact ⟨refuses _ "a/b" _ code rfl, refuses _ "a/b" _ letter rfl, _, decoded, checked _ _ decoded⟩

end Segment
end Onboarding
