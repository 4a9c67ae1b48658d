import Onboarding.Json.Skip
import Onboarding.Proofs.Literals

/-! The grammar of JSON texts, with what each text means: any blanks between tokens, any spelling of
strings, any order of members, any nesting. A value that is not wanted is passed over to its last
character, whatever the frames around it. -/
namespace Onboarding.Json

def Blank (cs : List Char) : Prop := ∀ c ∈ cs, c ∈ [' ', '\n', '\t', '\r']

instance (cs : List Char) : Decidable (Blank cs) := List.decidableBAll _ cs

def IsDigit (c : Char) : Prop := c ∈ "0123456789".toList

instance (c : Char) : Decidable (IsDigit c) := inferInstanceAs (Decidable (_ ∈ _))

structure Digits (cs : List Char) : Prop where
  nonempty : cs ≠ []
  digits : ∀ c ∈ cs, IsDigit c

inductive Whole : List Char → Prop
  | zero : Whole ['0']
  | more {c : Char} {cs : List Char} : c ≠ '0' → Digits (c :: cs) → Whole (c :: cs)

inductive Fraction : List Char → Prop
  | none : Fraction []
  | some {cs : List Char} : Digits cs → Fraction ('.' :: cs)

inductive Exponent : List Char → Prop
  | none : Exponent []
  | some {mark : Char} {sign cs : List Char} :
    mark ∈ ['e', 'E'] → sign ∈ [[], ['+'], ['-']] → Digits cs → Exponent (mark :: (sign ++ cs))

inductive Number : List Char → Prop
  | parts {sign whole fraction exponent : List Char} :
    sign ∈ [[], ['-']] → Whole whole → Fraction fraction → Exponent exponent →
    Number (sign ++ (whole ++ (fraction ++ exponent)))

/-- What a text means. The members of an object keep their order and may share keys. -/
inductive Value
  | null
  | boolean (value : Bool)
  | number (text : List Char)
  | text (content : String)
  | list (items : List Value)
  | object (members : List (String × Value))

inductive Part
  | value (value : Value)
  | items (items : List Value)
  | member (member : String × Value)
  | members (members : List (String × Value))

inductive Writes : Part → List Char → Prop
  | null : Writes (.value .null) ['n', 'u', 'l', 'l']
  | true : Writes (.value (.boolean true)) ['t', 'r', 'u', 'e']
  | false : Writes (.value (.boolean false)) ['f', 'a', 'l', 's', 'e']
  | number {cs : List Char} : Number cs → Writes (.value (.number cs)) cs
  | text {content spelling : List Char} :
    Spells content spelling → Writes (.value (.text (String.ofList content))) ('"' :: (spelling ++ ['"']))
  | list {items : List Value} {cs : List Char} :
    Writes (.items items) cs → Writes (.value (.list items)) ('[' :: (cs ++ [']']))
  | object {members : List (String × Value)} {cs : List Char} :
    Writes (.members members) cs → Writes (.value (.object members)) ('{' :: (cs ++ ['}']))
  | noItem {blank : List Char} : Blank blank → Writes (.items []) blank
  | lastItem {value : Value} {before cs after : List Char} :
    Blank before → Writes (.value value) cs → Blank after →
    Writes (.items [value]) (before ++ (cs ++ after))
  | item {value : Value} {items : List Value} {before cs after rest : List Char} :
    Blank before → Writes (.value value) cs → Blank after → items ≠ [] → Writes (.items items) rest →
    Writes (.items (value :: items)) (before ++ (cs ++ (after ++ ',' :: rest)))
  | member {key spelling before after cs : List Char} {value : Value} :
    Spells key spelling → Blank before → Blank after → Writes (.value value) cs →
    Writes (.member (String.ofList key, value))
      ('"' :: (spelling ++ '"' :: (before ++ ':' :: (after ++ cs))))
  | noMember {blank : List Char} : Blank blank → Writes (.members []) blank
  | lastMember {member : String × Value} {before cs after : List Char} :
    Blank before → Writes (.member member) cs → Blank after →
    Writes (.members [member]) (before ++ (cs ++ after))
  | nextMember {member : String × Value} {members : List (String × Value)}
    {before cs after rest : List Char} :
    Blank before → Writes (.member member) cs → Blank after → members ≠ [] →
    Writes (.members members) rest →
    Writes (.members (member :: members)) (before ++ (cs ++ (after ++ ',' :: rest)))

/-- The texts that are one value among blanks. -/
inductive IsText (value : Value) : List Char → Prop
  | among {before cs after : List Char} :
    Blank before → Writes (.value value) cs → Blank after → IsText value (before ++ (cs ++ after))

theorem Writes.isText {value : Value} {cs : List Char} (h : Writes (.value value) cs) : IsText value cs := by
  have alone := @IsText.among value [] cs [] (by decide) h (by decide)
  rwa [List.append_nil] at alone

theorem isSpace_of_blank {cs : List Char} (h : Blank cs) : ∀ c ∈ cs, isSpace c = true := by
  intro c member
  have space := h c member
  simp only [List.mem_cons, List.not_mem_nil, or_false] at space
  rcases space with rfl | rfl | rfl | rfl <;> rfl

theorem skipSpaces_append {blank : List Char} (h : Blank blank) (rest : List Char) :
    skipSpaces (blank ++ rest) = skipSpaces rest :=
  List.dropWhile_append_of_pos (isSpace_of_blank h)

theorem skipSpaces_blank {blank : List Char} (h : Blank blank) : skipSpaces blank = [] := by
  have := skipSpaces_append h []
  rwa [List.append_nil] at this

theorem skipSpaces_cons {c : Char} (h : isSpace c = false) (rest : List Char) :
    skipSpaces (c :: rest) = c :: rest := by
  rw [skipSpaces, List.dropWhile_cons_of_neg (by simp [h])]

/-- The next token after blanks, unless it is a blank itself. -/
theorem skipSpaces_token {blank : List Char} (h : Blank blank) {c : Char} (token : isSpace c = false)
    (rest : List Char) : skipSpaces (blank ++ c :: rest) = c :: rest := by
  rw [skipSpaces_append h, skipSpaces_cons token]

theorem isDigit_of_isDigit {c : Char} (h : IsDigit c) : isDigit c = true := by
  have : "0123456789".toList.all fun c => isDigit c := by decide
  exact List.all_eq_true.mp this c h

/-- A text that goes on after a whole number as no number does. -/
def Ends (rest : List Char) : Prop :=
  ∀ c ∈ rest.head?, isDigit c = false ∧ c ≠ '.' ∧ isExponentMark c = false

theorem ends_nil : Ends [] := by simp [Ends]

theorem ends_token {blank : List Char} (h : Blank blank) {c : Char}
    (token : isDigit c = false ∧ c ≠ '.' ∧ isExponentMark c = false) (rest : List Char) :
    Ends (blank ++ c :: rest) := by
  cases blank with
  | nil => simpa [Ends] using token
  | cons b blank =>
    have space := h b (List.mem_cons_self ..)
    simp only [List.mem_cons, List.not_mem_nil, or_false] at space
    simp only [Ends, List.cons_append, List.head?_cons, Option.mem_some_iff, forall_eq']
    rcases space with rfl | rfl | rfl | rfl <;> decide

theorem afterDigits_of_head {rest : List Char} (h : ∀ c ∈ rest.head?, isDigit c = false) :
    afterDigits rest = rest ∧ digitsOf rest = [] := by
  cases rest with
  | nil => exact ⟨rfl, rfl⟩
  | cons c rest =>
    have := h c rfl
    simp [afterDigits, digitsOf, this]

theorem afterDigits_append {digits rest : List Char} (all : ∀ c ∈ digits, IsDigit c)
    (h : ∀ c ∈ rest.head?, isDigit c = false) : afterDigits (digits ++ rest) = rest := by
  rw [afterDigits, List.dropWhile_append_of_pos fun c member => isDigit_of_isDigit (all c member)]
  exact (afterDigits_of_head h).1

theorem passScale_of_digits {sign digits rest : List Char} (signed : sign ∈ [[], ['+'], ['-']])
    (all : Digits digits) (h : ∀ c ∈ rest.head?, isDigit c = false) :
    passScale (sign ++ (digits ++ rest)) = .ok rest := by
  obtain ⟨c, others, rfl⟩ := List.exists_cons_of_ne_nil all.nonempty
  obtain ⟨first, later⟩ := List.forall_mem_cons.mp all.digits
  have digit := isDigit_of_isDigit first
  have unsigned : (readSign (sign ++ (c :: others ++ rest))).2 = c :: (others ++ rest) := by
    simp only [List.mem_cons, List.not_mem_nil, or_false] at signed
    rcases signed with rfl | rfl | rfl
    · have : c ≠ '+' ∧ c ≠ '-' := by
        constructor <;> (rintro rfl; contradiction)
      simp [readSign, this]
    · rfl
    · rfl
  rw [passScale, unsigned]
  simp only [digit, if_true, afterDigits_append later h]

theorem passTail_of_exponent {exponent rest : List Char} (h : Exponent exponent) (ends : Ends rest) :
    passTail (exponent ++ rest) = .ok rest := by
  cases h with
  | none =>
    rw [List.nil_append]
    cases rest with
    | nil => rfl
    | cons c rest =>
      obtain ⟨_, _, noMark⟩ := ends c rfl
      simp [passTail, noMark]
  | @some mark sign digits marked signed all =>
    have isMark : isExponentMark mark = true := by
      simp only [List.mem_cons, List.not_mem_nil, or_false] at marked
      rcases marked with rfl | rfl <;> rfl
    rw [List.cons_append, passTail, if_pos isMark, List.append_assoc,
      passScale_of_digits signed all fun c next => (ends c next).1]

theorem exponent_head {exponent rest : List Char} (h : Exponent exponent) (ends : Ends rest) :
    ∀ c ∈ (exponent ++ rest).head?, isDigit c = false ∧ c ≠ '.' := by
  cases h with
  | none => exact fun c next => ⟨(ends c next).1, (ends c next).2.1⟩
  | some marked _ _ =>
    simp only [List.mem_cons, List.not_mem_nil, or_false] at marked
    rcases marked with rfl | rfl <;> simp [isDigit]

theorem fraction_head {fraction exponent rest : List Char} (h : Fraction fraction)
    (scaled : Exponent exponent) (ends : Ends rest) :
    ∀ c ∈ (fraction ++ (exponent ++ rest)).head?, isDigit c = false := by
  cases h with
  | none => exact fun c next => (exponent_head scaled ends c next).1
  | some all => simp [isDigit]

theorem passFraction_of_parts {fraction exponent rest : List Char} (h : Fraction fraction)
    (scaled : Exponent exponent) (ends : Ends rest) :
    passFraction (fraction ++ (exponent ++ rest)) = .ok rest := by
  have next := exponent_head scaled ends
  cases h with
  | none =>
    rw [List.nil_append, passFraction]
    · exact passTail_of_exponent scaled ends
    · intro tail dotted
      exact (next '.' (by rw [dotted]; rfl)).2 rfl
  | @some digits all =>
    obtain ⟨c, others, rfl⟩ := List.exists_cons_of_ne_nil all.nonempty
    have digit := isDigit_of_isDigit (all.digits c (List.mem_cons_self ..))
    have some : digitsOf (c :: others ++ (exponent ++ rest)) ≠ [] := by
      simp [digitsOf, digit]
    rw [List.cons_append, passFraction, if_neg some,
      afterDigits_append all.digits fun c found => (next c found).1, passTail_of_exponent scaled ends]

theorem passNumber_of_parts {whole fraction exponent rest : List Char} (h : Whole whole)
    (decimals : Fraction fraction) (scaled : Exponent exponent) (ends : Ends rest) :
    passNumber (whole ++ (fraction ++ (exponent ++ rest))) = .ok rest := by
  have stops := fraction_head decimals scaled ends
  cases h with
  | zero =>
    obtain ⟨after, none⟩ := afterDigits_of_head stops
    rw [List.singleton_append, passNumber, if_neg (by decide), if_neg (by simp [none]), after,
      passFraction_of_parts decimals scaled ends]
  | more nonzero all =>
    obtain ⟨digit, others⟩ := List.forall_mem_cons.mp all.digits
    rw [List.cons_append, passNumber, if_neg (by simp [isDigit_of_isDigit digit]),
      if_neg (by simp [nonzero]), afterDigits_append others stops,
      passFraction_of_parts decimals scaled ends]

theorem Whole.exists_cons {whole : List Char} (h : Whole whole) :
    ∃ c tail, whole = c :: tail ∧ IsDigit c := by
  cases h with
  | zero => exact ⟨'0', [], rfl, by decide⟩
  | more _ all => exact ⟨_, _, rfl, all.digits _ (List.mem_cons_self ..)⟩

theorem passScalar_of_isDigit {c : Char} (digit : IsDigit c) (rest : List Char) :
    passScalar c rest = passNumber (c :: rest) := by
  simp only [IsDigit, String.reduceToList, List.mem_cons, List.not_mem_nil, or_false] at digit
  rcases digit with rfl | rfl | rfl | rfl | rfl | rfl | rfl | rfl | rfl | rfl <;> rfl

theorem token_of_number {c : Char} (h : c = '-' ∨ IsDigit c) :
    isSpace c = false ∧ c ≠ '"' ∧ c ≠ '[' ∧ c ≠ '{' ∧ c ≠ ']' ∧ c ≠ '}' ∧ c ≠ 'n' := by
  simp only [IsDigit, String.reduceToList, List.mem_cons, List.not_mem_nil, or_false] at h
  rcases h with rfl | rfl | rfl | rfl | rfl | rfl | rfl | rfl | rfl | rfl | rfl <;> decide

/-- A number is passed over as far as it goes. -/
theorem passScalar_of_number {cs : List Char} (h : Number cs) {rest : List Char} (ends : Ends rest) :
    ∃ c tail, cs = c :: tail ∧ (c = '-' ∨ IsDigit c) ∧ passScalar c (tail ++ rest) = .ok rest := by
  obtain ⟨signed, whole, decimals, scaled⟩ := h
  have passed := passNumber_of_parts whole decimals scaled ends
  simp only [List.mem_cons, List.not_mem_nil, or_false] at signed
  rcases signed with rfl | rfl
  · obtain ⟨c, tail, rfl, digit⟩ := whole.exists_cons
    refine ⟨c, _, rfl, .inr digit, ?_⟩
    rw [passScalar_of_isDigit digit]
    simpa using passed
  · refine ⟨'-', _, rfl, .inl rfl, ?_⟩
    rw [passScalar]
    simpa using passed

/-- The first character of a value: no blank, none that ends a list or an object, and `n` only for null. -/
structure Opens (value : Value) (c : Char) : Prop where
  token : isSpace c = false
  noBracket : c ≠ ']'
  noBrace : c ≠ '}'
  null : c = 'n' → value = .null

theorem Writes.exists_opens {value : Value} {cs : List Char} (h : Writes (.value value) cs) :
    ∃ c tail, cs = c :: tail ∧ Opens value c := by
  cases h with
  | null => exact ⟨'n', _, rfl, rfl, by decide, by decide, fun _ => rfl⟩
  | true => exact ⟨'t', _, rfl, rfl, by decide, by decide, by simp⟩
  | false => exact ⟨'f', _, rfl, rfl, by decide, by decide, by simp⟩
  | text _ => exact ⟨'"', _, rfl, rfl, by decide, by decide, by simp⟩
  | list _ => exact ⟨'[', _, rfl, rfl, by decide, by decide, by simp⟩
  | object _ => exact ⟨'{', _, rfl, rfl, by decide, by decide, by simp⟩
  | number written =>
    obtain ⟨c, tail, begun, first, _⟩ := passScalar_of_number written ends_nil
    obtain ⟨token, _, _, _, noBracket, noBrace, noNull⟩ := token_of_number first
    exact ⟨c, tail, begun, token, noBracket, noBrace, fun same => absurd same noNull⟩

section

variable {frame : Frame} {frames : List Frame} {blank cs rest : List Char}

theorem pass_value_list (h : Blank blank) :
    pass .value frames (blank ++ '[' :: rest) = pass .first (.list :: frames) rest := by
  have token : skipSpaces (blank ++ '[' :: rest) = '[' :: rest := skipSpaces_token h rfl rest
  rw [pass]
  split <;> simp_all

theorem pass_value_object (h : Blank blank) :
    pass .value frames (blank ++ '{' :: rest) = pass .first (.object :: frames) rest := by
  have token : skipSpaces (blank ++ '{' :: rest) = '{' :: rest := skipSpaces_token h rfl rest
  rw [pass]
  split <;> simp_all

theorem pass_value_scalar (h : Blank blank) {c : Char} {tail : List Char} (token : isSpace c = false)
    (noContainer : c ≠ '[' ∧ c ≠ '{') (passed : passScalar c tail = .ok rest) :
    pass .value frames (blank ++ c :: tail) = pass .next frames rest := by
  have token := skipSpaces_token h token tail
  rw [pass]
  split
  next empty => simp [token] at empty
  next found => exact absurd (List.cons.inj (token.symm.trans found)).1 noContainer.1
  next found => exact absurd (List.cons.inj (token.symm.trans found)).1 noContainer.2
  next found =>
    obtain ⟨rfl, rfl⟩ := List.cons.inj (token.symm.trans found)
    split <;> simp_all

theorem pass_key (passed : passKey cs = .ok rest) : pass .key frames cs = pass .value frames rest := by
  conv => lhs; rw [pass]
  split <;> simp_all

theorem pass_first_close (h : Blank blank) :
    pass .first (frame :: frames) (blank ++ frame.close :: rest) = pass .next frames rest := by
  have token : skipSpaces (blank ++ frame.close :: rest) = frame.close :: rest :=
    skipSpaces_token h (by cases frame <;> rfl) rest
  rw [pass]
  split <;> simp_all

/-- The first item of a frame is passed over as any other. -/
theorem pass_first_item (h : Blank blank) {c : Char} (token : isSpace c = false)
    (opens : c ≠ frame.close) :
    pass .first (frame :: frames) (blank ++ c :: rest) = pass frame.item (frame :: frames) (c :: rest) := by
  have token := skipSpaces_token h token rest
  rw [pass]
  split <;> simp_all

theorem pass_next_close (h : Blank blank) :
    pass .next (frame :: frames) (blank ++ frame.close :: rest) = pass .next frames rest := by
  have token : skipSpaces (blank ++ frame.close :: rest) = frame.close :: rest :=
    skipSpaces_token h (by cases frame <;> rfl) rest
  rw [pass]
  split <;> simp_all

theorem pass_next_comma (h : Blank blank) :
    pass .next (frame :: frames) (blank ++ ',' :: rest) = pass frame.item (frame :: frames) rest := by
  have token : skipSpaces (blank ++ ',' :: rest) = ',' :: rest := skipSpaces_token h rfl rest
  have opens : ',' ≠ frame.close := by cases frame <;> decide
  rw [pass]
  split <;> simp_all

end

theorem readColon_of_blank {before : List Char} (h : Blank before) (rest : List Char) :
    readColon (before ++ ':' :: rest) = .ok rest := by
  have token : skipSpaces (before ++ ':' :: rest) = ':' :: rest := skipSpaces_token h rfl rest
  simp only [readColon, token]

theorem passKey_of_spells {blank key spelling before : List Char} (h : Blank blank)
    (spelled : Spells key spelling) (colon : Blank before) (rest : List Char) :
    passKey (blank ++ '"' :: (spelling ++ '"' :: (before ++ ':' :: rest))) = .ok rest := by
  have token : skipSpaces (blank ++ '"' :: (spelling ++ '"' :: (before ++ ':' :: rest))) =
      '"' :: (spelling ++ '"' :: (before ++ ':' :: rest)) := skipSpaces_token h rfl _
  rw [passKey, token]
  simp only [passText_of_spells spelled, readColon_of_blank colon]

theorem ends_after {after : List Char} (h : Blank after) {c : Char} (separator : c ∈ [',', ']', '}'])
    (rest : List Char) : Ends (after ++ c :: rest) := by
  simp only [List.mem_cons, List.not_mem_nil, or_false] at separator
  rcases separator with rfl | rfl | rfl <;> exact ends_token h (by decide) rest

/-- A text that makes up all that a frame holds from the place where something is wanted. -/
def Fills (wanted : Wanted) (frame : Frame) (cs : List Char) : Prop :=
  ∀ frames rest, pass wanted (frame :: frames) (cs ++ frame.close :: rest) = pass .next frames rest

/-- An item of a list or a member of an object, passed over wherever no number goes on behind it. -/
structure Entry (frame : Frame) (cs : List Char) : Prop where
  opens : ∃ c tail, cs = c :: tail ∧ isSpace c = false ∧ c ≠ frame.close
  passed : ∀ blank frames rest, Blank blank → Ends rest →
    pass frame.item frames (blank ++ (cs ++ rest)) = pass .next frames rest

theorem Entry.fills {frame : Frame} {before cs tail : List Char} (entry : Entry frame cs)
    (spaces : Blank before) (ends : ∀ rest, Ends (tail ++ frame.close :: rest))
    (leads : Fills .next frame tail) :
    Fills .first frame (before ++ (cs ++ tail)) ∧ Fills frame.item frame (before ++ (cs ++ tail)) := by
  have whole (blank : List Char) (frames : List Frame) (rest : List Char) (spaces : Blank blank) :
      pass frame.item (frame :: frames) (blank ++ (cs ++ (tail ++ frame.close :: rest))) =
        pass .next frames rest :=
    (entry.passed blank _ _ spaces (ends rest)).trans (leads frames rest)
  constructor
  · intro frames rest
    rw [List.append_assoc, List.append_assoc]
    obtain ⟨c, others, rfl, token, opens⟩ := entry.opens
    exact (pass_first_item spaces token opens).trans (whole [] frames rest (by simp [Blank]))
  · intro frames rest
    rw [List.append_assoc, List.append_assoc]
    exact whole before frames rest spaces

theorem close_mem (frame : Frame) : frame.close ∈ [',', ']', '}'] := by cases frame <;> decide

theorem Entry.fills_last {frame : Frame} {before cs after : List Char} (entry : Entry frame cs)
    (spaces : Blank before) (closing : Blank after) :
    Fills .first frame (before ++ (cs ++ after)) ∧ Fills frame.item frame (before ++ (cs ++ after)) := by
  apply entry.fills spaces
  · exact ends_after closing (close_mem frame)
  · exact fun frames rest => pass_next_close closing

theorem Entry.fills_more {frame : Frame} {before cs after more : List Char} (entry : Entry frame cs)
    (spaces : Blank before) (closing : Blank after) (others : Fills frame.item frame more) :
    Fills .first frame (before ++ (cs ++ (after ++ ',' :: more))) ∧
      Fills frame.item frame (before ++ (cs ++ (after ++ ',' :: more))) := by
  apply entry.fills spaces
  · intro rest
    rw [List.append_assoc]
    exact ends_after closing (by decide) _
  · intro frames rest
    rw [List.append_assoc, List.cons_append, pass_next_comma closing]
    exact others frames rest

/-- What passing over the text of a part comes to. -/
def Passed : Part → List Char → Prop
  | .value _, cs => ∀ blank frames rest, Blank blank → Ends rest →
    pass .value frames (blank ++ (cs ++ rest)) = pass .next frames rest
  | .member _, cs => Entry .object cs
  | .items items, cs => Fills .first .list cs ∧ (items ≠ [] → Fills .value .list cs)
  | .members members, cs => Fills .first .object cs ∧ (members ≠ [] → Fills .key .object cs)

theorem Writes.passed {part : Part} {cs : List Char} (h : Writes part cs) : Passed part cs := by
  have entry {value : Value} {cs : List Char} (written : Writes (.value value) cs)
      (passed : Passed (.value value) cs) : Entry .list cs := by
    obtain ⟨c, tail, begun, opens⟩ := written.exists_opens
    exact ⟨⟨c, tail, begun, opens.token, opens.noBracket⟩, passed⟩
  induction h with
  | null => exact fun blank frames rest spaces _ => pass_value_scalar spaces rfl (by decide) rfl
  | true => exact fun blank frames rest spaces _ => pass_value_scalar spaces rfl (by decide) rfl
  | false => exact fun blank frames rest spaces _ => pass_value_scalar spaces rfl (by decide) rfl
  | number written =>
    intro blank frames rest spaces ends
    obtain ⟨c, tail, rfl, first, passed⟩ := passScalar_of_number written ends
    obtain ⟨token, _, noList, noObject, _⟩ := token_of_number first
    exact pass_value_scalar spaces token ⟨noList, noObject⟩ passed
  | text spelled =>
    intro blank frames rest spaces _
    refine pass_value_scalar spaces rfl (by decide) ?_
    simpa [passScalar] using passText_of_spells spelled rest
  | list _ ih =>
    intro blank frames rest spaces _
    rw [List.cons_append, pass_value_list spaces, List.append_assoc]
    exact ih.1 frames rest
  | object _ ih =>
    intro blank frames rest spaces _
    rw [List.cons_append, pass_value_object spaces, List.append_assoc]
    exact ih.1 frames rest
  | noItem spaces => exact ⟨fun frames rest => pass_first_close spaces, absurd rfl⟩
  | lastItem spaces written closing ih =>
    have filled := (entry written ih).fills_last spaces closing
    exact ⟨filled.1, fun _ => filled.2⟩
  | item spaces written closing some _ ih others =>
    have filled := (entry written ih).fills_more spaces closing (others.2 some)
    exact ⟨filled.1, fun _ => filled.2⟩
  | @member key spelling before after cs value spelled colon spaces _ ih =>
    refine ⟨⟨'"', _, rfl, rfl, by decide⟩, fun blank frames rest opening ends => ?_⟩
    have keyed := passKey_of_spells opening spelled colon (after ++ (cs ++ rest))
    have passed := (pass_key keyed).trans (ih _ frames rest spaces ends)
    simpa [Frame.item] using passed
  | noMember spaces => exact ⟨fun frames rest => pass_first_close spaces, absurd rfl⟩
  | lastMember spaces _ closing ih =>
    have filled := ih.fills_last spaces closing
    exact ⟨filled.1, fun _ => filled.2⟩
  | nextMember spaces _ closing some _ ih others =>
    have filled := ih.fills_more spaces closing (others.2 some)
    exact ⟨filled.1, fun _ => filled.2⟩

/-- A value is passed over to its last character. -/
theorem passValue_of_writes {value : Value} {blank cs rest : List Char} (spaces : Blank blank)
    (h : Writes (.value value) cs) (ends : Ends rest) : passValue (blank ++ (cs ++ rest)) = .ok rest := by
  rw [passValue, h.passed blank [] rest spaces ends, pass]

end Onboarding.Json
