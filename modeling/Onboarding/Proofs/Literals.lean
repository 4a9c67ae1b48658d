import Onboarding.Json.Text

/-! The ways of writing a text as a string literal: a character stands for itself, or is escaped by a
letter, by the four digits of its code, or by those of its two surrogates. The reader takes exactly what
is written in one of these ways, whatever follows, so it undoes the writer's own; and what it takes can
also be passed over. -/
namespace Onboarding.Json

def IsHexDigit (c : Char) (value : Nat) : Prop :=
  "0123456789abcdef".toList[value]? = some c ∨ "0123456789ABCDEF".toList[value]? = some c

inductive WritesHex (n : Nat) : List Char → Prop
  | digits {a b c d : Char} {p q r s : Nat} :
    IsHexDigit a p → IsHexDigit b q → IsHexDigit c r → IsHexDigit d s →
    n = 0x1000 * p + 0x100 * q + 0x10 * r + s → WritesHex n [a, b, c, d]

def letterEscapes : List (Char × Char) :=
  [('"', '"'), ('\\', '\\'), ('/', '/'), ('b', '\x08'), ('f', '\x0c'), ('n', '\n'), ('r', '\r'),
    ('t', '\t')]

/-- The two halves of a character beyond the first 65536, of which each has 10 bits. -/
def highSurrogate (c : Char) : Nat := 0xd800 + (c.toNat - 0x10000) / 0x400

def lowSurrogate (c : Char) : Nat := 0xdc00 + (c.toNat - 0x10000) % 0x400

inductive SpellsEscape (c : Char) : List Char → Prop
  | letter {l : Char} : (l, c) ∈ letterEscapes → SpellsEscape c [l]
  | code {digits : List Char} : WritesHex c.toNat digits → SpellsEscape c ('u' :: digits)
  | surrogates {high low : List Char} :
    0x10000 ≤ c.toNat → WritesHex (highSurrogate c) high → WritesHex (lowSurrogate c) low →
    SpellsEscape c ('u' :: high ++ '\\' :: 'u' :: low)

inductive SpellsChar (c : Char) : List Char → Prop
  | plain : c ≠ '"' → c ≠ '\\' → 0x20 ≤ c.toNat → SpellsChar c [c]
  | escaped {spelling : List Char} : SpellsEscape c spelling → SpellsChar c ('\\' :: spelling)

/-- The spellings of a text between the quotes of a literal. -/
inductive Spells : List Char → List Char → Prop
  | nil : Spells [] []
  | cons {c : Char} {cs spelling spellings : List Char} :
    SpellsChar c spelling → Spells cs spellings → Spells (c :: cs) (spelling ++ spellings)

theorem IsHexDigit.lt {c : Char} {value : Nat} (h : IsHexDigit c value) : value < 16 := by
  rcases h with lower | upper
  · exact (List.getElem?_eq_some_iff.mp lower).1
  · exact (List.getElem?_eq_some_iff.mp upper).1

theorem WritesHex.lt {n : Nat} {digits : List Char} (h : WritesHex n digits) : n < 0x10000 := by
  obtain ⟨first, second, third, fourth, sum⟩ := h
  have := first.lt
  have := second.lt
  have := third.lt
  have := fourth.lt
  omega

theorem hexValue?_of_isHexDigit {c : Char} {value : Nat} (h : IsHexDigit c value) :
    Text.hexValue? c = some value := by
  have valued : ∀ v : Fin 16,
      ("0123456789abcdef".toList[v.val]?.all fun c => Text.hexValue? c = some v.val) ∧
      ("0123456789ABCDEF".toList[v.val]?.all fun c => Text.hexValue? c = some v.val) := by
    decide
  obtain ⟨lower, upper⟩ := valued ⟨value, h.lt⟩
  rcases h with found | found
  · simp only [found, Option.all_some, decide_eq_true_eq] at lower
    exact lower
  · simp only [found, Option.all_some, decide_eq_true_eq] at upper
    exact upper

theorem isHexDigit_of_hexValue? {c : Char} {value : Nat} (h : Text.hexValue? c = some value) :
    IsHexDigit c value := by
  have small : c.toNat < 128 := by
    simp only [Text.hexValue?] at h
    split at h
    · omega
    split at h
    · omega
    split at h
    · omega
    · contradiction
  have digit : ∀ n : Fin 128, (Text.hexValue? (Char.ofNat n)).all fun value =>
      "0123456789abcdef".toList[value]? = some (Char.ofNat n) ||
        "0123456789ABCDEF".toList[value]? = some (Char.ofNat n) := by
    decide
  have found := digit ⟨c.toNat, small⟩
  simpa [Char.ofNat_toNat, h, IsHexDigit] using found

theorem hexValue?_eq_some_iff {c : Char} {value : Nat} :
    Text.hexValue? c = some value ↔ IsHexDigit c value :=
  ⟨isHexDigit_of_hexValue?, hexValue?_of_isHexDigit⟩

theorem readHex_eq_ok_iff {cs rest : List Char} {n : Nat} :
    readHex cs = .ok (n, rest) ↔ ∃ digits, WritesHex n digits ∧ cs = digits ++ rest := by
  constructor
  · intro h
    unfold readHex at h
    split at h
    next a b c d tail =>
      split at h
      next p q r s first second third fourth =>
        obtain ⟨rfl, rfl⟩ := Prod.mk.inj (Except.ok.inj h)
        rw [hexValue?_eq_some_iff] at first second third fourth
        exact ⟨[a, b, c, d], .digits first second third fourth (by omega), rfl⟩
      · contradiction
    · contradiction
  · rintro ⟨_, ⟨first, second, third, fourth, sum⟩, rfl⟩
    rw [← hexValue?_eq_some_iff] at first second third fourth
    simp only [List.cons_append, List.nil_append, readHex, first, second, third, fourth]
    congr 2
    omega

theorem isLowSurrogate_iff {n : Nat} : isLowSurrogate n = true ↔ 0xdc00 ≤ n ∧ n ≤ 0xdfff := by
  simp [isLowSurrogate]

theorem isHighSurrogate_iff {n : Nat} : isHighSurrogate n = true ↔ 0xd800 ≤ n ∧ n ≤ 0xdbff := by
  simp [isHighSurrogate]

/-- No character has the code of a surrogate. -/
theorem toNat_cases (c : Char) : c.toNat < 0xd800 ∨ 0xdfff < c.toNat ∧ c.toNat < 0x110000 := c.valid

theorem isHighSurrogate_highSurrogate {c : Char} (wide : 0x10000 ≤ c.toNat) :
    ¬isLowSurrogate (highSurrogate c) ∧ isHighSurrogate (highSurrogate c) := by
  have := toNat_cases c
  rw [isLowSurrogate_iff, isHighSurrogate_iff, highSurrogate]
  omega

theorem isLowSurrogate_lowSurrogate (c : Char) : isLowSurrogate (lowSurrogate c) := by
  rw [isLowSurrogate_iff, lowSurrogate]
  omega

/-- A character is made again of its surrogates. -/
theorem ofNat_surrogates {c : Char} (wide : 0x10000 ≤ c.toNat) :
    Char.ofNat (0x10000 + (highSurrogate c - 0xd800) * 0x400 + (lowSurrogate c - 0xdc00)) = c := by
  have code : 0x10000 + (highSurrogate c - 0xd800) * 0x400 + (lowSurrogate c - 0xdc00) = c.toNat := by
    simp only [highSurrogate, lowSurrogate]
    omega
  rw [code, Char.ofNat_toNat]

theorem readEscape_of_spells {c : Char} {spelling : List Char} (h : SpellsEscape c spelling)
    (rest : List Char) : readEscape (spelling ++ rest) = .ok (c, rest) := by
  cases h with
  | letter member =>
    simp only [letterEscapes, List.mem_cons, Prod.mk.injEq, List.not_mem_nil, or_false] at member
    rcases member with ⟨rfl, rfl⟩ | ⟨rfl, rfl⟩ | ⟨rfl, rfl⟩ | ⟨rfl, rfl⟩ | ⟨rfl, rfl⟩ | ⟨rfl, rfl⟩ |
      ⟨rfl, rfl⟩ | ⟨rfl, rfl⟩ <;> rfl
  | code digits =>
    have plain : ¬isLowSurrogate c.toNat ∧ ¬isHighSurrogate c.toNat := by
      have := toNat_cases c
      rw [isLowSurrogate_iff, isHighSurrogate_iff]
      omega
    simp [readEscape, readHex_eq_ok_iff.mpr ⟨_, digits, rfl⟩, plain]
  | @surrogates high low wide first second =>
    obtain ⟨notLow, isHigh⟩ := isHighSurrogate_highSurrogate wide
    have readHigh : readHex (high ++ ('\\' :: 'u' :: (low ++ rest))) =
        .ok (highSurrogate c, '\\' :: 'u' :: (low ++ rest)) := readHex_eq_ok_iff.mpr ⟨_, first, rfl⟩
    have readLow : readHex (low ++ rest) = .ok (lowSurrogate c, rest) :=
      readHex_eq_ok_iff.mpr ⟨_, second, rfl⟩
    simp only [List.cons_append, List.append_assoc, readEscape, readHigh, if_neg notLow, if_pos isHigh,
      readLowSurrogate, readLow, if_pos (isLowSurrogate_lowSurrogate c), ofNat_surrogates wide]

theorem toNat_of_isValidChar {n : Nat} (h : n.isValidChar) : (Char.ofNat n).toNat = n := by
  rw [Char.ofNat, dif_pos h]
  rfl

theorem spells_of_readLowSurrogate {high : Nat} {digits cs rest : List Char} {c : Char}
    (isHigh : isHighSurrogate high) (first : WritesHex high digits)
    (h : readLowSurrogate high cs = .ok (c, rest)) :
    ∃ spelling, SpellsEscape c ('u' :: digits ++ spelling) ∧ cs = spelling ++ rest := by
  unfold readLowSurrogate at h
  split at h
  · contradiction
  · contradiction
  next tail =>
    split at h
    · contradiction
    next low remaining read =>
      split at h
      next isLow =>
        obtain ⟨rfl, rfl⟩ := Prod.mk.inj (Except.ok.inj h)
        obtain ⟨lowDigits, second, rfl⟩ := readHex_eq_ok_iff.mp read
        rw [isHighSurrogate_iff] at isHigh
        rw [isLowSurrogate_iff] at isLow
        have code : (Char.ofNat (0x10000 + (high - 0xd800) * 0x400 + (low - 0xdc00))).toNat =
            0x10000 + (high - 0xd800) * 0x400 + (low - 0xdc00) :=
          toNat_of_isValidChar (.inr (by omega))
        generalize Char.ofNat (0x10000 + (high - 0xd800) * 0x400 + (low - 0xdc00)) = c at code
        have sameHigh : highSurrogate c = high := by
          rw [highSurrogate, code]
          omega
        have sameLow : lowSurrogate c = low := by
          rw [lowSurrogate, code]
          omega
        refine ⟨'\\' :: 'u' :: lowDigits, .surrogates ?_ ?_ ?_, rfl⟩
        · omega
        · rwa [sameHigh]
        · rwa [sameLow]
      · contradiction
  · contradiction
  · contradiction

theorem spells_of_readEscape {cs rest : List Char} {c : Char} (h : readEscape cs = .ok (c, rest)) :
    ∃ spelling, SpellsEscape c spelling ∧ cs = spelling ++ rest := by
  unfold readEscape at h
  split at h
  · contradiction
  next tail =>
    split at h
    · contradiction
    next n remaining read =>
      obtain ⟨digits, written, rfl⟩ := readHex_eq_ok_iff.mp read
      split at h
      · contradiction
      next notLow =>
        split at h
        next isHigh =>
          obtain ⟨spelling, spells, rfl⟩ := spells_of_readLowSurrogate isHigh written h
          exact ⟨_, spells, by simp⟩
        next notHigh =>
          obtain ⟨rfl, rfl⟩ := Prod.mk.inj (Except.ok.inj h)
          rw [isLowSurrogate_iff] at notLow
          rw [isHighSurrogate_iff] at notHigh
          have code : (Char.ofNat n).toNat = n := by
            have := written.lt
            exact toNat_of_isValidChar (by rw [Nat.isValidChar]; omega)
          exact ⟨'u' :: digits, .code (by rwa [code]), rfl⟩
  next l tail notCode =>
    split at h
    next d simple =>
      obtain ⟨rfl, rfl⟩ := Prod.mk.inj (Except.ok.inj h)
      refine ⟨[l], .letter ?_, rfl⟩
      unfold simpleEscape? at simple
      split at simple
      all_goals cases simple
      all_goals decide
    · contradiction

theorem readText_of_spellsChar {c : Char} {spelling : List Char} (h : SpellsChar c spelling)
    (rest : List Char) :
    readText (spelling ++ rest) = (readText rest).map fun r => (c :: r.1, r.2) := by
  cases h with
  | plain noQuote noBackslash printable =>
    rw [List.singleton_append, readText]
    · rw [if_neg (by omega)]
    · exact noQuote
    · exact fun h => noBackslash h
  | escaped escape =>
    rw [List.cons_append, readText]
    split
    next fault refused =>
      rw [readEscape_of_spells escape] at refused
      contradiction
    next other remaining read =>
      rw [readEscape_of_spells escape] at read
      obtain ⟨rfl, rfl⟩ := Prod.mk.inj (Except.ok.inj read)
      rfl

theorem readText_of_spells {content spelling : List Char} (h : Spells content spelling)
    (rest : List Char) : readText (spelling ++ '"' :: rest) = .ok (content, rest) := by
  induction h with
  | nil => rw [List.nil_append, readText]
  | cons first _ ih =>
    rw [List.append_assoc, readText_of_spellsChar first, ih]
    rfl

theorem exists_of_map_cons_ok {c : Char} {read : Except Fault (List Char × List Char)}
    {content rest : List Char} (h : (read.map fun r => (c :: r.1, r.2)) = .ok (content, rest)) :
    ∃ others, content = c :: others ∧ read = .ok (others, rest) := by
  cases read with
  | error fault => contradiction
  | ok r =>
    obtain ⟨rfl, rfl⟩ := Prod.mk.inj (Except.ok.inj h)
    exact ⟨r.1, rfl, rfl⟩

theorem spells_of_readText {cs content rest : List Char} (h : readText cs = .ok (content, rest)) :
    ∃ spelling, Spells content spelling ∧ cs = spelling ++ '"' :: rest := by
  fun_induction readText cs generalizing content with
  | case1 | case3 | case5 => contradiction
  | case2 tail =>
    obtain ⟨rfl, rfl⟩ := Prod.mk.inj (Except.ok.inj h)
    exact ⟨[], .nil, rfl⟩
  | case4 tail c remaining read ih =>
    obtain ⟨others, rfl, readOn⟩ := exists_of_map_cons_ok h
    obtain ⟨escape, spells, rfl⟩ := spells_of_readEscape read
    obtain ⟨spelling, spelled, rfl⟩ := ih readOn
    exact ⟨'\\' :: escape ++ spelling, .cons (.escaped spells) spelled, by simp⟩
  | case6 c tail noQuote noBackslash printable ih =>
    obtain ⟨others, rfl, readOn⟩ := exists_of_map_cons_ok h
    obtain ⟨spelling, spelled, rfl⟩ := ih readOn
    exact ⟨c :: spelling, .cons (.plain noQuote noBackslash (by omega)) spelled, rfl⟩

theorem passText_of_spellsEscape {c : Char} {spelling : List Char} (h : SpellsEscape c spelling)
    (rest : List Char) : passText ('\\' :: (spelling ++ rest)) = passText rest := by
  have passCode {n : Nat} {digits : List Char} (written : WritesHex n digits) (rest : List Char) :
      passText ('\\' :: 'u' :: (digits ++ rest)) = passText rest := by
    have passed : passEscape ('u' :: (digits ++ rest)) = .ok rest := by
      rw [passEscape, readHex_eq_ok_iff.mpr ⟨digits, written, rfl⟩]
      rfl
    rw [passText]
    split
    · simp_all
    · simp_all
  cases h with
  | letter member =>
    simp only [letterEscapes, List.mem_cons, Prod.mk.injEq, List.not_mem_nil, or_false] at member
    rw [List.singleton_append, passText]
    rcases member with ⟨rfl, rfl⟩ | ⟨rfl, rfl⟩ | ⟨rfl, rfl⟩ | ⟨rfl, rfl⟩ | ⟨rfl, rfl⟩ | ⟨rfl, rfl⟩ |
      ⟨rfl, rfl⟩ | ⟨rfl, rfl⟩ <;> rfl
  | code digits => exact passCode digits rest
  | surrogates wide first second =>
    -- The halves of a pair are passed over one by one.
    rw [List.append_assoc, List.cons_append, passCode first, List.cons_append, List.cons_append,
      passCode second]

theorem passText_of_spells {content spelling : List Char} (h : Spells content spelling)
    (rest : List Char) : passText (spelling ++ '"' :: rest) = .ok rest := by
  induction h with
  | nil => rw [List.nil_append, passText]
  | cons first _ ih =>
    rw [List.append_assoc]
    cases first with
    | plain noQuote noBackslash printable =>
      rw [List.singleton_append, passText, if_neg (by omega), ih]
      · exact noQuote
      · exact fun h => noBackslash h
    | escaped escape => rw [List.cons_append, passText_of_spellsEscape escape, ih]

theorem isHexDigit_hexDigit {n : Nat} (h : n < 16) : IsHexDigit (Text.hexDigit n) n :=
  hexValue?_eq_some_iff.mp (Text.hexValue?_hexDigit h)

theorem writesHex_hexDigits {n : Nat} (h : n < 0x10000) : WritesHex n (Text.hexDigits 4 n) := by
  have digit (m : Nat) : IsHexDigit (Text.hexDigit (m % 16)) (m % 16) :=
    isHexDigit_hexDigit (Nat.mod_lt m (by decide))
  exact .digits (digit _) (digit _) (digit _) (digit _) (by omega)

/-- The writer's spelling of a character is one of them. -/
theorem spellsChar_escapeChar (c : Char) : SpellsChar c (escapeChar c) := by
  unfold escapeChar
  split
  case h_6 noQuote noBackslash _ _ _ =>
    split
    next code =>
      obtain rfl : c = '\x08' := Char.ext (UInt32.toNat_inj.mp code)
      exact .escaped (.letter (by decide))
    split
    next code =>
      obtain rfl : c = '\x0c' := Char.ext (UInt32.toNat_inj.mp code)
      exact .escaped (.letter (by decide))
    split
    next control => exact .escaped (.code (writesHex_hexDigits (by omega)))
    next printable => exact .plain noQuote noBackslash (by omega)
  all_goals exact .escaped (.letter (by decide))

theorem spells_written (content : List Char) : Spells content (content.flatMap escapeChar) := by
  induction content with
  | nil => exact .nil
  | cons c content ih =>
    rw [List.flatMap_cons]
    exact .cons (spellsChar_escapeChar c) ih

end Onboarding.Json
