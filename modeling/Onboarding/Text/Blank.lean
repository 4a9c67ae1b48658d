/-! White space and its removal at both ends of a text. Main statements: trimming leaves nothing exactly
when every character is blank, and it leaves one character exactly when the others are blanks around it. -/
namespace Onboarding.Text

/-- The intervals of characters with the Unicode property `White_Space`. -/
def blankRanges : List (Nat × Nat) :=
  [(0x9, 0xd), (0x20, 0x20), (0x85, 0x85), (0xa0, 0xa0), (0x1680, 0x1680), (0x2000, 0x200a),
   (0x2028, 0x2029), (0x202f, 0x202f), (0x205f, 0x205f), (0x3000, 0x3000)]

def within (ranges : List (Nat × Nat)) (n : Nat) : Bool :=
  ranges.any fun r => r.1 ≤ n && n ≤ r.2

def isBlank (c : Char) : Bool := within blankRanges c.toNat

def trimStart (cs : List Char) : List Char := cs.dropWhile isBlank

def trimEnd (cs : List Char) : List Char := (cs.reverse.dropWhile isBlank).reverse

/-- The text without the blanks at its two ends. -/
def trim (cs : List Char) : List Char := trimEnd (trimStart cs)

theorem trimStart_cons (c : Char) (cs : List Char) :
    trimStart (c :: cs) = if isBlank c then trimStart cs else c :: cs := by
  cases h : isBlank c <;> simp [trimStart, h]

theorem trimStart_eq_nil_iff {cs : List Char} : trimStart cs = [] ↔ ∀ c ∈ cs, isBlank c := by
  induction cs with
  | nil => simp [trimStart]
  | cons c r ih => cases h : isBlank c <;> simp [trimStart_cons, h, ih]

theorem trimEnd_eq_nil_iff {cs : List Char} : trimEnd cs = [] ↔ ∀ c ∈ cs, isBlank c := by
  have : trimEnd cs = (trimStart cs.reverse).reverse := rfl
  rw [this, List.reverse_eq_nil_iff, trimStart_eq_nil_iff]
  simp

theorem trim_eq_nil_iff {cs : List Char} : trim cs = [] ↔ ∀ c ∈ cs, isBlank c := by
  rw [trim, trimEnd_eq_nil_iff]
  constructor
  · intro h
    induction cs with
    | nil => simp
    | cons c r ih => cases hc : isBlank c <;> simp_all [trimStart_cons]
  · intro h
    simp [trimStart_eq_nil_iff.2 h]

/-- What trimming removes are blanks at the two ends. -/
theorem exists_around (cs : List Char) :
    ∃ before after, (∀ c ∈ before, isBlank c) ∧ (∀ c ∈ after, isBlank c) ∧
      cs = before ++ trim cs ++ after := by
  refine ⟨cs.takeWhile isBlank, ((trimStart cs).reverse.takeWhile isBlank).reverse, ?_, ?_, ?_⟩
  · exact List.all_eq_true.mp List.all_takeWhile
  · intro c member
    exact List.all_eq_true.mp List.all_takeWhile c (List.mem_reverse.mp member)
  · have back : trim cs ++ ((trimStart cs).reverse.takeWhile isBlank).reverse = trimStart cs := by
      rw [trim, trimEnd, ← List.reverse_append, List.takeWhile_append_dropWhile, List.reverse_reverse]
    rw [List.append_assoc, back, trimStart, List.takeWhile_append_dropWhile]

theorem trim_around {before after : List Char} {c : Char} (left : ∀ b ∈ before, isBlank b)
    (right : ∀ b ∈ after, isBlank b) (shown : isBlank c = false) : trim (before ++ c :: after) = [c] := by
  have start : trimStart (before ++ c :: after) = c :: after := by
    rw [trimStart, List.dropWhile_append_of_pos left, List.dropWhile_cons_of_neg (by simp [shown])]
  have ends : ∀ b ∈ after.reverse, isBlank b := fun b member => right b (List.mem_reverse.mp member)
  rw [trim, start, trimEnd, List.reverse_cons, List.dropWhile_append_of_pos ends,
    List.dropWhile_cons_of_neg (by simp [shown])]
  rfl

theorem trim_eq_singleton_iff {cs : List Char} {c : Char} (shown : isBlank c = false) :
    trim cs = [c] ↔ ∃ before after, (∀ b ∈ before, isBlank b) ∧ (∀ b ∈ after, isBlank b) ∧
      cs = before ++ c :: after := by
  constructor
  · intro single
    obtain ⟨before, after, left, right, parts⟩ := exists_around cs
    exact ⟨before, after, left, right, by simpa [single] using parts⟩
  · rintro ⟨before, after, left, right, rfl⟩
    exact trim_around left right shown

end Onboarding.Text
