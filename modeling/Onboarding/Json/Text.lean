import Onboarding.Json.Fault

/-! String literals: written with escapes, read with escapes undone, or passed over unread. -/
namespace Onboarding.Json

def escapeChar (c : Char) : List Char :=
  match c with
  | '"' => ['\\', '"']
  | '\\' => ['\\', '\\']
  | '\n' => ['\\', 'n']
  | '\r' => ['\\', 'r']
  | '\t' => ['\\', 't']
  | c =>
    if c.toNat = 0x8 then ['\\', 'b']
    else if c.toNat = 0xc then ['\\', 'f']
    else if c.toNat < 0x20 then ['\\', 'u'] ++ Text.hexDigits 4 c.toNat
    else [c]

def literal (s : String) : String :=
  String.ofList ('"' :: s.toList.flatMap escapeChar ++ ['"'])

def badHex (cs : List Char) : Fault :=
  if bytes cs < 4 then .here .endInString [] else ⟨.invalidEscape, some (bytes cs - 4)⟩

/-- The number written by the four digits of an escape. -/
def readHex : Reader Nat
  | a :: b :: c :: d :: rest =>
    match Text.hexValue? a, Text.hexValue? b, Text.hexValue? c, Text.hexValue? d with
    | some a, some b, some c, some d => .ok (((a * 16 + b) * 16 + c) * 16 + d, rest)
    | _, _, _, _ => .error (badHex (a :: b :: c :: d :: rest))
  | cs => .error (badHex cs)

def isLowSurrogate (n : Nat) : Bool := 0xdc00 ≤ n && n ≤ 0xdfff

def isHighSurrogate (n : Nat) : Bool := 0xd800 ≤ n && n ≤ 0xdbff

/-- The second half of a surrogate pair, whose first half is given. -/
def readLowSurrogate (high : Nat) : Reader Char
  | [] => .error (.here .endInString [])
  | '\\' :: [] => .error (.here .endInString [])
  | '\\' :: 'u' :: rest =>
    match readHex rest with
    | .error fault => .error fault
    | .ok (low, rest) =>
      if isLowSurrogate low then
        .ok (Char.ofNat (0x10000 + (high - 0xd800) * 0x400 + (low - 0xdc00)), rest)
      else .error (.here .loneSurrogate rest)
  | '\\' :: c :: rest => .error (.next .unfinishedSurrogate (c :: rest))
  | c :: rest => .error (.next .unfinishedSurrogate (c :: rest))

def simpleEscape? : Char → Option Char
  | '"' => some '"'
  | '\\' => some '\\'
  | '/' => some '/'
  | 'b' => some '\x08'
  | 'f' => some '\x0c'
  | 'n' => some '\n'
  | 'r' => some '\r'
  | 't' => some '\t'
  | _ => none

def readEscape : Reader Char
  | [] => .error (.here .endInString [])
  | 'u' :: rest =>
    match readHex rest with
    | .error fault => .error fault
    | .ok (n, rest) =>
      if isLowSurrogate n then .error (.here .loneSurrogate rest)
      else if isHighSurrogate n then readLowSurrogate n rest
      else .ok (Char.ofNat n, rest)
  | c :: rest =>
    match simpleEscape? c with
    | some d => .ok (d, rest)
    | none => .error (.next .invalidEscape (c :: rest))

theorem length_of_readHex {cs rest : List Char} {n : Nat} (h : readHex cs = .ok (n, rest)) :
    rest.length < cs.length := by
  unfold readHex at h
  split at h
  · split at h
    · simp only [Except.ok.injEq, Prod.mk.injEq] at h
      simp only [List.length_cons, ← h.2]
      omega
    · simp at h
  · simp at h

theorem length_of_readLowSurrogate {high : Nat} {cs rest : List Char} {c : Char}
    (h : readLowSurrogate high cs = .ok (c, rest)) : rest.length < cs.length := by
  unfold readLowSurrogate at h
  split at h
  · simp at h
  · simp at h
  · split at h
    · simp at h
    · next hx =>
      have := length_of_readHex hx
      simp only [List.length_cons]
      split at h
      · simp only [Except.ok.injEq, Prod.mk.injEq] at h
        rw [← h.2]
        omega
      · simp at h
  · simp at h
  · simp at h

theorem length_of_readEscape {cs rest : List Char} {c : Char}
    (h : readEscape cs = .ok (c, rest)) : rest.length < cs.length := by
  unfold readEscape at h
  split at h
  · simp at h
  · split at h
    · simp at h
    · next hx =>
      have := length_of_readHex hx
      simp only [List.length_cons]
      split at h
      · simp at h
      · split at h
        · have := length_of_readLowSurrogate h
          omega
        · simp only [Except.ok.injEq, Prod.mk.injEq] at h
          rw [← h.2]
          omega
  · split at h
    · simp only [Except.ok.injEq, Prod.mk.injEq] at h
      simp [← h.2]
    · simp at h

/-- The content of a literal, after its opening quote. -/
def readText (cs : List Char) : Except Fault (List Char × List Char) :=
  match cs with
  | [] => .error (.here .endInString [])
  | '"' :: rest => .ok ([], rest)
  | '\\' :: rest =>
    match _h : readEscape rest with
    | .error fault => .error fault
    | .ok (c, rest) => (readText rest).map fun (s, rest) => (c :: s, rest)
  | c :: rest =>
    if c.toNat < 0x20 then .error (.here .controlCharacter rest)
    else (readText rest).map fun (s, rest) => (c :: s, rest)
termination_by cs.length
decreasing_by
  · have := length_of_readEscape _h
    simp only [List.length_cons]
    omega
  · simp

theorem length_of_readText {cs s rest : List Char} (h : readText cs = .ok (s, rest)) :
    rest.length < cs.length := by
  fun_induction readText cs generalizing s with
  | case1 | case3 | case5 => simp at h
  | case2 => simp_all
  | case4 _ _ _ hx ih =>
    have := length_of_readEscape hx
    revert h
    cases hr : readText _ with
    | error => simp [Except.map]
    | ok p =>
      simp only [Except.map, Except.ok.injEq, Prod.mk.injEq]
      rintro ⟨_, rfl⟩
      have := ih (s := p.1) (by simp [hr])
      simp only [List.length_cons]
      omega
  | case6 _ _ _ _ _ ih =>
    revert h
    cases hr : readText _ with
    | error => simp [Except.map]
    | ok p =>
      simp only [Except.map, Except.ok.injEq, Prod.mk.injEq]
      rintro ⟨_, rfl⟩
      have := ih (s := p.1) (by simp [hr])
      simp only [List.length_cons]
      omega

/-- An escape that is only passed over: halves of surrogate pairs are not checked. -/
def passEscape : List Char → Except Fault (List Char)
  | [] => .error (.here .endInString [])
  | 'u' :: rest => (readHex rest).map Prod.snd
  | c :: rest =>
    if (simpleEscape? c).isSome then .ok rest else .error (.next .invalidEscape (c :: rest))

theorem length_of_passEscape {cs rest : List Char} (h : passEscape cs = .ok rest) :
    rest.length < cs.length := by
  unfold passEscape at h
  split at h
  · simp at h
  · next tail =>
    cases hx : readHex tail with
    | error => simp [hx, Except.map] at h
    | ok p =>
      have := length_of_readHex (n := p.1) hx
      simp only [hx, Except.map, Except.ok.injEq] at h
      simp only [List.length_cons, ← h]
      omega
  · split at h
    · simp only [Except.ok.injEq] at h
      simp [← h]
    · simp at h

def passText (cs : List Char) : Except Fault (List Char) :=
  match cs with
  | [] => .error (.here .endInString [])
  | '"' :: rest => .ok rest
  | '\\' :: rest =>
    match _h : passEscape rest with
    | .error fault => .error fault
    | .ok rest => passText rest
  | c :: rest =>
    if c.toNat < 0x20 then .error (.here .controlCharacter (c :: rest)) else passText rest
termination_by cs.length
decreasing_by
  · have := length_of_passEscape _h
    simp only [List.length_cons]
    omega
  · simp

theorem length_of_passText {cs rest : List Char} (h : passText cs = .ok rest) :
    rest.length < cs.length := by
  fun_induction passText cs with
  | case1 => simp at h
  | case2 => simp_all
  | case3 => simp at h
  | case4 tail tail' hx ih =>
    have := length_of_passEscape hx
    have := ih h
    simp only [List.length_cons]
    omega
  | case5 => simp at h
  | case6 c tail _ _ _ ih =>
    have := ih h
    simp only [List.length_cons]
    omega

end Onboarding.Json
