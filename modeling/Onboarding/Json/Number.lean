import Onboarding.Json.Fault

/-! Numbers: read into an integer or a double, or passed over by form alone. The significand is kept
exactly while it fits 64 bits; digits beyond that only move the decimal point. -/
namespace Onboarding.Json

def isDigit (c : Char) : Bool := 0x30 ≤ c.toNat && c.toNat ≤ 0x39

def digitValue (c : Char) : Nat := c.toNat - 0x30

def digitsOf (cs : List Char) : List Char := cs.takeWhile isDigit

def afterDigits (cs : List Char) : List Char := cs.dropWhile isDigit

theorem length_afterDigits_le (cs : List Char) : (afterDigits cs).length ≤ cs.length :=
  (List.dropWhile_sublist _).length_le

def isExponentMark (c : Char) : Bool := c = 'e' || c = 'E'

/-- The digits read so far: `value · 10 ^ power`, closed to further digits once one did not fit. -/
structure Significand where
  value : Nat
  power : Int
  closed : Bool
deriving DecidableEq, Repr

def Significand.fits (s : Significand) (digit : Nat) : Bool := s.value * 10 + digit < Nat.pow 2 64

def Significand.whole (s : Significand) (c : Char) : Significand :=
  if !s.closed && s.fits (digitValue c) then { s with value := s.value * 10 + digitValue c }
  else { s with power := s.power + 1, closed := true }

def Significand.decimal (s : Significand) (c : Char) : Significand :=
  if !s.closed && s.fits (digitValue c) then
    { s with value := s.value * 10 + digitValue c, power := s.power - 1 }
  else { s with closed := true }

def greatestPower : Nat := 308

def powerOfTen (n : Nat) : Float := Float.ofScientific 1 false n

/-- Divides by a power of ten, in steps that stop at zero. -/
def scaleDown (x : Float) (n : Nat) : Float :=
  if n ≤ greatestPower then x / powerOfTen n
  else if x == 0 then x
  else scaleDown (x / powerOfTen greatestPower) (n - greatestPower)
termination_by n
decreasing_by simp [greatestPower] at *; omega

def scaleUp? (x : Float) (n : Nat) : Option Float :=
  if n ≤ greatestPower then
    let y := x * powerOfTen n
    if y.isInf then none else some y
  else if x == 0 then some x
  else none

def Significand.toFloat? (s : Significand) (power : Int) : Option Float :=
  let x := s.value.toUInt64.toFloat
  if 0 ≤ power then scaleUp? x power.toNat else some (scaleDown x power.natAbs)

def signed (negative : Bool) (x : Float) : Found :=
  .floating (if negative then -x else x).toBits.toNat

def Significand.finish (s : Significand) (negative : Bool) (power : Int) (rest : List Char) :
    Except Fault (Found × List Char) :=
  match s.toFloat? power with
  | some x => .ok (signed negative x, rest)
  | none => .error (.here .numberOutOfRange rest)

/-- The digits of an exponent after the first: none, with the rest after the digit that did it, when
the exponent leaves 32 bits. -/
def readExponent (value : Nat) : List Char → Option Nat × List Char
  | [] => (some value, [])
  | c :: rest =>
    if isDigit c then
      if value * 10 + digitValue c < Nat.pow 2 31 then readExponent (value * 10 + digitValue c) rest
      else (none, rest)
    else (some value, c :: rest)

def readSign : List Char → Bool × List Char
  | '+' :: rest => (false, rest)
  | '-' :: rest => (true, rest)
  | rest => (false, rest)

def Significand.readScale (s : Significand) (negative : Bool) (cs : List Char) :
    Except Fault (Found × List Char) :=
  let (down, cs) := readSign cs
  match cs with
  | [] => .error (.here .endInValue [])
  | c :: rest =>
    if isDigit c then
      match readExponent (digitValue c) rest with
      | (some n, rest) => s.finish negative (if down then s.power - n else s.power + n) rest
      | (none, rest) =>
        if s.value ≠ 0 ∧ !down then .error (.here .numberOutOfRange rest)
        else .ok (signed negative 0, afterDigits rest)
    else .error (.next .invalidNumber (c :: rest))

def Significand.readDecimals (s : Significand) (negative : Bool) (cs : List Char) :
    Except Fault (Found × List Char) :=
  if digitsOf cs = [] then
    .error (.next (if cs = [] then .endInValue else .invalidNumber) cs)
  else
    let t := (digitsOf cs).foldl Significand.decimal { s with closed := false }
    match afterDigits cs with
    | c :: rest =>
      if isExponentMark c then t.readScale negative rest else t.finish negative t.power (c :: rest)
    | [] => t.finish negative t.power []

/-- The number after the digits of its whole part. -/
def Significand.readTail (s : Significand) (negative : Bool) (cs : List Char) :
    Except Fault (Found × List Char) :=
  match cs with
  | '.' :: rest => s.readDecimals negative rest
  | c :: rest => if isExponentMark c then s.readScale negative rest else plain
  | [] => plain
where
  plain : Except Fault (Found × List Char) :=
    if s.closed then s.finish negative s.power cs
    else if !negative then .ok (.integer s.value, cs)
    else if 0 < s.value ∧ s.value ≤ Nat.pow 2 63 then .ok (.integer (-s.value), cs)
    else .ok (signed true s.value.toUInt64.toFloat, cs)

def readNumber (negative : Bool) (cs : List Char) : Except Fault (Found × List Char) :=
  match cs with
  | [] => .error (.here .endInValue [])
  | c :: rest =>
    if !isDigit c then .error (.next .invalidNumber (c :: rest))
    else if c = '0' then
      if digitsOf rest = [] then Significand.readTail ⟨0, 0, false⟩ negative rest
      else .error (.next .invalidNumber rest)
    else
      ((digitsOf (c :: rest)).foldl Significand.whole ⟨0, 0, false⟩).readTail negative
        (afterDigits (c :: rest))

def passScale (cs : List Char) : Except Fault (List Char) :=
  match (readSign cs).2 with
  | c :: rest =>
    if isDigit c then .ok (afterDigits rest) else .error (.next .invalidNumber (c :: rest))
  | [] => .error (.next .invalidNumber [])

def passTail (cs : List Char) : Except Fault (List Char) :=
  match cs with
  | c :: rest => if isExponentMark c then passScale rest else .ok (c :: rest)
  | [] => .ok []

def passFraction (cs : List Char) : Except Fault (List Char) :=
  match cs with
  | '.' :: rest =>
    if digitsOf rest = [] then .error (.next .invalidNumber rest) else passTail (afterDigits rest)
  | rest => passTail rest

/-- Passes over a number, after its minus sign if it has one. -/
def passNumber (cs : List Char) : Except Fault (List Char) :=
  match cs with
  | [] => .error (.next .invalidNumber [])
  | c :: rest =>
    if !isDigit c then .error (.next .invalidNumber (c :: rest))
    else if c = '0' ∧ digitsOf rest ≠ [] then .error (.next .invalidNumber rest)
    else passFraction (afterDigits rest)

theorem length_readSign_le (cs : List Char) : (readSign cs).2.length ≤ cs.length := by
  unfold readSign
  split <;> simp

theorem length_of_passScale {cs rest : List Char} (h : passScale cs = .ok rest) :
    rest.length ≤ cs.length := by
  have bound := length_readSign_le cs
  unfold passScale at h
  split at h
  · next c tail e =>
    have := length_afterDigits_le tail
    rw [e] at bound
    split at h
    · simp only [Except.ok.injEq] at h
      simp only [List.length_cons, ← h] at *
      omega
    · simp at h
  · simp at h

theorem length_of_passTail {cs rest : List Char} (h : passTail cs = .ok rest) :
    rest.length ≤ cs.length := by
  unfold passTail at h
  split at h
  · split at h
    · have := length_of_passScale h
      simp only [List.length_cons]
      omega
    · simp only [Except.ok.injEq] at h
      simp [← h]
  · simp_all

theorem length_of_passFraction {cs rest : List Char} (h : passFraction cs = .ok rest) :
    rest.length ≤ cs.length := by
  unfold passFraction at h
  split at h
  · next tail =>
    split at h
    · simp at h
    · have := length_of_passTail h
      have := length_afterDigits_le tail
      simp only [List.length_cons]
      omega
  · exact length_of_passTail h

theorem length_of_passNumber {cs rest : List Char} (h : passNumber cs = .ok rest) :
    rest.length < cs.length := by
  unfold passNumber at h
  split at h
  · simp at h
  · next c tail =>
    have := length_afterDigits_le tail
    split at h
    · simp at h
    · split at h
      · simp at h
      · have := length_of_passFraction h
        simp only [List.length_cons]
        omega

end Onboarding.Json
