/-! Numbers in hexadecimal digits, written in lower case and read in either case. -/
namespace Onboarding.Text

def hexDigit (n : Nat) : Char :=
  if n < 10 then Char.ofNat (0x30 + n) else Char.ofNat (0x57 + n)

/-- The last `k` digits of a number, the most significant first. -/
def hexDigits : Nat → Nat → List Char
  | 0, _ => []
  | k + 1, n => hexDigits k (n / 16) ++ [hexDigit (n % 16)]

def hex (n : Nat) : List Char :=
  if n < 16 then [hexDigit n] else hex (n / 16) ++ [hexDigit (n % 16)]
termination_by n

def hexValue? (c : Char) : Option Nat :=
  let n := c.toNat
  if 0x30 ≤ n ∧ n ≤ 0x39 then some (n - 0x30)
  else if 0x61 ≤ n ∧ n ≤ 0x66 then some (n - 0x57)
  else if 0x41 ≤ n ∧ n ≤ 0x46 then some (n - 0x37)
  else none

theorem hexValue?_hexDigit {n : Nat} (h : n < 16) : hexValue? (hexDigit n) = some n := by
  have : ∀ m : Fin 16, hexValue? (hexDigit m.val) = some m.val := by decide
  exact this ⟨n, h⟩

end Onboarding.Text
