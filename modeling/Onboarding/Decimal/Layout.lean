import Onboarding.Decimal.Shortest

/-! The written form of a double: its shortest digits, positional in a middle range and with an
exponent elsewhere. -/
namespace Onboarding.Decimal

structure Layout where
  lowest : Int
  highest : Int

/-- Positional from a hundred-thousandth up to sixteen integer digits. -/
def Layout.standard : Layout := ⟨-5, 15⟩

private def zeros (n : Nat) : String := String.ofList (List.replicate n '0')

/-- Digits with a point after the first `n` of them and at least one digit on each side. -/
private def pointed (digits : String) (n : Int) : String :=
  if n ≤ 0 then "0." ++ zeros n.natAbs ++ digits
  else if digits.length ≤ n.toNat then digits ++ zeros (n.toNat - digits.length) ++ ".0"
  else String.ofList (digits.toList.take n.toNat) ++ "." ++ String.ofList (digits.toList.drop n.toNat)

private def exponential (digits : String) (lead : Int) : String :=
  let mantissa :=
    match digits.toList with
    | first :: second :: rest => String.ofList (first :: '.' :: second :: rest)
    | _ => digits
  mantissa ++ "e" ++ (if lead < 0 then "-" else "+") ++ toString lead.natAbs

def Layout.write (layout : Layout) (d : Numeral) : String :=
  let digits := toString d.digits
  let lead := d.power + digits.length - 1
  if layout.lowest ≤ lead ∧ lead ≤ layout.highest then pointed digits (lead + 1)
  else exponential digits lead

def writeBits (bits : Nat) : String :=
  let sign := if bits / Nat.pow 2 63 % 2 = 1 then "-" else ""
  match Binary.ofBits? bits with
  | none => sign ++ "0.0"
  | some b => sign ++ Layout.standard.write b.shortest

end Onboarding.Decimal
