/-! The shortest decimal number that reads back as a given binary one. All comparisons are between
natural numbers: both sides are scaled by the same powers of two and ten. -/
namespace Onboarding.Decimal

/-- A positive binary value `mantissa · 2 ^ exponent` among its neighbours. Below a power of two the
next smaller value is only half as far away. -/
structure Binary where
  mantissa : Nat
  exponent : Int
  halfBelow : Bool
deriving DecidableEq

structure Numeral where
  digits : Nat
  power : Int
deriving DecidableEq, Repr

def Binary.ofBits? (bits : Nat) : Option Binary :=
  let fraction : Nat := bits % Nat.pow 2 52
  let scale : Nat := bits / Nat.pow 2 52 % Nat.pow 2 11
  if scale = 0 then
    if fraction = 0 then none else some ⟨fraction, -1074, false⟩
  else some ⟨Nat.pow 2 52 + fraction, (scale : Int) - 1075, fraction = 0 && 1 < scale⟩

/-- Four times the value, and the ends of the interval that rounds to it, in quarters of a unit. -/
def Binary.quarters (b : Binary) : Nat × Nat × Nat :=
  (4 * b.mantissa, 4 * b.mantissa - (if b.halfBelow then 1 else 2), 4 * b.mantissa + 2)

/-- Factors that turn a number of quarter units and a number of steps `10 ^ power` into comparable
natural numbers. -/
def Binary.factors (b : Binary) (power : Int) : Nat × Nat :=
  (Nat.pow 2 (b.exponent - 2).toNat * Nat.pow 10 (-power).toNat,
    Nat.pow 2 (2 - b.exponent).toNat * Nat.pow 10 power.toNat)

/-- Whether `digits · 10 ^ power` rounds to the value; the ends do when the mantissa is even. -/
def Binary.holds (b : Binary) (power : Int) (digits : Nat) : Bool :=
  let (_, low, high) := b.quarters
  let (unit, step) := b.factors power
  if b.mantissa % 2 = 0 then low * unit ≤ digits * step && digits * step ≤ high * unit
  else low * unit < digits * step && digits * step < high * unit

/-- The neighbour of the value on the grid of steps `10 ^ power` that rounds to it: of two the nearer
one, of two equally near ones the even one. -/
def Binary.onGrid? (b : Binary) (power : Int) : Option Nat :=
  let (unit, step) := b.factors power
  let value := b.quarters.1 * unit
  let below := value / step
  let preferBelow := 2 * (value % step) < step || (2 * (value % step) = step && below % 2 = 0)
  let candidates := if preferBelow then [below, below + 1] else [below + 1, below]
  candidates.find? (b.holds power)

/-- The exponent of the leading decimal digit: the greatest power of ten not above the value. -/
def Binary.magnitude (b : Binary) : Int :=
  let reaches (power : Int) : Bool :=
    let (unit, step) := b.factors power
    step ≤ b.quarters.1 * unit
  ((List.range 640).map (fun i : Nat => (310 : Int) - (i : Int)) |>.find? reaches).getD (-330)

def Numeral.stripped (digits : Nat) (power : Int) : Numeral :=
  if digits = 0 then ⟨0, power⟩
  else if digits % 10 = 0 then stripped (digits / 10) (power + 1)
  else ⟨digits, power⟩
termination_by digits

/-- The shortest decimal number that reads back: the first grid of one, two, … seventeen digits with
a neighbour that rounds to the value. -/
def Binary.shortest (b : Binary) : Numeral :=
  let top := b.magnitude
  let attempt (k : Nat) : Option Numeral :=
    (b.onGrid? (top - k)).map fun digits => Numeral.stripped digits (top - k)
  ((List.range 17).findSome? attempt).getD ⟨0, 0⟩

end Onboarding.Decimal
