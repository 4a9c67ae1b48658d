import Onboarding.Text.Hex

/-! Traces: an identity for everything that happens during one activation. The identity in force is
lexically scoped: leaving a scope, normally or by a panic, restores the one before. -/
namespace Onboarding

/-- An identity, told apart by its place in the supply. -/
structure TraceId where
  serial : Nat
deriving DecidableEq, Repr

/-- The written form: a random version 4 identifier, made of thirty digits of the serial number. -/
def TraceId.text (id : TraceId) : String :=
  let digits := Text.hexDigits 30 id.serial
  let part (start size : Nat) := (digits.drop start).take size
  String.ofList (part 0 8 ++ '-' :: part 8 4 ++ '-' :: '4' :: part 12 3 ++ '-' :: '8' :: part 15 3 ++
    '-' :: part 18 12)

def isVersion4 (text : String) : Bool :=
  let cs := text.toList
  let isLower (c : Char) : Bool := c.isDigit || ('a' ≤ c && c ≤ 'f')
  cs.length = 36 && cs.zipIdx.all fun (c, i) =>
    if i = 8 || i = 13 || i = 18 || i = 23 then c = '-'
    else if i = 14 then c = '4'
    else if i = 19 then c = '8' || c = '9' || c = 'a' || c = 'b'
    else isLower c

structure Trace where
  current : Option TraceId
  supply : Nat
deriving DecidableEq, Repr

namespace Trace

def start (supply : Nat) : Trace := ⟨none, supply⟩

def enter (t : Trace) : Trace := ⟨some ⟨t.supply⟩, t.supply + 1⟩

@[simp] theorem current_enter (t : Trace) : t.enter.current = some ⟨t.supply⟩ := rfl

/-- Restores the identity that was in force outside. -/
def leave (outer inner : Trace) : Trace := { inner with current := outer.current }

/-- What is done in turn: the identity is read, or more is done within a fresh scope, which ends
normally or by a panic that is caught outside. -/
inductive Node
  | read
  | scope (children : List Node)
  | panic (children : List Node)

inductive Note
  | id (read : Option TraceId)
  | caught
deriving DecidableEq, Repr

mutual

def walk (t : Trace) : Node → List Note × Trace
  | .read => ([.id t.current], t)
  | .scope children =>
    let (notes, inner) := walkAll t.enter children
    (notes, leave t inner)
  | .panic children =>
    let (notes, inner) := walkAll t.enter children
    (notes ++ [.caught], leave t inner)

def walkAll (t : Trace) : List Node → List Note × Trace
  | [] => ([], t)
  | node :: nodes =>
    let (notes, t) := walk t node
    let (others, t) := walkAll t nodes
    (notes ++ others, t)

end

end Trace

def Trace.Note.id? : Trace.Note → Option TraceId
  | .id read => read
  | .caught => none

def Trace.distinct (notes : List Trace.Note) : List TraceId :=
  (notes.filterMap Trace.Note.id?).eraseDups

end Onboarding
