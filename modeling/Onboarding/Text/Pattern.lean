/-! Patterns and the parts of a text that they match. Of several parts one is preferred: the first
alternative comes before the others, and a greedy repetition goes on before it ends. The texts are single
lines of ASCII characters. -/
namespace Onboarding.Text

inductive Edge
  | start
  | stop
  | wordBoundary
  | noWordBoundary
  | wordStart
  | wordStop
deriving DecidableEq, Repr

/-- A pattern. A set of characters is given by their codes below 256. -/
inductive Pattern
  | empty
  | one (codes : List Nat)
  | edge (place : Edge)
  | both (first second : Pattern)
  | either (preferred other : Pattern)
  | optional (greedy : Bool) (body : Pattern)
  | many (greedy : Bool) (body : Pattern)
deriving DecidableEq, Repr

def isWordCode (n : Nat) : Bool :=
  (0x30 ≤ n && n ≤ 0x39) || (0x41 ≤ n && n ≤ 0x5a) || n = 0x5f || (0x61 ≤ n && n ≤ 0x7a)

def Edge.holds (text : List Nat) (i : Nat) (place : Edge) : Bool :=
  let before := i ≠ 0 && text[i - 1]?.any isWordCode
  let after := text[i]?.any isWordCode
  match place with
  | .start => i = 0
  | .stop => i = text.length
  | .wordBoundary => before ≠ after
  | .noWordBoundary => before = after
  | .wordStart => !before && after
  | .wordStop => before && !after

namespace Pattern

/-- Adds the ends of repetitions of a step from a place on to the places that were left and the ends
found before. A place is left once, and a step that stays where it is ends the repetition. -/
def repeated (step : Nat → List Nat) (greedy : Bool) :
    Nat → Nat → List Nat × List Nat → List Nat × List Nat
  | 0, _, found => found
  | fuel + 1, i, (left, ends) =>
    if left.contains i then (left, ends)
    else
      let onward (found : List Nat × List Nat) (j : Nat) : List Nat × List Nat :=
        if j ≤ i then (found.1, found.2 ++ [i]) else repeated step greedy fuel j found
      let found := (step i).foldl onward (i :: left, if greedy then ends else ends ++ [i])
      if greedy then (found.1, found.2 ++ [i]) else found

/-- The ends of the parts of a text that begin at a place and match, the preferred end first. -/
def ends (text : List Nat) (p : Pattern) (i : Nat) : List Nat :=
  match p with
  | .empty => [i]
  | .one codes => if text[i]?.any codes.contains then [i + 1] else []
  | .edge place => if place.holds text i then [i] else []
  | .both first second => ((first.ends text i).flatMap fun j => second.ends text j).eraseDups
  | .either preferred other => (preferred.ends text i ++ other.ends text i).eraseDups
  | .optional greedy body =>
    (if greedy then body.ends text i ++ [i] else i :: body.ends text i).eraseDups
  | .many greedy body =>
    (repeated (fun j => body.ends text j) greedy (text.length + 1) i ([], [])).2.eraseDups

def find? (p : Pattern) (text : List Nat) : Option Nat :=
  (List.range (text.length + 1)).findSome? fun i => (p.ends text i).head?

def reachesEnd (p : Pattern) (text : String) : Bool :=
  let codes := text.toList.map Char.toNat
  p.find? codes = some codes.length

end Pattern
end Onboarding.Text
