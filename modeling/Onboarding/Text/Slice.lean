import Onboarding.Text.Quoted

/-! Parts of a text between two positions, which are counted in bytes. A position within a character is
a fault. -/
namespace Onboarding.Text

inductive Bound
  | lower
  | upper
deriving DecidableEq, Repr

/-- A position that lies within a character, and where that character begins. -/
structure Cut where
  bound : Bound
  position : Nat
  char : Char
  first : Nat
deriving DecidableEq, Repr

def Cut.message (cut : Cut) : String :=
  let name := match cut.bound with
    | .lower => "start"
    | .upper => "end"
  name ++ " byte index " ++ toString cut.position ++ " is not a char boundary; it is inside " ++
    quoteSingle cut.char ++ " (bytes " ++ toString cut.first ++ ".." ++
    toString (cut.first + cut.char.utf8Size) ++ " of string)"

/-- The characters before a position and those from it on. -/
def splitAt (bound : Bound) (position : Nat) (cs : List Char) :
    Except Cut (List Char × List Char) :=
  go 0 cs
where
  go (here : Nat) : List Char → Except Cut (List Char × List Char)
    | [] => .ok ([], [])
    | c :: rest =>
      if position ≤ here then .ok ([], c :: rest)
      else if position < here + c.utf8Size then .error ⟨bound, position, c, here⟩
      else (go (here + c.utf8Size) rest).map fun parts => (c :: parts.1, parts.2)

def slice (cs : List Char) (lower upper : Nat) : Except Cut String :=
  match splitAt .lower lower cs with
  | .error cut => .error cut
  | .ok (before, _) =>
    (splitAt .upper upper cs).map fun parts => String.ofList (parts.1.drop before.length)

def sliceFrom (cs : List Char) (lower : Nat) : Except Cut String :=
  (splitAt .lower lower cs).map fun parts => String.ofList parts.2

end Onboarding.Text
