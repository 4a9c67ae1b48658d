import Onboarding.Route

/-! Sequences of routes from the outermost level to one screen, and the targets built from them. -/
namespace Onboarding

/-- Routes from the outermost level inwards; there is at least one. -/
structure Sequence where
  outermost : Route
  inner : List Route
deriving DecidableEq

namespace Sequence

def routes (s : Sequence) : List Route := s.outermost :: s.inner

def start (route : Route) : Sequence := ⟨route, []⟩

def push (s : Sequence) (route : Route) : Sequence := { s with inner := s.inner ++ [route] }

def ofRoutes : List Route → Except Path.Fault Sequence
  | [] => .error .noSegments
  | route :: others => .ok ⟨route, others⟩

def length (s : Sequence) : Nat := s.routes.length

def compose (s : Sequence) : Except Path.Fault String := Path.compose (s.routes.map Route.word)

end Sequence

instance : Described Sequence :=
  ⟨fun s => Text.record "RouteSequence" [("routes", describe s.routes)]⟩

/-- Where an action leads: through typed routes, through segments not checked yet, or to a top level
section that the navigator is given by its bare word. -/
inductive Target
  | path (sequence : Sequence)
  | segments (words : List String)
  | terminal (word : Section)
deriving DecidableEq

/-- The text handed to the navigator. -/
def Target.resolve : Target → Except Path.Fault String
  | .path sequence => sequence.compose
  | .segments words => Path.compose words
  | .terminal word => .ok (Vocabulary.word word)

instance : Described Target where
  describe
    | .path sequence => Text.variant "Path" (describe sequence)
    | .segments words => Text.variant "Segments" (describe words)
    | .terminal word => Text.variant "Terminal" (describe word)

end Onboarding
