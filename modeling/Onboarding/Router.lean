import Onboarding.Config
import Onboarding.Event

/-! The router kept in memory: the locations visited, from the base on. Absolute targets replace the
location, relative ones lead below it. -/
namespace Onboarding

/-- The locations visited, the oldest first. -/
structure History where
  entries : List String
deriving DecidableEq, Repr

namespace History

def root : String := "/"

def start (base : String) : Except Path.Fault History :=
  if base = root then .ok ⟨[base]⟩
  else
    match Path.split base with
    | .error fault => .error fault
    | .ok _ => .ok ⟨[base]⟩

def ofConfig (config : Config) : Except Path.Fault History := start config.routerBase

/-- The latest entry. A history without entries would stand at the root. -/
def location (h : History) : String := h.entries.getLast?.getD root

def depth (h : History) : Nat := h.entries.length

/-- Goes back to the location before; at the base there is none. -/
def back (h : History) : Option String × History :=
  if h.depth ≤ 1 then (none, h)
  else
    let h : History := ⟨h.entries.dropLast⟩
    (some h.location, h)

inductive Fault
  | emptyTarget
  | path (fault : Path.Fault)
deriving DecidableEq, Repr

def Fault.reason : Fault → String
  | .emptyTarget => "navigation target is empty"
  | .path fault => fault.failure.message

/-- The segments of a location. -/
def levels (location : String) : List String :=
  if location = root then [] else ((Path.pieces location.toList).drop 1).map String.ofList

/-- Where a target leads from a location. -/
def resolve (location goal : String) : Except Fault String :=
  if goal = "" then .error .emptyTarget
  else if goal = root then .ok goal
  else if Path.IsAbsolute goal then
    match Path.split goal with
    | .error fault => .error (.path fault)
    | .ok _ => .ok goal
  else
    match Path.compose (levels location ++ (Path.pieces goal.toList).map String.ofList) with
    | .error fault => .error (.path fault)
    | .ok path => .ok path

/-- Goes where a target leads, or refuses and stays. -/
def navigate (h : History) (goal : String) : Reply Event History (Except Refusal Unit) :=
  match resolve h.location goal with
  | .error fault => ⟨.error ⟨goal, fault.reason⟩, h, []⟩
  | .ok next => ⟨.ok (), ⟨h.entries ++ [next]⟩, [.transition h.location next]⟩

end History
end Onboarding
