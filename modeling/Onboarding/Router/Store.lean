import Onboarding.Router

/-! Routers shared between handles. A new router has a history of its own; a clone of a handle has the
history of that handle. -/
namespace Onboarding

/-- The histories, and for each handle the place of its history. -/
structure Store where
  histories : List History
  origins : List Nat
deriving DecidableEq, Repr

namespace Store

def empty : Store := ⟨[], []⟩

def size (s : Store) : Nat := s.origins.length

/-- The history that a handle shows. -/
def history? (s : Store) (handle : Nat) : Option History :=
  s.origins[handle]?.bind fun origin => s.histories[origin]?

/-- A handle to a history that no other handle has. -/
def add (s : Store) (h : History) : Store :=
  ⟨s.histories ++ [h], s.origins ++ [s.histories.length]⟩

def create (s : Store) (base : String) : Except Path.Fault Store :=
  (History.start base).map s.add

def clone (s : Store) (handle : Nat) : Store :=
  { s with origins := s.origins ++ s.origins[handle]?.toList }

/-- Puts a history in the place of the one that a handle shows. -/
def put (s : Store) (handle : Nat) (h : History) : Store :=
  match s.origins[handle]? with
  | some origin => { s with histories := s.histories.set origin h }
  | none => s

inductive Command
  | create (base : String)
  | clone (handle : Nat)
  | navigate (handle : Nat) (goal : String)
  | back (handle : Nat)
deriving DecidableEq, Repr

inductive Answer
  | created (result : Except Path.Fault Nat)
  | cloned (handle : Nat)
  | navigated (result : Except Refusal Unit)
  | wentBack (location : Option String)
  /-- The number is no handle. -/
  | unknown

def perform (s : Store) : Command → Reply Event Store Answer
  | .create base =>
    match s.create base with
    | .error fault => ⟨.created (.error fault), s, []⟩
    | .ok t => ⟨.created (.ok s.size), t, []⟩
  | .clone handle =>
    match s.history? handle with
    | none => ⟨.unknown, s, []⟩
    | some _ => ⟨.cloned s.size, s.clone handle, []⟩
  | .navigate handle goal =>
    match s.history? handle with
    | none => ⟨.unknown, s, []⟩
    | some h =>
      let reply := h.navigate goal
      ⟨.navigated reply.result, s.put handle reply.state, reply.reports⟩
  | .back handle =>
    match s.history? handle with
    | none => ⟨.unknown, s, []⟩
    | some h => ⟨.wentBack h.back.1, s.put handle h.back.2, []⟩

def run (s : Store) (commands : List Command) : Reply Event Store (List Answer) :=
  Reply.run perform s commands

def entries (s : Store) : List (List String) :=
  (List.range s.size).map fun handle => ((s.history? handle).map History.entries).getD []

end Store
end Onboarding
