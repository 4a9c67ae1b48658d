import Onboarding.Text.Quoted

/-! Closed vocabularies: finite types whose members have a word, used in paths and on the command line,
and a label, used in diagnostic texts. The name of a member in messages is derived from its label. -/
namespace Onboarding

class Vocabulary (α : Type) where
  /-- All members, in the order of the flow. -/
  all : List α
  word : α → String
  label : α → String

namespace Vocabulary

variable {α : Type} [Vocabulary α]

def find? (w : String) : Option α := (all : List α).find? fun a => word a = w

theorem word_of_find? {w : String} {a : α} (h : find? w = some a) : word a = w := by
  simpa using List.find?_some h

/-- The name of a member in messages: its label with a small first letter. -/
def name (a : α) : String :=
  match (label a).toList with
  | [] => ""
  | c :: rest => String.ofList (c.toLower :: rest)

def names (α : Type) [Vocabulary α] : List String := (all : List α).map name

def named? (w : String) : Option α := (all : List α).find? fun a => name a = w

end Vocabulary
end Onboarding
