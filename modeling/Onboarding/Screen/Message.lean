import Onboarding.Json.Read
import Onboarding.Screen.Action

/-! Messages posted by the host when a button is pressed: a JSON object with a member `action`, among
members that are passed over, or a list of one action. -/
namespace Onboarding

structure Message where
  action : Action
deriving DecidableEq, Repr

namespace Message

instance : Described Message :=
  ⟨fun m => Text.record "SetupMessage" [("action", describe m.action)]⟩

def field : String := "action"

def encode (m : Message) : String :=
  "\x7b" ++ Json.literal field ++ ":" ++ Json.encodeChoice m.action ++ "\x7d"

end Message

namespace Json

def closed (cs : List Char) : List Char :=
  match skipSpaces cs with
  | '}' :: rest => rest
  | rest => rest

/-- Whether another member follows: the text after the quote that opens its key, or none at the end of
the object. -/
def nextKey? (first : Bool) (cs : List Char) : Except Fault (Option (List Char)) :=
  match skipSpaces cs with
  | [] => .error (.next .endInObject [])
  | '}' :: _ => .ok none
  | c :: rest =>
    if first then
      if c = '"' then .ok (some rest) else .error (.next .keyNotString (c :: rest))
    else if c = ',' then
      match skipSpaces rest with
      | [] => .error (.next .endInValue [])
      | '"' :: rest => .ok (some rest)
      | '}' :: rest => .error (.next .trailingComma ('}' :: rest))
      | rest => .error (.next .keyNotString rest)
    else .error (.next .expectedObjectEnd (c :: rest))

theorem length_of_nextKey? {first : Bool} {cs rest : List Char}
    (h : nextKey? first cs = .ok (some rest)) : rest.length < cs.length := by
  unfold nextKey? at h
  split at h
  · simp at h
  · simp at h
  · next e =>
    have := length_of_skipSpaces e
    split at h
    · split at h
      · simp only [Except.ok.injEq, Option.some.injEq] at h
        subst h
        omega
      · simp at h
    · split at h
      · split at h
        · simp at h
        · next e' =>
          have := length_of_skipSpaces e'
          simp only [Except.ok.injEq, Option.some.injEq] at h
          subst h
          omega
        · simp at h
        · simp at h
      · simp at h

/-- Reads the members of a message object, after its opening brace or after a member. -/
def readMembers (first : Bool) (found : Option Action) (cs : List Char) :
    Except Fault (Action × List Char) :=
  match _hk : nextKey? first cs with
  | .error fault => .error fault
  | .ok none =>
    match found with
    | some action => .ok (action, closed cs)
    | none => .error (.here (.missingField Message.field) (closed cs))
  | .ok (some rest) =>
    match _ht : readText rest with
    | .error fault => .error fault
    | .ok (key, rest) =>
      if String.ofList key = Message.field then
        if found.isSome then .error (.here (.duplicateField Message.field) (closed rest))
        else
          match _hc : readColon rest with
          | .error fault => .error fault
          | .ok rest =>
            match _hv : readChoice rest with
            | .error fault => .error fault
            | .ok (action, rest) => readMembers false (some action) rest
      else
        match _hc : readColon rest with
        | .error fault => .error fault
        | .ok rest =>
          match _hv : passValue rest with
          | .error fault => .error fault
          | .ok rest => readMembers false found rest
termination_by cs.length
decreasing_by
  all_goals
    have := length_of_nextKey? _hk
    have := length_of_readText _ht
    have := length_of_readColon _hc
  · have := length_of_readChoice _hv
    omega
  · have := length_of_passValue _hv
    omega

def readItem (cs : List Char) : Except Fault (Action × List Char) :=
  match skipSpaces cs with
  | [] => .error (.next .endInList [])
  | ']' :: rest => .error (.here (.invalidLength 0 "struct SetupMessage with 1 element") rest)
  | cs =>
    match readChoice cs with
    | .error fault => .error fault
    | .ok (action, rest) =>
      match skipSpaces rest with
      | [] => .error (.next .endInList [])
      | ']' :: rest => .ok (action, rest)
      | ',' :: rest =>
        match skipSpaces rest with
        | ']' :: rest => .error (.next .trailingComma (']' :: rest))
        | rest => .error (.next .trailingCharacters rest)
      | rest => .error (.next .trailingCharacters rest)

def readMessage : Reader Message := fun cs =>
  match skipSpaces cs with
  | '{' :: rest => (readMembers true none rest).map fun r => (⟨r.1⟩, r.2)
  | '[' :: rest => (readItem rest).map fun r => (⟨r.1⟩, r.2)
  | rest => .error (mistyped "struct SetupMessage" rest)

end Json
end Onboarding
