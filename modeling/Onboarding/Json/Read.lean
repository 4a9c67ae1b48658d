import Onboarding.Json.Skip
import Onboarding.Route

/-! Reading whole JSON texts, names of a vocabulary and segments, and writing the latter two. -/
namespace Onboarding.Json

/-- The fault of a value that does not have the wanted type. Scalars are read first, and their own
faults win. -/
def mistyped (wanted : String) (cs : List Char) : Fault :=
  let found (read : Except Fault (Found × List Char)) : Fault :=
    match read with
    | .error fault => fault
    | .ok (value, rest) => .here (.wrongType value wanted) rest
  match cs with
  | [] => .next .endInValue []
  | 'n' :: rest => found ((readWord ['u', 'l', 'l'] rest).map (Found.null, ·))
  | 't' :: rest => found ((readWord ['r', 'u', 'e'] rest).map (Found.boolean true, ·))
  | 'f' :: rest => found ((readWord ['a', 'l', 's', 'e'] rest).map (Found.boolean false, ·))
  | '"' :: rest => found ((readText rest).map fun r => (.text (String.ofList r.1), r.2))
  | '[' :: _ => .here (.wrongType .sequence wanted) cs
  | '{' :: _ => .here (.wrongType .map wanted) cs
  | '-' :: rest => found (readNumber true rest)
  | c :: _ => if isDigit c then found (readNumber false cs) else .next .expectedValue cs

def readWhole {α : Type} (read : Reader α) (text : List Char) : Except Fault α :=
  match read text with
  | .error fault => .error fault
  | .ok (value, rest) =>
    match skipSpaces rest with
    | [] => .ok value
    | rest => .error (.next .trailingCharacters rest)

/-- Reads the content of a literal, after its opening quote, that names a member of a vocabulary. -/
def readNamed {α : Type} [Vocabulary α] : Reader α := fun cs =>
  match readText cs with
  | .error fault => .error fault
  | .ok (w, rest) =>
    match Vocabulary.named? (String.ofList w) with
    | some a => .ok (a, rest)
    | none => .error (.here (.unknownWord (String.ofList w) (Vocabulary.names α)) rest)

def readNull (cs : List Char) : Except Fault (List Char) :=
  match skipSpaces cs with
  | 'n' :: rest => readWord ['u', 'l', 'l'] rest
  | rest => .error (mistyped "unit" rest)

def readEmptyMember (cs : List Char) : Except Fault (List Char) :=
  match readColon cs with
  | .error fault => .error fault
  | .ok rest =>
    match readNull rest with
    | .error fault => .error fault
    | .ok rest =>
      match skipSpaces rest with
      | [] => .error (.here .endInObject [])
      | '}' :: rest => .ok rest
      | rest => .error (.here .expectedValue rest)

/-- Reads a member of a vocabulary: its name, or an object whose only key is its name and whose value
there is null. -/
def readChoice {α : Type} [Vocabulary α] : Reader α := fun cs =>
  match skipSpaces cs with
  | [] => .error (.next .endInValue [])
  | '"' :: rest => readNamed rest
  | '{' :: rest =>
    match skipSpaces rest with
    | [] => .error (.next .endInObject [])
    | '}' :: rest => .error (.next .expectedValue ('}' :: rest))
    | '"' :: rest =>
      match readNamed rest with
      | .error fault => .error fault
      | .ok (a, rest) => (readEmptyMember rest).map (a, ·)
    | rest => .error (.next .keyNotString rest)
  | rest => .error (.next .expectedValue rest)

def encodeChoice {α : Type} [Vocabulary α] (a : α) : String := literal (Vocabulary.name a)

theorem length_of_readNamed {α : Type} [Vocabulary α] {cs rest : List Char} {a : α}
    (h : readNamed cs = .ok (a, rest)) : rest.length < cs.length := by
  unfold readNamed at h
  split at h
  · simp at h
  · next hx =>
    have := length_of_readText hx
    split at h
    · simp_all
    · simp at h

theorem length_of_readNull {cs rest : List Char} (h : readNull cs = .ok rest) :
    rest.length < cs.length := by
  unfold readNull at h
  split at h
  · next e =>
    have := length_of_skipSpaces e
    have := length_of_readWord h
    omega
  · simp at h

theorem length_of_readEmptyMember {cs rest : List Char} (h : readEmptyMember cs = .ok rest) :
    rest.length < cs.length := by
  unfold readEmptyMember at h
  split at h
  · simp at h
  · next hc =>
    have := length_of_readColon hc
    split at h
    · simp at h
    · next hn =>
      have := length_of_readNull hn
      split at h
      · simp at h
      · next e =>
        have := length_of_skipSpaces e
        simp only [Except.ok.injEq] at h
        subst h
        omega
      · simp at h

theorem length_of_readChoice {α : Type} [Vocabulary α] {cs rest : List Char} {a : α}
    (h : readChoice cs = .ok (a, rest)) : rest.length < cs.length := by
  unfold readChoice at h
  split at h
  · simp at h
  · next e =>
    have := length_of_skipSpaces e
    have := length_of_readNamed h
    omega
  · next e =>
    have := length_of_skipSpaces e
    split at h
    · simp at h
    · simp at h
    · next e' =>
      have := length_of_skipSpaces e'
      split at h
      · simp at h
      · next hn =>
        have := length_of_readNamed hn
        revert h
        cases hm : readEmptyMember _ with
        | error => simp [Except.map]
        | ok tail =>
          have := length_of_readEmptyMember hm
          simp only [Except.map, Except.ok.injEq, Prod.mk.injEq]
          rintro ⟨_, rfl⟩
          omega
    · simp at h
  · simp at h

/-- Reads a segment. One that cannot stand in a path is refused without a place. -/
def readSegment : Reader Segment := fun cs =>
  match skipSpaces cs with
  | '"' :: rest =>
    match readText rest with
    | .error fault => .error fault
    | .ok (text, rest) =>
      match Segment.ofString (String.ofList text) with
      | .ok segment => .ok (segment, rest)
      | .error fault => .error (.unplaced (.refused fault.failure.message))
  | rest => .error (mistyped "a string" rest)

def encodeSegment (segment : Segment) : String := literal segment.text

def Fault.failure (text : List Char) (fault : Fault) : Failure :=
  .decoding ("JSON error: " ++ fault.message text)

def decode {α : Type} (read : Reader α) (text : String) : Except Failure α :=
  (readWhole read text.toList).mapError (Fault.failure text.toList)

end Onboarding.Json
