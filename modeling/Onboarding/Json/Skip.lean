import Onboarding.Json.Number
import Onboarding.Json.Text

/-! Values that are passed over unread. The open lists and objects are a stack of frames, so a value
may be nested to any depth. -/
namespace Onboarding.Json

inductive Frame
  | list
  | object
deriving DecidableEq, Repr

def Frame.close : Frame → Char
  | .list => ']'
  | .object => '}'

def Frame.unclosed : Frame → Cause
  | .list => .endInList
  | .object => .endInObject

def Frame.unseparated : Frame → Cause
  | .list => .expectedListEnd
  | .object => .expectedObjectEnd

/-- What is wanted next inside the open frames: a value, a key of an object, the first item or the end
of a frame just opened, or what follows a complete value. -/
inductive Wanted
  | value
  | key
  | first
  | next
deriving DecidableEq, Repr

private def Wanted.rank : Wanted → Nat
  | .first => 1
  | _ => 0

/-- What is wanted after a comma or at the front of a frame. -/
def Frame.item : Frame → Wanted
  | .list => .value
  | .object => .key

private theorem Frame.rank_item (frame : Frame) : frame.item.rank = 0 := by
  cases frame <;> rfl

def passScalar (c : Char) (rest : List Char) : Except Fault (List Char) :=
  match c with
  | 'n' => readWord ['u', 'l', 'l'] rest
  | 't' => readWord ['r', 'u', 'e'] rest
  | 'f' => readWord ['a', 'l', 's', 'e'] rest
  | '"' => passText rest
  | '-' => passNumber rest
  | c => if isDigit c then passNumber (c :: rest) else .error (.next .expectedValue (c :: rest))

def readColon (cs : List Char) : Except Fault (List Char) :=
  match skipSpaces cs with
  | [] => .error (.next .endInObject [])
  | ':' :: rest => .ok rest
  | rest => .error (.next .expectedColon rest)

def passKey (cs : List Char) : Except Fault (List Char) :=
  match skipSpaces cs with
  | [] => .error (.next .endInObject [])
  | '"' :: rest =>
    match passText rest with
    | .error fault => .error fault
    | .ok rest => readColon rest
  | rest => .error (.next .keyNotString rest)

theorem length_of_passScalar {c : Char} {cs rest : List Char} (h : passScalar c cs = .ok rest) :
    rest.length ≤ cs.length := by
  unfold passScalar at h
  split at h
  · exact length_of_readWord h
  · exact length_of_readWord h
  · exact length_of_readWord h
  · exact Nat.le_of_lt (length_of_passText h)
  · exact Nat.le_of_lt (length_of_passNumber h)
  · split at h
    · have := length_of_passNumber h
      simp only [List.length_cons] at this
      omega
    · simp at h

theorem length_of_readColon {cs rest : List Char} (h : readColon cs = .ok rest) :
    rest.length < cs.length := by
  have bound := length_skipSpaces_le cs
  unfold readColon at h
  split at h
  · simp at h
  · next e =>
    rw [e] at bound
    simp only [Except.ok.injEq] at h
    simp only [List.length_cons, ← h] at *
    omega
  · simp at h

theorem length_of_passKey {cs rest : List Char} (h : passKey cs = .ok rest) :
    rest.length < cs.length := by
  have bound := length_skipSpaces_le cs
  unfold passKey at h
  split at h
  · simp at h
  · next tail e =>
    rw [e] at bound
    split at h
    · simp at h
    · next tail' hx =>
      have := length_of_passText hx
      have := length_of_readColon h
      simp only [List.length_cons] at bound
      omega
  · simp at h

/-- Passes over what the open frames still want. -/
def pass (wanted : Wanted) (frames : List Frame) (cs : List Char) : Except Fault (List Char) :=
  match wanted with
  | .value =>
    match _e : skipSpaces cs with
    | [] => .error (.next .endInValue [])
    | '[' :: rest => pass .first (.list :: frames) rest
    | '{' :: rest => pass .first (.object :: frames) rest
    | c :: rest =>
      match _h : passScalar c rest with
      | .error fault => .error fault
      | .ok rest => pass .next frames rest
  | .key =>
    match _h : passKey cs with
    | .error fault => .error fault
    | .ok rest => pass .value frames rest
  | .first =>
    match frames with
    | [] => .ok cs
    | frame :: outer =>
      match _e : skipSpaces cs with
      | [] => .error (.next frame.unclosed [])
      | c :: rest =>
        if c = frame.close then pass .next outer rest else pass frame.item frames (c :: rest)
  | .next =>
    match frames with
    | [] => .ok cs
    | frame :: outer =>
      match _e : skipSpaces cs with
      | [] => .error (.next frame.unclosed [])
      | c :: rest =>
        if c = frame.close then pass .next outer rest
        else if c = ',' then pass frame.item frames rest
        else .error (.next frame.unseparated (c :: rest))
termination_by 2 * cs.length + wanted.rank
decreasing_by
  all_goals have bound := length_skipSpaces_le cs
  all_goals try rw [_e, List.length_cons] at bound
  all_goals try have := Frame.rank_item frame
  · simp only [Wanted.rank]
    omega
  · simp only [Wanted.rank]
    omega
  · have := length_of_passScalar _h
    simp only [Wanted.rank]
    omega
  · have := length_of_passKey _h
    simp only [Wanted.rank]
    omega
  all_goals simp only [Wanted.rank, List.length_cons] at *
  all_goals omega

def passValue (cs : List Char) : Except Fault (List Char) := pass .value [] cs

theorem length_of_pass {wanted : Wanted} {frames : List Frame} {cs rest : List Char}
    (h : pass wanted frames cs = .ok rest) : rest.length ≤ cs.length := by
  fun_induction pass wanted frames cs with
  | case1 | case4 | case6 | case9 | case13 | case16 => simp at h
  | case8 | case12 => simp_all
  | case2 _ _ _ e ih | case3 _ _ _ e ih | case10 _ _ _ _ e ih | case14 _ _ _ _ e ih
  | case15 _ _ _ _ e _ ih =>
    have := length_of_skipSpaces e
    have := ih h
    omega
  | case5 _ _ _ _ _ _ e _ hx ih =>
    have := length_of_skipSpaces e
    have := length_of_passScalar hx
    have := ih h
    omega
  | case7 _ _ _ hx ih =>
    have := length_of_passKey hx
    have := ih h
    omega
  | case11 _ _ _ _ _ e _ ih =>
    have := length_of_skipSpaces e
    have := ih h
    simp only [List.length_cons] at this
    omega

theorem length_of_passValue {cs rest : List Char} (h : passValue cs = .ok rest) :
    rest.length ≤ cs.length := length_of_pass h

end Onboarding.Json
