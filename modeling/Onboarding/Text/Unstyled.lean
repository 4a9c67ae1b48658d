import Onboarding.Text.Blank

/-! Texts as they are shown where there are no styles: without the control sequences of terminals and
without control characters that are not blanks. -/
namespace Onboarding.Text

inductive ControlStage
  | ground
  /-- Behind the escape character. -/
  | escape
  /-- Behind an escape character and intermediate characters. -/
  | intermediate
  /-- Within the parameters of a control sequence. -/
  | control
  /-- At the start of a device string. -/
  | header
  | headerParameter
  | headerIntermediate
  /-- Within a string that is meant for a device or a program. -/
  | payload
  /-- Within a command of the operating system. -/
  | command
deriving DecidableEq, Repr

namespace ControlStage

/-- Whether a byte of the character's encoding is the one that ends a string for a device. -/
def endsPayload (c : Char) : Bool := (String.utf8EncodeChar c).contains 0x9c

/-- The stage after a character. Cancel and substitute end every sequence, and the escape character
begins a new one. -/
def next (s : ControlStage) (c : Char) : ControlStage :=
  let n := c.toNat
  let isIntermediate := 0x20 ≤ n && n ≤ 0x2f
  let isFinal := 0x40 ≤ n && n ≤ 0x7e
  if n = 0x1b then .escape
  else if n = 0x18 || n = 0x1a then .ground
  else
    match s with
    | .ground => .ground
    | .escape =>
      if isIntermediate then .intermediate
      else if c = '[' then .control
      else if c = ']' then .command
      else if c = 'P' then .header
      else if c = 'X' || c = '^' || c = '_' then .payload
      else if 0x30 ≤ n && n ≤ 0x7e then .ground
      else .escape
    | .intermediate => if 0x30 ≤ n && n ≤ 0x7e then .ground else .intermediate
    | .control => if isFinal then .ground else .control
    | .header =>
      if isIntermediate then .headerIntermediate
      else if 0x30 ≤ n && n ≤ 0x3f then .headerParameter
      else if isFinal then .payload
      else .header
    | .headerParameter =>
      if isIntermediate then .headerIntermediate
      else if 0x3c ≤ n && n ≤ 0x7e then .payload
      else .headerParameter
    | .headerIntermediate => if 0x30 ≤ n && n ≤ 0x7e then .payload else .headerIntermediate
    | .payload => if endsPayload c then .ground else .payload
    | .command => if n = 0x07 then .ground else .command

def isLayout (c : Char) : Bool := c = '\t' || c = '\n' || c = '\x0c' || c = '\r'

def shows (s : ControlStage) (c : Char) : Bool :=
  match s with
  | .ground => isLayout c || (0x20 ≤ c.toNat && c.toNat ≠ 0x7f)
  | .escape | .intermediate | .control => isLayout c
  | _ => false

/-- The characters that are shown. What follows a character that was shown is shown as outside of
sequences, up to the next control character. -/
def visible (s : ControlStage) (shown : Bool) : List Char → List Char
  | [] => []
  | c :: rest =>
    if s.shows c then c :: visible (s.next c) true rest
    else if shown && ground.shows c then
      c :: visible (if c.toNat < 0x80 then s else .ground) true rest
    else visible (s.next c) false rest

end ControlStage

/-- A text without the control sequences of terminals. -/
def unstyled (cs : List Char) : List Char := ControlStage.visible .ground false cs

def styled (text : String) : String := "\x1b[1m" ++ text ++ "\x1b[0m"

/-- The first line of a text, without the carriage return before its newline. -/
def firstLine (cs : List Char) : List Char :=
  let line := cs.takeWhile (· ≠ '\n')
  if line.length < cs.length ∧ line.getLast? = some '\r' then line.dropLast else line

end Onboarding.Text
