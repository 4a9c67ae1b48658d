import Onboarding.Event
import Onboarding.Text.Pattern.Reader
import Onboarding.Text.Slice

/-! Directives of a log filter: the levels that are let through for some of the program's origins, for
what happens within a span, and for what has a field. Positions in a directive are counted from its first
character that is not blank, and applied to the whole of it. -/
namespace Onboarding

inductive Wanted
  /-- A flag or a number, which no text is. -/
  | literal
  /-- A text in which the pattern matches up to the end; it is kept as it was written. -/
  | pattern (source : String)
deriving DecidableEq, Repr

structure Condition where
  name : String
  wanted : Option Wanted
deriving DecidableEq, Repr

/-- The greatest rank let through, for the origins that begin with a text or for all, within the spans
of a name or not, and where there is a field or not. -/
structure Directive where
  scope : Option String
  span : Option String
  field : Option Condition
  limit : Nat
deriving DecidableEq, Repr

namespace Directive

inductive Fault
  | malformed
  | cut (cut : Text.Cut)
deriving DecidableEq, Repr

def numeral? (text : String) : Option Nat :=
  let digits :=
    match text.toList with
    | '+' :: rest => rest
    | cs => cs
  if digits = [] ∨ digits.any fun c => !c.isDigit then none
  else some (digits.foldl (fun n c => n * 10 + (c.toNat - 0x30)) 0)

def lower (cs : List Char) : String := String.ofList (cs.map Char.toLower)

/-- The limit that a text names: a level, off, or a number up to five. -/
def limit? (text : String) : Option Nat :=
  match numeral? text with
  | some n => if n ≤ Level.trace.rank then some n else none
  | none =>
    let named : List (String × Nat) :=
      [("off", 0), ("error", 1), ("warn", 2), ("info", 3), ("debug", 4), ("trace", 5)]
    (named.find? fun entry => entry.1 = lower text.toList).map Prod.snd

/-- Whether a text is a number: digits with a sign, a point and an exponent, infinity, or no number. -/
def isNumber (text : String) : Bool :=
  let unsigned (cs : List Char) : List Char :=
    match cs with
    | '+' :: rest | '-' :: rest => rest
    | _ => cs
  let cs := unsigned text.toList
  let whole := cs.takeWhile Char.isDigit
  let rest := cs.dropWhile Char.isDigit
  let (decimals, rest) :=
    match rest with
    | '.' :: rest => (rest.takeWhile Char.isDigit, rest.dropWhile Char.isDigit)
    | _ => ([], rest)
  let isExponent : Bool :=
    match rest with
    | [] => true
    | c :: rest =>
      let digits := unsigned rest
      (c = 'e' || c = 'E') && digits ≠ [] && digits.all Char.isDigit
  ["inf", "infinity", "nan"].contains (lower cs) || (whole ++ decimals ≠ [] && isExponent)

def wanted? (text : String) : Option Wanted :=
  if text = "true" || text = "false" || isNumber text then some .literal
  else (Text.Pattern.ofString? text).map fun _ => .pattern text

/-- The condition that a text is: a name, or a name, an equals sign and a value up to the next one. -/
def condition? (text : String) : Option Condition :=
  let cs := text.toList
  let name := String.ofList (cs.takeWhile (· ≠ '='))
  match cs.dropWhile (· ≠ '=') with
  | [] => if cs = [] then none else some ⟨name, none⟩
  | _ :: value => (wanted? (String.ofList (value.takeWhile (· ≠ '=')))).map fun w => ⟨name, some w⟩

def isOpening (c : Char) : Bool :=
  c = '-' || c = ':' || c = '_' || Text.isAlphanumeric c

inductive Stage
  | start
  | word (first : Nat)
  | span (first : Nat)
  | field (first : Nat)
  | fieldEnd
  | spanEnd
  | level (first : Nat)
deriving DecidableEq, Repr

structure Draft where
  stage : Stage
  scope : Option String
  span : Option String
  field : Option Condition
deriving DecidableEq, Repr

def part (text : List Char) (first last : Nat) : Except Fault String :=
  (Text.slice text first last).mapError .cut

def Draft.step (text : List Char) (d : Draft) (position : Nat) (c : Char) : Except Fault Draft :=
  let next := position + 1
  match d.stage with
  | .start =>
    if c = '[' then .ok { d with stage := .span next }
    else if isOpening c then .ok { d with stage := .word position }
    else .error .malformed
  | .word first =>
    if c = '=' then (part text first position).map fun s => { d with scope := some s, stage := .level next }
    else if c = '[' then
      (part text first position).map fun s => { d with scope := some s, stage := .span next }
    else .ok d
  | .span first =>
    if c = ']' then (part text first position).map fun s => { d with span := some s, stage := .spanEnd }
    else if c = '\x7b' then
      (part text first position).map fun s =>
        { d with span := if s = "" then none else some s, stage := .field next }
    else .ok d
  | .field first =>
    if c = '\x7d' then
      match part text first position with
      | .error fault => .error fault
      | .ok s =>
        match condition? s with
        | some condition => .ok { d with field := some condition, stage := .fieldEnd }
        | none => .error .malformed
    else .ok d
  | .fieldEnd => if c = ']' then .ok { d with stage := .spanEnd } else .error .malformed
  | .spanEnd => if c = '=' then .ok { d with stage := .level next } else .error .malformed
  | .level _ => .ok d

def Draft.read (text : List Char) (d : Draft) (position : Nat) : List Char → Except Fault Draft
  | [] => .ok d
  | c :: rest =>
    match d.step text position c with
    | .error fault => .error fault
    | .ok d => d.read text (position + c.utf8Size) rest

/-- The directive that has been read. Without a level everything is let through; a word alone is a
level, or else a scope. -/
def Draft.finish (text : List Char) (d : Draft) : Except Fault Directive :=
  let limited (limit : Nat) : Directive := ⟨d.scope, d.span, d.field, limit⟩
  match d.stage with
  | .word _ =>
    match limit? (String.ofList text) with
    | some limit => .ok (limited limit)
    | none => .ok { limited Level.trace.rank with scope := some (String.ofList text) }
  | .spanEnd => .ok (limited Level.trace.rank)
  | .level first =>
    match Text.sliceFrom text first with
    | .error cut => .error (.cut cut)
    | .ok "" => .ok (limited Level.trace.rank)
    | .ok s =>
      match limit? s with
      | some limit => .ok (limited limit)
      | none => .error .malformed
  | _ => .error .malformed

def read (text : List Char) : Except Fault Directive :=
  match Draft.read text ⟨.start, none, none, none⟩ 0 (Text.trim text) with
  | .error fault => .error fault
  | .ok d => d.finish text

end Directive
end Onboarding
