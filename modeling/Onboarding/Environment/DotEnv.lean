import Onboarding.Environment
import Onboarding.Text.Alphanumeric

/-! Files of variables, one assignment a line. Quoted values may run over several lines. Reading stops
silently at the first bad line; what was set before stays. A value that no environment can hold is a
fault. -/
namespace Onboarding.DotEnv

open Onboarding.Text

def physicalLines : List Char → List (List Char)
  | [] => []
  | '\n' :: rest => ['\n'] :: physicalLines rest
  | c :: rest =>
    match physicalLines rest with
    | [] => [[c]]
    | line :: others => (c :: line) :: others

inductive Stage
  | complete
  | escape
  | blank
  | weak
  | weakEscape
  | strong
  | strongEscape
deriving DecidableEq, Repr

def Stage.open (c : Char) : Stage :=
  if c = '\\' then .escape
  else if c = '"' then .weak
  else if c = '\x27' then .strong
  else .complete

def Stage.next (s : Stage) (c : Char) : Stage :=
  match s with
  | .complete => if isBlank c && c ≠ '\n' && c ≠ '\r' then .blank else Stage.open c
  | .blank => Stage.open c
  | .escape => .complete
  | .weak => if c = '\\' then .weakEscape else if c = '"' then .complete else .weak
  | .weakEscape => .weak
  | .strong => if c = '\\' then .strongEscape else if c = '\x27' then .complete else .strong
  | .strongEscape => .strong

/-- The stage at the end of a line, or the text before a comment that begins after a blank. -/
def scanLine (s : Stage) : List Char → Stage ⊕ List Char
  | [] => .inl s
  | c :: rest =>
    if s = .blank ∧ c = '#' then .inr []
    else
      match scanLine (s.next c) rest with
      | .inl s => .inl s
      | .inr before => .inr (c :: before)

def dropNewline (cs : List Char) : List Char :=
  match cs.reverse with
  | '\n' :: '\r' :: rest => rest.reverse
  | '\n' :: rest => rest.reverse
  | _ => cs

/-- The logical lines: each goes on until its quotes are closed. None stands for a line that the end of
the text leaves open. -/
def gather (s : Stage) (pending : List Char) : List (List Char) → List (Option (List Char))
  | [] => if s = .complete then [] else [none]
  | line :: others =>
    if (trimStart (pending ++ line)).head? = some '#' then some [] :: gather .complete [] others
    else
      match scanLine s line with
      | .inr before => some (pending ++ before) :: gather .complete [] others
      | .inl .complete => some (dropNewline (pending ++ line)) :: gather .complete [] others
      | .inl s => gather s (pending ++ line) others

inductive Mode
  | plain
  | escaped
  | strong
  /-- Only blanks or a comment may follow. -/
  | ended
  /-- The name of a variable whose text is put in. -/
  | name (letters : List Char)
  /-- Such a name between braces. -/
  | braced (letters : List Char)
deriving DecidableEq, Repr

/-- A value with its quotes and escapes undone and its variables put in; none if it is malformed. -/
def readValue (lookup : String → String) (weak : Bool) (mode : Mode) (out : List Char) :
    List Char → Option (List Char)
  | [] =>
    if weak then none
    else
      match mode with
      | .strong | .braced _ => none
      | .name letters => some (out ++ (lookup (String.ofList letters)).toList)
      | _ => some out
  | c :: rest =>
    match mode with
    | .ended =>
      if c = ' ' || c = '\t' then readValue lookup weak .ended out rest
      else if c = '#' then some out
      else none
    | .escaped =>
      if c = 'n' then readValue lookup weak .plain (out ++ ['\n']) rest
      else if c ∈ ['\\', '\x27', '"', '$', ' '] then readValue lookup weak .plain (out ++ [c]) rest
      else none
    | .strong =>
      if c = '\x27' then readValue lookup weak .plain out rest
      else readValue lookup weak .strong (out ++ [c]) rest
    | .name letters =>
      if isAlphanumeric c then readValue lookup weak (.name (letters ++ [c])) out rest
      else if c = '{' ∧ letters = [] then readValue lookup weak (.braced []) out rest
      else
        let out := out ++ (lookup (String.ofList letters)).toList
        if c = '$' then readValue lookup weak (.name []) out rest
        else readValue lookup weak .plain (out ++ [c]) rest
    | .braced letters =>
      if c = '}' then
        readValue lookup weak .plain (out ++ (lookup (String.ofList letters)).toList) rest
      else readValue lookup weak (.braced (letters ++ [c])) out rest
    | .plain =>
      if c = '$' then readValue lookup weak (.name []) out rest
      else if c = '\\' then readValue lookup weak .escaped out rest
      else if c = '"' then readValue lookup (!weak) .plain out rest
      else if weak then readValue lookup weak .plain (out ++ [c]) rest
      else if c = '\x27' then readValue lookup weak .strong out rest
      else if c = ' ' || c = '\t' then readValue lookup weak .ended out rest
      else readValue lookup weak .plain (out ++ [c]) rest

def isKeyStart (c : Char) : Bool := c.isAlpha || c = '_'

def isKeyRest (c : Char) : Bool := c.isAlphanum || c = '_' || c = '.'

def readKey? (cs : List Char) : Option (List Char × List Char) :=
  match cs with
  | c :: _ =>
    if isKeyStart c then some (cs.takeWhile isKeyRest, trimStart (cs.dropWhile isKeyRest)) else none
  | [] => none

/-- The key of an assignment and what follows its equals sign. The word export may stand before a key,
and may be one. -/
def readLeft? (cs : List Char) : Option (List Char × List Char) :=
  match readKey? cs with
  | some (key, '=' :: rest) => some (key, trimStart rest)
  | some (key, rest) =>
    if key = "export".toList then
      match readKey? rest with
      | some (key, '=' :: rest) => some (key, trimStart rest)
      | _ => none
    else none
  | none => none

inductive Line
  | nothing
  | assignment (key value : String)
deriving DecidableEq, Repr

def readLine? (lookup : String → String) (line : List Char) : Option Line :=
  let cs := trimStart (trimEnd line)
  if cs = [] ∨ cs.head? = some '#' then some .nothing
  else
    match readLeft? cs with
    | none => none
    | some (key, rest) =>
      let key := String.ofList key
      if rest = [] ∨ rest.head? = some '#' then some (.assignment key "")
      else
        (readValue lookup false .plain [] rest).map fun value =>
          .assignment key (String.ofList value)

/-- Puts the variables of good lines into an environment up to the first bad line. A variable that has
a text keeps it. Substituted names mean variables, and failing that earlier lines. -/
def apply (env : Environment) (earlier : List (String × String)) :
    List (Option (List Char)) → Except Environment.Impossible Environment
  | [] => .ok env
  | none :: _ => .ok env
  | some line :: others =>
    let lookup (name : String) : String :=
      ((env.text? name).or ((earlier.find? fun a => a.1 = name).map Prod.snd)).getD ""
    match readLine? lookup line with
    | none => .ok env
    | some .nothing => apply env earlier others
    | some (.assignment key value) =>
      let stored := if (env.text? key).isSome then .ok env else env.store key value.toUTF8
      match stored with
      | .error change => .error change
      | .ok env => apply env ((key, value) :: earlier) others

def dropMark : List Char → List Char
  | c :: rest => if c = '\ufeff' then rest else c :: rest
  | [] => []

/-- Loads the text of a file into an environment. -/
def load (text : String) (env : Environment) : Except Environment.Impossible Environment :=
  apply env [] (gather .complete [] (physicalLines (dropMark text.toList)))

end Onboarding.DotEnv
