import Onboarding.Text.Alphanumeric
import Onboarding.Text.Hex
import Onboarding.Text.Pattern

/-! Reading patterns: literals, sets in brackets, groups with flags, alternatives, repetitions and edges.
Counted repetitions, references to groups and edges that look further than a word are refused. -/
namespace Onboarding.Text.Pattern

structure Flags where
  /-- Letters stand for both of their cases. -/
  caseless : Bool
  /-- Repetitions are greedy when they have a question mark behind them. -/
  swapped : Bool
  /-- Sets hold ASCII characters only. -/
  ascii : Bool
  /-- Blanks and comments are left out. -/
  spaced : Bool
deriving DecidableEq, Repr

def Flags.plain : Flags := ⟨false, false, false, false⟩

/-- The flags after one more is switched. The flags for lines change nothing in a single line. -/
def Flags.switch (f : Flags) (on : Bool) (letter : Char) : Option Flags :=
  match letter with
  | 'i' => some { f with caseless := on }
  | 'U' => some { f with swapped := on }
  | 'u' => some { f with ascii := !on }
  | 'x' => some { f with spaced := on }
  | 'm' | 's' | 'R' => some f
  | _ => none

def codes : List Nat := List.range 256

def others (set : List Nat) : List Nat := codes.filter fun n => !set.contains n

def folded (f : Flags) (set : List Nat) : List Nat :=
  if f.caseless then
    codes.filter fun n =>
      let c := Char.ofNat n
      set.contains n || set.contains c.toLower.toNat || set.contains c.toUpper.toNat
  else set

def single (f : Flags) (c : Char) : List Nat := folded f [c.toNat]

def namedSet? (name : String) : Option (List Nat) :=
  let between (ranges : List (Nat × Nat)) : List Nat := codes.filter (within ranges)
  let sets : List (String × List (Nat × Nat)) := [
    ("alnum", [(0x30, 0x39), (0x41, 0x5a), (0x61, 0x7a)]), ("alpha", [(0x41, 0x5a), (0x61, 0x7a)]),
    ("ascii", [(0, 0x7f)]), ("blank", [(0x9, 0x9), (0x20, 0x20)]),
    ("cntrl", [(0, 0x1f), (0x7f, 0x7f)]), ("digit", [(0x30, 0x39)]), ("graph", [(0x21, 0x7e)]),
    ("lower", [(0x61, 0x7a)]), ("print", [(0x20, 0x7e)]),
    ("punct", [(0x21, 0x2f), (0x3a, 0x40), (0x5b, 0x60), (0x7b, 0x7e)]),
    ("space", [(0x9, 0xd), (0x20, 0x20)]), ("upper", [(0x41, 0x5a)]),
    ("word", [(0x30, 0x39), (0x41, 0x5a), (0x5f, 0x5f), (0x61, 0x7a)]),
    ("xdigit", [(0x30, 0x39), (0x41, 0x46), (0x61, 0x66)])]
  (sets.find? fun s => s.1 = name).map fun s => between s.2

def category? (letter : Char) : Option (List Nat) :=
  let signs (s : String) : List Nat := s.toList.map Char.toNat
  match letter.toLower with
  | 'l' => namedSet? "alpha"
  | 'm' => some []
  | 'n' => namedSet? "digit"
  | 'p' => some (signs "!\"#%&\x27()*,-./:;?@[\\]_\x7b\x7d")
  | 's' => some (signs "$+<=>^\x60|~")
  | 'z' => some [0x20]
  | 'c' => namedSet? "cntrl"
  | _ => none

inductive Escaped
  | char (c : Char)
  | set (codes : List Nat)
  | edge (place : Edge)
deriving DecidableEq, Repr

def readHex (f : Flags) (size : Nat) (cs : List Char) : Option (Escaped × List Char) :=
  let step (n : Option Nat) (c : Char) : Option Nat :=
    n.bind fun n => (hexValue? c).map (n * 16 + ·)
  match (cs.take size).foldl step (some 0) with
  | none => none
  | some n =>
    if cs.length < size || !Nat.isValidChar n || (f.ascii && size = 2 && 0x80 ≤ n) then none
    else some (.char (Char.ofNat n), cs.drop size)

/-- A set or the set of all other characters. Without its other characters a set may be all that is
allowed. -/
def complemented (f : Flags) (negated : Bool) (set : List Nat) (rest : List Char) :
    Option (Escaped × List Char) :=
  if !negated then some (.set set, rest)
  else if f.ascii then none
  else some (.set (others set), rest)

def wordEdge (f : Flags) (place : Edge) (rest : List Char) : Option (Escaped × List Char) :=
  if f.ascii then some (.edge place, rest) else none

def readEscape (f : Flags) : List Char → Option (Escaped × List Char)
  | [] => none
  | c :: rest =>
    let named (name : String) (negated : Bool) :=
      (namedSet? name).bind fun set => complemented f negated set rest
    match c with
    | 'x' => readHex f 2 rest
    | 'u' => readHex f 4 rest
    | 'U' => readHex f 8 rest
    | 'd' => named "digit" false
    | 'D' => named "digit" true
    | 's' => named "space" false
    | 'S' => named "space" true
    | 'w' => named "word" false
    | 'W' => named "word" true
    | 'p' | 'P' =>
      match f.ascii, rest with
      | false, letter :: rest =>
        (category? letter).bind fun set => complemented f (c = 'P') set rest
      | _, _ => none
    | 'a' => some (.char '\x07', rest)
    | 'f' => some (.char '\x0c', rest)
    | 'n' => some (.char '\n', rest)
    | 'r' => some (.char '\r', rest)
    | 't' => some (.char '\t', rest)
    | 'v' => some (.char '\x0b', rest)
    | 'A' => some (.edge .start, rest)
    | 'z' => some (.edge .stop, rest)
    | 'b' => wordEdge f .wordBoundary rest
    | 'B' => wordEdge f .noWordBoundary rest
    | '<' => wordEdge f .wordStart rest
    | '>' => wordEdge f .wordStop rest
    | c => if c.toNat < 0x80 && !c.isAlphanum then some (.char c, rest) else none

def skip (f : Flags) (cs : List Char) : List Char := if f.spaced then go false cs else cs
where
  go (comment : Bool) : List Char → List Char
    | [] => []
    | c :: rest =>
      if comment then go (c ≠ '\n') rest
      else if isBlank c then go false rest
      else if c = '#' then go true rest
      else c :: rest

inductive Combination
  | intersection
  | difference
  | symmetricDifference
deriving DecidableEq, Repr

def Combination.apply (combination : Combination) (left right : List Nat) : List Nat :=
  match combination with
  | .intersection => left.filter right.contains
  | .difference => left.filter fun n => !right.contains n
  | .symmetricDifference =>
    (left.filter fun n => !right.contains n) ++ right.filter fun n => !left.contains n

/-- A set in brackets that is being read: the combination that waits for its right side, and the side
that is read now. -/
structure Bracket where
  negated : Bool
  waiting : Option (Combination × List Nat)
  side : List Nat
deriving DecidableEq, Repr

def Bracket.add (b : Bracket) (set : List Nat) : Bracket := { b with side := b.side ++ set }

def Bracket.combined (f : Flags) (b : Bracket) : List Nat :=
  match b.waiting with
  | none => folded f b.side
  | some (combination, left) => combination.apply left (folded f b.side)

def Bracket.wait (f : Flags) (b : Bracket) (combination : Combination) : Bracket :=
  { b with waiting := some (combination, b.combined f), side := [] }

def Bracket.set? (f : Flags) (b : Bracket) : Option (List Nat) :=
  let set := if b.negated then others (b.combined f) else b.combined f
  if f.ascii && set.any (0x80 ≤ ·) then none else some set

/-- Begins a bracket. Hyphens, or else a closing bracket, stand for themselves at the start. -/
def openBracket (f : Flags) (cs : List Char) : Bracket × List Char :=
  let cs := skip f cs
  let (negated, cs) :=
    match cs with
    | '^' :: rest => (true, skip f rest)
    | _ => (false, cs)
  let hyphens := cs.takeWhile (· = '-')
  let cs := skip f (cs.drop hyphens.length)
  match hyphens, cs with
  | [], ']' :: rest => (⟨negated, none, [0x5d]⟩, skip f rest)
  | _, _ => (⟨negated, none, hyphens.map Char.toNat⟩, cs)

def readNamedSet (cs : List Char) : Option (List Nat × List Char) :=
  match cs with
  | ':' :: rest =>
    let (negated, rest) :=
      match rest with
      | '^' :: rest => (true, rest)
      | _ => (false, rest)
    match rest.dropWhile (· ≠ ':') with
    | ':' :: ']' :: after =>
      (namedSet? (String.ofList (rest.takeWhile (· ≠ ':')))).map fun set =>
        (if negated then others set else set, after)
    | _ => none
  | _ => none

def readItem (f : Flags) : List Char → Option (Escaped × List Char)
  | [] => none
  | '\\' :: rest => readEscape f rest
  | c :: rest => some (.char c, rest)

def rangeSet (f : Flags) (first last : Escaped) : Option (List Nat) :=
  match first, last with
  | .char a, .char b =>
    if b < a || (f.ascii && 0x80 ≤ b.toNat) then none
    else some (codes.filter fun n => a.toNat ≤ n && n ≤ b.toNat)
  | _, _ => none

def readRange (f : Flags) (cs : List Char) : Option (List Nat × List Char) :=
  (readItem f cs).bind fun (first, rest) =>
    let rest := skip f rest
    let alone :=
      match first with
      | .set set => some (set, rest)
      | item => (rangeSet f item item).map (·, rest)
    match rest with
    | '-' :: after =>
      match skip f after with
      | ']' :: _ | '-' :: _ => alone
      | cs => (readItem f cs).bind fun (last, rest) => (rangeSet f first last).map (·, rest)
    | _ => alone

def readBracket (f : Flags) : Nat → Bracket → List Bracket → List Char →
    Option (List Nat × List Char)
  | 0, _, _, _ => none
  | fuel + 1, b, outer, cs =>
    match skip f cs with
    | [] => none
    | '[' :: rest =>
      match readNamedSet rest with
      | some (set, rest) => readBracket f fuel (b.add set) outer rest
      | none =>
        let (inner, rest) := openBracket f rest
        readBracket f fuel inner (b :: outer) rest
    | ']' :: rest =>
      (b.set? f).bind fun set =>
        match outer with
        | [] => some (set, rest)
        | around :: outer => readBracket f fuel (around.add set) outer rest
    | '&' :: '&' :: rest => readBracket f fuel (b.wait f .intersection) outer rest
    | '-' :: '-' :: rest => readBracket f fuel (b.wait f .difference) outer rest
    | '~' :: '~' :: rest => readBracket f fuel (b.wait f .symmetricDifference) outer rest
    | cs => (readRange f cs).bind fun (set, rest) => readBracket f fuel (b.add set) outer rest

/-- A group that is being read: the flags around it, its alternatives before, and the items of the
alternative that is read now, the last one first. A switch of flags is an item without a pattern. -/
structure Group where
  around : Flags
  before : List Pattern
  items : List (Option Pattern)
deriving DecidableEq, Repr

def Group.begin (around : Flags) : Group := ⟨around, [], []⟩

def Group.add (g : Group) (p : Pattern) : Group := { g with items := some p :: g.items }

def Group.alternative (g : Group) : Pattern :=
  g.items.foldl (fun p item => (item.map fun first => Pattern.both first p).getD p) .empty

def Group.pattern (g : Group) : Pattern := g.before.foldl (fun p before => .either before p) g.alternative

def Group.repeatLast (g : Group) (f : Pattern → Pattern) : Option Group :=
  match g.items with
  | some p :: items => some { g with items := some (f p) :: items }
  | _ => none

structure Draft where
  flags : Flags
  group : Group
  outer : List Group
  names : List String
deriving DecidableEq, Repr

def Draft.add (d : Draft) (p : Pattern) : Draft := { d with group := d.group.add p }

def Draft.enter (d : Draft) (inside : Flags) : Draft :=
  { d with flags := inside, group := Group.begin d.flags, outer := d.group :: d.outer }

/-- Reads flags up to a colon or a closing parenthesis, with the letters read so far, the last first.
Whether a colon ended them comes with them. -/
def readFlags (f : Flags) (on : Bool) (letters : List Char) :
    List Char → Option (Flags × Bool × List Char)
  | [] => none
  | ':' :: rest => if letters.head? = some '-' then none else some (f, true, rest)
  | ')' :: rest =>
    if letters = [] || letters.head? = some '-' then none else some (f, false, rest)
  | c :: rest =>
    if letters.contains c then none
    else if c = '-' then readFlags f false (c :: letters) rest
    else (f.switch on c).bind fun f => readFlags f on (c :: letters) rest

def isGroupName (cs : List Char) : Bool :=
  match cs with
  | [] => false
  | c :: rest =>
    let isLetter := isAlphanumeric c && !c.isDigit
    (c = '_' || isLetter) &&
      rest.all fun c => c = '_' || c = '.' || c = '[' || c = ']' || isAlphanumeric c

def openNamed (d : Draft) (cs : List Char) : Option (Draft × List Char) :=
  let name := cs.takeWhile (· ≠ '>')
  match cs.dropWhile (· ≠ '>') with
  | _ :: rest =>
    if isGroupName name && !d.names.contains (String.ofList name) then
      some ({ d with names := String.ofList name :: d.names }.enter d.flags, rest)
    else none
  | [] => none

def openGroup (d : Draft) (cs : List Char) : Option (Draft × List Char) :=
  match skip d.flags cs with
  | '?' :: '=' :: _ | '?' :: '!' :: _ | '?' :: '<' :: '=' :: _ | '?' :: '<' :: '!' :: _ => none
  | '?' :: 'P' :: '<' :: rest | '?' :: '<' :: rest => openNamed d rest
  | '?' :: rest =>
    (readFlags d.flags true [] rest).map fun (flags, group, rest) =>
      if group then (d.enter flags, rest)
      else ({ d with flags, group := { d.group with items := none :: d.group.items } }, rest)
  | cs => some (d.enter d.flags, cs)

def Draft.close (d : Draft) : Option Draft :=
  match d.outer with
  | [] => none
  | group :: outer =>
    some { d with flags := d.group.around, group := group.add d.group.pattern, outer }

def Draft.repeatLast (d : Draft) (f : Bool → Pattern → Pattern) (cs : List Char) :
    Option (Draft × List Char) :=
  let (lazy, rest) :=
    match cs with
    | '?' :: rest => (true, rest)
    | _ => (false, cs)
  (d.group.repeatLast (f (lazy == d.flags.swapped))).map fun group => ({ d with group }, rest)

def Draft.step (d : Draft) (c : Char) (rest : List Char) : Option (Draft × List Char) :=
  let f := d.flags
  match c with
  | '(' => openGroup d rest
  | ')' => d.close.map (·, rest)
  | '|' =>
    some ({ d with group := ⟨d.group.around, d.group.alternative :: d.group.before, []⟩ }, rest)
  | '[' =>
    let (b, cs) := openBracket f rest
    (readBracket f (cs.length + 1) b [] cs).map fun (set, rest) => (d.add (.one set), rest)
  | '?' => d.repeatLast .optional rest
  | '*' => d.repeatLast .many rest
  | '+' => d.repeatLast (fun greedy p => .both p (.many greedy p)) rest
  | '{' => none
  | '.' => if f.ascii then none else some (d.add (.one (others [0xa])), rest)
  | '^' => some (d.add (.edge .start), rest)
  | '$' => some (d.add (.edge .stop), rest)
  | '\\' =>
    (readEscape f rest).map fun (escaped, rest) =>
      match escaped with
      | .char c => (d.add (.one (single f c)), rest)
      | .set set => (d.add (.one set), rest)
      | .edge place => (d.add (.edge place), rest)
  | c => some (d.add (.one (single f c)), rest)

def readFrom : Nat → Draft → List Char → Option Pattern
  | 0, _, _ => none
  | fuel + 1, d, cs =>
    match skip d.flags cs with
    | [] => if d.outer.isEmpty then some d.group.pattern else none
    | c :: rest => (d.step c rest).bind fun (d, rest) => readFrom fuel d rest

def ofString? (text : String) : Option Pattern :=
  readFrom (text.length + 1) ⟨Flags.plain, Group.begin Flags.plain, [], []⟩ text.toList

end Onboarding.Text.Pattern
