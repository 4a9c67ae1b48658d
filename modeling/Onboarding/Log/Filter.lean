import Onboarding.Log.Directive

/-! Log filters: lists of directives. For an event the most particular directive decides; within a span
that directives speak of, the most generous of them may let more through. -/
namespace Onboarding

structure Span where
  name : String
  level : Level
  origin : String
  /-- The field that holds the identity of the activation. -/
  field : String
deriving DecidableEq, Repr

def Span.activation : Span := ⟨"activation", .info, "setup::debug::trace_context", "trace_id"⟩

structure Filter where
  directives : List Directive
deriving DecidableEq, Repr

namespace Directive

/-- Whether a directive's scope holds an origin. -/
def reaches (d : Directive) (origin : String) : Bool :=
  d.scope.all fun scope => scope.toList.isPrefixOf origin.toList

def asksValue (d : Directive) : Bool := d.field.any fun condition => condition.wanted.isSome

/-- Whether a directive holds inside and outside of spans. -/
def isStatic (d : Directive) : Bool := d.span.isNone && !d.asksValue

def isDynamic (d : Directive) : Bool := d.span.isSome || d.field.isSome

def admits (d : Directive) (span : Span) : Bool := d.isStatic && d.reaches span.origin

/-- Whether a directive decides on an event, which must have the field that the directive names. -/
def decides (d : Directive) (event : Event) : Bool :=
  d.isStatic && d.reaches event.origin &&
    d.field.all fun condition => event.fields.any fun f => f.1 = condition.name

def covers (d : Directive) (span : Span) : Bool :=
  d.isDynamic && d.reaches span.origin && (d.span.all fun name => name = span.name) &&
    d.field.all fun condition => condition.name = span.field

def accepts (d : Directive) (text : String) : Bool :=
  match d.field.bind Condition.wanted with
  | none => true
  | some .literal => false
  | some (.pattern source) => (Text.Pattern.ofString? source).any fun p => p.reachesEnd text

/-- How particular the scope of a directive is: a longer one is more particular, and none is the
least. -/
def weight (d : Directive) : Nat :=
  match d.scope with
  | none => 0
  | some scope => scope.length + 1

/-- Whether a directive gives way to a later one that decides as well. Of directives of one scope that
with a field is the stronger one, then that with the greater name. -/
def yields (d later : Directive) : Bool :=
  if d.weight = later.weight then
    match d.field, later.field with
    | none, _ => true
    | some _, none => false
    | some a, some b => !(b.name < a.name)
  else d.weight < later.weight

end Directive

namespace Filter

def parts (cs : List Char) : List (List Char) :=
  (go cs).filter (· ≠ [])
where
  go : List Char → List (List Char)
    | [] => [[]]
    | c :: rest =>
      if c = ',' then [] :: go rest
      else
        match go rest with
        | [] => [[c]]
        | part :: others => (c :: part) :: others

def read (text : String) : Except Directive.Fault Filter :=
  ((parts text.toList).mapM Directive.read).map Filter.mk

/-- The limit of the strongest of some directives; without one nothing is let through. -/
def strongest (directives : List Directive) : Nat :=
  let stronger (best : Option Directive) (d : Directive) : Option Directive :=
    match best with
    | none => some d
    | some b => if b.yields d then some d else some b
  ((directives.foldl stronger none).map Directive.limit).getD 0

/-- The greatest rank let through for an event. -/
def limit (f : Filter) (event : Event) : Nat := strongest (f.directives.filter (·.decides event))

def greatest (limits : List Nat) : Nat := limits.foldl max 0

/-- The greatest rank that anything can have to be let through. -/
def ceiling (f : Filter) : Nat :=
  if f.directives.any Directive.asksValue then Level.trace.rank
  else greatest (f.directives.map Directive.limit)

def watches (f : Filter) (span : Span) : Bool := f.directives.any (·.covers span)

def opens (f : Filter) (span : Span) : Bool :=
  span.level.rank ≤ f.ceiling &&
    (f.watches span || span.level.rank ≤ strongest (f.directives.filter (·.admits span)))

/-- The directives without those that a later one replaces, for the same scope, span and field. -/
def latest : List Directive → List Directive
  | [] => []
  | d :: later =>
    if later.any fun e => e.scope = d.scope && e.span = d.span && e.field = d.field then latest later
    else d :: latest later

/-- The greatest rank let through within a span whose field holds a text. -/
def limitWithin (f : Filter) (span : Span) (text : String) : Nat :=
  greatest (((latest f.directives).filter fun d => d.covers span && d.accepts text).map Directive.limit)

def passes (f : Filter) (r : Record) : Bool :=
  r.event.level.rank ≤ f.limit r.event ||
    r.activation.any fun id =>
      f.opens Span.activation && r.event.level.rank ≤ f.limitWithin Span.activation id.text

end Filter
end Onboarding
