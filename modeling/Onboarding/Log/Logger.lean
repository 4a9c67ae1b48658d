import Onboarding.Config
import Onboarding.Json.Text
import Onboarding.Log.Filter

/-! The log: which records it shows, and the lines it writes for them. -/
namespace Onboarding

structure Logger where
  filter : Filter
  json : Bool
deriving DecidableEq, Repr

/-- A line of the log, as JSON or laid out for people; the activation is named if the filter lets the
activation's span through. -/
structure LogLine where
  json : Bool
  event : Event
  span : Option TraceId
deriving DecidableEq, Repr

namespace Logger

def knownFilter (text : String) : Filter := (Filter.read text).toOption.getD ⟨[]⟩

/-- The filter in force: that of the environment if it is there and well formed, else that of the
configuration if it is well formed, else the default one. A position within a character ends the
choice. -/
def chooseFilter (env : Environment) (config : Config) : Except Text.Cut Filter :=
  let given := (env.text? Config.filterVariable).toList ++ [config.logLevel]
  let choose (text : String) (otherwise : Except Text.Cut Filter) : Except Text.Cut Filter :=
    match Filter.read text with
    | .ok filter => .ok filter
    | .error .malformed => otherwise
    | .error (.cut cut) => .error cut
  given.foldr choose (.ok (knownFilter Config.defaultFilter))

def start (env : Environment) (config : Config) : Except Text.Cut Logger :=
  (chooseFilter env config).map fun filter => ⟨filter, config.logJson⟩

def showsSpan (l : Logger) : Bool := l.filter.opens Span.activation

def line (l : Logger) (r : Record) : LogLine :=
  ⟨l.json, r.event, if l.showsSpan then r.activation else none⟩

def write (l : Logger) (records : List Record) : List LogLine :=
  (records.filter l.filter.passes).map l.line

theorem write_nil (l : Logger) : l.write [] = [] := rfl

/-- A record that the filter stops leaves no line, and one that it lets through leaves its own. -/
theorem write_cons (l : Logger) (r : Record) (records : List Record) :
    l.write (r :: records) =
      if l.filter.passes r then l.line r :: l.write records else l.write records := by
  rw [write, List.filter_cons]
  split <;> rfl

@[simp] theorem write_append (l : Logger) (xs ys : List Record) :
    l.write (xs ++ ys) = l.write xs ++ l.write ys := by
  rw [write, List.filter_append, List.map_append]
  rfl

end Logger

namespace LogLine

private def member (name value : String) : String := Json.literal name ++ ":" ++ value

private def object (members : List String) : String :=
  "\x7b" ++ ",".intercalate members ++ "\x7d"

private def value : FieldValue → String
  | .text s => Json.literal s
  | .flag b => if b then "true" else "false"

private def spanText (id : TraceId) : String :=
  object [member "name" (Json.literal Span.activation.name),
    member Span.activation.field (Json.literal id.text)]

/-- A line in JSON as a text, without a time stamp. How the other lines are laid out is left out. -/
def text (line : LogLine) : String :=
  let fields := object (line.event.fields.map fun f => member f.1 (value f.2))
  let around := line.span.toList.flatMap fun id =>
    [member "span" (spanText id), member "spans" ("[" ++ spanText id ++ "]")]
  object ([member "level" (Json.literal line.event.level.name), member "fields" fields,
    member "target" (Json.literal line.event.origin)] ++ around)

end LogLine
end Onboarding
