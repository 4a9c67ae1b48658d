import Onboarding.Screen.Action
import Onboarding.Text.Unstyled

/-! The command line: no argument, an action, or a message of the host. Arguments are read from left
to right; a value is checked when the next argument is recognised or the line ends. -/
namespace Onboarding

inductive Request
  | screen
  | press (action : Action)
  | dispatch (message : String)
deriving DecidableEq, Repr

namespace CommandLine

inductive Argument
  | action
  | message
deriving DecidableEq, Repr

def Argument.display : Argument → String
  | .action => "[ACTION]"
  | .message => "--json <JSON>"

inductive Fault
  | unknownAction (value : String)
  | unexpected (argument : String)
  | missingValue
  | repeated
  | conflict (first second : Argument)
  | unexpectedValue (value : String)
deriving DecidableEq, Repr

def Fault.headline (emphasis : String → String) : Fault → String
  | .unknownAction value =>
    "error: invalid value '" ++ emphasis value ++ "' for '" ++ emphasis Argument.action.display ++
      "': " ++ (Failure.unknownAction value).message
  | .unexpected argument => "error: unexpected argument '" ++ emphasis argument ++ "' found"
  | .missingValue =>
    "error: a value is required for '" ++ emphasis Argument.message.display ++
      "' but none was supplied"
  | .repeated =>
    "error: the argument '" ++ emphasis Argument.message.display ++
      "' cannot be used multiple times"
  | .conflict first second =>
    "error: the argument '" ++ emphasis first.display ++ "' cannot be used with '" ++
      emphasis second.display ++ "'"
  | .unexpectedValue value =>
    "error: unexpected value '" ++ emphasis value ++ "' for '" ++ emphasis "--help" ++
      "' found; no more were expected"

/-- The report on a usage error as a terminal gets it. -/
def Fault.report (fault : Fault) : String :=
  fault.headline Text.styled ++ "\n\nFor more information, try '" ++ Text.styled "--help" ++ "'.\n"

/-- The first line of the report where there are no styles. -/
def Fault.message (fault : Fault) : String :=
  String.ofList (Text.firstLine (Text.unstyled fault.report.toList))

/-- A value read but not checked yet; the message option may still lack its value. -/
inductive Pending
  | nothing
  | action (value : String)
  | message (value : Option String)
deriving DecidableEq, Repr

structure State where
  action : Option Action
  message : Option String
  order : List Argument
  pending : Pending
  taken : Bool
deriving DecidableEq, Repr

def State.start : State := ⟨none, none, [], .nothing, false⟩

def State.accept (s : State) (value : String) : Except Fault State :=
  if s.message.isSome then .error .repeated
  else .ok { s with message := some value, order := s.order ++ [.message] }

def State.settle (s : State) : Except Fault State :=
  let t := { s with pending := .nothing }
  match s.pending with
  | .nothing => .ok t
  | .action value =>
    match Vocabulary.find? value with
    | some action => .ok { t with action := some action, order := s.order ++ [.action] }
    | none => .error (.unknownAction value)
  | .message none => .error .missingValue
  | .message (some value) => t.accept value

/-- Takes a value that stands alone: that of a message option before it, or else the action. -/
def State.place (s : State) (afterOption : Bool) (value : String) : Except Fault State :=
  if s.pending = .message none ∧ afterOption then .ok { s with pending := .message (some value) }
  else if s.taken then .error (.unexpected value)
  else s.settle.map fun t => { t with pending := .action value, taken := true }

inductive Form
  /-- Everything after it is a value. -/
  | divider
  | long (name : String) (value : Option String)
  | short (letter : Char)
  | bare
deriving DecidableEq, Repr

def Form.ofString (argument : String) : Form :=
  match argument.toList with
  | ['-', '-'] => .divider
  | '-' :: '-' :: rest =>
    let name := String.ofList (rest.takeWhile (· ≠ '='))
    match rest.dropWhile (· ≠ '=') with
    | [] => .long name none
    | _ :: value => .long name (some (String.ofList value))
  | '-' :: c :: _ => .short c
  | _ => .bare

/-- The values that a line holds. Nothing in the type keeps a line from holding both. -/
structure Line where
  action : Option Action
  message : Option String
deriving DecidableEq, Repr

/-- What a line asks for. An action beside a message would be passed over. -/
def Line.request (line : Line) : Request :=
  match line.action, line.message with
  | none, none => .screen
  | _, some message => .dispatch message
  | some action, none => .press action

inductive Parsing
  | help
  | line (line : Line)
deriving DecidableEq, Repr

def State.finish (s : State) : Except Fault Parsing :=
  match s.settle with
  | .error fault => .error fault
  | .ok t =>
    match t.action, t.message, t.order with
    | some _, some _, first :: second :: _ => .error (.conflict first second)
    | action, message, _ => .ok (.line ⟨action, message⟩)

def readValues (s : State) : List String → Except Fault Parsing
  | [] => s.finish
  | argument :: others =>
    match s.place false argument with
    | .error fault => .error fault
    | .ok s => readValues s others

/-- Reads arguments. An option that is not known reports itself before anything that is pending. -/
def readArguments (s : State) : List String → Except Fault Parsing
  | [] => s.finish
  | argument :: others =>
    match Form.ofString argument with
    | .divider => readValues s others
    | .long name value =>
      if name = "json" then
        match s.settle with
        | .error fault => .error fault
        | .ok s =>
          match value with
          | none => readArguments { s with pending := .message none } others
          | some value =>
            match s.accept value with
            | .error fault => .error fault
            | .ok s => readArguments s others
      else if name = "help" then
        match value with
        | some value => .error (.unexpectedValue value)
        | none => s.settle.map fun _ => .help
      else .error (.unexpected ("--" ++ name))
    | .short letter =>
      if letter = 'h' then s.settle.map fun _ => .help
      else .error (.unexpected (String.ofList ['-', letter]))
    | .bare =>
      match s.place true argument with
      | .error fault => .error fault
      | .ok s => readArguments s others

def parse (arguments : List String) : Except Fault Parsing := readArguments State.start arguments

inductive Reading
  | help
  | request (request : Request)
deriving DecidableEq, Repr

def Parsing.reading : Parsing → Reading
  | .help => .help
  | .line held => .request held.request

def read (arguments : List String) : Except Fault Reading :=
  match parse arguments with
  | .error fault => .error fault
  | .ok parsing => .ok parsing.reading

def help : String :=
  "Drive the wallet setup start screen\n\nUsage: setup [OPTIONS] [ACTION]\n\nArguments:\n" ++
  "  [ACTION]  Button to press (createAccount, importAccount, connectLedger)\n\nOptions:\n" ++
  "      --json <JSON>  Host message to dispatch, e.g. '\x7b\"action\":\"createAccount\"\x7d'\n" ++
  "  -h, --help         Print help\n"

end CommandLine
end Onboarding
