import Onboarding.Decimal.Layout
import Onboarding.Text.Quoted

/-! Faults in a JSON text: their causes, their places and the sentences that report them. A fault
keeps how many bytes were left unread; the line and column follow from the text. -/
namespace Onboarding.Json

inductive Found
  | null
  | boolean (value : Bool)
  | integer (value : Int)
  | floating (bits : Nat)
  | text (value : String)
  | sequence
  | map
deriving DecidableEq, Repr

def Found.describe : Found → String
  | .null => "null"
  | .boolean value => "boolean `" ++ (if value then "true" else "false") ++ "`"
  | .integer value => "integer `" ++ toString value ++ "`"
  | .floating bits => "floating point `" ++ Decimal.writeBits bits ++ "`"
  | .text value => "string " ++ Text.quote value
  | .sequence => "sequence"
  | .map => "map"

inductive Cause
  | endInValue
  | endInList
  | endInObject
  | endInString
  | expectedColon
  | expectedListEnd
  | expectedObjectEnd
  | expectedWord
  | expectedValue
  | keyNotString
  | trailingComma
  | trailingCharacters
  | invalidNumber
  | numberOutOfRange
  | invalidEscape
  | controlCharacter
  | loneSurrogate
  | unfinishedSurrogate
  | unknownWord (found : String) (known : List String)
  | wrongType (found : Found) (expected : String)
  | missingField (name : String)
  | duplicateField (name : String)
  | invalidLength (length : Nat) (expected : String)
  | refused (reason : String)
deriving DecidableEq, Repr

private def ticked (word : String) : String := "`" ++ word ++ "`"

def Cause.describe : Cause → String
  | .endInValue => "EOF while parsing a value"
  | .endInList => "EOF while parsing a list"
  | .endInObject => "EOF while parsing an object"
  | .endInString => "EOF while parsing a string"
  | .expectedColon => "expected `:`"
  | .expectedListEnd => "expected `,` or `]`"
  | .expectedObjectEnd => "expected `,` or `\x7d`"
  | .expectedWord => "expected ident"
  | .expectedValue => "expected value"
  | .keyNotString => "key must be a string"
  | .trailingComma => "trailing comma"
  | .trailingCharacters => "trailing characters"
  | .invalidNumber => "invalid number"
  | .numberOutOfRange => "number out of range"
  | .invalidEscape => "invalid escape"
  | .controlCharacter => "control character (\\u0000-\\u001F) found while parsing a string"
  | .loneSurrogate => "lone leading surrogate in hex escape"
  | .unfinishedSurrogate => "unexpected end of hex escape"
  | .unknownWord found known =>
    "unknown variant " ++ ticked found ++ ", expected one of " ++ ", ".intercalate (known.map ticked)
  | .wrongType found expected => "invalid type: " ++ found.describe ++ ", expected " ++ expected
  | .missingField name => "missing field " ++ ticked name
  | .duplicateField name => "duplicate field " ++ ticked name
  | .invalidLength length expected => "invalid length " ++ toString length ++ ", expected " ++ expected
  | .refused reason => reason

def bytes : List Char → Nat
  | [] => 0
  | c :: rest => c.utf8Size + bytes rest

/-- A cause and the number of bytes after its place; a refused value has no place. -/
structure Fault where
  cause : Cause
  unread : Option Nat
deriving DecidableEq, Repr

def Fault.here (cause : Cause) (rest : List Char) : Fault := ⟨cause, some (bytes rest)⟩

/-- A fault placed after the next byte, if the text has one. -/
def Fault.next (cause : Cause) (rest : List Char) : Fault := ⟨cause, some (bytes rest - 1)⟩

def Fault.unplaced (cause : Cause) : Fault := ⟨cause, none⟩

/-- A line, counted from one, and the number of its bytes that were read. -/
structure Place where
  line : Nat
  column : Nat
deriving DecidableEq, Repr

def Place.advance (place : Place) (count : Nat) : List Char → Place
  | [] => place
  | c :: rest =>
    if count = 0 then place
    else if c = '\n' then advance ⟨place.line + 1, 0⟩ (count - 1) rest
    else advance ⟨place.line, place.column + min count c.utf8Size⟩ (count - c.utf8Size) rest

def Fault.message (text : List Char) (fault : Fault) : String :=
  match fault.unread with
  | none => fault.cause.describe
  | some unread =>
    let place := Place.advance ⟨1, 0⟩ (bytes text - unread) text
    fault.cause.describe ++ " at line " ++ toString place.line ++ " column " ++ toString place.column

/-- A reader takes a value from the front of a text and leaves the rest. -/
abbrev Reader (α : Type) := List Char → Except Fault (α × List Char)

def isSpace (c : Char) : Bool := c = ' ' || c = '\n' || c = '\t' || c = '\r'

def skipSpaces (cs : List Char) : List Char := cs.dropWhile isSpace

theorem length_skipSpaces_le (cs : List Char) : (skipSpaces cs).length ≤ cs.length :=
  (List.dropWhile_sublist _).length_le

theorem length_of_skipSpaces {cs rest : List Char} {c : Char} (h : skipSpaces cs = c :: rest) :
    rest.length < cs.length := by
  have bound := length_skipSpaces_le cs
  rw [h, List.length_cons] at bound
  omega

def readWord : List Char → List Char → Except Fault (List Char)
  | [], rest => .ok rest
  | _, [] => .error (.here .endInValue [])
  | w :: word, c :: rest =>
    if c = w then readWord word rest else .error (.next .expectedWord (c :: rest))

theorem length_of_readWord {word cs rest : List Char} (h : readWord word cs = .ok rest) :
    rest.length ≤ cs.length := by
  induction word generalizing cs with
  | nil => simp_all [readWord]
  | cons w word ih =>
    cases cs with
    | nil => simp [readWord] at h
    | cons c cs =>
      rw [readWord] at h
      split at h
      · have := ih h
        simp only [List.length_cons]
        omega
      · simp at h

end Onboarding.Json
