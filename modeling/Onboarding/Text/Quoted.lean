import Onboarding.Text.Hex
import Onboarding.Text.Hidden

/-! Diagnostic texts of values: quoted strings, lists, and variants with their contents. -/
namespace Onboarding.Text

def quoteChar (c : Char) : List Char :=
  match c with
  | '"' => ['\\', '"']
  | '\\' => ['\\', '\\']
  | '\n' => ['\\', 'n']
  | '\r' => ['\\', 'r']
  | '\t' => ['\\', 't']
  | '\x00' => ['\\', '0']
  | c => if isHidden c then ['\\', 'u', '{'] ++ hex c.toNat ++ ['}'] else [c]

def quote (s : String) : String :=
  String.ofList ('"' :: s.toList.flatMap quoteChar ++ ['"'])

/-- A character between apostrophes; an apostrophe is escaped and a quotation mark is not. -/
def quoteSingle (c : Char) : String :=
  let shown := if c = '\x27' then ['\\', c] else if c = '"' then [c] else quoteChar c
  String.ofList ('\x27' :: shown ++ ['\x27'])

def leadingChar? (bytes : List UInt8) : Option (Char × List UInt8) :=
  [1, 2, 3, 4].findSome? fun size =>
    (String.fromUTF8? (ByteArray.mk (bytes.take size).toArray)).bind fun text =>
      text.toList.head?.map (·, bytes.drop size)

/-- Bytes as they stand between quotes: their text with apostrophes escaped, and the bytes that are no
text in hexadecimal digits. -/
def quoteBytesFrom (fuel : Nat) (bytes : List UInt8) : List Char :=
  match fuel, bytes with
  | 0, _ | _, [] => []
  | fuel + 1, byte :: rest =>
    match leadingChar? bytes with
    | some (c, others) =>
      (if c = '\x27' then ['\\', c] else quoteChar c) ++ quoteBytesFrom fuel others
    | none =>
      ['\\', 'x'] ++ (hexDigits 2 byte.toNat).map Char.toUpper ++ quoteBytesFrom fuel rest

def quoteBytes (bytes : ByteArray) : String :=
  let list := bytes.toList
  String.ofList ('"' :: quoteBytesFrom list.length list ++ ['"'])

def commas (parts : List String) : String := ", ".intercalate parts

def variant (name content : String) : String := name ++ "(" ++ content ++ ")"

def record (name : String) (fields : List (String × String)) : String :=
  name ++ " \x7b " ++ commas (fields.map fun f => f.1 ++ ": " ++ f.2) ++ " \x7d"

/-- A record whose last place says that not all fields are shown. -/
def openRecord (name : String) (fields : List (String × String)) : String :=
  name ++ " \x7b " ++ commas (fields.map (fun f => f.1 ++ ": " ++ f.2) ++ [".."]) ++ " \x7d"

end Onboarding.Text

namespace Onboarding

/-- Values with a diagnostic text, the form in which reports and logs name them. -/
class Described (α : Type) where
  describe : α → String

export Described (describe)

instance : Described String := ⟨Text.quote⟩

instance : Described Bool := ⟨fun b => if b then "true" else "false"⟩

instance {α : Type} [Described α] : Described (List α) :=
  ⟨fun xs => "[" ++ Text.commas (xs.map describe) ++ "]"⟩

end Onboarding
