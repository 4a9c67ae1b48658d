import Onboarding.Text.Blank
import Onboarding.Text.Quoted

/-! Environment variables. A value is any bytes without a zero; one that is not text counts as missing,
and so does a variable whose name no environment can hold. -/
namespace Onboarding

structure Environment where
  value : String → Option ByteArray

namespace Environment

def empty : Environment := ⟨fun _ => none⟩

def ofList (entries : List (String × String)) : Environment :=
  ⟨fun n => (entries.find? fun v => v.1 = n).map fun v => v.2.toUTF8⟩

def set (env : Environment) (name : String) (value : ByteArray) : Environment :=
  ⟨fun n => if n = name then some value else env.value n⟩

def unset (env : Environment) (name : String) : Environment :=
  ⟨fun n => if n = name then none else env.value n⟩

/-- Whether an environment can hold a variable of this name. -/
def isName (name : String) : Bool :=
  name.toList ≠ [] && name.toList.all fun c => c ≠ '=' && c ≠ '\x00'

def text? (env : Environment) (name : String) : Option String :=
  if isName name then (env.value name).bind String.fromUTF8? else none

/-- A change that no environment can take, of a variable's name to a value or to none. -/
structure Impossible where
  name : String
  value : Option ByteArray

def Impossible.holdsZero (change : Impossible) : Bool :=
  change.name.toList.contains '\x00' || change.value.any fun value => value.toList.contains 0

def Impossible.message (change : Impossible) : String :=
  let reason :=
    if change.holdsZero then "file name contained an unexpected NUL byte"
    else "Invalid argument (os error 22)"
  let name := Text.quoteBytes change.name.toUTF8
  match change.value with
  | some value =>
    "failed to set environment variable `" ++ name ++ "` to `" ++ Text.quoteBytes value ++ "`: " ++
      reason
  | none => "failed to remove environment variable `" ++ name ++ "`: " ++ reason

/-- Sets a variable if an environment can hold its name and value. -/
def store (env : Environment) (name : String) (value : ByteArray) : Except Impossible Environment :=
  if isName name && !value.toList.contains 0 then .ok (env.set name value)
  else .error ⟨name, some value⟩

def remove (env : Environment) (name : String) : Except Impossible Environment :=
  if isName name then .ok (env.unset name) else .error ⟨name, none⟩

structure Missing where
  name : String
deriving DecidableEq, Repr

def Missing.message (m : Missing) : String := m.name ++ " must be set in environment"

instance : Described Missing := ⟨fun m => Text.variant "MissingEnv" (describe m.name)⟩

def get (env : Environment) (name : String) : Except Missing String :=
  match env.text? name with
  | some text => .ok text
  | none => .error ⟨name⟩

def getOr (env : Environment) (name default : String) : String := (env.text? name).getD default

/-- A switch is on when its text without outer blanks is `1`. -/
def isOn (text : String) : Bool := Text.trim text.toList = ['1']

def getFlag (env : Environment) (name : String) (default : Bool) : Bool :=
  match env.text? name with
  | some text => isOn text
  | none => default

@[simp] theorem value_set_self (env : Environment) (name : String) (value : ByteArray) :
    (env.set name value).value name = some value := by simp [set]

theorem store_eq_ok (env : Environment) {name : String} {value : ByteArray} (named : isName name)
    (free : 0 ∉ value.toList) : env.store name value = .ok (env.set name value) := by
  simp [store, named, free]

theorem value_set_of_ne (env : Environment) {name other : String} (h : other ≠ name)
    (value : ByteArray) : (env.set name value).value other = env.value other := by simp [set, h]

end Environment
end Onboarding
