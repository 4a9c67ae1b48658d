import Onboarding.Program

/-! The program as a command: reads the surroundings, runs, and writes what the run printed. -/
namespace Onboarding

def namesIn (text : String) : List String :=
  let step (acc : List (List Char)) (c : Char) : List (List Char) :=
    if c.isAlphanum || c = '_' || c = '.' then
      match acc with
      | [] => [[c]]
      | word :: others => (c :: word) :: others
    else [] :: acc
  (text.toList.foldl step [[]]).filterMap fun word =>
    if word = [] then none else some (String.ofList word.reverse)

def readDotEnv : IO (Option String) := do
  try
    return some (← IO.FS.readFile ".env")
  catch _ =>
    return none

def readEnvironment (names : List String) : IO Environment := do
  let found ← names.filterMapM fun name => do
    return (← IO.getEnv name).map (name, ·)
  return Environment.ofList found

end Onboarding

open Onboarding in
def main (arguments : List String) : IO UInt32 := do
  let dotEnv ← readDotEnv
  let names := [Config.baseVariable, Config.filterVariable, Config.jsonVariable] ++
    namesIn (dotEnv.getD "")
  let environment ← readEnvironment names
  let supply ← IO.rand 0 (Nat.pow 16 24)
  let outcome := Program.run arguments (Application.start environment dotEnv supply)
  for line in outcome.lines.filter LogLine.json do
    IO.eprintln line.text
  IO.print outcome.output
  if let some report := outcome.report then
    IO.eprintln report
  return outcome.exit.toUInt32
