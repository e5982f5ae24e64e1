import Storyboard.CommandLine
import Storyboard.Digest

/-!
# The program

Gathers what the command line reads, and prints what it printed.
-/
namespace Storyboard.Main

/-- The text of a file that may not be there or may not be readable. -/
def readFile? (path : String) : IO (Option String) := do
  try
    let bytes ← IO.FS.readBinFile path
    return String.fromUTF8? bytes
  catch _ => return none

/-- The names of the settings. -/
def settingNames : List String := Settings.default.dump.map (·.1)

/-- The variables of the environment that belong to settings. -/
def readEnvironment : IO (Assoc String) := do
  let names := settingNames.flatMap fun name =>
    let key := String.ofList Settings.variableStem ++ name
    [key, key.toUpper]
  let found ← names.mapM fun name => do return (name, ← IO.getEnv name)
  return found.filterMap fun (name, value) => value.map (name, ·)

/-- The texts of the files that some arguments name. -/
def readFiles (args : List String) : IO (Assoc String) := do
  let found ← args.mapM fun path => do return (path, ← readFile? path)
  return found.filterMap fun (path, text) => text.map (path, ·)

def noticeLine (n : Notice) : String := n.weight.label ++ " - " ++ n.message

end Storyboard.Main

open Storyboard in
def main (args : List String) : IO UInt32 := do
  let files ← Main.readFiles args
  let output := CommandLine.execute
    { environment := ← Main.readEnvironment
      file? := Assoc.get? files
      supply := ⟨.counter, 0⟩
      hasher := .digest
      submitter := .unconnected }
    args
  for n in output.notices do
    IO.eprintln (Main.noticeLine n)
  IO.print output.out
  IO.eprint output.err
  match output.ending with
  | .ok code => return code.toUInt32
  | .error _ =>
    IO.eprintln "The command could not be completed."
    return 1
