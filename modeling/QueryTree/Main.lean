import QueryTree.Cli.Run

/-!
The program: it takes the arguments, the environment and the files from the system, runs the command
and prints what it leaves behind.
-/

namespace QueryTree.Cli

/-- Reads a file from the disk. -/
def readFromDisk (path : String) : IO FileContent := do
  try
    let bytes ← IO.FS.readBinFile path
    return .ok bytes
  catch error =>
    match error with
    | .inappropriateType .. => return .error .isDirectory
    | .invalidArgument .. => return .error .notDirectory
    | _ => return .error .absent

/-- Colours are written to a terminal, unless the user forbids them. -/
def wantsColor : IO Bool := do
  if (← IO.getEnv "NO_COLOR").isSome then return false
  (← IO.getStdout).isTty

/-- The directory of the user's configurations by the conventions of the desktop. -/
def findConfigDirectory : IO (Option String) := do
  match ← IO.getEnv "XDG_CONFIG_HOME" with
  | some directory =>
    if directory.startsWith "/" then return some directory
    else return (← IO.getEnv "HOME").map (· ++ "/.config")
  | none => return (← IO.getEnv "HOME").map (· ++ "/.config")

end QueryTree.Cli

open QueryTree.Cli in
def main (args : List String) : IO UInt32 := do
  let environment : Environment :=
    ⟨← IO.getEnv "SIMPLE_QUERY_CONFIG", ← findConfigDirectory, ← wantsColor⟩
  let outcome ← run readFromDisk environment args
  for line in outcome.stdout do
    IO.println line
  for line in outcome.stderr do
    IO.eprintln line
  return UInt32.ofNat outcome.code
