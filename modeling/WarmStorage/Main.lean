import WarmStorage.CommandLine.Run

/-!
The program: reads the files that a command line names, and reports how the run ends.
-/

namespace WarmStorage

open CommandLine

def readFile? (file : String) : IO (Option String) := do
  try
    return some (← IO.FS.readFile file)
  catch _ =>
    return none

def readFiles (args : List String) : IO Files := do
  match Invocation.ofArguments args with
  | .error _ => return fun _ => none
  | .ok i =>
    let contents ← i.request.files.mapM fun file => return (file, ← readFile? file)
    return fun file => (contents.lookup file).join

def runProgram (args : List String) : IO UInt32 := do
  let outcome := run (← readFiles args) args
  IO.print outcome.output
  match outcome with
  | .failure e => IO.eprintln s!"Error: {e.message}"
  | .misuse => IO.eprintln "For more information, try '--help'."
  | .breakdown => IO.eprintln "The program broke down."
  | .success _ => pure ()
  return outcome.code

end WarmStorage

def main (args : List String) : IO UInt32 :=
  WarmStorage.runProgram args
