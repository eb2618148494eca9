import ConditionalForm.CommandLine

/-! # The command line program

Reads the form and the standard input, and prints what the command answers.
-/

open ConditionalForm.CommandLine

/-- The text of a file, if it can be read as UTF-8. -/
def readText (path : String) : IO (Option String) := do
  try
    return some (← IO.FS.readFile path)
  catch _ =>
    return none

def main (args : List String) : IO UInt32 := do
  match readArguments args with
  | none => return 2
  | some request =>
    let spec ← readText request.path
    let stdin ← match request.command with
      | .session => (← IO.getStdin).readToEnd
      | _ => pure ""
    let outcome := respond args (fun _ => spec) stdin
    IO.print outcome.stdout
    return outcome.code.toUInt32
