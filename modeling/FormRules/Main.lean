import FormRules.Command.Run

/-!
The command line.
-/

namespace FormRules.Command

def readFile? (path : String) : IO (Option String) := do
  try
    return some (← IO.FS.readFile path)
  catch _ =>
    return none

end FormRules.Command

def main (args : List String) : IO UInt32 := do
  match FormRules.Command.ofArguments? args with
  | none =>
    for line in FormRules.Command.usage do
      IO.eprintln line
    return 2
  | some command =>
    let outcome ← command.run FormRules.Command.readFile?
    IO.print outcome.output
    if let some e := outcome.error then
      IO.eprintln ("Error: " ++ e)
    return outcome.exitCode.toUInt32
