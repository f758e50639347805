import CardSearch.Command.Outcome

/-!
The command line.
-/

namespace CardSearch

def readInput (invocation : Command.Invocation) : IO ByteArray := do
  if invocation.readsInput then (← IO.getStdin).readBinToEnd else return .empty

end CardSearch

def main (arguments : List String) : IO UInt32 := do
  let invocation := CardSearch.Command.Invocation.ofArguments arguments
  let outcome := invocation.perform (← CardSearch.readInput invocation)
  (← IO.getStdout).putStr outcome.output
  (← IO.getStderr).putStr outcome.errors
  return outcome.exitCode.toUInt32
