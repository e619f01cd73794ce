import BrokerLoad.Program

/-!
# The command line

Everything is in `Program.run`; here its lines are printed.
-/

namespace BrokerLoad

/-- Prints a log line on its stream. -/
def LogLine.print (line : LogLine) : IO Unit :=
  match line.stream with
  | .err => IO.eprintln line.text
  | _ => IO.println line.text

end BrokerLoad

/-- Runs the program on the arguments it was called with. -/
def main (arguments : List String) : IO UInt32 := do
  let program := (← IO.appPath).fileName.getD "loadgen_demo"
  let result := BrokerLoad.Program.run (program :: arguments) false
  result.log.forM BrokerLoad.LogLine.print
  return result.exitCode.toUInt32
