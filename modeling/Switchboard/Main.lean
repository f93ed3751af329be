import Switchboard.Demo

/-!
The command line: run the demonstration, with the log filter from the environment.
-/

/-- Print the demonstration's output and exit with its code. -/
def main : IO UInt32 := do
  let demo := Switchboard.Demo.output (← IO.getEnv "RUST_LOG")
  for line in demo.lines do
    IO.println line
  return demo.exitCode.toUInt32
