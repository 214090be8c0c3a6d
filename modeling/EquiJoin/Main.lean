import EquiJoin.Demo.Report

/-!
# The demonstration program

Runs the demonstration with the log at the level that the environment asks for. -/

set_option autoImplicit false

def main : IO UInt32 := do
  let outcome := EquiJoin.Demo.run (← IO.getEnv "JOINPLAN_LOG")
  IO.print outcome.output
  IO.eprint outcome.errors
  return outcome.exitCode.toUInt32
