import TypedJit.Demo.Run

/-!
The demonstration tool's entry point: runs `Demo.execute` on the command line, writes its
output and error text, and exits with its status.
-/

open TypedJit.Demo

def main (args : List String) : IO UInt32 := do
  let report := execute args
  let out ← IO.getStdout
  out.putStr report.stdout
  out.flush
  let err ← IO.getStderr
  err.putStr report.stderr
  err.flush
  pure report.status.toUInt32
