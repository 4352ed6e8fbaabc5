import AdminQuery.CommandLine.Session
import Std.Time.DateTime.Timestamp

/-!
# The program

* `main`: runs a session on the files, the standard streams and the clock of the machine
-/

namespace AdminQuery

/-- The bytes of a file, if it can be read. -/
def readFileBytes? (path : String) : IO (Option ByteArray) := do
  try return some (← IO.FS.readBinFile path) catch _ => return none

/-- All bytes of the standard input, if it can be read. -/
def readInputBytes? : IO (Option ByteArray) := do
  try return some (← (← IO.getStdin).readBinToEnd) catch _ => return none

/-- The present instant. -/
def currentInstant : IO Instant := do
  let now ← Std.Time.Timestamp.now
  let nanos := now.toNanosecondsSinceUnixEpoch.toInt
  return ⟨nanos / nanosPerSecond, (nanos % nanosPerSecond).toNat⟩

end AdminQuery

/-- Runs one session. -/
def main (arguments : List String) : IO UInt32 := do
  let outcome ← AdminQuery.CommandLine.run AdminQuery.readFileBytes? AdminQuery.readInputBytes?
    AdminQuery.currentInstant arguments
  IO.print outcome.output
  IO.eprint outcome.errors
  return outcome.exitCode
