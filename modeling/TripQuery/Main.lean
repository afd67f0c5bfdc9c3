import Std.Time.Zoned
import TripQuery.Service.Endpoint
import TripQuery.Service.Settings

namespace TripQuery

/-!
# The program

Takes the settings from the environment, reads requests from standard input, one on each line, and
writes the responses to standard output and the journal to standard error.
-/

namespace Program

/-- The present instant, in the local offset. -/
def now : IO Instant := do
  let t ← Std.Time.DateTime.now
  let second := 3600 * t.hour.toInt + 60 * t.minute.toInt + t.second.toInt
  let found := Instant.ofNumbers? t.year.toInt t.month.toInt.toNat t.day.toInt.toNat second.toNat
    t.nanosecond.toInt.toNat t.offset.second.val
  match found with
  | some i => return i
  | none => throw (IO.userError "the clock is out of range")

/-- The settings given by the environment. -/
def settings : IO (Except SettingFault Settings) := do
  let address ← IO.getEnv Settings.addressVariable
  let limit ← IO.getEnv Settings.setLimitVariable
  return Settings.load fun name =>
    if name = Settings.addressVariable then address
    else if name = Settings.setLimitVariable then limit
    else none

/-- Answers requests until the input ends. -/
partial def serve (s : Settings) (input output errors : IO.FS.Stream) : IO Unit := do
  let line ← input.getLine
  if line.isEmpty then return
  let (events, response) := Endpoint.handle s.setLimit (← now) (Request.ofLine line)
  for e in events do
    errors.putStrLn e.line
  output.putStrLn response.line
  output.flush
  serve s input output errors

end Program

end TripQuery

def main : IO UInt32 := do
  let errors ← IO.getStderr
  match ← TripQuery.Program.settings with
  | .error fault =>
      errors.putStrLn fault.message
      return 1
  | .ok s =>
      TripQuery.Program.serve s (← IO.getStdin) (← IO.getStdout) errors
      return 0
