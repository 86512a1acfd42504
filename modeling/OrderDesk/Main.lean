import OrderDesk.CommandLine.Help
import OrderDesk.CommandLine.Run
import Std.Time.DateTime.Timestamp

/-!
# The program

Reads the command line, the environment, the files and the clock, runs the desk on them
and prints what it answers: the orders on standard output and the log on standard error.
-/

namespace OrderDesk.CommandLine

/-- The name of the program. -/
def programName : String := "order-desk"

/-- The time it is. -/
def readClock : IO Instant := do
  let now ← Std.Time.Timestamp.now
  return ⟨now.toSecondsSinceUnixEpoch.val, now.val.nano.val.toNat⟩

/-- Hexadecimal digits of random bytes. -/
def drawDigits (count : Nat) : IO String := do
  let bytes ← IO.getRandomBytes count.toUSize
  return String.ofList (bytes.toList.flatMap fun b =>
    [Nat.digitChar (b.toNat / 16), Nat.digitChar (b.toNat % 16)])

/-- A number and a time for an order. -/
def drawStamp : IO Submission.Stamp := do
  let now ← readClock
  return ⟨OrderNo.generate now (← drawDigits 6), now⟩

/-- The bytes of a file, if it can be read. -/
def readFile? (path : String) : IO (Option ByteArray) := do
  try
    return some (← IO.FS.readBinFile path)
  catch _ =>
    return none

/-- The values of the variables that count. -/
def readEnvironment : IO (List (String × String)) := do
  let mut values := []
  for name in ["SUBSCRIBE_SINGLE_MODEL", "ORDER_CLOSE_MINUTES", "LOG_FORMAT", "RUST_LOG"] do
    if let some value ← IO.getEnv name then
      values := (name, value) :: values
  return values

/-- Carries out a run and prints what it answers. -/
def runOptions (options : Options) : IO UInt32 := do
  let start ← readClock
  let files : Files := ⟨← readFile? options.catalog, ← readFile? options.requests⟩
  let rows := (files.requests.map RequestFile.ofBytes).getD []
  let stamps ← rows.toArray.mapM fun _ => drawStamp
  let spare ← drawStamp
  let clock : Clock := ⟨start, fun made => stamps.getD made spare, ← readClock⟩
  match run options files clock with
  | .ok report =>
    for record in report.shownLog programName do
      IO.eprintln (record.line options.logFormat (LogRecord.targetOf programName) clock.finish)
    IO.print report.sheet
    return 0
  | .error trouble =>
    IO.eprintln ("Error: " ++ trouble.message)
    return trouble.exitCode.toUInt32

end OrderDesk.CommandLine

open OrderDesk.CommandLine in
/-- Runs the program on its arguments. -/
def main (args : List String) : IO UInt32 := do
  let values ← readEnvironment
  let environment (name : String) : Option String := values.lookup name
  match Options.ofArgs args environment with
  | .ok options => runOptions options
  | .error .usage =>
    IO.eprint (usageText programName)
    return 2
  | .error detour =>
    IO.print (detourText programName environment detour)
    return 0
