import OrderDesk.Catalog
import OrderDesk.CommandLine.Options
import OrderDesk.Log.Filter
import OrderDesk.OrderSheet
import OrderDesk.RequestFile
import OrderDesk.Submission
import OrderDesk.World

/-!
# A run

A run puts the catalog into an empty store, carries out the requests row by row and
prints all orders, by the time when they were made. On demand it closes the orders
that have not been paid first, as if their time were over.
-/

namespace OrderDesk.CommandLine

/-- The times of a run, and the numbers for its orders. -/
structure Clock where
  start : Instant
  /-- Number and time for an order, by how many orders were made before it. -/
  stamp : Nat → Submission.Stamp
  finish : Instant

/-- The files of a run; `none` for one that cannot be opened. -/
structure Files where
  catalog : Option ByteArray
  requests : Option ByteArray

/-- Why a run is given up. -/
inductive Trouble
  /-- The setting for the log breaks a character. -/
  | brokenSetting
  | windowOutOfRange (minutes : Nat)
  | noCatalog
  | noRequests
  | refused (error : OrderError)
  /-- The program stopped at an overflow. -/
  | stopped (overflow : Overflow)
  deriving DecidableEq

namespace Trouble

/-- The trouble in words. -/
def message : Trouble → String
  | .brokenSetting => "the setting for the log breaks a character"
  | .windowOutOfRange minutes =>
    "--close-minutes " ++ Text.natText minutes ++ " is out of range"
  | .noCatalog => "the catalog cannot be opened"
  | .noRequests => "the request file cannot be opened"
  | .refused error => error.message
  | .stopped overflow => overflow.message

/-- The number with which the program ends. -/
def exitCode : Trouble → Nat
  | .brokenSetting | .stopped _ => 101
  | _ => 1

/-- The trouble that a failure of a program makes. -/
def ofFailure : Failure → Trouble
  | .refused error => .refused error
  | .stopped overflow => .stopped overflow

end Trouble

/-- How far a run has come. -/
structure Progress where
  world : World
  /-- Orders made so far. -/
  made : Nat
  /-- The records of the log, the last first. -/
  log : List LogRecord

/-- The seconds of some minutes, if an order made now can stay open so long. -/
def window? (minutes : Nat) (now : Instant) : Option Nat :=
  let seconds := minutes * 60
  if seconds < idLimit ∧ seconds ≤ Queue.longestDelay then
    (now.after? seconds).map fun _ => seconds
  else none

/-- The catalog of a file. -/
def readCatalog (bytes : ByteArray) : Except OrderError Catalog :=
  match String.fromUTF8? bytes with
  | some s => Catalog.ofText s
  | none => .error .invalidCatalog

/-- Runs a program that is part of a run. -/
def Progress.perform {α : Type} (progress : Progress) (program : Program α) :
    Except Trouble (α × Progress) :=
  match program.run progress.world with
  | (.ok value, world) => .ok (value, { progress with world })
  | (.error failure, _) => .error (.ofFailure failure)

/-- Carries out a request of a row. -/
def Progress.request (progress : Progress) (config : Config) (clock : Clock) (line : Nat)
    (user : UserId) (request : Request) : Except Trouble Progress :=
  let stamp := clock.stamp progress.made
  let session := (progress.world.store.users.find? user).map User.id
  match (submit config stamp session request).run { progress.world with now := stamp.now } with
  | (.ok _, world) => .ok { progress with world, made := progress.made + 1 }
  | (.error (.refused error), world) =>
    .ok { progress with world, log := .rejected line user error :: progress.log }
  | (.error (.stopped overflow), _) => .error (.stopped overflow)

/-- Carries out a row. -/
def Progress.row (progress : Progress) (config : Config) (clock : Clock) (line : Nat)
    (record : Except OrderError RequestRecord) : Except Trouble Progress :=
  match record.bind RequestRecord.toRequest with
  | .ok (user, request) => progress.request config clock line user request
  | .error error => .ok { progress with log := .malformedRow line error :: progress.log }

/-- Carries out rows, from a line on. -/
def Progress.rows (progress : Progress) (config : Config) (clock : Clock) (line : Nat) :
    List (Except OrderError RequestRecord) → Except Trouble Progress
  | [] => .ok progress
  | record :: rest => do
    let progress ← progress.row config clock line record
    progress.rows config clock (line + 1) rest

/-- Closes the orders that have not been paid, as if their time were over. -/
def Progress.closeUnpaid (progress : Progress) (config : Config) (clock : Clock) :
    Except Trouble Progress :=
  match clock.finish.after? config.closeAfter with
  | none => .error (.windowOutOfRange (config.closeAfter / 60))
  | some deadline => do
    let (report, progress) ← progress.perform (Expiry.runDue deadline clock.finish)
    return { progress with log := .workerDone report :: progress.log }

/-- The first order is printed before the second one, or in its place. -/
def printsBefore (a b : Order) : Bool :=
  a.createdAt.isBefore b.createdAt || (a.createdAt == b.createdAt && a.orderNo ≤ b.orderNo)

/-- What a run prints. -/
structure Report where
  /-- The orders. -/
  sheet : String
  log : List LogRecord
  /-- The records of the log that are to be written. -/
  logFilter : LogFilter

/-- The records of the log that are written when a program of this name runs. -/
def Report.shownLog (report : Report) (program : String) : List LogRecord :=
  report.log.filter (report.logFilter.admits (LogRecord.targetOf program))

/-- A run from start to end. -/
def run (options : Options) (files : Files) (clock : Clock) : Except Trouble Report := do
  let some logFilter := LogFilter.ofSetting? options.logSetting | .error .brokenSetting
  let log := if options.dbPath.isSome then [LogRecord.noDatabase] else []
  let some closeAfter := window? options.closeMinutes clock.start
    | .error (.windowOutOfRange options.closeMinutes)
  let config := { Config.standard with singleSubscription := options.singleModel, closeAfter }
  let some catalogBytes := files.catalog | .error .noCatalog
  let catalog ← (readCatalog catalogBytes).mapError .refused
  let progress : Progress := ⟨World.calm Store.empty Queue.empty clock.start, 0, log⟩
  let ((), progress) ← progress.perform catalog.seed
  let some requestBytes := files.requests | .error .noRequests
  let progress ← progress.rows config clock 1 (RequestFile.ofBytes requestBytes)
  let progress ← if options.closeUnpaid then progress.closeUnpaid config clock else .ok progress
  let orders := progress.world.store.orders.rows.mergeSort printsBefore
  return ⟨OrderSheet.text orders, progress.log.reverse, logFilter⟩

end OrderDesk.CommandLine
