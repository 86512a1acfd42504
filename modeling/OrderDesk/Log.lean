import OrderDesk.Error
import OrderDesk.Expiry
import OrderDesk.Json.Printer

/-!
# The log

What the program tells about its work, apart from the orders: a record for each event,
in a form for people or in a form for machines, from a level on.
-/

namespace OrderDesk

open OrderDesk.Text

/-- The form of the log. -/
inductive LogFormat
  /-- A line for people to read. -/
  | pretty
  /-- A JSON object for each record. -/
  | json
  deriving DecidableEq

namespace LogFormat

/-- The form that is used unless another one is asked for. -/
def standard : LogFormat := .pretty

/-- The name of a form. -/
def name : LogFormat → String
  | .pretty => "pretty"
  | .json => "json"

/-- The form with a name, in any case if that does not matter. -/
def ofName? (name : String) (ignoreCase : Bool) : Option LogFormat :=
  let given := if ignoreCase then name.map Char.toLower else name
  [pretty, json].find? (·.name == given)

end LogFormat

/-- How much a record matters. -/
inductive LogLevel
  | error
  | warn
  | info
  | debug
  | trace
  deriving DecidableEq

namespace LogLevel

/-- The name of a level. -/
def name : LogLevel → String
  | .error => "ERROR"
  | .warn => "WARN"
  | .info => "INFO"
  | .debug => "DEBUG"
  | .trace => "TRACE"

/-- Levels by how much of the log they let through. -/
def rank : LogLevel → Nat
  | .error => 1
  | .warn => 2
  | .info => 3
  | .debug => 4
  | .trace => 5

end LogLevel

/-- An event of a run. -/
inductive LogRecord
  /-- There is no database to keep the records in. -/
  | noDatabase
  /-- A row cannot be read. -/
  | malformedRow (line : Nat) (error : OrderError)
  /-- A request was refused. -/
  | rejected (line : Nat) (user : UserId) (error : OrderError)
  /-- The orders that were not paid have been closed. -/
  | workerDone (report : Expiry.WorkerReport)
  deriving DecidableEq

namespace LogRecord

/-- The level of a record. -/
def level : LogRecord → LogLevel
  | .workerDone _ => .info
  | _ => .warn

/-- What a record says. -/
def message : LogRecord → String
  | .noDatabase =>
    "Persistent storage requested via --db-path, but 'storage-rocksdb' feature is not enabled. " ++
      "Falling back to In-Memory storage."
  | .malformedRow _ _ => "skipping malformed request"
  | .rejected _ _ _ => "request rejected"
  | .workerDone _ => "expiry worker done"

/-- The values that a record holds, but for the text of its error. -/
def values : LogRecord → List (String × Json)
  | .noDatabase => []
  | .malformedRow line _ => [("line", .int line)]
  | .rejected line user error =>
    [("line", .int line), ("user_id", .int user), ("kind", .str error.kind.name)]
  | .workerDone report => [("processed", .int report.processed), ("failed", .int report.failed)]

/-- The error that a record is about. -/
def error? : LogRecord → Option OrderError
  | .malformedRow _ error | .rejected _ _ error => some error
  | _ => none

/-- All fields of a record. -/
def fields (record : LogRecord) : List (String × Json) :=
  record.values ++ match record.error? with
    | some error => [("error", .str error.message)]
    | none => []

/-- The target under which a program writes its log: its name, with underscores for
hyphens. -/
def targetOf (program : String) : String := program.map fun c => if c = '-' then '_' else c

/-- A record for machines. -/
def jsonLine (record : LogRecord) (target : String) (now : Instant) : String :=
  (Json.obj [("timestamp", now.toJson), ("level", .str record.level.name),
    ("fields", .obj (("message", .str record.message) :: record.fields)),
    ("target", .str target)]).text

/-- A record for people. -/
def prettyLine (record : LogRecord) (target : String) (now : Instant) : String :=
  let fields := record.fields.map fun (key, value) => " " ++ key ++ "=" ++ value.text
  now.text ++ " " ++ record.level.name ++ " " ++ target ++ ": " ++ record.message ++
    String.join fields

/-- A record in the form that is asked for. -/
def line (record : LogRecord) (format : LogFormat) (target : String) (now : Instant) : String :=
  match format with
  | .pretty => record.prettyLine target now
  | .json => record.jsonLine target now

end LogRecord

end OrderDesk
