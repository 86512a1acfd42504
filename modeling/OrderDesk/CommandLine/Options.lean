import OrderDesk.Log
import OrderDesk.Text.Integer

/-!
# Command line options

The command line names a catalog and a request file. Options begin with two hyphens;
the value of an option follows it, or stands behind `=`. An option that is not given
takes its value from a variable of the environment, if it has one, and else its
standard value. No option may be given twice. What is written to the log is set by
a variable alone.

The arguments are read from left to right, and the first one that is faulty, or asks for
help or for the version, decides.
-/

namespace OrderDesk.CommandLine

open OrderDesk.Text

/-- What a run is asked to do. -/
structure Options where
  catalog : String
  requests : String
  /-- Where to keep the records. -/
  dbPath : Option String
  /-- Users who hold a subscription may not buy another one. -/
  singleModel : Bool
  /-- Minutes that an order stays open when it is not paid. -/
  closeMinutes : Nat
  /-- The orders that are not paid are closed at the end. -/
  closeUnpaid : Bool
  logFormat : LogFormat
  /-- Which records of the log are written. -/
  logSetting : Option String
  deriving DecidableEq

/-- What a command line asks for instead of a run. -/
inductive Detour
  | shortHelp
  | longHelp
  | version
  /-- The command line is faulty. -/
  | usage
  deriving DecidableEq

/-- What the arguments read so far have given. -/
structure Given where
  /-- Arguments that are no options, the last first. -/
  paths : List String
  dbPath : Option String
  singleModel : Bool
  closeMinutes : Option Nat
  closeUnpaid : Bool
  logFormat : Option LogFormat

namespace Given

/-- Nothing is given. -/
def nothing : Given := ⟨[], none, false, none, false, none⟩

/-- Takes an argument that is no option. There are two of them. -/
def takePath (given : Given) (path : String) : Except Detour Given :=
  if path.isEmpty || 2 ≤ given.paths.length then .error .usage
  else .ok { given with paths := path :: given.paths }

end Given

/-- A number of minutes: decimal digits that fit in 64 bits, perhaps behind a plus. -/
def readMinutes (value : String) : Option Nat :=
  let digits := match value.toList with
    | '+' :: rest => rest
    | cs => cs
  match decimalNat? digits with
  | some n => if n < idLimit then some n else none
  | none => none

/-- A truth value. -/
def readBool (value : String) : Option Bool :=
  if value = "true" then some true else if value = "false" then some false else none

/-- The options that have no value. -/
def flagNames : List String := ["single-model", "close-unpaid", "help", "version"]

/-- The options that have a value. -/
def valueNames : List String := ["db-path", "close-minutes", "log-format"]

/-- Takes an option without a value. -/
def takeFlag (given : Given) (name : String) : Except Detour Given :=
  if name = "help" then .error .longHelp
  else if name = "version" then .error .version
  else if name = "single-model" then
    if given.singleModel then .error .usage else .ok { given with singleModel := true }
  else if name = "close-unpaid" then
    if given.closeUnpaid then .error .usage else .ok { given with closeUnpaid := true }
  else .error .usage

/-- Takes an option with a value. -/
def takeValue (given : Given) (name value : String) : Except Detour Given :=
  if name = "db-path" then
    if given.dbPath.isSome || value.isEmpty then .error .usage
    else .ok { given with dbPath := some value }
  else if name = "close-minutes" then
    match given.closeMinutes, readMinutes value with
    | none, some minutes => .ok { given with closeMinutes := some minutes }
    | _, _ => .error .usage
  else if name = "log-format" then
    match given.logFormat, LogFormat.ofName? value false with
    | none, some format => .ok { given with logFormat := some format }
    | _, _ => .error .usage
  else .error .usage

/-- Takes an option that is a letter behind one hyphen. -/
def takeLetter : List Char → Except Detour Given
  | 'h' :: _ => .error .shortHelp
  | 'V' :: _ => .error .version
  | _ => .error .usage

/-- The argument cannot be the value of an option before it. -/
def looksLikeOption (arg : String) : Bool :=
  match arg.toList with
  | '-' :: _ :: _ => true
  | _ => false

/-- Takes arguments that are all no options. -/
def takePaths (given : Given) : List String → Except Detour Given
  | [] => .ok given
  | path :: rest => do
    let given ← given.takePath path
    takePaths given rest

/-- Takes the arguments from left to right. -/
def takeArgs (given : Given) : List String → Except Detour Given
  | [] => .ok given
  | arg :: rest =>
    match arg.toList with
    | ['-', '-'] => takePaths given rest
    | '-' :: '-' :: long =>
      let name := String.ofList (long.takeWhile (· != '='))
      match long.dropWhile (· != '=') with
      | _ :: value =>
        if name ∈ valueNames then do
          let given ← takeValue given name (String.ofList value)
          takeArgs given rest
        else .error .usage
      | [] =>
        if name ∈ flagNames then do
          let given ← takeFlag given name
          takeArgs given rest
        else
          match rest with
          | value :: rest =>
            if name ∈ valueNames ∧ ¬ looksLikeOption value then do
              let given ← takeValue given name value
              takeArgs given rest
            else .error .usage
          | [] => .error .usage
    | '-' :: letter :: letters => takeLetter (letter :: letters)
    | _ => do
      let given ← given.takePath arg
      takeArgs given rest

/-- The value that was given, or that of a variable, or the standard one. -/
def settle {α : Type} (given : Option α) (setting : Option String) (read : String → Option α)
    (standard : α) : Except Detour α :=
  match given, setting with
  | some value, _ => .ok value
  | none, none => .ok standard
  | none, some text =>
    match read text with
    | some value => .ok value
    | none => .error .usage

/-- The options that a command line gives. -/
def Options.ofArgs (args : List String) (environment : String → Option String) :
    Except Detour Options := do
  let given ← takeArgs Given.nothing args
  let singleModel ← settle (if given.singleModel then some true else none)
    (environment "SUBSCRIBE_SINGLE_MODEL") readBool false
  let closeMinutes ← settle given.closeMinutes (environment "ORDER_CLOSE_MINUTES") readMinutes 15
  let logFormat ← settle given.logFormat (environment "LOG_FORMAT")
    (fun name => LogFormat.ofName? name false) LogFormat.standard
  match given.paths with
  | [requests, catalog] =>
    return { catalog, requests, dbPath := given.dbPath, singleModel, closeMinutes,
             closeUnpaid := given.closeUnpaid, logFormat,
             logSetting := environment "RUST_LOG" }
  | _ => .error .usage

end OrderDesk.CommandLine
