import OrderDesk.CommandLine.Options

/-!
# Help

What the program prints when it is asked for help or for its version instead of a run.
-/

namespace OrderDesk.CommandLine

/-- A variable of the environment with its value. -/
def variableText (environment : String → Option String) (name : String) : String :=
  "[env: " ++ name ++ "=" ++ (environment name).getD "" ++ "]"

/-- How the program is called. -/
def usageLines (program : String) : List String :=
  ["Usage: " ++ program ++ " [OPTIONS] <CATALOG> <REQUESTS>"]

/-- What the catalog is. -/
def catalogHelp : String :=
  "Catalog JSON with plans, coupons, payment methods, users and subscriptions"

/-- What the request file is. -/
def requestsHelp : String := "Order requests CSV file"

/-- What `--db-path` is for. -/
def dbPathHelp : String := "Path to persistent database (optional). If provided, uses RocksDB"

/-- What `--single-model` is for. -/
def singleModelHelp : String := "Refuse purchases from users already holding a subscription"

/-- What `--close-minutes` is for. -/
def closeMinutesHelp : String := "Minutes an unpaid order stays open"

/-- What `--close-unpaid` is for. -/
def closeUnpaidHelp : String := "Run the expiry worker as if the close window had elapsed"

/-- The lines of the short help. -/
def shortHelp (program : String) (environment : String → Option String) : List String :=
  usageLines program ++
    ["",
      "Arguments:",
      "  <CATALOG>   " ++ catalogHelp,
      "  <REQUESTS>  " ++ requestsHelp,
      "",
      "Options:",
      "      --db-path <DB_PATH>",
      "          " ++ dbPathHelp,
      "      --single-model",
      "          " ++ singleModelHelp ++ " " ++ variableText environment "SUBSCRIBE_SINGLE_MODEL",
      "      --close-minutes <CLOSE_MINUTES>",
      "          " ++ closeMinutesHelp ++ " " ++ variableText environment "ORDER_CLOSE_MINUTES" ++
        " [default: 15]",
      "      --close-unpaid",
      "          " ++ closeUnpaidHelp,
      "      --log-format <LOG_FORMAT>",
      "          " ++ variableText environment "LOG_FORMAT" ++
        " [default: pretty] [possible values: pretty, json]",
      "  -h, --help",
      "          Print help (see more with '--help')",
      "  -V, --version",
      "          Print version"]

/-- The lines of the long help. -/
def longHelp (program : String) (environment : String → Option String) : List String :=
  usageLines program ++
    ["",
      "Arguments:",
      "  <CATALOG>",
      "          " ++ catalogHelp,
      "",
      "  <REQUESTS>",
      "          " ++ requestsHelp,
      "",
      "Options:",
      "      --db-path <DB_PATH>",
      "          " ++ dbPathHelp,
      "",
      "      --single-model",
      "          " ++ singleModelHelp,
      "          ",
      "          " ++ variableText environment "SUBSCRIBE_SINGLE_MODEL",
      "",
      "      --close-minutes <CLOSE_MINUTES>",
      "          " ++ closeMinutesHelp,
      "          ",
      "          " ++ variableText environment "ORDER_CLOSE_MINUTES",
      "          [default: 15]",
      "",
      "      --close-unpaid",
      "          " ++ closeUnpaidHelp,
      "",
      "      --log-format <LOG_FORMAT>",
      "          " ++ variableText environment "LOG_FORMAT",
      "          [default: pretty]",
      "",
      "          Possible values:",
      "          - pretty: Human-readable format for development",
      "          - json:   JSON format for log aggregation",
      "",
      "  -h, --help",
      "          Print help (see a summary with '-h')",
      "",
      "  -V, --version",
      "          Print version"]

/-- What the program prints, under the name by which it is called. A faulty command line
is not answered here. -/
def detourText (program : String) (environment : String → Option String) : Detour → String
  | .shortHelp => String.join ((shortHelp program environment).map (· ++ "\n"))
  | .longHelp => String.join ((longHelp program environment).map (· ++ "\n"))
  | .version => program ++ " 0.1.0\n"
  | .usage => ""

/-- What the program says about a faulty command line. -/
def usageText (program : String) : String :=
  "error: the arguments cannot be read\n\n" ++ String.join ((usageLines program).map (· ++ "\n")) ++
    "\nFor more information, try '--help'.\n"

end OrderDesk.CommandLine
