import DataGrid.CommandLine.Arguments
/-!
The help texts of the command line.
-/
namespace DataGrid.CommandLine

def listed (use purpose : String) : List String := [use, "          " ++ purpose]

def settingsLines : List String :=
  listed "      --config <CONFIG>" "Config file (default: search the standard locations)"

def offsetLines : List String :=
  listed "      --timezone-offset <TIMEZONE_OFFSET>"
    "Client timezone offset in minutes (UTC - local), overrides the config"

def helpLines : List String := listed "  -h, --help" "Print help"

def requestLines : List String := ["Arguments:", "  <SPEC>  Path to the load request (JSON)", ""]

def helpOf : Option Topic → List String
  | none =>
      ["Compile data-grid load requests into aggregation pipelines",
        "",
        "Usage: gridquery [OPTIONS] <COMMAND>",
        "",
        "Commands:",
        "  compile  Print the pipelines a load request compiles to",
        "  run      Run a load request against rows read from a JSON array",
        "  config   Generate default config file",
        "  help     Print this message or the help of the given subcommand(s)",
        "",
        "Options:"] ++ settingsLines ++ offsetLines ++ helpLines ++
      listed "  -V, --version" "Print version"
  | some .compile =>
      ["Print the pipelines a load request compiles to",
        "",
        "Usage: gridquery compile [OPTIONS] <SPEC>",
        ""] ++ requestLines ++ ["Options:"] ++ settingsLines ++ offsetLines ++ helpLines
  | some .run =>
      ["Run a load request against rows read from a JSON array",
        "",
        "Usage: gridquery run [OPTIONS] --data <DATA> <SPEC>",
        ""] ++ requestLines ++ ["Options:"] ++ settingsLines ++
      listed "  -d, --data <DATA>" "Path to the rows (JSON array of objects)" ++
      listed "      --collection <COLLECTION>"
        "Collection name used in diagnostics [default: rows]" ++
      offsetLines ++ helpLines
  | some .config =>
      ["Generate default config file",
        "",
        "Usage: gridquery config [OPTIONS]",
        "",
        "Options:"] ++ settingsLines ++
      listed "  -o, --output <OUTPUT>" "Output path (default: stdout)" ++
      offsetLines ++ helpLines

def help (topic : Option Topic) : String := Text.ofLines (helpOf topic)

def helpUse : String :=
  Text.ofLines
    ["Print this message or the help of the given subcommand(s)",
      "",
      "Usage: gridquery help [COMMAND]...",
      "",
      "Arguments:",
      "  [COMMAND]...  Print help for the subcommand(s)"]

def versionText : String := "gridquery 0.1.0\n"

end DataGrid.CommandLine
