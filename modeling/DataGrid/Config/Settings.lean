import DataGrid.Request.Basic
import DataGrid.Toml.Reader
/-!
Settings for every call: defaults of the options, and the logging. They are read from a TOML text,
where what is missing keeps its default and unknown keys count for nothing.
-/
namespace DataGrid

structure Logging where
  level : String := "info"
  format : String := "pretty"
  deriving DecidableEq, Repr

structure QuerySettings where
  offset : Int := 0
  summaryLimit : Nat := 100
  ignoreCase : Bool := true
  replaceIds : Bool := true
  deriving DecidableEq, Repr

structure Settings where
  query : QuerySettings := {}
  logging : Logging := {}
  deriving DecidableEq, Repr

namespace QuerySettings

def options (settings : QuerySettings) : Options :=
  { replaceIds := settings.replaceIds
    summaryLimit := settings.summaryLimit
    offset := settings.offset
    ignoreCase := settings.ignoreCase }

end QuerySettings

namespace Settings

def section? (names : List String) (key : Toml.Key) (value : Toml) : Except Nat Toml.Fields :=
  let keys := names.map fun name => (⟨key.place, name⟩ : Toml.Key)
  match value with
  | .table _ _ fields => pure fields
  | .inline _ fields => pure fields
  | .array _ items => pure (keys.zip items)
  | .tables place elements => pure (keys.zip (elements.map fun fields => .inline place fields))
  -- a date has none of the fields
  | .dateTime _ => pure []
  | other => .error (other.placeUnder key)

def content {α : Type} (key : Toml.Key) (value : Toml) (read : Toml → Option α) : Except Nat α :=
  match read value with
  | some content => pure content
  | none => .error (value.placeUnder key)

def text? : Toml → Option String
  | .string _ text => some text
  | _ => none

def bool? : Toml → Option Bool
  | .boolean _ truth => some truth
  | _ => none

def int32? : Toml → Option Int
  | .integer _ n => if -0x80000000 ≤ n ∧ n < 0x80000000 then some n else none
  | _ => none

def nat? : Toml → Option Nat
  | .integer _ n => if 0 ≤ n then some n.toNat else none
  | _ => none

def setQuery (settings : QuerySettings) (key : Toml.Key) (value : Toml) :
    Except Nat QuerySettings := do
  match key.name with
  | "timezone_offset" => pure { settings with offset := ← content key value int32? }
  | "summary_query_limit" => pure { settings with summaryLimit := ← content key value nat? }
  | "case_insensitive_regex" => pure { settings with ignoreCase := ← content key value bool? }
  | "replace_ids" => pure { settings with replaceIds := ← content key value bool? }
  | _ => pure settings

def setLogging (settings : Logging) (key : Toml.Key) (value : Toml) : Except Nat Logging := do
  match key.name with
  | "level" => pure { settings with level := ← content key value text? }
  | "format" => pure { settings with format := ← content key value text? }
  | _ => pure settings

def queryFields : List String :=
  ["timezone_offset", "summary_query_limit", "case_insensitive_regex", "replace_ids"]

def loggingFields : List String := ["level", "format"]

def setSection (settings : Settings) (key : Toml.Key) (value : Toml) : Except Nat Settings := do
  match key.name with
  | "query" => do
      -- in the order of the text, which decides about the place that is told of several wrong ones
      let query ← (← section? queryFields key value).foldlM
        (fun query (key, value) => setQuery query key value) settings.query
      pure { settings with query }
  | "logging" => do
      let logging ← (← section? loggingFields key value).foldlM
        (fun logging (key, value) => setLogging logging key value) settings.logging
      pure { settings with logging }
  | _ => pure settings

def ofFields (fields : Toml.Fields) : Except Nat Settings :=
  fields.foldlM (fun settings (key, value) => setSection settings key value) {}

/-- Settings from a TOML text, or the line and column of what is wrong with it. -/
def ofText (text : String) : Except (Nat × Nat) Settings :=
  match (Toml.read text).bind ofFields with
  | .ok settings => .ok settings
  | .error left => .error (Toml.position text left)

def variableName (name : String) : String := "GRIDQUERY_" ++ name

/-- A value that can be read replaces the setting; any other counts for nothing. -/
def override {α : Type} (value : Option String) (read : List Char → Option α) (setting : α) : α :=
  ((value.map fun text => Text.trim text.toList).bind read).getD setting

def withEnvironment (settings : Settings) (lookup : String → Option String) : Settings :=
  let read := fun name => lookup (variableName name)
  { query :=
      { offset := override (read "TIMEZONE_OFFSET") Text.int32? settings.query.offset
        summaryLimit :=
          override (read "SUMMARY_QUERY_LIMIT") Text.nat64? settings.query.summaryLimit
        ignoreCase := override (read "CASE_INSENSITIVE_REGEX") Text.bool? settings.query.ignoreCase
        replaceIds := override (read "REPLACE_IDS") Text.bool? settings.query.replaceIds }
    logging :=
      { level := (read "LOG_LEVEL").getD settings.logging.level
        format := (read "LOG_FORMAT").getD settings.logging.format } }

def ofEnvironment (lookup : String → Option String) : Settings := withEnvironment {} lookup

/-- The first of the texts that can be read, overridden by an environment; else the defaults. -/
def ofFirst (texts : List String) (lookup : String → Option String) : Settings :=
  match texts.findSome? fun text => (ofText text).toOption with
  | some settings => settings.withEnvironment lookup
  | none => ofEnvironment lookup

def defaultText : String :=
  Text.ofLines
    ["# gridquery Configuration",
      "#",
      "# Environment variables override these settings:",
      "# - GRIDQUERY_TIMEZONE_OFFSET",
      "# - GRIDQUERY_SUMMARY_QUERY_LIMIT",
      "# - GRIDQUERY_CASE_INSENSITIVE_REGEX",
      "# - GRIDQUERY_REPLACE_IDS",
      "# - GRIDQUERY_LOG_LEVEL",
      "# - GRIDQUERY_LOG_FORMAT",
      "",
      "[query]",
      "# Client timezone offset in minutes (UTC - local), applied to date parts",
      "timezone_offset = 0",
      "",
      "# Maximum number of summary queries per load call",
      "summary_query_limit = 100",
      "",
      "# Match startswith/endswith/contains/notcontains case-insensitively",
      "case_insensitive_regex = true",
      "",
      "# Return object ids as hex strings",
      "replace_ids = true",
      "",
      "[logging]",
      "# Log level: trace, debug, info, warn, error",
      "level = \"info\"",
      "",
      "# Log format: pretty (for development) or json (for production)",
      "format = \"pretty\""]

end Settings

end DataGrid
