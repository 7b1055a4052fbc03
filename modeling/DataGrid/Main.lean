import DataGrid.CommandLine.Basic
/-!
The program: files and variables are fetched, the command is carried out on them, and what it says
is printed.
-/
open DataGrid CommandLine

/-- The number that the system gives an error, for the errors that reading a file may have. -/
def errorCode? : IO.Error → Option UInt32
  | .noFileOrDirectory _ code _ => some code
  | .permissionDenied _ code _ => some code
  | .inappropriateType _ code _ => some code
  | .invalidArgument _ code _ => some code
  | .otherError code _ => some code
  | _ => none

def fault (error : IO.Error) : FileFault :=
  match error with
  | .userError _ => .noText
  | error =>
      let known := (errorCode? error).bind fun code => FileFault.ofCode? code.toNat
      known.getD (.other error.toString)

def fetch (path : String) : IO (String × Except FileFault String) := do
  try
    let text ← IO.FS.readFile path
    pure (path, .ok text)
  catch error => pure (path, .error (fault error))

def settingsPaths : IO (List String) := do
  -- a relative directory for the user's settings counts for nothing
  let named := (← IO.getEnv "XDG_CONFIG_HOME").filter (·.startsWith "/")
  let base := named.or ((← IO.getEnv "HOME").map (· ++ "/.config"))
  let user := (base.map (· ++ "/gridquery/config.toml")).toList
  pure (user ++ ["/etc/gridquery/config.toml", "./config.toml"])

def settingNames : List String :=
  ["TIMEZONE_OFFSET", "SUMMARY_QUERY_LIMIT", "CASE_INSENSITIVE_REGEX", "REPLACE_IDS", "LOG_LEVEL",
    "LOG_FORMAT"]

def fetchVariable (name : String) : IO (Option (String × String)) := do
  let name := Settings.variableName name
  pure ((← IO.getEnv name).map fun value => (name, value))

def lookUp {α : Type} (entries : List (String × α)) (name : String) : Option α :=
  (entries.find? fun entry => entry.1 == name).map Prod.snd

def conclude : Outcome → IO Outcome
  | .write path content => do
      try
        IO.FS.writeFile path content
        pure (written path)
      catch _ => pure (notWritten path)
  | outcome => pure outcome

def report : Outcome → IO UInt32
  | .done code output complaint => do
      IO.print output
      IO.eprint complaint
      pure code.toUInt32
  | .write _ _ => pure 1

def main (arguments : List String) : IO UInt32 := do
  let settingsPaths ← settingsPaths
  let files ← (paths arguments settingsPaths).mapM fetch
  let environment ← settingNames.filterMapM fetchVariable
  let file := fun path => (lookUp files path).getD (.error .missing)
  report (← conclude (run ⟨file, lookUp environment, settingsPaths⟩ arguments))
