import DataGrid.Collection
import DataGrid.CommandLine.File
import DataGrid.CommandLine.Help
import DataGrid.Config.Settings
import DataGrid.Json.Reader
import DataGrid.Load.Executor
import DataGrid.Pattern.Reader
import DataGrid.Plan.Basic
import DataGrid.Request.Wire
/-!
What a command line does, given the texts of the files it names and the environment it runs in.
-/
namespace DataGrid.CommandLine

/-- The world as a command sees it: the texts of files by path, the variables of the environment,
and the paths at which settings are looked for. -/
structure World where
  files : String → Except FileFault String
  environment : String → Option String
  settingsPaths : List String

/-- A command ends with texts to print and an exit code, or asks for a file to be written. -/
inductive Outcome where
  | done (code : Nat) (output complaint : String)
  | write (path content : String)
  deriving DecidableEq, Repr

inductive Failure where
  | settingsUnreadable (path : String) (fault : FileFault)
  | settingsBroken (path : String) (line column : Nat)
  | unreadable (path : String)
  | noJson (path : String)
  | noRequest (path : String)
  | noArray (path : String)
  | row (error : StoreError)
  | load (error : LoadError)
  | unwritable (path : String)
  deriving DecidableEq, Repr

namespace Failure

def message : Failure → String
  | .settingsUnreadable path fault =>
      "Failed to read config file " ++ quotedPath path ++ ": " ++ fault.reason
  | .settingsBroken path line column =>
      "Failed to parse config file " ++ quotedPath path ++ ": TOML parse error at line " ++
        toString line ++ ", column " ++ toString column
  | .unreadable path => "Failed to read " ++ path
  | .noJson path => "Invalid JSON in " ++ path
  | .noRequest path => "Invalid load request in " ++ path
  | .noArray path => path ++ " does not hold a JSON array"
  | .row error => error.message
  | .load error => error.message
  | .unwritable path => "Failed to write " ++ path

def outcome (failure : Failure) : Outcome := .done 1 "" ("Error: " ++ failure.message ++ "\n")

end Failure

def readJson (world : World) (path : String) : Except Failure Value :=
  match world.files path with
  | .error _ => throw (.unreadable path)
  | .ok text =>
      match Json.read? text with
      | some value => pure value
      | none => throw (.noJson path)

def readRequest (world : World) (path : String) : Except Failure Request := do
  match Request.ofValue? (← readJson world path) with
  | some request => pure request
  | none => throw (.noRequest path)

/-- The settings of the file that is named, or else of the first place that has some. -/
def readSettings (world : World) (named : Option String) : Except Failure Settings :=
  match named with
  | none =>
      let texts := world.settingsPaths.filterMap fun path => (world.files path).toOption
      pure (Settings.ofFirst texts world.environment)
  | some path =>
      match world.files path with
      | .error fault => throw (.settingsUnreadable path fault)
      | .ok text =>
          match Settings.ofText text with
          | .ok settings => pure (settings.withEnvironment world.environment)
          | .error (line, column) => throw (.settingsBroken path line column)

def optionsOf (settings : Settings) (offset : Option Int) : Options :=
  let options := settings.query.options
  -- the command line goes before the settings
  { options with offset := offset.getD options.offset }

def printed (value : Value) : Outcome := .done 0 (Json.pretty value ++ "\n") ""

def runLoad (world : World) (options : Options) (request rows collection : String) :
    Except Failure Outcome := do
  let request ← readRequest world request
  match ← readJson world rows with
  | .array items =>
      match Collection.ofValues items with
      | .error error => throw (.row error)
      | .ok store =>
          let store : Collection := { store with name := collection }
          match (LoadResult.ofPolls .usual (store.run Pattern.compile) request options).1 with
          | .ok result => pure (printed result.toValue)
          | .error error => throw (.load error)
  | _ => throw (.noArray rows)

def carryOut (world : World) (invocation : Invocation) : Except Failure Outcome := do
  let settings ← readSettings world invocation.settings
  let options := optionsOf settings invocation.offset
  match invocation.command with
  | .compile request => do
      let request ← readRequest world request
      pure (printed (Plan.ofRequest request options).toValue)
  | .run request rows collection => runLoad world options request rows collection
  | .config none => pure (.done 0 Settings.defaultText "")
  | .config (some path) => pure (.write path Settings.defaultText)

def run (world : World) (arguments : List String) : Outcome :=
  match parse arguments with
  | .error (.usage reason) => .done 2 "" ("error: " ++ reason ++ "\n")
  | .error (.help topic) => .done 0 (help topic) ""
  | .error .helpUse => .done 0 helpUse ""
  | .error .version => .done 0 versionText ""
  | .ok invocation =>
      match carryOut world invocation with
      | .ok outcome => outcome
      | .error failure => failure.outcome

def written (path : String) : Outcome := .done 0 ("Config written to " ++ path ++ "\n") ""

def notWritten (path : String) : Outcome := (Failure.unwritable path).outcome

def paths (arguments : List String) (settingsPaths : List String) : List String :=
  match parse arguments with
  | .error _ => []
  | .ok invocation =>
      let operands := match invocation.command with
        | .compile request => [request]
        | .run request rows _ => [request, rows]
        | .config _ => []
      match invocation.settings with
      | some path => path :: operands
      | none => settingsPaths ++ operands

end DataGrid.CommandLine
