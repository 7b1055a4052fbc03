import DataGrid.Text.Word
/-!
The arguments of the command line: a command with its operands, and options, some of which every
command takes. An option's value stands behind an equals sign or in the next argument.
-/
namespace DataGrid.CommandLine

inductive Topic where
  | compile | run | config
  deriving DecidableEq, Repr

def Topic.ofName? : String → Option Topic
  | "compile" => some .compile
  | "run" => some .run
  | "config" => some .config
  | _ => none

inductive Command where
  | compile (request : String)
  | run (request rows collection : String)
  | config (output : Option String)
  deriving DecidableEq, Repr

structure Invocation where
  settings : Option String
  offset : Option Int
  command : Command
  deriving DecidableEq, Repr

/-- Why arguments ask for no command to be carried out. Help is about one command or all of them, or
about how help is asked for. -/
inductive Stop where
  | usage (reason : String)
  | help (topic : Option Topic)
  | helpUse
  | version
  deriving DecidableEq, Repr

/-- An option with a value; only some values may start with a dash. -/
structure OptionForm where
  name : String
  short : Option Char
  dashes : Bool
  deriving DecidableEq, Repr

def sharedOptions : List OptionForm := [⟨"config", none, false⟩, ⟨"timezone-offset", none, true⟩]

def Topic.options : Topic → List OptionForm
  | .compile => sharedOptions
  | .run => ⟨"data", some 'd', false⟩ :: ⟨"collection", none, false⟩ :: sharedOptions
  | .config => ⟨"output", some 'o', false⟩ :: sharedOptions

def Topic.operands : Topic → Nat
  | .compile => 1
  | .run => 1
  | .config => 0

/-- What arguments have given so far, operands in reverse. -/
structure Given where
  options : List (String × String)
  operands : List String
  deriving DecidableEq, Repr

namespace Given

def value? (given : Given) (name : String) : Option String :=
  (given.options.find? fun option => option.1 == name).map Prod.snd

def accept (given : Given) (form : OptionForm) (value : String) : Except Stop Given :=
  if (given.value? form.name).isSome then
    throw (.usage ("the argument '--" ++ form.name ++ "' cannot be used multiple times"))
  -- only the name of a collection may be empty
  else if value = "" ∧ form.name ≠ "collection" then
    throw (.usage ("a value is required for '--" ++ form.name ++ "'"))
  else if form.name = "timezone-offset" ∧ (Text.int32? value.toList).isNone then
    throw (.usage ("invalid value '" ++ value ++ "' for '--" ++ form.name ++ "'"))
  else pure { given with options := (form.name, value) :: given.options }

end Given

def unexpected (argument : String) : Stop :=
  .usage ("unexpected argument '" ++ argument ++ "' found")

def Given.acceptOperand (topic : Topic) (given : Given) (operand : String) : Except Stop Given :=
  if topic.operands ≤ given.operands.length then throw (unexpected operand)
  else if operand = "" then throw (.usage "a value is required")
  else pure { given with operands := operand :: given.operands }

/-- How one argument reads by itself. -/
inductive Word where
  | endOfOptions
  | long (name : List Char) (value : Option (List Char))
  | short (letter : Char) (rest : List Char)
  | operand (text : String)
  deriving DecidableEq, Repr

def Word.ofArgument (argument : String) : Word :=
  match argument.toList with
  | ['-', '-'] => .endOfOptions
  | '-' :: '-' :: rest =>
      match rest.span (· ≠ '=') with
      | (name, '=' :: value) => .long name (some value)
      | (name, _) => .long name none
  | '-' :: letter :: rest => .short letter rest
  | _ => .operand argument

def startsWithDash (argument : String) : Bool :=
  match argument.toList with
  | '-' :: _ :: _ => true
  | _ => false

def standing? (topic : Option Topic) : Word → Option Stop
  | .short 'h' _ => some (.help topic)
  | .short 'V' _ => if topic.isNone then some .version else none
  | .long name none =>
      if name = "help".toList then some (.help topic)
      else if name = "version".toList && topic.isNone then some .version
      else none
  | _ => none

/-- The option of a word, with the value that the word itself holds. -/
def optionOf? (forms : List OptionForm) : Word → Option (OptionForm × Option String)
  | .long name value =>
      (forms.find? fun form => form.name.toList == name).map fun form =>
        (form, value.map String.ofList)
  | .short letter rest =>
      (forms.find? fun form => form.short == some letter).map fun form =>
        match rest with
        | [] => (form, none)
        | '=' :: value => (form, some (String.ofList value))
        | value => (form, some (String.ofList value))
  | _ => none

def nextValue (form : OptionForm) : List String → Except Stop (String × List String)
  | [] => throw (.usage ("a value is required for '--" ++ form.name ++ "'"))
  | argument :: rest =>
      if form.dashes || !startsWithDash argument then pure (argument, rest)
      else throw (.usage ("a value is required for '--" ++ form.name ++ "'"))

/-- Reads arguments, of which each round takes one at least, up to the first operand or to the end.
Yields the operand with the arguments after it. -/
def readOptions (forms : List OptionForm) (topic : Option Topic) :
    (fuel : Nat) → Given → List String → Except Stop (Given × Option (String × List String))
  | 0, given, _ => pure (given, none)
  | _, given, [] => pure (given, none)
  | fuel + 1, given, argument :: rest =>
      let word := Word.ofArgument argument
      match standing? topic word with
      | some stop => throw stop
      | none =>
          match word with
          | .operand text => pure (given, some (text, rest))
          | .endOfOptions =>
              match topic, rest with
              -- nothing behind two dashes is an option
              | some _, operand :: rest => pure (given, some (operand, "--" :: rest))
              | none, argument :: _ => throw (unexpected argument)
              | _, [] => pure (given, none)
          | word =>
              match optionOf? forms word with
              | none => throw (unexpected argument)
              | some (form, some value) => do
                  readOptions forms topic fuel (← given.accept form value) rest
              | some (form, none) => do
                  let (value, rest) ← nextValue form rest
                  readOptions forms topic fuel (← given.accept form value) rest

def readAll (forms : List OptionForm) (topic : Topic) :
    (fuel : Nat) → Given → List String → Except Stop Given
  | 0, given, _ => pure given
  | fuel + 1, given, arguments => do
      match ← readOptions forms (some topic) (arguments.length + 1) given arguments with
      | (given, none) => pure given
      | (given, some (operand, rest)) => do
          readAll forms topic fuel (← given.acceptOperand topic operand) rest

def missing (operand : String) : Stop :=
  .usage ("the following required arguments were not provided: " ++ operand)

def command (topic : Topic) (given : Given) : Except Stop Command :=
  match topic, given.operands with
  | .compile, request :: _ => pure (.compile request)
  | .compile, [] => throw (missing "<SPEC>")
  | .run, request :: _ =>
      match given.value? "data" with
      | some rows => pure (.run request rows ((given.value? "collection").getD "rows"))
      | none => throw (missing "--data <DATA>")
  | .run, [] => throw (missing "<SPEC>")
  | .config, _ => pure (.config (given.value? "output"))

/-- Help is asked for as a command, about one command, itself among them, or all of them. -/
def helpStop : List String → Stop
  | [] => .help none
  | ["help"] => .helpUse
  | [name] =>
      match Topic.ofName? name with
      | some topic => .help (some topic)
      | none => .usage ("unrecognized subcommand '" ++ name ++ "'")
  | _ :: extra :: _ => unexpected extra

def parse (arguments : List String) : Except Stop Invocation := do
  let (before, found) ←
    readOptions sharedOptions none (arguments.length + 1) ⟨[], []⟩ arguments
  match found with
  | none => throw (.usage "a subcommand is required")
  | some (name, rest) =>
      if name = "help" then throw (helpStop rest)
      match Topic.ofName? name with
      | none => throw (.usage ("unrecognized subcommand '" ++ name ++ "'"))
      | some topic =>
          let given ← readAll topic.options topic (rest.length + 1) ⟨[], []⟩ rest
          -- options that stand behind the command go before those in front of it
          let shared := fun name => (given.value? name).or (before.value? name)
          pure
            { settings := shared "config"
              offset := (shared "timezone-offset").bind fun text => Text.int32? text.toList
              command := ← command topic given }

end DataGrid.CommandLine
