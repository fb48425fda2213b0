import QueryTree.Dialect

/-!
The arguments of the command line. Options that hold for every command may stand on either side of
the command's name; on one side each option stands at most once. Arguments are read from left to
right, and reading ends with the first one that is wrong or that asks for a help text.
-/

namespace QueryTree.Cli

/-- How a compiled statement is shown. -/
inductive Output where
  | table
  | json
deriving DecidableEq, Repr

def Output.all : List Output := [.table, .json]

def Output.name : Output → String
  | .table => "table"
  | .json => "json"

inductive Command where
  | compile (file : String) (dialect : Option Dialect) (output : Output)
  | dialects
  | operators
deriving DecidableEq, Repr

/-- What a user asks for. -/
structure Request where
  config : Option String
  verbose : Bool
  command : Command
deriving DecidableEq, Repr

/-- Why no command is carried out. -/
inductive Stop where
  /-- The arguments are wrong. -/
  | usage
  | help
  | version
deriving DecidableEq, Repr

/-- The place of an argument: before the name of the command, or after it. -/
inductive Scope where
  | common
  | compile
  | listing
deriving DecidableEq, Repr

inductive Switch where
  | config
  | verbose
  | dialect
  | output
  | help
  | version
deriving DecidableEq, Repr

namespace Switch

def all : List Switch := [.config, .verbose, .dialect, .output, .help, .version]

def longName : Switch → String
  | .config => "config"
  | .verbose => "verbose"
  | .dialect => "dialect"
  | .output => "format"
  | .help => "help"
  | .version => "version"

def letter : Switch → Char
  | .config => 'c'
  | .verbose => 'v'
  | .dialect => 'd'
  | .output => 'f'
  | .help => 'h'
  | .version => 'V'

def takesValue : Switch → Bool
  | .config | .dialect | .output => true
  | .verbose | .help | .version => false

def isKnown (scope : Scope) : Switch → Bool
  | .config | .verbose | .help => true
  | .dialect | .output => scope == .compile
  | .version => scope == .common

/-- The switch with a long name. -/
def ofName? (scope : Scope) (name : List Char) : Option Switch :=
  all.find? (fun switch => switch.longName.toList == name && switch.isKnown scope)

def ofLetter? (scope : Scope) (c : Char) : Option Switch :=
  all.find? (fun switch => switch.letter == c && switch.isKnown scope)

end Switch

/-- What has been found on one side of the command's name. -/
structure Settings where
  config : Option String := none
  verbose : Bool := false
  dialect : Option Dialect := none
  output : Option Output := none
  file : Option String := none

namespace Settings

/-- Turns on a switch that takes no value. -/
def turnOn (settings : Settings) (switch : Switch) : Except Stop Settings :=
  match switch with
  | .verbose => if settings.verbose then .error .usage else .ok { settings with verbose := true }
  | .help => .error .help
  | .version => .error .version
  | _ => .error .usage

/-- Gives a switch its value. No value is empty. -/
def give (settings : Settings) (switch : Switch) (value : String) : Except Stop Settings :=
  match switch with
  | .config =>
    if settings.config.isSome || value.isEmpty then .error .usage
    else .ok { settings with config := some value }
  | .dialect =>
    match settings.dialect, Dialect.all.find? (fun dialect => dialect.name == value) with
    | none, some dialect => .ok { settings with dialect := some dialect }
    | _, _ => .error .usage
  | .output =>
    match settings.output, Output.all.find? (fun output => output.name == value) with
    | none, some output => .ok { settings with output := some output }
    | _, _ => .error .usage
  | _ => .error .usage

/-- Takes an argument that belongs to no switch. Only one command has such an argument. -/
def takeFile (settings : Settings) (scope : Scope) (file : String) : Except Stop Settings :=
  if scope != .compile || settings.file.isSome || file.isEmpty then .error .usage
  else .ok { settings with file := some file }

/-- Reads an argument with a long name after two hyphens. The value may follow an equals sign; else
the switch that still needs one is given back. -/
def readLong (settings : Settings) (scope : Scope) (cs : List Char) :
    Except Stop (Settings × Option Switch) :=
  let name := cs.takeWhile (· != '=')
  match Switch.ofName? scope name, cs.dropWhile (· != '=') with
  | none, _ => .error .usage
  | some switch, [] =>
    if switch.takesValue then .ok (settings, some switch)
    else (settings.turnOn switch).map (·, none)
  | some switch, _ :: value =>
    if switch.takesValue then (settings.give switch (String.ofList value)).map (·, none)
    else .error .usage

/-- Reads the letters after one hyphen. What follows the letter of a switch with a value is that
value, with or without an equals sign. -/
def readLetters (settings : Settings) (scope : Scope) :
    List Char → Except Stop (Settings × Option Switch)
  | [] => .ok (settings, none)
  | c :: rest =>
    match Switch.ofLetter? scope c with
    | none => .error .usage
    | some switch =>
      if switch.takesValue then
        match rest with
        | [] => .ok (settings, some switch)
        | '=' :: value | value => (settings.give switch (String.ofList value)).map (·, none)
      else
        match settings.turnOn switch with
        | .error stop => .error stop
        | .ok settings => readLetters settings scope rest

end Settings

/-- An argument that has the form of a switch. A hyphen alone has not. -/
def isSwitchLike (arg : String) : Bool :=
  match arg.toList with
  | '-' :: _ :: _ => true
  | _ => false

/-- Arguments after two hyphens, none of which is a switch. -/
def readOperands (scope : Scope) : Settings → List String → Except Stop Settings
  | settings, [] => .ok settings
  | settings, arg :: rest => do
    let settings ← settings.takeFile scope arg
    readOperands scope settings rest

/-- Reads arguments, where `pending` still needs its value. Before the command's name, reading ends
with that name, which is given back with the arguments after it. -/
def readArguments (scope : Scope) : Settings → (pending : Option Switch) → List String →
    Except Stop (Settings × Option (String × List String))
  | _, some _, [] => .error .usage
  | settings, none, [] => .ok (settings, none)
  | settings, some switch, arg :: rest =>
    if isSwitchLike arg then .error .usage
    else do
      let settings ← settings.give switch arg
      readArguments scope settings none rest
  | settings, none, arg :: rest =>
    match arg.toList with
    | ['-', '-'] => do
      let settings ← readOperands scope settings rest
      .ok (settings, none)
    | '-' :: '-' :: name => do
      let (settings, pending) ← settings.readLong scope name
      readArguments scope settings pending rest
    | '-' :: c :: letters => do
      let (settings, pending) ← settings.readLetters scope (c :: letters)
      readArguments scope settings pending rest
    | _ =>
      if scope = .common then .ok (settings, some (arg, rest))
      else do
        let settings ← settings.takeFile scope arg
        readArguments scope settings none rest

def commandNames : List String := ["compile", "dialects", "operators"]

/-- Help may be asked for about one command, which may be that for help itself. -/
def isHelpTopic : List String → Bool
  | [] => true
  | [topic] => topic == "help" || commandNames.contains topic
  | _ => false

/-- The command of a name and of the settings that follow it. -/
def commandOf (name : String) (settings : Settings) : Except Stop Command :=
  if name = "compile" then
    match settings.file with
    | none => .error .usage
    | some file => .ok (.compile file settings.dialect (settings.output.getD .table))
  else if name = "dialects" then .ok .dialects
  else .ok .operators

/-- A configuration from the environment counts where no argument names one, and must not be
empty there. -/
def configAt (settings : Settings) (fromEnvironment : Option String) :
    Except Stop (Option String) :=
  match settings.config, fromEnvironment with
  | some path, _ => .ok (some path)
  | none, some path => if path.isEmpty then .error .usage else .ok none
  | none, none => .ok none

/-- What the arguments ask for. The configuration named last counts, and the one from the
environment if none is named. -/
def Request.ofArguments (fromEnvironment : Option String) (args : List String) :
    Except Stop Request := do
  let (common, rest) ← readArguments .common {} none args
  match rest with
  | none => .error .usage
  | some (name, rest) =>
    if name = "help" then
      if isHelpTopic rest then .error .help else .error .usage
    else if commandNames.contains name then do
      let scope := if name = "compile" then .compile else .listing
      let (own, _) ← readArguments scope {} none rest
      let command ← commandOf name own
      let outer ← configAt common fromEnvironment
      let inner ← configAt own fromEnvironment
      .ok ⟨inner <|> outer <|> fromEnvironment, common.verbose || own.verbose, command⟩
    else .error .usage

end QueryTree.Cli
