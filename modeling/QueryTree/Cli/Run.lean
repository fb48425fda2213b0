import QueryTree.Cli.Arguments
import QueryTree.Cli.Report
import QueryTree.Description.Convert
import QueryTree.File

/-!
Carrying out a command. Files are read through a function in some monad, so that the same
definition runs on a disk and on a table of files in memory.
-/

namespace QueryTree.Cli

/-- What a command finds around it. -/
structure Environment where
  /-- The configuration that a variable of the environment names. -/
  config : Option String := none
  /-- The directory of the user's configurations. -/
  configDirectory : Option String := none
  color : Bool := false

/-- What a command leaves behind. -/
structure Outcome where
  code : Nat
  stdout : List String
  stderr : List String
deriving DecidableEq, Repr

/-- An error, and what was being done when it arose. -/
structure Failure where
  task : Option String
  error : QueryError

def Failure.text (failure : Failure) : String :=
  match failure.task with
  | some task => task ++ ": " ++ failure.error.message
  | none => failure.error.message

/-- Notes what was being done. -/
def during {α : Type} (task : String) : Except QueryError α → Except Failure α
  | .ok x => .ok x
  | .error error => .error ⟨some task, error⟩

def unnoted {α : Type} : Except QueryError α → Except Failure α
  | .ok x => .ok x
  | .error error => .error ⟨none, error⟩

/-- The configuration of the working directory. -/
def localConfig : String := "simple-query.toml"

/-- The configuration of a user. -/
def userConfig (directory : String) : String := directory ++ "/simple-query/config.toml"

/-- There is a file, whether or not it can be read. -/
def isPresent : FileContent → Bool
  | .error .absent | .error .notDirectory => false
  | _ => true

variable {m : Type → Type} [Monad m]

/-- The first of several configurations that is there, or the standard one. -/
def findConfig (readFile : String → m FileContent) : List String → m (Except Failure Config)
  | [] => pure (.ok {})
  | path :: rest => do
    let content ← readFile path
    if isPresent content then pure (unnoted (Config.ofFile content))
    else findConfig readFile rest

/-- The configuration that is named, or else the one that is found. -/
def loadConfig (readFile : String → m FileContent) (environment : Environment) :
    Option String → m (Except Failure Config)
  | some path => do
    let content ← readFile path
    pure (during ("failed to load config " ++ path) (Config.ofFile content))
  | none => findConfig readFile (localConfig :: (environment.configDirectory.map userConfig).toList)

/-- Compiles a description for a configuration. -/
def compileWith (config : Config) (dialect : Option Dialect) (description : Description) :
    Except QueryError (Dialect × Compiled) := do
  let statement ← description.toStatement
  let dialect := dialect.getD config.dialect
  let compiled ← statement.compile { dialect := dialect, limits := config.limits }
  .ok (dialect, compiled)

/-- The outcome of a command that failed after it had printed some lines. -/
def failed (color : Bool) (printed : List String) (failure : Failure) : Outcome :=
  ⟨1, printed, [errorLine color failure.text]⟩

/-- Compiles the description in a file and prints the statement. -/
def compileFile (readFile : String → m FileContent) (environment : Environment)
    (request : Request) (file : String) (dialect : Option Dialect) (output : Output) :
    m Outcome := do
  let color := environment.color
  match ← loadConfig readFile environment request.config with
  | .error failure => pure (failed color [] failure)
  | .ok config =>
    let content ← readFile file
    match during ("failed to read " ++ file) (Description.ofFile file content) with
    | .error failure => pure (failed color [] failure)
    | .ok description =>
      let printed := if request.verbose then [inputLine color file description.kind] else []
      match unnoted (compileWith config dialect description) with
      | .error failure => pure (failed color printed failure)
      | .ok (dialect, compiled) =>
        let lines := match output with
          | .table => statementLines color dialect compiled
          | .json => [(statementJson dialect compiled).pretty]
        pure ⟨0, printed ++ lines, []⟩

/-- Runs the command line on its arguments. -/
def run (readFile : String → m FileContent) (environment : Environment) (args : List String) :
    m Outcome :=
  match Request.ofArguments environment.config args with
  | .error .version => pure ⟨0, [versionLine], []⟩
  | .error .help => pure ⟨0, helpLines, []⟩
  | .error .usage => pure ⟨2, [], "error: the arguments are not understood" :: "" :: helpLines⟩
  | .ok request =>
    match request.command with
    | .compile file dialect output => compileFile readFile environment request file dialect output
    | .dialects => pure ⟨0, dialectLines environment.color, []⟩
    | .operators => pure ⟨0, operatorLines environment.color, []⟩

end QueryTree.Cli
