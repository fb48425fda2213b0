import QueryTree.Cli.Paint
import QueryTree.Json.Printer
import QueryTree.Tree.Compile
import QueryTree.Value.Json

/-!
What the command line prints. Every report is a list of lines.
-/

namespace QueryTree.Cli

/-- The line about a description that has been read. -/
def inputLine (color : Bool) (file kind : String) : String :=
  paint color .dimmed "Input:" ++ " " ++ paint color .yellow file ++ " (" ++ kind ++ ")"

/-- The name of argument `n` in a list of arguments. -/
def argumentLabel : Dialect → Nat → String
  | .mysql, n => "#" ++ toString n
  | .postgres, n => "$" ++ toString n

def argumentLines (color : Bool) (dialect : Dialect) : (n : Nat) → List Value → List String
  | _, [] => []
  | n, value :: rest =>
    ("  " ++ argumentLabel dialect n ++ " = " ++ paint color .yellow value.display)
      :: argumentLines color dialect (n + 1) rest

/-- A compiled statement for a reader. -/
def statementLines (color : Bool) (dialect : Dialect) (compiled : Compiled) : List String :=
  [paint color .boldGreen "Generated SQL" ++ " "
      ++ paint color .dimmed ("(" ++ dialect.name ++ ")"),
    paint color .white compiled.sql]
  ++ if compiled.args.isEmpty then []
    else ["", paint color .cyan "Arguments:"]
      ++ argumentLines color dialect 1 compiled.args.toList

/-- A compiled statement for a program. -/
def statementJson (dialect : Dialect) (compiled : Compiled) : Json :=
  .object [
    ("args", (Value.list compiled.args.toList).toJson),
    ("dialect", .string dialect.name),
    ("sql", .string compiled.sql)]

/-- A rule across a table. -/
def rule (color : Bool) (width : Nat) : String :=
  paint color .dimmed (String.ofList (List.replicate width '─'))

/-- The dialects with their marks and keywords. -/
def dialectLines (color : Bool) : List String :=
  let heading := paintColumn color .boldWhite
  [paint color .boldCyan "Dialects", "",
    heading 10 "Dialect" ++ " " ++ heading 8 "Single" ++ " " ++ heading 16 "Range" ++ " "
      ++ heading 0 "like / not like",
    rule color 56]
  ++ Dialect.all.map (fun dialect =>
    paintColumn color .boldCyan 10 dialect.name ++ " "
      ++ paintColumn color .yellow 8 (dialect.placeholder 1 1) ++ " "
      ++ paintColumn color .yellow 16 (dialect.placeholder 1 3) ++ " "
      ++ dialect.likeKeyword false ++ " / " ++ dialect.likeKeyword true)

/-- What an operator of a class takes on its right. -/
def valueHint : OperatorClass → String
  | .comparison => "one scalar"
  | .nullCheck => "none"
  | .membership => "non-empty list of scalars"
  | .pattern => "string"

/-- The operators with their spellings and the values that they take. -/
def operatorLines (color : Bool) : List String :=
  let heading := paintColumn color .boldWhite
  [paint color .boldCyan "Operators", "",
    heading 24 "Name" ++ " " ++ heading 14 "SQL" ++ " " ++ heading 0 "Value",
    rule color 64]
  ++ Operator.all.map (fun operator =>
    paintColumn color .yellow 24 operator.name ++ " "
      ++ paintColumn color .plain 14 operator.symbol ++ " "
      ++ paint color .dimmed (valueHint operator.operatorClass))

/-- The line about what went wrong. -/
def errorLine (color : Bool) (text : String) : String :=
  paint color .boldRed "Error:" ++ " " ++ text

def versionLine : String := "simple-query 0.3.0"

def helpLines : List String :=
  ["Compile query documents into parameterized SQL",
    "",
    "Usage: simple-query [OPTIONS] <COMMAND>",
    "",
    "Commands:",
    "  compile FILE  Compile a query document (JSON, or TOML by extension)",
    "  dialects      Show placeholder syntax per dialect",
    "  operators     Show the operator reference",
    "  help          Print this text",
    "",
    "Options:",
    "  -c, --config FILE      Configuration file",
    "  -v, --verbose          Verbose output",
    "  -d, --dialect DIALECT  Target dialect of compile: mysql or postgres",
    "  -f, --format FORMAT    Output format of compile: table or json",
    "  -h, --help             Print this text",
    "  -V, --version          Print the version"]

end QueryTree.Cli
