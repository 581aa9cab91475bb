import ArgumentSchema.CommandLine.Options

/-!
# The commands of the program

The program has options of its own and two commands, `check` and `explain`. Their help texts are
made from the same declarations that their words are read by. Main definitions: `CommandSpec`,
`Commands.program`, `Commands.check`, `Commands.explain`, `CommandSpec.help`.
-/

namespace ArgumentSchema

/-- A command: its name, the words that it takes, what it does, and its options. -/
structure CommandSpec where
  name : String
  synopsis : String
  about : String
  /-- What it does, as a list of commands tells it. -/
  summary : String
  options : List OptionSpec
  examples : List String

namespace CommandSpec

/-- The line that shows how a command is called. `path` is how the program was called. -/
def usage (c : CommandSpec) (path : String) : String :=
  "Usage: " ++ path ++ " " ++ c.synopsis

/-- Two columns, the second as far to the right as the widest entry of the first demands. -/
def twoColumns (rows : List (String × String)) : List String :=
  let width := (rows.map (·.1.length)).foldl max 0 + 2
  rows.map fun r =>
    "  " ++ r.1 ++ String.ofList (List.replicate (width - r.1.length) ' ') ++ r.2

/-- How an option is listed. -/
def optionRow (o : OptionSpec) : String × String :=
  (", ".intercalate o.names ++ (o.metavar.elim "" (" " ++ ·)), o.help)

/-- The help text of a command that has the given commands below it. -/
def help (c : CommandSpec) (path : String) (below : List CommandSpec) : String :=
  let commands :=
    if below.isEmpty then []
    else "" :: "Commands:" :: twoColumns (below.map fun b => (b.name, b.summary))
  "\n".intercalate
    ([c.usage path, "", "  " ++ c.about, "", "Options:"] ++ twoColumns (c.options.map optionRow) ++
      commands)

/-- What stands in front of the sentence for a usage fault. -/
def usageHint (c : CommandSpec) (path : String) : String :=
  c.usage path ++ "\nTry '" ++ path ++ " --help' for help.\n\n"

/-- The examples of a command. -/
def examplesText (c : CommandSpec) (path : String) : String :=
  "Usage examples for " ++ path ++ ":\n\n" ++ "\n".intercalate (c.examples.map ("  " ++ ·))

end CommandSpec

namespace Commands

/-- The version of the program. -/
def version : String := "0.4.0"

/-- The line that tells the version. -/
def versionLine : String := "argshape, version " ++ version

/-- The option for help. -/
def helpOption : OptionSpec := ⟨"help", ["--help"], none, "Show this message and exit."⟩

/-- The program itself. -/
def program : CommandSpec where
  name := "argshape"
  synopsis := "[OPTIONS] [COMMAND] [ARGS]..."
  about := "Validate and normalize arguments against an argshape schema."
  summary := ""
  options := [
    ⟨"version", ["--version"], none, "Show the version and exit."⟩,
    ⟨"json_output", ["--json"], none, "Print results as JSON."⟩,
    ⟨"quiet", ["-q", "--quiet"], none, "Print only an OK or ERROR line."⟩,
    ⟨"verbose", ["-v", "--verbose"], none, "Show extra detail and debug logs."⟩,
    ⟨"log_json", ["--log-json"], none, "Write log records to stderr as JSON lines."⟩,
    ⟨"config", ["-c", "--config"], some "TEXT", "Read this argshape.toml instead of searching."⟩,
    helpOption]
  examples := []

/-- The options that every command for a schema has. -/
def schemaOptions : List OptionSpec := [
  ⟨"separator", ["--separator"], some "TEXT", "Path separator used in the schema."⟩,
  ⟨"wildcard", ["--wildcard"], some "TEXT", "Wildcard segment marker used in the schema."⟩,
  ⟨"examples", ["--examples"], none, "Print usage examples and exit."⟩,
  helpOption]

/-- Validates an input. -/
def check : CommandSpec where
  name := "check"
  synopsis := "[OPTIONS] SCHEMA [INPUT_FILE]"
  about := "Validate INPUT_FILE (JSON object or array, default stdin) against SCHEMA."
  summary := "Validate INPUT_FILE (JSON object or array, default stdin)..."
  options := schemaOptions
  examples := [
    "argshape check schema.json input.json",
    "echo '[1, \"x\"]' | argshape check schema.json",
    "argshape --json check schema.toml input.json",
    "argshape check --wildcard '*' schema.json input.json"]

/-- Lists the rules of a schema. -/
def explain : CommandSpec where
  name := "explain"
  synopsis := "[OPTIONS] SCHEMA"
  about := "List the rules SCHEMA compiles to, in declaration order."
  summary := "List the rules SCHEMA compiles to, in declaration order."
  options := schemaOptions
  examples := [
    "argshape explain schema.json",
    "argshape -v explain schema.toml",
    "argshape --json explain schema.json"]

/-- The commands, in the order of their names. -/
def all : List CommandSpec := [check, explain]

end Commands

end ArgumentSchema
