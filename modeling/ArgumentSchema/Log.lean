import ArgumentSchema.Run
import ArgumentSchema.RuleTable
import ArgumentSchema.Text.Hex

/-!
# What a run tells its operator

Compiling, validating and serving leave records for whoever watches the program: who speaks, what
happened, and named details. All of them are of the level for debugging, and a program shows them
only when it was asked to talk. Main definitions: `LogRecord`, `Log.compiled`, `Log.validated`,
`LogSetup`.
-/

namespace ArgumentSchema

/-- Who speaks in a record. -/
inductive LogSource where
  | compiler
  | validator
  | operations
  | commandLine
deriving DecidableEq, Repr

/-- The name of a source. -/
def LogSource.name : LogSource → String
  | compiler => "argshape.services.compiler"
  | validator => "argshape.services.validator"
  | operations => "argshape.services.operations"
  | commandLine => "argshape.cli"

/-- How much a record matters. -/
inductive LogLevel where
  | debug
  | warning
deriving DecidableEq, Repr

namespace LogLevel

/-- The name of a level. -/
def name : LogLevel → String
  | debug => "DEBUG"
  | warning => "WARNING"

/-- The rank of a level: what matters more has the higher one. -/
def number : LogLevel → Nat
  | debug => 10
  | warning => 30

end LogLevel

/-- A record. -/
structure LogRecord where
  source : LogSource
  message : String
  details : List (String × String)
deriving DecidableEq, Repr

/-- The level of a record. Nothing that the library tells is a warning. -/
def LogRecord.level (_ : LogRecord) : LogLevel := .debug

/-- What a program does with records: how many places they are written to, and the levels from
which records of strangers and of the library are shown. -/
structure LogSetup where
  handlers : Nat
  rootLevel : LogLevel
  libraryLevel : LogLevel
deriving DecidableEq, Repr

namespace LogSetup

/-- The setup of a program that was or was not asked to talk. It replaces whatever was set up
before. -/
def ofVerbose (verbose : Bool) : LogSetup :=
  ⟨1, .warning, if verbose then .debug else .warning⟩

/-- Whether a record of the library is shown. -/
def shows (s : LogSetup) (r : LogRecord) : Bool := s.libraryLevel.number ≤ r.level.number

end LogSetup

namespace Log

/-- The records of a compilation: one for every rule that was replaced and, if all fragments were
read, one for the whole. -/
def compiled (c : RuleTable.Compilation) : List LogRecord :=
  let replaced := c.replaced.map fun key =>
    (⟨.compiler, "Rule for " ++ key ++ " replaced by a later fragment", []⟩ : LogRecord)
  match c.result with
  | .ok table =>
    replaced ++ [⟨.compiler, "Compiled " ++ toString table.rules.length ++ " rule(s) from " ++
      toString c.fragments ++ " fragment(s)", []⟩]
  | .error _ => replaced

/-- The record of a finished validation. -/
def validated (f : Run.Finished) : LogRecord :=
  ⟨.validator, "Validated " ++ toString f.outcomes.length ++ " field(s): " ++
    toString f.report.passed.length ++ " passed, " ++ toString f.report.failed.length ++
    " failed", []⟩

/-- The record of an input that was turned down. -/
def rejected (r : Report) : LogRecord :=
  ⟨.operations, "Input rejected with " ++ toString r.errors.length ++ " error(s)", []⟩

/-- The record of a schema that was read for an input. -/
def schemaLoaded (path source : String) : LogRecord :=
  ⟨.commandLine, "schema_loaded", [("path", path), ("source", source)]⟩

end Log

end ArgumentSchema
