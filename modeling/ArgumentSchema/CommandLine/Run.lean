import ArgumentSchema.CommandLine.Commands
import ArgumentSchema.CommandLine.LogLine
import ArgumentSchema.Output.Render
import ArgumentSchema.Settings.Sources

/-!
# Runs of the program

A run reads the words of its command line and ends with what it has printed and an exit status.
Results of success go to the standard output, everything else to the error output. The status is
zero after success, one after a failed operation, and two after a fault in the words. A fault that
the program does not foresee ends the run with its name. Main definitions: `Surroundings`, `Ending`,
`Program.run`.
-/

namespace ArgumentSchema

/-- What a run finds around it. -/
structure Surroundings where
  /-- How the program was called. -/
  program : String
  files : Files
  environment : Environment
  stdin : List UInt8
  /-- The time that log records carry. -/
  time : String

/-- How a run ends. -/
structure Ending where
  status : Nat
  output : String
  errors : String
  /-- The name of a fault that the program does not foresee. -/
  unforeseen : Option String
deriving DecidableEq, Repr

namespace Ending

/-- An end with text on the standard output. -/
def printed (text : String) : Ending := ⟨0, text ++ "\n", "", none⟩

/-- An end with text on the error output. -/
def told (status : Nat) (text : String) : Ending := ⟨status, "", text ++ "\n", none⟩

/-- An end by a fault that the program does not foresee. -/
def crash (name : String) : Ending := ⟨1, "", "", some name⟩

/-- An end behind text on the error output. -/
def after (errors : String) (e : Ending) : Ending := { e with errors := errors ++ e.errors }

end Ending

namespace Program

/-- What is served when nothing in a schema can call anything. -/
def noCallbacks : Callbacks := fun call =>
  .error (.ofText .typeError (call.callee.shown ++ " cannot be called"))

/-- A fault in the words of a command. -/
def usageEnding (c : CommandSpec) (path : String) (f : UsageFault) : Ending :=
  let hint := if f.showsUsage then c.usageHint path else ""
  .told 2 (hint ++ "Error: " ++ f.message)

/-- The option of a kind that was given first, if any was. -/
def firstGiven (p : ParsedWords) (keys : List String) : Option String :=
  (p.given.find? fun g => keys.contains g.1).map (·.1)

/-- The value that an option was given last. -/
def lastValue (p : ParsedWords) (key : String) : Option String :=
  (p.given.reverse.find? fun g => g.1 == key).map (·.2)

/-! ## Results -/

/-- The records of a run, as far as its settings show them. -/
def logText (around : Surroundings) (s : Settings) (records : List LogRecord) : String :=
  String.join ((records.filter (LogSetup.ofVerbose s.verbose).shows).map fun r =>
    (if s.logJson then r.jsonLine around.time else r.line around.time) ++ "\n")

/-- Shows a result. Warnings are told beside it unless it is JSON, which has them in it. -/
def emit (s : Settings) (r : ServiceResult) : Ending :=
  match Render.result ⟨s.json, s.quiet, s.verbose⟩ r with
  | .error e => .crash e.className
  | .ok text =>
    if !r.ok then .told 1 text
    else
      let warnings := if s.json then [] else r.warnings
      { Ending.printed text with
        errors := String.join (warnings.map fun w => "WARNING: " ++ w ++ "\n") }

/-- Shows what came of an operation, behind its records. -/
def finish (around : Surroundings) (s : Settings) (operation : Service.Operation) : Ending :=
  let (records, result) := operation
  let ending := match result with
    | .ok r => emit s r
    | .error f => .crash f.className
  ending.after (logText around s records)

/-- Shows that a document was not loaded. -/
def loadFailure (s : Settings) (op : String) (e : LoadError) : Ending :=
  let f := Failure.load e
  if e.isDeclared then emit s (.failure op "LOAD_ERROR" f.summary []) else .crash f.className

/-! ## Commands -/

/-- The way of writing paths that the words of a command ask for. -/
def pathOptions (s : Settings) (p : ParsedWords) : Except UsageFault PathOptions :=
  let options : PathOptions :=
    ⟨(lastValue p "separator").getD s.paths.separator,
      (lastValue p "wildcard").getD s.paths.wildcard⟩
  match options.fault? with
  | some f => .error (.badValue (SettingFault.paths f).message)
  | none => .ok options

/-- The name of a schema file, if there is such a file. -/
def schemaFile (files : Files) (word : String) : Except UsageFault FileName :=
  match files.findWritten word with
  | .error _ => .error (.noSuchFile "SCHEMA" word)
  | .ok (.directory _) => .error (.directory "SCHEMA" word)
  | .ok (.file _) => .ok (FileName.ofText word)

/-- An input: what it is called, and its bytes. -/
def inputFile (around : Surroundings) (word : String) : Except UsageFault (String × List UInt8) :=
  if word = "-" then .ok ("<stdin>", around.stdin)
  else
    match Files.contents (around.files.findWritten word) with
    | .ok bytes => .ok (word, bytes)
    | .error e => .error (.unreadable "[INPUT_FILE]" word e.message)

/-- The words that the command has no use for. -/
def noSurplus (words : List String) : Except UsageFault Unit :=
  if words.isEmpty then .ok () else .error (.surplus words)

/-- Validates an input against a schema file. -/
def check (around : Surroundings) (s : Settings) (p : ParsedWords) (room : Load.Room := {}) :
    Except UsageFault Ending := do
  let word ← p.others.head?.elim (.error (.missingArgument "SCHEMA")) .ok
  let file ← schemaFile around.files word
  let (source, bytes) ← inputFile around (p.others[1]?.getD "-")
  noSurplus (p.others.drop 2)
  let options ← pathOptions s p
  pure <|
    match Load.schema around.files file room,
      Load.text bytes >>= fun cs => Load.input source cs room with
    | .error e, _ => loadFailure s "check" e
    | .ok _, .error e => loadFailure s "check" e
    | .ok schema, .ok data =>
      let (records, result) := Service.check Registry.default noCallbacks options schema data
      finish around s (Log.schemaLoaded file.text source :: records, result)

/-- Lists the rules of a schema file. -/
def explain (around : Surroundings) (s : Settings) (p : ParsedWords) (room : Load.Room := {}) :
    Except UsageFault Ending := do
  let word ← p.others.head?.elim (.error (.missingArgument "SCHEMA")) .ok
  let file ← schemaFile around.files word
  noSurplus (p.others.drop 1)
  let options ← pathOptions s p
  pure <|
    match Load.schema around.files file room with
    | .error e => loadFailure s "explain" e
    | .ok schema => finish around s (Service.explain Registry.default options schema)

/-- Runs a command with the words behind its name. -/
def runCommand (around : Surroundings) (c : CommandSpec)
    (go : ParsedWords → Except UsageFault Ending) (words : List String) : Ending :=
  let path := around.program ++ " " ++ c.name
  let ending : Except UsageFault Ending := do
    let p ← OptionParser.run c.options true words
    match firstGiven p ["help", "examples"] with
    | some "help" => pure (.printed (c.help path []))
    | some _ => pure (.printed (c.examplesText path))
    | none => go p
  match ending with
  | .ok e => e
  | .error f => usageEnding c path f

/-! ## The program -/

/-- What the options of the program itself ask for instead of a command. -/
def answered (around : Surroundings) (p : ParsedWords) : Option Ending :=
  match firstGiven p ["version", "help"] with
  | some "version" => some (.printed Commands.versionLine)
  | some _ => some (.printed (Commands.program.help around.program Commands.all))
  | none => none

/-- The settings that the options of the program give. -/
def flagEntries (p : ParsedWords) : Entries Value :=
  (Settings.flagNames.filter fun n => (lastValue p n).isSome).map fun n => (.str n, .bool true)

/-- Goes on with the settings, or tells why there are none. -/
def withSettings (around : Surroundings) (p : ParsedWords) (go : Settings → Ending) : Ending :=
  match Settings.read around.files around.environment (lastValue p "config") none
      (flagEntries p) with
  | .ok s => go s
  | .error f => if f.isTold then .told 1 ("Error: " ++ f.message) else .crash f.className

/-- What follows a word that names no command. A word that could be an option is read as one
first. -/
def unknownCommand (around : Surroundings) (word : String) (rest : List String) : Ending :=
  let program := Commands.program
  let fault := UsageFault.noSuchCommand word (Text.closeWords word (Commands.all.map (·.name)))
  let ending : Except UsageFault Ending := do
    if word.toList.head? == some '-' then
      let p ← OptionParser.run program.options false (word :: rest)
      match answered around p with
      | some e => return e
      | none => throw fault
    else throw fault
  match ending with
  | .ok e => e
  | .error f => usageEnding program around.program f

/-- Runs the program with the words of its command line. -/
def run (around : Surroundings) (words : List String) (room : Load.Room := {}) : Ending :=
  let program := Commands.program
  match OptionParser.run program.options false words with
  | .error f => usageEnding program around.program f
  | .ok p =>
    match answered around p, p.others with
    | some e, _ => e
    | none, [] =>
      withSettings around p fun _ => .printed (program.help around.program Commands.all)
    | none, "check" :: rest =>
      withSettings around p fun s =>
        runCommand around Commands.check (check around s · room) rest
    | none, "explain" :: rest =>
      withSettings around p fun s =>
        runCommand around Commands.explain (explain around s · room) rest
    | none, word :: rest => unknownCommand around word rest

/-! ## What a run asks for -/

/-- Whether a run with these words reads the standard input: it validates, and the input has no name
or is named by a hyphen. -/
def readsInput (words : List String) : Bool :=
  match OptionParser.run Commands.program.options false words with
  | .ok p =>
    match firstGiven p ["version", "help"], p.others with
    | none, "check" :: rest =>
      match OptionParser.run Commands.check.options true rest with
      | .ok q =>
        (firstGiven q ["help", "examples"]).isNone && !q.others.isEmpty &&
          q.others[1]?.getD "-" == "-"
      | .error _ => false
    | _, _ => false
  | .error _ => false

/-- The names of files that a run with these words and this environment may look for: every word and
what may be a value at the end of a word, the settings file that the environment names, and those of
the current directory and all above it. -/
def namedFiles (words : List String) (env : Environment) (current : List String) : List String :=
  let endings (w : String) := (List.range w.length).map fun n => String.ofList (w.toList.drop n)
  words.flatMap (fun w => if w.toList.head? == some '-' then endings w else [w]) ++
    (env.lookup Settings.fileVariable).toList ++
    (Settings.upward current).map fun steps =>
      ((FileName.ofSteps steps).child Settings.fileName).text

end Program

end ArgumentSchema
