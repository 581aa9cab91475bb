import ArgumentSchema.Document.Load
import ArgumentSchema.Settings.Lenient

/-!
# Settings of a run

The settings of a run come from three sources, the strongest first: the flags that were given, the
environment, and a settings file; what none of them says has a default. The file is the one that was
named, or else the nearest one in the current directory and those above it. Variables of the
environment are named after the settings, in any case; those of the table for paths may be given as
one JSON object, one by one, or both. Flags too may name their settings in any case. Tables of
several sources are merged entry by entry. Main definitions: `Settings`, `SettingsFailure`,
`Settings.findFile`, `Settings.read`.
-/

namespace ArgumentSchema

/-- The variables of an environment, in order. -/
abbrev Environment := List (String × String)

/-- The settings of a run. -/
structure Settings where
  /-- The settings file that was read. -/
  file : Option FileName
  json : Bool
  quiet : Bool
  verbose : Bool
  logJson : Bool
  paths : PathOptions

/-- Why a run has no settings. -/
inductive SettingsFailure where
  | invalid (errors : List SettingError)
  | malformedFile (file : FileName) (e : Toml.Error)
  | undecodableFile (fault : Utf8.Fault)
  /-- The variable for a table does not hold JSON. -/
  | malformedVariable (name : String)
deriving DecidableEq, Repr

namespace SettingsFailure

/-- The name of the class of a failure. -/
def className : SettingsFailure → String
  | invalid _ => "ValidationError"
  | malformedFile _ (.malformed _ _) => "ClickException"
  | malformedFile _ (.tooManyDigits _) => "ValueError"
  | malformedFile _ .tooDeep => "RecursionError"
  | undecodableFile _ => "UnicodeDecodeError"
  | malformedVariable _ => "SettingsError"

/-- The message of a failure. -/
def message : SettingsFailure → String
  | invalid errors =>
    "; ".intercalate (errors.map fun e => ".".intercalate e.location ++ ": " ++ e.fault.message)
  | malformedFile file e =>
    match e with
    | .malformed _ _ => file.text ++ " is not valid TOML: " ++ e.message
    | _ => e.message
  | undecodableFile f => f.message
  | malformedVariable name =>
    "error parsing value for field \"" ++ name ++ "\" from source \"EnvSettingsSource\""

/-- Whether a failure is told to the user in a sentence, and not as a fault of the program. -/
def isTold : SettingsFailure → Bool
  | malformedFile _ (.malformed _ _) => true
  | _ => false

end SettingsFailure

namespace Settings

/-! ## The settings file -/

/-- The name of a settings file. -/
def fileName : String := "argshape.toml"

/-- The variable that names the settings file. -/
def fileVariable : String := "ARGSHAPE_CONFIG"

/-- The directories from one upward to the root. -/
def upward (steps : List String) : List (List String) :=
  (List.range (steps.length + 1)).map fun i => steps.take (steps.length - i)

/-- The settings file for a start directory: the one that the environment names, or else the
nearest one upward. A name that leads to no file leaves the run without one. -/
def findFile (files : Files) (env : Environment) (start : Option FileName) : Option FileName :=
  let named := (env.lookup fileVariable).getD ""
  if !named.isEmpty then
    let n := FileName.ofText named
    if files.isFile n then some n else none
  else
    let here := (start.map files.directoryOf).getD files.current
    ((upward here).map fun steps => (FileName.ofSteps steps).child fileName).find? files.isFile

/-- The entries of a settings file. -/
def readFile (files : Files) (file : Option FileName) :
    Except SettingsFailure (Entries Value) := do
  match file with
  | none => pure []
  | some n =>
    match files.read n with
    | .error _ => pure []
    | .ok bytes =>
      let cs ← (Utf8.decode bytes).mapError .undecodableFile
      (Toml.read cs).mapError (.malformedFile n)

/-! ## The environment -/

/-- A name in lower case. -/
def lower (s : String) : String := String.ofList (s.toList.map Text.lowerChar)

/-- The variables under their names in lower case; of several that differ in case the last
counts. -/
def foldCase (env : Environment) : Entries Value :=
  Entries.ofPairs (env.map fun v => (.str (lower v.1), .str v.2))

/-- The start of the names of all variables. -/
def variableStart : String := "argshape_"

/-- The flags that are settings. -/
def flagNames : List String := ["json_output", "quiet", "verbose", "log_json"]

/-- The name of the table for paths. -/
def pathsName : String := "compile"

/-- The settings of a table for paths. -/
def pathNames : List String := ["separator", "wildcard"]

/-- Stores a value under a row of names. What stands in the way of a table stays, and the value is
lost. -/
def storeUnder : List String → Value → Entries Value → Entries Value
  | [], _, es => es
  | [name], v, es => Entries.insert (.str name) v es
  | name :: rest, v, es =>
    match Value.field? name es with
    | none => Entries.insert (.str name) (.dict false (storeUnder rest v [])) es
    | some (.dict o inner) => Entries.insert (.str name) (.dict o (storeUnder rest v inner)) es
    | some _ => es

/-- The table that the variables for single settings make up. -/
def nestedTable (vars : Entries Value) : Entries Value :=
  vars.foldl (fun es var =>
    match Text.afterStart (variableStart ++ pathsName ++ "__").toList var.1.text.toList with
    | some rest => storeUnder ((Text.splitOn ['_', '_'] rest).map String.ofList) var.2 es
    | none => es) []

mutual

/-- Lays one value over another: tables are merged, anything else is replaced. -/
def overlay : Value → Value → Value
  | .dict _ top, .dict o base => .dict o (overlayEntries top base)
  | v, _ => v

/-- Lays entries over others. -/
def overlayEntries : List (Value × Value) → Entries Value → Entries Value
  | [], base => base
  | (k, v) :: es, base =>
    let merged := match Entries.find? k base with
      | some b => overlay v b
      | none => v
    overlayEntries es (Entries.insert k merged base)

end

/-- The known name of a setting in a table for paths, for one written in any case. -/
def knownName (k : Value) : Value :=
  match k with
  | .str s => .str ((pathNames.find? fun n => n == lower s).getD s)
  | v => v

/-- The table for paths as the environment gives it, if it does. -/
def environmentTable (vars : Entries Value) : Except SettingsFailure (Option Value) :=
  let nested := nestedTable vars
  let table : Except SettingsFailure (Option Value) :=
    match Value.field? (variableStart ++ pathsName) vars with
    | none => .ok (if nested.isEmpty then none else some (.dict false nested))
    | some v =>
      match Json.read v.text.toList with
      | .error _ => .error (.malformedVariable pathsName)
      | .ok .null => .ok none
      | .ok (.dict o es) => .ok (some (.dict o (overlayEntries nested es)))
      | .ok other => .ok (some other)
  table.map fun t => t.map fun v =>
    match v with
    | .dict o es => .dict o (Entries.ofPairs (es.map fun e => (knownName e.1, e.2)))
    | other => other

/-- The settings that the environment gives. -/
def environmentEntries (env : Environment) : Except SettingsFailure (Entries Value) := do
  let vars := foldCase env
  let flags := flagNames.filterMap fun n =>
    (Value.field? (variableStart ++ n) vars).map fun v => (Value.str n, v)
  let table ← environmentTable vars
  pure (flags ++ (table.map fun t => (Value.str pathsName, t)).toList)

/-! ## All together -/

/-- The names of all settings. -/
def names : List String := flagNames ++ [pathsName]

/-- The name of the settings file among the settings. The file is given apart, so a flag of this
name has no effect. -/
def fileSetting : String := "config_path"

/-- Flags under the names of their settings, which may be written in any case; of several for one
setting the first counts. A flag that names no setting stays as it is. -/
def foldFlags (flags : Entries Value) : Entries Value :=
  let known := names.filterMap fun n =>
    (List.find? (fun e => lower e.1.text == n) flags).map fun e => (Value.str n, e.2)
  known ++ flags.filter fun e => !(fileSetting :: names).contains (lower e.1.text)

/-- The table for paths. -/
def readPaths (es : Entries Value) : Settled PathOptions :=
  match Value.field? pathsName es with
  | none => .ok PathOptions.default
  | some (.dict _ table) => Setting.inside pathsName (PathOptions.ofEntries table)
  | some _ => .error [⟨[pathsName], .recordKind "CompileOptions"⟩]

/-- Settings that nobody knows are refused where they were given as flags. -/
def refuseUnknown (flags : Entries Value) : Settled Unit :=
  let unknown := flags.filter fun e => !names.any fun n => (Value.str n).sameKey e.1
  if unknown.isEmpty then .ok ()
  else .error (unknown.map fun e => ⟨[e.1.text], .unknownSetting⟩)

/-- The settings that merged entries describe. -/
def ofEntries (file : Option FileName) (flags es : Entries Value) : Settled Settings := do
  let flag (name : String) : Settled Bool :=
    Setting.optional (Setting.single Setting.flag) false name es
  let (json, quiet, verbose, logJson, paths, _) ←
    Setting.both (flag "json_output") (Setting.both (flag "quiet") (Setting.both (flag "verbose")
      (Setting.both (flag "log_json") (Setting.both (readPaths es) (refuseUnknown flags)))))
  pure ⟨file, json, quiet, verbose, logJson, paths⟩

/-- The settings file of a run: the one that the caller names, if it is there, or else the one that
is found. A name that leads to no file leaves the run without one. -/
def fileOf (files : Files) (env : Environment) (given : Option String) (start : Option FileName) :
    Option FileName :=
  match given with
  | none | some "" => findFile files env start
  | some s =>
    let n := FileName.ofText s
    if files.isFile n then some n else none

/-- The settings of a run. -/
def read (files : Files) (env : Environment) (given : Option String) (start : Option FileName)
    (flags : Entries Value) : Except SettingsFailure Settings := do
  let file := fileOf files env given start
  let fromFile := (← readFile files file).filter fun e =>
    names.any fun n => (Value.str n).sameKey e.1
  let fromEnvironment ← environmentEntries env
  let flags := foldFlags flags
  let merged := overlayEntries flags (overlayEntries fromEnvironment fromFile)
  (ofEntries file flags merged).mapError .invalid

end Settings

end ArgumentSchema
