import ArgumentSchema.Pattern

/-!
# Rule tables

A schema is one fragment, a mapping from written paths to patterns, or a list of fragments.
`RuleTable.compile` reads them in order into a table of rules: a path keeps the place of its first
occurrence and takes the rule of its last, and rules of different paths never meet. Beside the
table, a compilation tells which keys were replaced on the way, also when it fails later. Main
definitions: `RuleTable`, `RuleTable.byDepth`, `RuleTable.compile`.
-/

namespace ArgumentSchema

/-- Rules under their written paths, in order of declaration, and how the paths are written. -/
structure RuleTable where
  options : PathOptions
  rules : List (String × Rule)

namespace RuleTable

/-- The written paths, in order of declaration. -/
def keys (t : RuleTable) : List String := t.rules.map (·.1)

/-- The rules alone, in order of declaration. -/
def ruleList (t : RuleTable) : List Rule := t.rules.map (·.2)

/-- The rules, parents before children; rules of one depth in order of declaration. -/
def byDepth (t : RuleTable) : List Rule := t.ruleList.mergeSort fun a b => a.depth ≤ b.depth

/-- The name that a rule's path starts with. A path never starts with the wildcard. -/
def root (r : Rule) : Option String :=
  match r.path with
  | .name s :: _ => some s
  | _ => none

/-- The fields that positional arguments go to, in order of declaration. -/
def topLevelKeys (t : RuleTable) : List String :=
  (t.ruleList.filter (·.depth == 1)).filterMap root

/-- The names that some path starts with, each once. -/
def roots (t : RuleTable) : List String := (t.ruleList.filterMap root).eraseDups

/-- Whether a path has a rule of its own. -/
def hasPath (t : RuleTable) (path : List Segment) : Bool := t.ruleList.any fun r => r.path == path

/-- The rule under a written path. -/
def find? (t : RuleTable) (key : String) : Option Rule := t.rules.lookup key

/-- Stores a rule in the place of its key, or at the end. -/
def insertRule (key : String) (rule : Rule) : List (String × Rule) → List (String × Rule)
  | [] => [(key, rule)]
  | (k, r) :: rest => if k = key then (k, rule) :: rest else (k, r) :: insertRule key rule rest

/-- The fragments of a schema. -/
def fragments (schema : Value) : Except SchemaFault (List (Entries Value)) :=
  match schema with
  | .dict _ es => .ok [es]
  | .list items | .tuple items =>
    match items.findIdx? (·.entries?.isNone), items.mapM Value.entries? with
    | _, some fs => .ok fs
    | some i, none => .error (.fragmentKind i ((items[i]?.map Value.className).getD ""))
    | none, none => .ok []
  | v => .error (.schemaKind v.className)

/-- Reads a written path. -/
def readPath (o : PathOptions) (raw : Value) : Except SchemaError (List Segment) :=
  match raw with
  | .str s =>
    match Path.split? o s with
    | .ok path => .ok path
    | .error f => .error ⟨.path f, some s⟩
  | v => .error ⟨.pathKind v.className, some v.shown⟩

/-- Reads one entry of a fragment. -/
def readEntry (registry : Registry) (o : PathOptions) (raw spec : Value) :
    Except CompileError (String × Rule) := do
  let path ← (readPath o raw).mapError .schema
  let contract ← (Pattern.read registry spec).mapError (·.at (some raw.text))
  pure (Path.write o path, { contract with path })

/-- Reads entries into rules that are already there. The first part lists the keys that were
replaced before the end or the first error. -/
def addEntries (registry : Registry) (o : PathOptions) :
    List (String × Rule) → Entries Value → List String × Except CompileError (List (String × Rule))
  | rules, [] => ([], .ok rules)
  | rules, (raw, spec) :: rest =>
    match readEntry registry o raw spec with
    | .error e => ([], .error e)
    | .ok (key, rule) =>
      let (replaced, result) := addEntries registry o (insertRule key rule rules) rest
      (if (rules.lookup key).isSome then key :: replaced else replaced, result)

/-- What a compilation does: the keys whose rule was replaced, in order, the number of fragments
read, and the table or the error. -/
structure Compilation where
  replaced : List String
  fragments : Nat
  result : Except CompileError RuleTable

/-- Compiles a schema and tells what was replaced. -/
def compilation (registry : Registry) (o : PathOptions) (schema : Value) : Compilation :=
  match fragments schema with
  | .error f => ⟨[], 0, .error (.schema ⟨f, none⟩)⟩
  | .ok fs =>
    let (replaced, result) := addEntries registry o [] fs.flatten
    ⟨replaced, fs.length, result.map fun rules => ⟨o, rules⟩⟩

/-- Compiles a schema. -/
def compile (registry : Registry) (o : PathOptions) (schema : Value) :
    Except CompileError RuleTable :=
  (compilation registry o schema).result

/-- The written paths as they read inside a message, under a title. -/
def shown (t : RuleTable) (title : String) : String :=
  title ++ "(" ++ (Value.texts t.keys).shown ++ ")"

end RuleTable

end ArgumentSchema
