import ArgumentSchema.Input
import ArgumentSchema.Report
import ArgumentSchema.Tree.Resolve

/-!
# Runs

A run evaluates the rules of a table, parents first, over the working tree of one input. Every task
of a rule is evaluated and its result written before the next rule looks for its places; a place
whose field failed or was omitted is blocked for the rules below it. All fields are evaluated before
anything is reported. What a callback raises ends the run. Main definitions: `RunState`, `Run.task`,
`Run.rules`, `Run.execute`.
-/

namespace ArgumentSchema

/-- The working tree of a run and what it has found so far. -/
structure RunState where
  tree : WorkingTree
  /-- The outcomes so far, each with its place, in the order of evaluation. -/
  outcomes : List (Place × FieldOutcome)
  passed : List (String × Value)
  failed : List (String × Value)
  errors : List FieldError

namespace Run

/-- The state before any rule. -/
def start (es : Entries Value) : RunState := ⟨WorkingTree.ofEntries es, [], [], [], []⟩

/-- A result of the tree inside a run. -/
def lift {α : Type} : Except Raised α → Traced α
  | .ok a => pure a
  | .error e => throw e

/-- Files the outcome of a task. -/
def file (s : RunState) (task : Task) (outcome : FieldOutcome) : Except Raised RunState :=
  let s := { s with outcomes := s.outcomes ++ [(task.place, outcome)] }
  if outcome.state.succeeded then
    (s.tree.write task outcome.value).map fun tree =>
      let passed :=
        if outcome.value.isAbsent then s.passed
        else Report.store outcome.key outcome.value s.passed
      { s with tree, passed }
  else
    let s := { s with tree := (s.tree.block task.place).discard task }
    match outcome.error with
    | some e =>
      .ok { s with
        failed := Report.store outcome.key outcome.value s.failed
        errors := s.errors ++ [e] }
    | none => .ok s

/-- Evaluates one task. -/
def task (registry : Registry) (cb : Callbacks) (s : RunState) (t : Task) : Traced RunState := do
  let outcome ← Field.evaluate registry cb t.rule.toContract t.dotted t.value
  lift (file s t outcome)

/-- Evaluates the tasks of one rule. -/
def rule (registry : Registry) (cb : Callbacks) (table : RuleTable) (s : RunState) (r : Rule) :
    Traced RunState := do
  let (tree, tasks) := s.tree.resolve table r
  tasks.foldlM (task registry cb) { s with tree }

/-- Evaluates rules in the given order. -/
def rules (registry : Registry) (cb : Callbacks) (table : RuleTable) (s : RunState)
    (rs : List Rule) : Traced RunState :=
  rs.foldlM (rule registry cb table) s

/-- What a run leaves: the report, and the outcomes that it was made from. -/
structure Finished where
  report : Report
  outcomes : List (Place × FieldOutcome)

/-- Ends a run. -/
def finish (table : RuleTable) (s : RunState) : Except Raised Finished :=
  match s.tree.finalize table.roots with
  | (_, .ok value) => .ok ⟨⟨value, s.passed, s.failed, s.errors⟩, s.outcomes⟩
  | (_, .error e) => .error e

/-- Runs a table over the entries of an input. -/
def execute (registry : Registry) (cb : Callbacks) (table : RuleTable) (es : Entries Value) :
    Traced Finished := do
  let s ← rules registry cb table (start es) table.byDepth
  lift (finish table s)

end Run

end ArgumentSchema
