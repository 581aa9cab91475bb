import ArgumentSchema.Log
import ArgumentSchema.Validator

/-!
# Operations with one form of result

Each operation turns whatever can come of it, a report, a malformed schema or an input of the wrong
kind, into a `ServiceResult`, the envelope that is shown to people and programs. Beside it stand the
records that the operation leaves. A failure that no envelope describes ends the operation. Main
definitions: `ServiceResult`, `Service.check`, `Service.explain`.
-/

namespace ArgumentSchema

/-- A failed operation: a stable code, a sentence and details. -/
structure ServiceError where
  code : String
  message : String
  detail : List (String × Value)

/-- What an operation gives. -/
structure ServiceResult where
  ok : Bool
  op : String
  data : List (String × Value)
  warnings : List String
  error : Option ServiceError

namespace ServiceResult

/-- The result of an operation that succeeded. -/
def success (op : String) (data : List (String × Value)) (warnings : List String) :
    ServiceResult :=
  ⟨true, op, data, warnings, none⟩

/-- The result of an operation that failed. -/
def failure (op code message : String) (detail : List (String × Value)) : ServiceResult :=
  ⟨false, op, [], [], some ⟨code, message, detail⟩⟩

end ServiceResult

namespace Service

/-- An operation: its records, and its result unless something ended it. -/
abbrev Operation := List LogRecord × Except Failure ServiceResult

/-- A value as a result shows it: what is missing is null. -/
def plain (v : Value) : Value := if v.isAbsent then .null else v

/-- A failed field as a result shows it. -/
def errorRow (e : FieldError) : Value :=
  .record [("key", .str e.key), ("value", plain e.value), ("type", .str e.type),
    ("expected", .texts e.expected)]

/-- The warning about the keys of an input that the schema never mentions. -/
def droppedKeys (roots : List String) (data : Value) : List String :=
  let dropped := (data.entries?.getD []).filter fun e =>
    !roots.any fun root => (Value.str root).sameKey e.1
  if dropped.isEmpty then []
  else ["Dropped undeclared key(s): " ++ ", ".intercalate (dropped.map (·.1.text))]

/-- The result for a malformed schema. -/
def schemaFailure (op : String) (e : SchemaError) : ServiceResult :=
  .failure op "SCHEMA_ERROR" e.message (e.path.elim [] fun p => [("path", .str p)])

/-- The result for a schema that does not compile; a literal that is too long ends the
operation. -/
def compileFailure (op : String) : CompileError → Except Failure ServiceResult
  | .schema e => .ok (schemaFailure op e)
  | .literal e => .error (.literal e)

/-- Whether a failure says that the input, or a value in it, was of the wrong type. -/
def isTypeFailure : Failure → Bool
  | .input _ => true
  | .raised e => e.kind.isBelow .typeError
  | _ => false

/-- The result for a report. -/
def reportResult (op : String) (roots : List String) (data : Value) (r : Report) :
    ServiceResult :=
  if r.ok then
    .success op [("value", r.value), ("passed", .int r.passed.length)] (droppedKeys roots data)
  else
    .failure op "INVALID_ARGUMENTS" (toString r.errors.length ++ " field(s) failed validation")
      [("errors", .list (r.errors.map errorRow)), ("value", r.value)]

/-- The records of a finished run. -/
def runRecords (f : Run.Finished) : List LogRecord :=
  Log.validated f :: (if f.report.ok then [] else [Log.rejected f.report])

/-- Validates an input against a schema. -/
def check (registry : Registry) (cb : Callbacks) (o : PathOptions) (schema data : Value) :
    Operation :=
  let op := "check"
  let compilation := RuleTable.compilation registry o schema
  let records := Log.compiled compilation
  match compilation.result with
  | .error e => (records, compileFailure op e)
  | .ok table =>
    match ((Validator.mk table registry).run cb data [] []).1 with
    | .ok finished =>
      (records ++ runRecords finished, .ok (reportResult op table.roots data finished.report))
    | .error f =>
      if isTypeFailure f then (records, .ok (.failure op "BAD_INPUT" f.message []))
      else (records, .error f)

/-- A rule as an explanation shows it. -/
def ruleRow (key : String) (r : Rule) : Value :=
  .record [("path", .str key), ("types", .texts r.types), ("optional", .bool r.optional),
    ("default", r.default.getD .null), ("has_default", .bool r.default.isSome)]

/-- Describes the rules that a schema compiles to. -/
def explain (registry : Registry) (o : PathOptions) (schema : Value) : Operation :=
  let op := "explain"
  let compilation := RuleTable.compilation registry o schema
  let records := Log.compiled compilation
  match compilation.result with
  | .error e => (records, compileFailure op e)
  | .ok table =>
    (records, .ok (.success op
      [("count", .int table.rules.length), ("positional", .texts table.topLevelKeys),
        ("rules", .list (table.rules.map fun r => ruleRow r.1 r.2))] []))

end Service

end ArgumentSchema
