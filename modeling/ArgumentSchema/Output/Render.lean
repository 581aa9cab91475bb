import ArgumentSchema.Output.JsonText
import ArgumentSchema.Output.Markup
import ArgumentSchema.Output.Table
import ArgumentSchema.Service
import ArgumentSchema.Value.Use

/-!
# Results as text

A result is shown to programs as JSON, to people as lines and tables on a page of fixed width, or in
one quiet line. The name of the operation decides what people see of a result; an operation without
a form of its own shows its data entry by entry. Main definitions: `OutputMode`, `RenderFailure`,
`Render.result`.
-/

namespace ArgumentSchema

/-- How a result is shown. JSON wins over quiet, and quiet over verbose. -/
structure OutputMode where
  json : Bool
  quiet : Bool
  verbose : Bool
deriving DecidableEq, Repr

/-- The mode for people. -/
def OutputMode.human : OutputMode := ⟨false, false, false⟩

/-- Why a result cannot be shown. -/
inductive RenderFailure where
  /-- A value has no agreed form in JSON. -/
  | unserializable
  /-- A key that JSON does not know; where a value is written on one line its class is named in
  full. -/
  | badKey (e : JsonTree.BadKey) (onOneLine : Bool)
  | markup (f : Markup.Fault)
  /-- The data of the result is not of the form that its operation gives. -/
  | misuse (e : Misuse)

namespace RenderFailure

/-- The name of the class of a failure. -/
def className : RenderFailure → String
  | unserializable => "PydanticSerializationError"
  | badKey _ _ => "TypeError"
  | markup f => f.className
  | misuse e => e.className

/-- The message of a failure. -/
def message : RenderFailure → String
  | unserializable => "a value has no form in JSON"
  | badKey e onOneLine => e.message onOneLine
  | markup f => f.message
  | misuse e => e.message

end RenderFailure

namespace Render

/-- The width of the page. -/
def pageWidth : Nat := 120

/-- A text with as many line feeds taken off its end as there are. -/
def dropEndBreaks (cs : List Char) : List Char :=
  (cs.reverse.dropWhile (· == '\n')).reverse

/-- A text as lines of the page. -/
def paragraph (s : String) : List String :=
  (Layout.paragraph pageWidth s.toList).map String.ofList

/-- A value on one line. -/
def dump (v : Value) : Except RenderFailure String :=
  ((JsonTree.loose v).mapError (.badKey · true)).map (·.write .line)

/-! ## Programs -/

/-- An error as JSON. -/
def errorTree (e : ServiceError) : Option JsonTree := do
  pure (.object [("code", .text e.code), ("message", .text e.message),
    ("detail", ← JsonTree.strictRecord? e.detail)])

/-- A result as JSON. -/
def resultTree (r : ServiceResult) : Option JsonTree := do
  let error ← match r.error with
    | some e => errorTree e
    | none => some JsonTree.null
  pure (.object [("ok", .flag r.ok), ("op", .text r.op),
    ("data", ← JsonTree.strictRecord? r.data),
    ("warnings", .array (r.warnings.map .text)), ("error", error)])

/-- A result for programs. -/
def json (r : ServiceResult) : Except RenderFailure String :=
  match resultTree r with
  | some t => .ok (t.write .block)
  | none => .error .unserializable

/-! ## One line -/

/-- What went wrong, in words. -/
def errorMessage (r : ServiceResult) : String := r.error.elim "Unknown error" (·.message)

/-- A result in one line. -/
def quiet (r : ServiceResult) : String :=
  if r.ok then "OK: " ++ r.op else "ERROR: " ++ r.op ++ ": " ++ errorMessage r

/-! ## People -/

/-- Entries line by line, each under its name. -/
def entryLines (es : List (String × Value)) : Except RenderFailure (List String) := do
  let parts ← es.mapM fun e => do
    pure (paragraph ("  " ++ e.1 ++ ": " ++ (← dump e.2)))
  pure parts.flatten

/-- What a use of a value gives. -/
def used {α : Type} (x : Except Misuse α) : Except RenderFailure α := x.mapError .misuse

/-- Alternatives in one text, or what stands for none. -/
def alternatives (v : Value) (otherwise : String) : Except RenderFailure String := do
  let s ← used (v.joined " | ")
  pure (if s.isEmpty then otherwise else s)

/-- A cell that is shown as it is. -/
def verbatim (s : String) : Except RenderFailure Markup.Shown :=
  .ok (.verbatim (Layout.clean s.toList))

/-- A cell with markup. -/
def marked (s : String) : Except RenderFailure Markup.Shown :=
  ((Markup.read s).mapError .markup).map fun m => { m with text := Layout.clean m.text }

/-- A column that is to be read: whether it wraps, its head, and its cells. -/
structure Column where
  wraps : Bool
  head : String
  cells : List (Except RenderFailure Markup.Shown)

/-- A table. All its cells are read, column by column, before any of them is shown. -/
def table (columns : List Column) : Except RenderFailure (List String) := do
  let columns ← columns.mapM fun c => do
    pure (c, ← c.cells.mapM id)
  match (columns.flatMap Prod.snd).findSome? (·.fault?) with
  | some f => .error (.markup f)
  | none =>
    pure (Table.draw pageWidth
      ⟨columns.map fun c => ⟨c.1.wraps, c.1.head.toList :: c.2.map (·.text)⟩⟩)

/-- A row of the table of failed fields, read but not yet laid out. -/
structure FailedRow where
  key : String
  expected : String
  type : String
  value : String

/-- Reads a failed field. -/
def failedRow (row : Value) : Except RenderFailure FailedRow := do
  let key ← used ((← used (row.entry "key")).asText)
  let expected ← alternatives (← used (row.entry "expected")) "valid value"
  let type ← used (row.entry "type")
  let value ← dump (← used (row.entry "value"))
  pure ⟨key, expected, ← used type.asCell, value⟩

/-- The table of failed fields. -/
def failedTable (rows : List Value) : Except RenderFailure (List String) := do
  let rows ← rows.mapM failedRow
  table [
    ⟨false, "Key", rows.map fun r => verbatim r.key⟩,
    ⟨true, "Expected", rows.map fun r => marked r.expected⟩,
    ⟨true, "Got", rows.map fun r => marked r.type⟩,
    ⟨true, "Value", rows.map fun r => verbatim r.value⟩]

/-- A row of the table of rules, read but not yet laid out. -/
structure RuleRow where
  path : String
  types : String
  optional : String
  default : String

/-- Reads a rule. -/
def ruleRow (row : Value) : Except RenderFailure RuleRow := do
  let path ← used ((← used (row.entry "path")).asText)
  let types ← alternatives (← used (row.entry "types")) "any"
  let optional ← used (row.entry "optional")
  let hasDefault ← used (row.entry "has_default")
  let default ← if hasDefault.truth then dump (← used (row.entry "default")) else pure ""
  pure ⟨path, types, if optional.truth then "yes" else "", default⟩

/-- The table of rules. -/
def ruleTable (rows : List Value) : Except RenderFailure (List String) := do
  let rows ← rows.mapM ruleRow
  table [
    ⟨false, "Path", rows.map fun r => verbatim r.path⟩,
    ⟨true, "Types", rows.map fun r => marked r.types⟩,
    ⟨true, "Optional", rows.map fun r => verbatim r.optional⟩,
    ⟨true, "Default", rows.map fun r => verbatim r.default⟩]

/-- A validation for people. -/
def checkLines (verbose : Bool) (data : List (String × Value)) :
    Except RenderFailure (List String) := do
  let value := (data.lookup "value").getD (.dict false [])
  let tree ← (JsonTree.loose value).mapError (.badKey · false)
  let passed := (data.lookup "passed").getD (.int 0)
  pure (paragraph (tree.write .asciiBlock) ++
    if verbose then paragraph ("  passed: " ++ passed.text) else [])

/-- An explanation for people. -/
def explainLines (verbose : Bool) (data : List (String × Value)) :
    Except RenderFailure (List String) := do
  let table ← ruleTable (← used ((data.lookup "rules").getD (.list [])).elements)
  let positional ← if verbose then
      used (((data.lookup "positional").getD (.list [])).joined ", ")
    else pure ""
  pure (table ++ if verbose then paragraph ("  positional: " ++ positional) else [])

/-- A failure for people. -/
def errorLines (verbose : Bool) (r : ServiceResult) : Except RenderFailure (List String) := do
  let head := paragraph ("ERROR" ++ ("  " ++ r.op) ++ (": " ++ errorMessage r))
  let detail := r.error.elim [] (·.detail)
  let rows := (detail.lookup "errors").getD .null
  let table ← if rows.truth then failedTable (← used rows.elements) else pure []
  let more ← if verbose then entryLines (detail.filter fun e => e.1 != "errors") else pure []
  pure (head ++ table ++ more)

/-- A result for people, line by line. -/
def humanLines (verbose : Bool) (r : ServiceResult) : Except RenderFailure (List String) := do
  if r.ok then
    let head := paragraph ("OK" ++ ("  " ++ r.op))
    let body ← match r.op with
      | "check" => checkLines verbose r.data
      | "explain" => explainLines verbose r.data
      | _ => entryLines r.data
    pure (head ++ body)
  else errorLines verbose r

/-- A result for people, without empty lines at its end. -/
def human (verbose : Bool) (r : ServiceResult) : Except RenderFailure String := do
  let lines ← humanLines verbose r
  pure (String.ofList (dropEndBreaks ("\n".intercalate lines).toList))

/-- A result in a mode. -/
def result (mode : OutputMode) (r : ServiceResult) : Except RenderFailure String :=
  if mode.json then json r
  else if mode.quiet then .ok (quiet r)
  else human mode.verbose r

end Render

end ArgumentSchema
