import ArgumentSchema.Callback
import ArgumentSchema.Regex.Search
import ArgumentSchema.Registry
import ArgumentSchema.Rule

/-!
# The evaluation of one field

A value goes through the stages of its rule: type match, check, default, recovery, and the
transformation of what succeeded. A default is fixed by the schema and a recovery chosen at call
time; without either, a field that may be left out is omitted and any other has failed. Main
definitions: `Field.matchType`, `Field.accepts`, `Field.evaluate`.
-/

namespace ArgumentSchema

/-- How the evaluation of a field can end. -/
inductive FieldState where
  | matched
  | defaulted
  | caught
  | omitted
  | failed
deriving DecidableEq, Repr

namespace FieldState

/-- The name of a state. -/
def name : FieldState → String
  | matched => "matched"
  | defaulted => "defaulted"
  | caught => "caught"
  | omitted => "omitted"
  | failed => "failed"

/-- Whether the field has a value of its own in the end. -/
def succeeded : FieldState → Bool
  | matched | defaulted | caught => true
  | omitted | failed => false

end FieldState

/-- One failed field: where, what was given, what was expected. -/
structure FieldError where
  key : String
  value : Value
  type : String
  expected : List String

/-- The sentence for a failed field. -/
def FieldError.message (e : FieldError) : String :=
  let wanted := if e.expected.isEmpty then "a valid value" else " | ".intercalate e.expected
  e.key ++ ": expected " ++ wanted ++ ", got " ++ e.type

/-- The end of the evaluation of a field. -/
structure FieldOutcome where
  key : String
  state : FieldState
  value : Value
  type : Option String
  error : Option FieldError

namespace Field

/-- The first declared type that a value is of. With no declared types, the name of its own type if
it is present. -/
def matchType (registry : Registry) (c : Contract) (v : Value) : Option String :=
  if c.types.isEmpty then if v.isAbsent then none else some (registry.typeName v)
  else c.types.find? (registry.isOfType v)

/-- Whether a value of the given type passes the check of its rule. -/
def accepts (cb : Callbacks) (c : Contract) (v : Value) (type : String) : Traced Bool :=
  match c.validate with
  | none => pure true
  | some (.regex p f) => pure (Regex.searches p f v.text)
  | some (.callable f) => do
    let answer ← cb.invoke ⟨f, v, type, none⟩
    pure answer.truth

/-- The end of a field that succeeded: its value is transformed if the rule says so. -/
def succeed (cb : Callbacks) (c : Contract) (key : String) (state : FieldState) (v : Value)
    (type : String) : Traced FieldOutcome := do
  match c.transform with
  | none => pure ⟨key, state, v, some type, none⟩
  | some f =>
    let v ← cb.invoke ⟨f, v, type, none⟩
    pure ⟨key, state, v, some type, none⟩

/-- The end of a field that did not match and has neither default nor recovery. -/
def fail (registry : Registry) (c : Contract) (key : String) (v : Value) : FieldOutcome :=
  if c.optional then ⟨key, .omitted, v, none, none⟩
  else ⟨key, .failed, v, none, some ⟨key, v, registry.typeName v, c.types⟩⟩

/-- What happens to a value that did not match; `rejected` is the type under which the check
refused it, if a type matched. -/
def recover (registry : Registry) (cb : Callbacks) (c : Contract) (key : String) (v : Value)
    (rejected : Option String) : Traced FieldOutcome := do
  match c.default with
  | some d => succeed cb c key .defaulted d (registry.typeName d)
  | none =>
    match c.catch? with
    | none => pure (fail registry c key v)
    | some f =>
      let told := match rejected with
        | some t => if t.isEmpty then registry.typeName v else t
        | none => registry.typeName v
      let answer ← cb.invoke ⟨f, v, told, some key⟩
      if answer.isAbsent then pure (fail registry c key v)
      else succeed cb c key .caught answer (registry.typeName answer)

/-- Evaluates one value against a contract. -/
def evaluate (registry : Registry) (cb : Callbacks) (c : Contract) (key : String) (v : Value) :
    Traced FieldOutcome := do
  match matchType registry c v with
  | none => recover registry cb c key v none
  | some type =>
    if ← accepts cb c v type then succeed cb c key .matched v type
    else recover registry cb c key v (some type)

end Field

end ArgumentSchema
