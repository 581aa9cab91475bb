import ArgumentSchema.Field

/-!
# Reports

A report tells how the validation of one input ended: the output, the final value of every field
that has one, and the raw value and the error of every field that failed. The keys are written as
the schema would write the places in the input. Main definitions: `Report`, `Report.ok`,
`Report.store`.
-/

namespace ArgumentSchema

/-- The outcome of a validation. -/
structure Report where
  value : Value
  passed : List (String × Value)
  failed : List (String × Value)
  errors : List FieldError

namespace Report

/-- Whether no field failed. -/
def ok (r : Report) : Bool := r.errors.isEmpty

/-- Stores a field: in the place of its key if it occurs, at the end otherwise. -/
def store (key : String) (v : Value) : List (String × Value) → List (String × Value)
  | [] => [(key, v)]
  | (k, w) :: rest => if k = key then (k, v) :: rest else (k, w) :: store key v rest

/-- The sentence that names the fields that failed. -/
def invalidArguments (r : Report) : String :=
  "Invalid arguments: " ++ ", ".intercalate (r.errors.map (·.key))

end Report

end ArgumentSchema
