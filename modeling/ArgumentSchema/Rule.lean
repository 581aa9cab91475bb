import ArgumentSchema.Literal
import ArgumentSchema.SchemaError

/-!
# Rules

A `Contract` is what a pattern asks of a field: the type names it accepts, a check, a default,
whether it may be left out, what recovers a bad value and what transforms a good one. A `Rule` is a
contract with the path that it is for. Callbacks are values that can be called; nothing here calls
them. Main definitions: `Contract`, `Rule`, `CompileError`.
-/

namespace ArgumentSchema

/-- A check on a value of the right type. -/
inductive Check where
  /-- Called with the value and its type name; the truth of the answer decides. -/
  | callable (f : Value)
  /-- Has to occur in the text of the value. -/
  | regex (pattern : String) (flags : RegexFlags)

/-- The check as a value. -/
def Check.value : Check → Value
  | callable f => f
  | regex p f => .regex p f

/-- What a pattern asks of a field. With no type names any present value is accepted. -/
structure Contract where
  types : List String
  validate : Option Check
  default : Option Value
  optional : Bool
  catch? : Option Value
  transform : Option Value

/-- The contract that accepts any present value. -/
def Contract.any : Contract := ⟨[], none, none, false, none, none⟩

/-- The contract that accepts the given types. -/
def Contract.ofTypes (types : List String) : Contract := { Contract.any with types }

/-- A default that may be the marker for none. -/
def Contract.declaredDefault (v : Value) : Option Value := if v.isAbsent then none else some v

/-- A contract for the fields at a path. -/
structure Rule extends Contract where
  path : List Segment

namespace Rule

/-- The number of segments of the path. -/
def depth (r : Rule) : Nat := r.path.length

/-- Whether the path goes through the elements of a list. -/
def hasWildcard (r : Rule) : Bool := r.path.contains .wildcard

end Rule

/-- Why a pattern has no contract. -/
inductive PatternError where
  | fault (f : SchemaFault)
  | literal (e : Literal.TooManyDigits)
deriving DecidableEq, Repr

/-- Why a schema does not compile: the schema is malformed, or a literal in it is too long to
read. -/
inductive CompileError where
  | schema (e : SchemaError)
  | literal (e : Literal.TooManyDigits)
deriving DecidableEq, Repr

/-- A pattern's error at the path of its entry. -/
def PatternError.at (path : Option String) : PatternError → CompileError
  | fault f => .schema ⟨f, path⟩
  | literal e => .literal e

/-- The message of a compile error. -/
def CompileError.message : CompileError → String
  | schema e => e.message
  | literal e => e.message

end ArgumentSchema
