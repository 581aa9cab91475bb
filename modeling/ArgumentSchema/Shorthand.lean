import ArgumentSchema.Rule
import ArgumentSchema.Text.Word

/-!
# Patterns in shorthand

Shorthand writes a contract in one text: `name|name…`, then `?` if the field may be left out, or
`=` and a literal if it has a default; never both. Blanks may stand around the names. Main
definitions: `Shorthand.typeNames`, `Shorthand.read`.
-/

namespace ArgumentSchema.Shorthand

/-- A type name: a letter of ASCII or a low line, then word characters and hyphens. -/
def isTypeName : List Char → Bool
  | [] => false
  | c :: cs => (Text.isAsciiLetter c || c == '_') && cs.all fun c => Text.isWord c || c == '-'

/-- The first text in a list that is not a type name. -/
def firstInvalid? (names : List (List Char)) : Option (List Char) :=
  names.find? fun n => !isTypeName n

/-- The alternatives of a type, each once and in order of first occurrence; none in a blank
text. -/
def typeNames (body : List Char) : Except SchemaFault (List String) :=
  if (Text.trim body).isEmpty then .ok []
  else
    let names := (Text.splitOn ['|'] body).map Text.trim
    match firstInvalid? names with
    | some n => .error (.invalidTypeName (String.ofList n))
    | none => .ok (names.map String.ofList).eraseDups

/-- Reads a pattern in shorthand. -/
def read (text : String) : Except PatternError Contract :=
  let (body, literal) := Text.cutAt '=' text.toList
  let trimmed := Text.trimRight body
  let marked := trimmed.getLast? == some '?'
  match literal with
  | some literal =>
    if marked then .error (.fault .modifiersExclusive)
    else do
      let value ← (Literal.read literal).mapError .literal
      let types ← (typeNames body).mapError .fault
      pure { Contract.ofTypes types with default := some value }
  | none => do
    let types ← (typeNames (if marked then trimmed.dropLast else body)).mapError .fault
    pure { Contract.ofTypes types with optional := marked }

end ArgumentSchema.Shorthand
