import ArgumentSchema.Registry
import ArgumentSchema.Shorthand
import ArgumentSchema.Value.Key

/-!
# Patterns

A pattern is a value that stands for a contract: null for anything present, a text in shorthand, a
class, a regular expression to be found in the text of the value, a list of type names and classes,
or a mapping in longhand whose options override those of its `type`. Main definitions:
`Pattern.union`, `Pattern.simple`, `Pattern.read`.
-/

namespace ArgumentSchema.Pattern

/-- The type name that one member of a union stands for. -/
def unionMember (r : Registry) : Value → Except SchemaFault String
  | .classRef c => .ok (r.nameFor c)
  | .str s => do
    match ← Shorthand.typeNames s.toList with
    | [name] => pure name
    | _ => .error (.unionMemberNotOneName s)
  | v => .error (.unionMemberKind v.className)

/-- The alternatives that a list of members stands for, each once. -/
def union (r : Registry) (members : List Value) : Except SchemaFault (List String) := do
  let names ← members.mapM (unionMember r)
  pure names.eraseDups

/-- Reads a pattern that is not in longhand. -/
def simple (r : Registry) (spec : Value) : Except PatternError Contract :=
  match spec with
  | .null => .ok Contract.any
  | .str s => Shorthand.read s
  | .classRef c => .ok (Contract.ofTypes [r.nameFor c])
  | .regex p f => .ok { Contract.any with validate := some (.regex p f) }
  | .list members | .tuple members =>
    match union r members with
    | .ok names => .ok (Contract.ofTypes names)
    | .error f => .error (.fault f)
  | v => .error (.fault (.unsupportedPattern v.className))

/-- The options of the longhand. -/
def longhandKeys : List String := ["type", "validate", "default", "optional", "catch", "transform"]

/-- Whether a key is an option of the longhand. -/
def isLonghandKey (k : Value) : Bool := longhandKeys.any fun name => (Value.str name).sameKey k

/-- The keys that are no options, as texts in order. -/
def unknownKeys (es : Entries Value) : List String :=
  ((es.filter fun e => !isLonghandKey e.1).map (·.1.text)).mergeSort fun a b => !(b < a)

/-- An option that has to be something to call, if it is given and not null. -/
def callable? (es : Entries Value) (key : String) : Except SchemaFault (Option Value) :=
  match Value.field? key es with
  | none | some .null => .ok none
  | some f => if f.isCallable then .ok (some f) else .error (.notCallable key f.className)

/-- The check in an option, if it is given and not null. -/
def check? (es : Entries Value) : Except SchemaFault (Option Check) :=
  match Value.field? "validate" es with
  | none | some .null => .ok none
  | some (.regex p f) => .ok (some (.regex p f))
  | some f => if f.isCallable then .ok (some (.callable f)) else .error (.validateKind f.className)

/-- The contract of the `type` of a longhand. -/
def longhandBase (r : Registry) (es : Entries Value) : Except PatternError Contract :=
  match Value.field? "type" es with
  | none => simple r .null
  | some (.dict _ _) => .error (.fault .nestedType)
  | some t => simple r t

/-- Reads a pattern in longhand. -/
def longhand (r : Registry) (es : Entries Value) : Except PatternError Contract := do
  let unknown := unknownKeys es
  if !unknown.isEmpty then throw (.fault (.unknownOptions unknown))
  let base ← longhandBase r es
  let validate ← (check? es).mapError .fault
  let catch? ← (callable? es "catch").mapError .fault
  let transform ← (callable? es "transform").mapError .fault
  pure {
    types := base.types
    validate := validate <|> base.validate
    default := match Value.field? "default" es with
      | some v => Contract.declaredDefault v
      | none => base.default
    optional := match Value.field? "optional" es with
      | some v => v.truth
      | none => base.optional
    catch?
    transform }

/-- Reads a pattern. -/
def read (r : Registry) (spec : Value) : Except PatternError Contract :=
  match spec with
  | .dict _ es => longhand r es
  | v => simple r v

end ArgumentSchema.Pattern
