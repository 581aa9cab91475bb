import ArgumentSchema.Path
import ArgumentSchema.Text.Quoted
import ArgumentSchema.Value.Text

/-!
# What can be wrong with a schema

Every fault of a schema is one of the causes of `SchemaFault`; a `SchemaError` adds the path of the
entry at fault, if there is one, which then leads the message. Main definitions:
`SchemaFault.message`, `SchemaError.message`.
-/

namespace ArgumentSchema

/-- The fault of a malformed schema. -/
inductive SchemaFault where
  | invalidTypeName (name : String)
  | modifiersExclusive
  | unionMemberNotOneName (member : String)
  | unionMemberKind (className : String)
  | unknownOptions (keys : List String)
  | nestedType
  | validateKind (className : String)
  | notCallable (key : String) (className : String)
  | unsupportedPattern (className : String)
  | pathKind (className : String)
  | path (fault : Path.Fault)
  | fragmentKind (index : Nat) (className : String)
  | schemaKind (className : String)
  /-- A fault that a caller states in its own words. -/
  | stated (message : String)
deriving DecidableEq, Repr

/-- The sentence for a fault. -/
def SchemaFault.message : SchemaFault → String
  | invalidTypeName name => "invalid type name " ++ Text.quoted name
  | modifiersExclusive => "'?' and '=' modifiers are mutually exclusive"
  | unionMemberNotOneName m => "union member " ++ Text.quoted m ++ " must be one type name"
  | unionMemberKind c => "union members must be names or classes, got " ++ c
  | unknownOptions keys => "unknown rule option(s): " ++ ", ".intercalate keys
  | nestedType => "'type' cannot be a nested rule"
  | validateKind c => "'validate' must be callable or a compiled regex, got " ++ c
  | notCallable key c => Text.quoted key ++ " must be callable, got " ++ c
  | unsupportedPattern c => "unsupported pattern of type " ++ c
  | pathKind c => "path must be a string, got " ++ c
  | path fault => fault.message
  | fragmentKind i c => "schema fragment #" ++ toString i ++ " must be a mapping, got " ++ c
  | schemaKind c => "schema must be a mapping or a list of mappings, got " ++ c
  | stated m => m

/-- A fault of a schema and the path of the entry that has it. -/
structure SchemaError where
  fault : SchemaFault
  path : Option String
deriving DecidableEq, Repr

/-- The message of a schema error, led by the path if there is one. -/
def SchemaError.message (e : SchemaError) : String :=
  match e.path with
  | some p => Text.quoted p ++ ": " ++ e.fault.message
  | none => e.fault.message

end ArgumentSchema
