import ArgumentSchema.Document.Load
import ArgumentSchema.Input
import ArgumentSchema.Report

/-!
# Failures

Everything that a call of this library can end in instead of an answer, with the name of its class
and its message. Main definitions: `Failure`, `Failure.className`, `Failure.message`,
`Failure.summary`.
-/

namespace ArgumentSchema

/-- The end of a call without an answer. -/
inductive Failure where
  /-- The schema is malformed. -/
  | schema (e : SchemaError)
  /-- Fields failed and nobody asked to be told. -/
  | invalidArguments (r : Report)
  /-- A document could not be read. -/
  | load (e : LoadError)
  /-- A literal is too long to be read as a number. -/
  | literal (e : Literal.TooManyDigits)
  /-- The input is neither a mapping nor a row of positional values. -/
  | input (e : Input.WrongKind)
  /-- Raised by a callback or by a container. -/
  | raised (e : Raised)

/-- A compile error as the end of a call. -/
def CompileError.failure : CompileError → Failure
  | schema e => .schema e
  | literal e => .literal e

namespace Failure

/-- The name of the class of a failure. -/
def className : Failure → String
  | schema _ => "SchemaError"
  | invalidArguments _ => "InvalidArguments"
  | load e => e.className
  | literal _ => "ValueError"
  | input _ => "TypeError"
  | raised e => e.kind.name

/-- The message of a failure. -/
def message : Failure → String
  | schema e => e.message
  | invalidArguments r => r.invalidArguments
  | load e => e.message
  | literal e => e.message
  | input e => e.message
  | raised e => e.message

/-- Whether a failure is one of those that the library itself declares. -/
def isDeclared : Failure → Bool
  | schema _ | invalidArguments _ => true
  | load e => e.isDeclared
  | raised e => e.kind.cls.lineage.contains (.user ExceptionKind.libraryClass)
  | _ => false

/-- Whether a failure counts as a bad value. -/
def isValueError : Failure → Bool
  | schema _ | literal _ => true
  | load e => e.isValueError
  | raised e => e.kind.isBelow .valueError
  | _ => false

/-- A failure in one line: the name of its class, and its message if there is any. -/
def summary (f : Failure) : String :=
  let m := String.ofList (Text.trim f.message.toList)
  if m.isEmpty then f.className else f.className ++ ": " ++ m

end Failure

end ArgumentSchema
