import ArgumentSchema.Output.Call.Expression
import ArgumentSchema.Text.Blank
import ArgumentSchema.Text.Quoted

/-!
# Calls in tags

A tag that names an action says behind its sign of equality what is to be called: a name with
points, and arguments in round brackets, which may be left out. What is not of this form is taken as
arguments alone. The arguments have to be literals. Main definitions: `Call.Fault`,
`Call.argumentText`, `Call.read`.
-/

namespace ArgumentSchema.Call

/-- Why a call cannot be read. -/
inductive Fault where
  | flawed (arguments written : String) (flaw : Flaw)
  | valueless (written : String) (misfit : Misfit)
deriving DecidableEq, Repr

/-- The sentence for a fault. -/
def Fault.message : Fault → String
  | flawed arguments written flaw =>
    "error parsing " ++ Text.quoted arguments ++ " in " ++ Text.quoted written ++ "; " ++
      flaw.message
  | valueless written misfit =>
    "error parsing " ++ Text.quoted written ++ "; " ++ misfit.message

/-- The arguments in a call, brackets included. -/
def argumentText (written : List Char) : List Char :=
  let call := Text.trim written
  match call.dropWhile fun c => Text.isWord c || c == '.' with
  | [] => ['(', ')']
  | '(' :: rest =>
    if rest.getLast? = some ')' ∧ '\n' ∉ rest then '(' :: rest else call
  | _ => call

/-- Reads what stands behind the sign of equality. -/
def read (written : List Char) : Except Fault Unit :=
  let arguments := argumentText written
  let text := arguments.dropWhile fun c => c == ' ' || c == '\t'
  if '\x00' ∈ text then .error (.valueless (String.ofList written) .nul)
  else
    match readTerm text with
    | .error f => .error (.flawed (String.ofList arguments) (String.ofList written) f)
    | .ok term =>
      match term.value with
      | .error e => .error (.valueless (String.ofList written) e)
      | .ok _ => .ok ()

end ArgumentSchema.Call
