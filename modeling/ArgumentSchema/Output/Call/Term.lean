import ArgumentSchema.Output.Call.Token

/-!
# Terms of a call

The arguments of a call are written as expressions. Any expression is read, but only literals have a
value: numbers with at most one sign, sums of a real and an imaginary number, texts, named
constants, tuples, sets and tables. A member of a set and a key of a table must be hashable. Of an
expression only what tells its value is kept. Main definitions: `Misfit`, `Kind`, `Term`.
-/

namespace ArgumentSchema.Call

/-! ## Terms -/

/-- Why an expression has no value. -/
inductive Misfit where
  /-- A member of a set or a key of a table that cannot be one, by its class. -/
  | unhashable (className : String)
  /-- Entries of another table stand in a table. -/
  | spread
  | noLiteral
  | nul
deriving DecidableEq, Repr

/-- The sentence for a misfit. -/
def Misfit.message : Misfit → String
  | unhashable className => "unhashable type: '" ++ className ++ "'"
  | spread => "malformed node or string: None"
  | noLiteral => "malformed node or string on line 1"
  | nul => "source code string cannot contain null bytes"

/-- What an expression is. -/
inductive Kind where
  | number (imaginary : Bool)
  | signed (imaginary : Bool)
  | text | formatted | ellipsis
  | constant (name : String)
  | word (s : String)
  | grouped
  | tuple | set | table | member | call | starred | operation | comparison | choice
  | function | loop | yielded
deriving DecidableEq, Repr

/-- What an expression is called where it must not stand. -/
def Kind.label : Kind → String
  | number _ | text => "literal"
  | constant w => w
  | signed _ | operation | starred => "expression"
  | formatted => "f-string expression"
  | ellipsis => "ellipsis"
  | word _ | grouped => "name"
  | tuple => "tuple"
  | set => "set display"
  | table => "dict literal"
  | member => "attribute"
  | call => "function call"
  | comparison => "comparison"
  | choice => "conditional expression"
  | function => "lambda"
  | loop => "generator expression"
  | yielded => "yield expression"

/-- Whether an expression can be given a value in a loop. -/
def Kind.isTarget : Kind → Bool
  | word _ | grouped | member | tuple => true
  | _ => false

/-- An expression: what it is, and its value, of which only counts whether it is hashable. If not,
the class that keeps it from that is given. -/
structure Term where
  kind : Kind
  value : Except Misfit (Option String)

namespace Term

/-- An expression that is no literal. -/
def other (k : Kind) : Term := ⟨k, .error .noLiteral⟩

/-- A tuple is hashable if all its items are. -/
def tuple (items : List Term) : Term :=
  ⟨.tuple, do
    let classes ← items.mapM (·.value)
    pure (classes.findSome? id)⟩

/-- Checks that a value is hashable. -/
def hashable (t : Term) : Except Misfit Unit := do
  match ← t.value with
  | some className => .error (.unhashable className)
  | none => .ok ()

/-- A set of hashable members. -/
def set (items : List Term) : Term :=
  ⟨.set, do
    items.forM hashable
    pure (some "set")⟩

/-- A table with hashable keys. -/
def table (entries : List (Option Term × Term)) : Term :=
  ⟨.table, do
    entries.forM fun e => do
      match e.1 with
      | none => .error .spread
      | some key =>
        let _ ← key.value
        let _ ← e.2.value
        key.hashable
    pure (some "dict")⟩

/-- A term behind a sign. -/
def signed (sign : String) (t : Term) : Term :=
  match t.kind with
  | .number imaginary => if sign = "~" then other .operation else ⟨.signed imaginary, .ok none⟩
  | _ => other .operation

/-- Two terms with a sign between them; a real number and an imaginary one make a complex one. -/
def joined (sign : String) (left right : Term) : Term :=
  let real := left.kind = .number false ∨ left.kind = .signed false
  if (sign = "+" ∨ sign = "-") ∧ real ∧ right.kind = .number true then ⟨.operation, .ok none⟩
  else other .operation

/-- A term in brackets of its own. -/
def inBrackets (t : Term) : Term :=
  match t.kind with
  | .word _ => { t with kind := .grouped }
  | _ => t

end Term

end ArgumentSchema.Call
