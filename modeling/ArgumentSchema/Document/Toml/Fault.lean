import ArgumentSchema.Document.Position
import ArgumentSchema.Literal
import ArgumentSchema.Value.Text

/-!
# What stops a TOML reader

A `Fault` is a cause, a `Stop` a fault with the place where the reader was, told by the number of
characters behind it. Integers that are too long to be read, and values too deep inside of one
another, are refused as such and not as malformed. Main definitions: `Toml.Fault`, `Toml.Fault.message`,
`Toml.Stop`.
-/

namespace ArgumentSchema.Toml

/-- The full name of a table or of an entry, from the root of the document. -/
abbrev Key := List String

/-- What can be wrong with a document. -/
inductive Fault where
  | missing (text : String)
  | forbidden (c : Char)
  | illegal (c : Char)
  | backslash
  | hexadecimal
  | notScalar
  | unterminated
  | unclosedArray
  | unclosedTable
  | keyStart
  | keyEnd
  | tableEnd
  | tablesEnd
  | value
  | date
  | statement
  | statementEnd
  | overwritten
  | repeatedKey (name : String)
  | declaredTwice (key : Key)
  | redefined (key : Key)
  | immutable (key : Key)
deriving DecidableEq, Repr

/-- A key as it reads inside a message. -/
def Key.shown (key : Key) : String := (Value.tuple (key.map .str)).shown

/-- The phrase for a fault. -/
def Fault.message : Fault → String
  | missing s => "Expected " ++ Text.quoted s
  | forbidden c => "Found invalid character " ++ Text.quoted c.toString
  | illegal c => "Illegal character " ++ Text.quoted c.toString
  | backslash => "Unescaped '\\' in a string"
  | hexadecimal => "Invalid hex value"
  | notScalar => "Escaped character is not a Unicode scalar value"
  | unterminated => "Unterminated string"
  | unclosedArray => "Unclosed array"
  | unclosedTable => "Unclosed inline table"
  | keyStart => "Invalid initial character for a key part"
  | keyEnd => "Expected '=' after a key in a key/value pair"
  | tableEnd => "Expected ']' at the end of a table declaration"
  | tablesEnd => "Expected ']]' at the end of an array declaration"
  | value => "Invalid value"
  | date => "Invalid date or datetime"
  | statement => "Invalid statement"
  | statementEnd => "Expected newline or end of document after a statement"
  | overwritten => "Cannot overwrite a value"
  | repeatedKey name => "Duplicate inline table key " ++ Text.quoted name
  | declaredTwice key => "Cannot declare " ++ Key.shown key ++ " twice"
  | redefined key => "Cannot redefine namespace " ++ Key.shown key
  | immutable key => "Cannot mutate immutable namespace " ++ Key.shown key

/-- What stops the reader; `left` is the number of characters behind the place. -/
inductive Stop where
  | malformed (fault : Fault) (left : Nat)
  | tooManyDigits (e : Literal.TooManyDigits)
  | tooDeep

/-- Stops in front of the given characters. -/
def stop {α : Type} (fault : Fault) (cs : List Char) : Except Stop α :=
  .error (.malformed fault cs.length)

/-- Blanks inside a line. -/
def isBlank (c : Char) : Bool := c == ' ' || c == '\t'

/-- Skips blanks inside a line. -/
def skipBlanks (cs : List Char) : List Char := cs.dropWhile isBlank

/-- Control characters other than the tab. -/
def isControl (c : Char) : Bool := (c.toNat < 32 && c != '\t') || c.toNat == 127

end ArgumentSchema.Toml
