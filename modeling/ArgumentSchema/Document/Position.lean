/-!
# Places in a text

Readers tell where they stopped by the number of characters that are left. Here that becomes an
offset and a line and column, both from one; only a line feed ends a line.
-/

namespace ArgumentSchema.Document

/-- The line of an offset, from one. -/
def lineOf (text : List Char) (offset : Nat) : Nat := (text.take offset).count '\n' + 1

/-- The column of an offset, from one. -/
def columnOf (text : List Char) (offset : Nat) : Nat :=
  ((text.take offset).reverse.takeWhile (· != '\n')).length + 1

end ArgumentSchema.Document
