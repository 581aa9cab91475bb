import ArgumentSchema.Text.Hex
import ArgumentSchema.Text.Printable

/-!
# Quoted texts

A text inside a message stands between quotes, so that its ends and its invisible characters can
be seen. The quote is the apostrophe unless the text holds an apostrophe and no double quote. The
backslash, the quote itself and the line and tab controls are written with a backslash; any other
character that is not printable is written by its number. Byte strings follow the same rule, with
all bytes outside printable ASCII written by their number. Main definitions: `quoted`,
`quotedBytes`.
-/

namespace ArgumentSchema.Text

/-- The quote for a text, given whether it holds an apostrophe and a double quote. -/
def quoteFor (apostrophe double : Bool) : Char :=
  if apostrophe && !double then '"' else '\''

/-- A character by its number: two, four or eight hexadecimal digits. -/
def numbered (n : Nat) : List Char :=
  if n < 0x100 then '\\' :: 'x' :: hexPadded 2 n
  else if n < 0x10000 then '\\' :: 'u' :: hexPadded 4 n
  else '\\' :: 'U' :: hexPadded 8 n

/-- One character of a text between the given quotes. -/
def quotedChar (quote c : Char) : List Char :=
  if c = quote ∨ c = '\\' then ['\\', c]
  else if c = '\n' then ['\\', 'n']
  else if c = '\r' then ['\\', 'r']
  else if c = '\t' then ['\\', 't']
  else if isPrintable c then [c]
  else numbered c.toNat

/-- A text between quotes. -/
def quoted (s : String) : String :=
  let cs := s.toList
  let quote := quoteFor (cs.contains '\'') (cs.contains '"')
  String.ofList (quote :: (cs.flatMap (quotedChar quote) ++ [quote]))

/-- One byte of a byte string between the given quotes. -/
def quotedByte (quote : Char) (b : UInt8) : List Char :=
  let n := b.toNat
  if n < 32 ∨ 126 < n then
    if n = 10 then ['\\', 'n']
    else if n = 13 then ['\\', 'r']
    else if n = 9 then ['\\', 't']
    else numbered n
  else if n = quote.toNat ∨ n = 92 then ['\\', Char.ofNat n]
  else [Char.ofNat n]

/-- A byte string between quotes, marked by a leading letter. -/
def quotedBytes (bytes : List UInt8) : String :=
  let quote := quoteFor (bytes.contains 39) (bytes.contains 34)
  String.ofList ('b' :: quote :: (bytes.flatMap (quotedByte quote) ++ [quote]))

end ArgumentSchema.Text
