import ArgumentSchema.Regex.Syntax
import ArgumentSchema.Text.Digit
import ArgumentSchema.Text.Hex
import ArgumentSchema.Text.Name
import ArgumentSchema.Text.Word

/-!
# Escapes and bracketed classes

The parts of a regular expression below the level of its grammar: characters written by a number,
a letter or a name behind a backslash, class escapes, and the members of a bracketed class. Every
reader gives what it has read with the text behind it. Main definitions: `Regex.takeCode`,
`Regex.takeMembers`.
-/

namespace ArgumentSchema.Regex

/-- The code point that an escape with a fixed count of hexadecimal digits stands for. -/
def takeHex (count : Nat) (cs : List Char) : Option (Nat × List Char) :=
  let ds := cs.take count
  if ds.length = count then (Text.hexNumber? ds).map fun n => (n, cs.drop count) else none

/-- The code point of the character whose name stands up to the closing brace. -/
def takeName (cs : List Char) : Option (Nat × List Char) :=
  match cs.dropWhile (· != '\x7d') with
  | _ :: rest => (Text.codeNamed? (cs.takeWhile (· != '\x7d'))).map fun n => (n, rest)
  | [] => none

/-- The digits below eight at the start of a text, three at most. -/
def octalDigits (cs : List Char) : List Char :=
  (cs.take 3).takeWhile fun c => '0' ≤ c && c ≤ '7'

/-- The number that octal digits write. -/
def octalValue (ds : List Char) : Nat := ds.foldl (fun n c => 8 * n + (c.toNat - 48)) 0

/-- The code point that octal digits behind a backslash stand for. Outside of a class fewer than
three digits are the number of a group, unless the first is a zero. -/
def takeOctal (bracketed : Bool) (cs : List Char) : Option (Nat × List Char) :=
  let ds := octalDigits cs
  if ds.length = 3 ∨ ds.head? = some '0' ∨ (bracketed ∧ ds ≠ []) then
    if octalValue ds < 256 then some (octalValue ds, cs.drop ds.length) else none
  else none

/-- The code point of an escape that means one character, behind the backslash. -/
def takeCode (bracketed : Bool) : List Char → Option (Nat × List Char)
  | 'n' :: cs => some (10, cs)
  | 't' :: cs => some (9, cs)
  | 'r' :: cs => some (13, cs)
  | 'f' :: cs => some (12, cs)
  | 'v' :: cs => some (11, cs)
  | 'a' :: cs => some (7, cs)
  | 'x' :: cs => takeHex 2 cs
  | 'u' :: cs => takeHex 4 cs
  | 'U' :: cs => (takeHex 8 cs).filter fun r => r.1 < 0x110000
  | 'N' :: '\x7b' :: cs => takeName cs
  | c :: cs =>
    if Text.isAsciiDigit c then takeOctal bracketed (c :: cs)
    else if Text.isAsciiLetter c then none
    else some (c.toNat, cs)
  | [] => none

/-- The escapes that mean a class, behind the backslash. -/
def takeClass (ascii : Bool) : List Char → Option (CharClass × List Char)
  | 'd' :: cs => some (.digit ascii false, cs)
  | 'D' :: cs => some (.digit ascii true, cs)
  | 'w' :: cs => some (.word ascii false, cs)
  | 'W' :: cs => some (.word ascii true, cs)
  | 's' :: cs => some (.blank ascii false, cs)
  | 'S' :: cs => some (.blank ascii true, cs)
  | _ => none

/-- One end of a range or one member of a bracketed class. -/
def takeMember (ascii : Bool) : List Char → Option (CharClass × List Char)
  | '\\' :: 'b' :: cs => some (.one 8, cs)
  | '\\' :: cs =>
    match takeClass ascii cs with
    | some r => some r
    | none => (takeCode true cs).map fun (n, rest) => (.one n, rest)
  | c :: cs => some (.one c.toNat, cs)
  | [] => none

/-- The members of a bracketed class up to the closing bracket; a bracket in first place is a
member. Every member takes a character, so the length of the text is fuel enough. -/
def takeMembers (ascii : Bool) : Nat → Bool → List Char → Option (List CharClass × List Char)
  | 0, _, _ => none
  | fuel + 1, first, cs =>
    match first, cs with
    | false, ']' :: rest => some ([], rest)
    | _, _ =>
      match takeMember ascii cs with
      | none => none
      | some (m, '-' :: ']' :: rest) => some ([m, .one '-'.toNat], rest)
      | some (.one a, '-' :: rest) =>
        match takeMember ascii rest with
        | some (.one b, rest) =>
          if a ≤ b then (takeMembers ascii fuel false rest).map fun (ms, r) => (.range a b :: ms, r)
          else none
        | _ => none
      | some (_, '-' :: _) => none
      | some (m, rest) => (takeMembers ascii fuel false rest).map fun (ms, r) => (m :: ms, r)

end ArgumentSchema.Regex
