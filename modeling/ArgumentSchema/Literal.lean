import ArgumentSchema.Text.Blank
import ArgumentSchema.Text.Digit
import ArgumentSchema.Value.Basic

/-!
# Literals

A default in shorthand is written as a literal. `Literal.read` gives the best matching primitive:
the words for truth values and null, then integers, then decimals, then a text between equal
quotes, and anything else is read as the text that stands there. Blanks around it never count. An
integer of more than `maxIntegerDigits` digits is refused, which is the only failure. Main definitions:
`Literal.TooManyDigits`, `Literal.read`.
-/

namespace ArgumentSchema.Literal

/-- The greatest number of digits that an integer may be written with. -/
def maxIntegerDigits : Nat := 4300

/-- An integer has more digits than can be read. -/
structure TooManyDigits where
  count : Nat
deriving DecidableEq, Repr

/-- The message for an integer with too many digits. -/
def TooManyDigits.message (e : TooManyDigits) : String :=
  "Exceeds the limit (" ++ toString maxIntegerDigits ++
    " digits) for integer string conversion: value has " ++ toString e.count ++
    " digits; use sys.set_int_max_str_digits() to increase the limit"

/-- A sign at the start, and the text behind it. -/
def takeSign : List Char → Bool × List Char
  | '-' :: cs => (true, cs)
  | '+' :: cs => (false, cs)
  | cs => (false, cs)

/-- The digits of an integer without its sign, if the text is an integer. -/
def integerDigits? (cs : List Char) : Option (Bool × List Char) :=
  let (negative, ds) := takeSign cs
  if !ds.isEmpty && ds.all Text.isDigit then some (negative, ds) else none

/-- The value of a row of digits with a sign. -/
def signedValue (negative : Bool) (ds : List Char) : Int :=
  let n : Int := Text.digitsValue ds
  if negative then -n else n

/-- The parts of a decimal: sign, digits before and behind the point, and exponent. There is at
least one digit about the point, and at least one in the exponent if there is an `e`. -/
def decimalParts? (cs : List Char) : Option (Bool × List Char × List Char × Int) :=
  let (negative, cs) := takeSign cs
  let whole := cs.takeWhile Text.isDigit
  let cs := cs.dropWhile Text.isDigit
  let (fraction, cs) :=
    match cs with
    | '.' :: rest => (rest.takeWhile Text.isDigit, rest.dropWhile Text.isDigit)
    | _ => ([], cs)
  if whole.isEmpty && fraction.isEmpty then none
  else
    match cs with
    | [] => some (negative, whole, fraction, 0)
    | e :: rest =>
      if e = 'e' ∨ e = 'E' then
        (integerDigits? rest).map fun (below, ds) =>
          (negative, whole, fraction, signedValue below ds)
      else none

/-- Reads a decimal. -/
def decimal? (cs : List Char) : Option Binary64 :=
  (decimalParts? cs).map fun (negative, whole, fraction, exponent) =>
    Binary64.ofDecimal negative (Text.digitsValue (whole ++ fraction))
      (exponent - fraction.length)

/-- The text between two equal quotes. -/
def unquoted? : List Char → Option (List Char)
  | q :: rest =>
    if (q = '\'' ∨ q = '"') ∧ rest.getLast? = some q then some rest.dropLast else none
  | [] => none

/-- Reads a literal without blanks around it. -/
def readTrimmed (cs : List Char) : Except TooManyDigits Value :=
  if cs = "true".toList then .ok (.bool true)
  else if cs = "false".toList then .ok (.bool false)
  else if cs = "null".toList ∨ cs = "None".toList then .ok .null
  else
    match integerDigits? cs with
    | some (negative, ds) =>
      if maxIntegerDigits < ds.length then .error ⟨ds.length⟩
      else .ok (.int (signedValue negative ds))
    | none =>
      match decimal? cs with
      | some x => .ok (.float x)
      | none =>
        match unquoted? cs with
        | some inner => .ok (.str (String.ofList inner))
        | none => .ok (.str (String.ofList cs))

/-- Reads a literal. -/
def read (cs : List Char) : Except TooManyDigits Value := readTrimmed (Text.trim cs)

end ArgumentSchema.Literal
