import ArgumentSchema.Document.Toml.Fault
import ArgumentSchema.Text.Hex

/-!
# Dates and numbers of TOML

A date has ten characters, a time at least eight, and the two together may have an offset. An
integer may be hexadecimal, octal or binary; single low lines may stand between its digits. The
longest text that is a date or a number is taken. Main definitions: `Toml.moment?`, `Toml.clock?`,
`Toml.number?`, `Toml.word?`.
-/

namespace ArgumentSchema.Toml

/-- Takes a number of two digits not above a bound. -/
def twoDigits? (greatest : Nat) (cs : List Char) : Option (Nat × List Char) :=
  match cs with
  | a :: b :: rest =>
    let n := Text.digitsValue [a, b]
    if Text.isAsciiDigit a && Text.isAsciiDigit b && n ≤ greatest then some (n, rest) else none
  | _ => none

/-- Takes a given character. -/
def expect? (x : Char) : List Char → Option (List Char)
  | c :: rest => if c = x then some rest else none
  | [] => none

/-- Takes the digits behind a point, to the microsecond. -/
def fraction (cs : List Char) : Nat × List Char :=
  match cs with
  | '.' :: rest =>
    let ds := rest.takeWhile Text.isAsciiDigit
    if ds.isEmpty then (0, cs)
    else
      (Text.digitsValue ((ds ++ List.replicate 6 '0').take 6), rest.dropWhile Text.isAsciiDigit)
  | _ => (0, cs)

/-- Takes a time of day without offset. -/
def clock? (cs : List Char) : Option (Clock × List Char) := do
  let (hour, cs) ← twoDigits? 23 cs
  let (minute, cs) ← twoDigits? 59 (← expect? ':' cs)
  let (second, cs) ← twoDigits? 59 (← expect? ':' cs)
  let (microsecond, cs) := fraction cs
  pure (⟨hour, minute, second, microsecond, none⟩, cs)

/-- Takes an offset, in seconds. -/
def offset? (cs : List Char) : Option (Int × List Char) :=
  match cs with
  | c :: rest =>
    if c = 'Z' ∨ c = 'z' then some (0, rest)
    else if c = '+' ∨ c = '-' then do
      let (hour, rest) ← twoDigits? 23 rest
      let (minute, rest) ← twoDigits? 59 (← expect? ':' rest)
      let n : Int := hour * 3600 + minute * 60
      pure (if c = '-' then -n else n, rest)
    else none
  | [] => none

/-- Takes a time of day with or without offset, behind its separator from a date. -/
def clockAfterDate? (cs : List Char) : Option (Clock × List Char) :=
  match cs with
  | c :: rest =>
    if c = 'T' ∨ c = 't' ∨ c = ' ' then do
      let (clock, rest) ← clock? rest
      match offset? rest with
      | some (n, after) => pure ({ clock with offset := some n }, after)
      | none => pure (clock, rest)
    else none
  | [] => none

/-- Takes year, month and day, which need not be a day of the calendar. -/
def dateFields? (cs : List Char) : Option ((Nat × Nat × Nat) × List Char) := do
  let year := cs.take 4
  if year.length ≠ 4 ∨ !year.all Text.isAsciiDigit then none
  let (month, cs) ← twoDigits? 12 (← expect? '-' (cs.drop 4))
  let (day, cs) ← twoDigits? 31 (← expect? '-' cs)
  if month = 0 ∨ day = 0 then none
  pure ((Text.digitsValue year, month, day), cs)

/-- Takes a date, with a time of day if one follows. -/
def moment? (cs : List Char) : Option (Except Stop (Value × List Char)) := do
  let ((year, month, day), rest) ← dateFields? cs
  let (clock, rest) :=
    match clockAfterDate? rest with
    | some (clock, after) => (some clock, after)
    | none => (none, rest)
  pure <|
    match Date.make? year month day, clock with
    | some d, some c => .ok (.moment ⟨d, c⟩, rest)
    | some d, none => .ok (.date d, rest)
    | none, _ => stop .date cs

/-- Takes a row of digits with single low lines between them, without the low lines. -/
def digits (isDigit : Char → Bool) : List Char → List Char × List Char
  | [] => ([], [])
  | '_' :: c :: rest =>
    if isDigit c then
      let (ds, after) := digits isDigit rest
      (c :: ds, after)
    else ([], '_' :: c :: rest)
  | c :: rest =>
    if isDigit c then
      let (ds, after) := digits isDigit rest
      (c :: ds, after)
    else ([], c :: rest)

/-- Takes a row of digits that starts with one. -/
def digitRow? (isDigit : Char → Bool) (cs : List Char) : Option (List Char × List Char) :=
  match cs with
  | c :: _ => if isDigit c then some (digits isDigit cs) else none
  | [] => none

/-- The value of digits in a base. -/
def valueIn (base : Nat) (ds : List Char) : Int :=
  ds.foldl (fun n c => base * n + (Text.hexValue? c).getD 0) 0

/-- Takes an integer in another base than ten, behind its leading zero. -/
def otherBase? (cs : List Char) : Option (Int × List Char) :=
  let inBase (base : Nat) (rest : List Char) : Option (Int × List Char) :=
    (digitRow? (fun c => (Text.hexValue? c).any (· < base)) rest).map fun r =>
      (valueIn base r.1, r.2)
  match cs with
  | 'x' :: rest => inBase 16 rest
  | 'o' :: rest => inBase 8 rest
  | 'b' :: rest => inBase 2 rest
  | _ => none

/-- Takes the digits in front of the point: one zero, or a row that starts with another digit. -/
def wholePart? (cs : List Char) : Option (List Char × List Char) :=
  match cs with
  | '0' :: rest => some (['0'], rest)
  | _ => digitRow? Text.isAsciiDigit cs

/-- Takes a point and the digits behind it. -/
def fractionPart? (cs : List Char) : Option (List Char × List Char) :=
  match cs with
  | '.' :: rest => digitRow? Text.isAsciiDigit rest
  | _ => none

/-- Takes an exponent. -/
def exponentPart? (cs : List Char) : Option (Int × List Char) :=
  match cs with
  | e :: rest =>
    if e = 'e' ∨ e = 'E' then
      let (negative, rest) := Literal.takeSign rest
      (digitRow? Text.isAsciiDigit rest).map fun r => (Literal.signedValue negative r.1, r.2)
    else none
  | [] => none

/-- Takes a decimal number with its sign. -/
def decimal? (cs : List Char) : Option (Except Stop (Value × List Char)) :=
  let (negative, body) := Literal.takeSign cs
  (wholePart? body).map fun (whole, rest) =>
    match fractionPart? rest, exponentPart? ((fractionPart? rest).elim rest (·.2)) with
    | none, none =>
      if Literal.maxIntegerDigits < whole.length then .error (.tooManyDigits ⟨whole.length⟩)
      else .ok (.int (Literal.signedValue negative whole), rest)
    | f, e =>
      let (ds, rest) := f.getD ([], rest)
      let (exponent, rest) := e.getD (0, rest)
      .ok (.float (Binary64.ofDecimal negative (Text.digitsValue (whole ++ ds))
        (exponent - ds.length)), rest)

/-- Takes a number. -/
def number? (cs : List Char) : Option (Except Stop (Value × List Char)) :=
  let other :=
    match cs with
    | '0' :: rest => otherBase? rest
    | _ => none
  match other with
  | some (n, rest) => some (.ok (.int n, rest))
  | none => decimal? cs

/-- The words that are values. -/
def words : List (String × Value) := [
  ("true", .bool true), ("false", .bool false),
  ("inf", .float (.infinity false)), ("+inf", .float (.infinity false)),
  ("-inf", .float (.infinity true)),
  ("nan", .float .nan), ("+nan", .float .nan), ("-nan", .float .nan)]

/-- Takes a word. -/
def word? (cs : List Char) : Option (Value × List Char) :=
  words.findSome? fun w =>
    if w.1.toList.isPrefixOf cs then some (w.2, cs.drop w.1.length) else none

/-- Reads a value that is neither a string nor has parts. -/
def scalar (cs : List Char) : Except Stop (Value × List Char) :=
  match word? cs with
  | some r => .ok r
  | none =>
    match moment? cs with
    | some r => r
    | none =>
      match clock? cs with
      | some (c, rest) => .ok (.clock c, rest)
      | none => (number? cs).getD (stop .value cs)

end ArgumentSchema.Toml
