import ArgumentSchema.Document.Position
import ArgumentSchema.Literal
import ArgumentSchema.Text.Hex
import ArgumentSchema.Value.Key

/-!
# Reading JSON documents

`Json.read` reads a text as one JSON value. Beyond the standard it takes the words for the
infinities and for not-a-number; of entries with the same name the first keeps its place and the
last its value. An integer has a greatest length, and there is room for only so many containers inside
of one another, beyond which a document is refused as too big and not as malformed. A text is a row of
whole characters, so an escape for half of a surrogate pair, without the other half, leaves the
replacement character where a row of code units would keep the half. Faults are told with the place
where the reader stopped.
Main definitions: `Json.Fault`, `Json.Error`, `Json.read`.
-/

namespace ArgumentSchema.Json

/-- What can be malformed in a document. -/
inductive Fault where
  | byteOrderMark
  | value
  | name
  | colon
  | comma
  | unterminated
  | control
  | escape
  | unicodeEscape
  | extraData
deriving DecidableEq, Repr

/-- The phrase for a fault. -/
def Fault.message : Fault → String
  | byteOrderMark => "Unexpected UTF-8 BOM (decode using utf-8-sig)"
  | value => "Expecting value"
  | name => "Expecting property name enclosed in double quotes"
  | colon => "Expecting ':' delimiter"
  | comma => "Expecting ',' delimiter"
  | unterminated => "Unterminated string starting at"
  | control => "Invalid control character at"
  | escape => "Invalid \\escape"
  | unicodeEscape => "Invalid \\uXXXX escape"
  | extraData => "Extra data"

/-- What stops the reader; `left` is the number of characters behind the place. -/
inductive Stop where
  | malformed (fault : Fault) (left : Nat)
  | tooManyDigits (e : Literal.TooManyDigits)
  | tooDeep (object : Bool)

/-- Why a text is not read. -/
inductive Error where
  | malformed (fault : Fault) (line column offset : Nat)
  | tooManyDigits (e : Literal.TooManyDigits)
  | tooDeep (object : Bool)
deriving DecidableEq, Repr

/-- The message for an error. -/
def Error.message : Error → String
  | malformed fault line column offset =>
    fault.message ++ ": line " ++ toString line ++ " column " ++ toString column ++ " (char " ++
      toString offset ++ ")"
  | tooManyDigits e => e.message
  | tooDeep object =>
    "maximum recursion depth exceeded while decoding a JSON " ++
      (if object then "object" else "array") ++ " from a unicode string"

/-- The room for containers inside of one another that a reader finds when nothing else is under way
in the program. -/
def usualRoom : Nat := 980

/-- Blanks between the parts of a document. -/
def isBlank (c : Char) : Bool := c == ' ' || c == '\t' || c == '\n' || c == '\r'

/-- Skips blanks. -/
def skipBlanks (cs : List Char) : List Char := cs.dropWhile isBlank

/-- The escapes of one letter. -/
def simpleEscape? : Char → Option Char
  | '"' => some '"'
  | '\\' => some '\\'
  | '/' => some '/'
  | 'b' => some '\x08'
  | 'f' => some '\x0c'
  | 'n' => some '\n'
  | 'r' => some '\r'
  | 't' => some '\t'
  | _ => none

/-- A unit of four hexadecimal digits that something follows. -/
def takeUnit? (cs : List Char) : Option (Nat × List Char) :=
  let ds := cs.take 4
  if 5 ≤ cs.length ∧ ds.length = 4 then (Text.hexNumber? ds).map fun n => (n, cs.drop 4) else none

/-- The character that two units of a surrogate pair stand for. -/
def joinSurrogates (high low : Nat) : Char :=
  Char.ofNat (0x10000 + (high - 0xD800) * 0x400 + (low - 0xDC00))

/-- Whether a unit is the first of a surrogate pair. -/
def isHighSurrogate (n : Nat) : Bool := 0xD800 ≤ n && n ≤ 0xDBFF

/-- Whether a unit is the second of a surrogate pair. -/
def isLowSurrogate (n : Nat) : Bool := 0xDC00 ≤ n && n ≤ 0xDFFF

/-- A single unit as a character. Half of a surrogate pair is none: the replacement character stands for
it, so that such halves are not told apart. -/
def unitChar (n : Nat) : Char :=
  if isHighSurrogate n || isLowSurrogate n then '\ufffd' else Char.ofNat n

/-- The character of a unicode escape, behind its `u`. `left` is the number of characters from the
`u` on. -/
def unicodeEscape (left : Nat) (cs : List Char) : Except Stop (Char × List Char) :=
  match takeUnit? cs with
  | none => .error (.malformed .unicodeEscape left)
  | some (n, rest) =>
    match isHighSurrogate n, rest with
    | true, '\\' :: 'u' :: more =>
      if more.length < 5 then .ok (unitChar n, rest)
      else
        match takeUnit? more with
        | none => .error (.malformed .unicodeEscape (more.length + 1))
        | some (m, after) =>
          if isLowSurrogate m then .ok (joinSurrogates n m, after) else .ok (unitChar n, rest)
    | _, _ => .ok (unitChar n, rest)

/-- Reads a string behind its opening quote; `opened` is the number of characters from that quote
on, and `done` holds what was read, reversed. -/
def stringBody (opened : Nat) : Nat → List Char → List Char → Except Stop (List Char × List Char)
  | 0, _, _ => .error (.malformed .unterminated opened)
  | fuel + 1, done, cs =>
    match cs with
    | [] => .error (.malformed .unterminated opened)
    | '"' :: rest => .ok (done.reverse, rest)
    | '\\' :: [] => .error (.malformed .unterminated opened)
    | '\\' :: 'u' :: rest => do
      let (c, rest) ← unicodeEscape (rest.length + 1) rest
      stringBody opened fuel (c :: done) rest
    | '\\' :: e :: rest =>
      match simpleEscape? e with
      | some c => stringBody opened fuel (c :: done) rest
      | none => .error (.malformed .escape cs.length)
    | c :: rest =>
      if c.toNat ≤ 0x1F then .error (.malformed .control cs.length)
      else stringBody opened fuel (c :: done) rest

/-- Reads a string behind its opening quote. -/
def string (cs : List Char) : Except Stop (String × List Char) := do
  let (s, rest) ← stringBody (cs.length + 1) (cs.length + 1) [] cs
  pure (String.ofList s, rest)

/-- The digits of an integer part: one zero, or a row that starts with another digit. -/
def integerPart? (cs : List Char) : Option (List Char × List Char) :=
  match cs with
  | '0' :: rest => some (['0'], rest)
  | c :: _ =>
    if Text.isAsciiDigit c then
      some (cs.takeWhile Text.isAsciiDigit, cs.dropWhile Text.isAsciiDigit)
    else none
  | [] => none

/-- The digits behind a point, if at least one stands there. -/
def fractionPart (cs : List Char) : Option (List Char × List Char) :=
  match cs with
  | '.' :: rest =>
    let ds := rest.takeWhile Text.isAsciiDigit
    if ds.isEmpty then none else some (ds, rest.dropWhile Text.isAsciiDigit)
  | _ => none

/-- An exponent, if it has a digit. -/
def exponentPart (cs : List Char) : Option (Int × List Char) :=
  match cs with
  | e :: rest =>
    if e = 'e' ∨ e = 'E' then
      let (negative, rest) := Literal.takeSign rest
      let ds := rest.takeWhile Text.isAsciiDigit
      if ds.isEmpty then none
      else some (Literal.signedValue negative ds, rest.dropWhile Text.isAsciiDigit)
    else none
  | [] => none

/-- Reads a number behind its sign. `left` is the number of characters from the sign on. -/
def unsigned (negative : Bool) (left : Nat) (cs : List Char) : Except Stop (Value × List Char) :=
  match integerPart? cs with
  | none => .error (.malformed .value left)
  | some (whole, rest) =>
    let (fraction, afterFraction) := (fractionPart rest).getD ([], rest)
    match exponentPart afterFraction with
    | some (exponent, after) =>
      .ok (.float (Binary64.ofDecimal negative (Text.digitsValue (whole ++ fraction))
        (exponent - fraction.length)), after)
    | none =>
      if fraction.isEmpty then
        if Literal.maxIntegerDigits < whole.length then .error (.tooManyDigits ⟨whole.length⟩)
        else .ok (.int (Literal.signedValue negative whole), afterFraction)
      else
        .ok (.float (Binary64.ofDecimal negative (Text.digitsValue (whole ++ fraction))
          (-(fraction.length : Int))), afterFraction)

/-- Reads a number. -/
def number (cs : List Char) : Except Stop (Value × List Char) :=
  match cs with
  | '-' :: rest => unsigned true cs.length rest
  | _ => unsigned false cs.length cs

/-- The words that are values. -/
def words : List (List Char × Value) := [
  ("null".toList, .null), ("true".toList, .bool true), ("false".toList, .bool false),
  ("NaN".toList, .float .nan), ("Infinity".toList, .float (.infinity false)),
  ("-Infinity".toList, .float (.infinity true))]

/-- A word at the start of a text. -/
def word? (cs : List Char) : Option (Value × List Char) :=
  words.findSome? fun w => if w.1.isPrefixOf cs then some (w.2, cs.drop w.1.length) else none

mutual

/-- Reads a value where there is room for so many containers inside of one another. -/
def value : Nat → Nat → List Char → Except Stop (Value × List Char)
  | 0, _, cs => .error (.malformed .value cs.length)
  | fuel + 1, room, cs =>
    match cs with
    | [] => .error (.malformed .value 0)
    | '"' :: rest => do
      let (s, rest) ← string rest
      pure (.str s, rest)
    | '\x7b' :: rest =>
      if room = 0 then .error (.tooDeep true)
      else
        match skipBlanks rest with
        | '\x7d' :: after => .ok (.dict false [], after)
        | rest => do
          let (es, rest) ← members fuel (room - 1) rest
          pure (.dict false (Entries.ofPairs es), rest)
    | '[' :: rest =>
      if room = 0 then .error (.tooDeep false)
      else
        match skipBlanks rest with
        | ']' :: after => .ok (.list [], after)
        | rest => do
          let (xs, rest) ← elements fuel (room - 1) rest
          pure (.list xs, rest)
    | _ =>
      match word? cs with
      | some r => .ok r
      | none => number cs

/-- Reads the elements of an array, at least one, up to the closing bracket. -/
def elements : Nat → Nat → List Char → Except Stop (List Value × List Char)
  | 0, _, cs => .error (.malformed .value cs.length)
  | fuel + 1, room, cs => do
    let (v, rest) ← value fuel room cs
    match skipBlanks rest with
    | ']' :: after => pure ([v], after)
    | ',' :: after => do
      let (vs, rest) ← elements fuel room (skipBlanks after)
      pure (v :: vs, rest)
    | rest => throw (.malformed .comma rest.length)

/-- Reads the members of an object, at least one, up to the closing brace. -/
def members : Nat → Nat → List Char → Except Stop (Entries Value × List Char)
  | 0, _, cs => .error (.malformed .name cs.length)
  | fuel + 1, room, cs =>
    match cs with
    | '"' :: rest => do
      let (name, rest) ← string rest
      match skipBlanks rest with
      | ':' :: rest => do
        let (v, rest) ← value fuel room (skipBlanks rest)
        match skipBlanks rest with
        | '\x7d' :: after => pure ([(.str name, v)], after)
        | ',' :: after => do
          let (es, rest) ← members fuel room (skipBlanks after)
          pure ((.str name, v) :: es, rest)
        | rest => throw (.malformed .comma rest.length)
      | rest => throw (.malformed .colon rest.length)
    | _ => .error (.malformed .name cs.length)

end

/-- Reads a whole text as one value. -/
def document (room : Nat) (cs : List Char) : Except Stop Value :=
  match cs with
  | '\ufeff' :: _ => .error (.malformed .byteOrderMark cs.length)
  | _ => do
    let (v, rest) ← value (2 * cs.length + 2) room (skipBlanks cs)
    match skipBlanks rest with
    | [] => pure v
    | rest => throw (.malformed .extraData rest.length)

/-- Where a reader stopped, as a place in the text. -/
def Stop.locate (text : List Char) : Stop → Error
  | malformed fault left =>
    let offset := text.length - left
    .malformed fault (Document.lineOf text offset) (Document.columnOf text offset) offset
  | tooManyDigits e => .tooManyDigits e
  | tooDeep object => .tooDeep object

/-- Reads a text as one JSON value. -/
def read (text : List Char) (room : Nat := usualRoom) : Except Error Value :=
  (document room text).mapError (·.locate text)

end ArgumentSchema.Json
