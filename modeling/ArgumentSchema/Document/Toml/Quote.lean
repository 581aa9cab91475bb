import ArgumentSchema.Document.Toml.Fault
import ArgumentSchema.Text.Hex
import ArgumentSchema.Text.Split

/-!
# Strings and keys of TOML

Basic strings stand between double quotes and have escapes, literal strings stand between
apostrophes and have none; either may be tripled, and then goes over several lines. A key is a row
of bare words and one-line strings between dots. Main definitions: `Toml.basicString`,
`Toml.literalString`, `Toml.string?`, `Toml.key`.
-/

namespace ArgumentSchema.Toml

/-- The escapes of one letter. -/
def simpleEscape? : Char → Option Char
  | 'b' => some '\x08'
  | 't' => some '\t'
  | 'n' => some '\n'
  | 'f' => some '\x0c'
  | 'r' => some '\r'
  | '"' => some '"'
  | '\\' => some '\\'
  | _ => none

/-- The character with a number of the given count of hexadecimal digits. -/
def numberedChar (width : Nat) (cs : List Char) : Except Stop (Char × List Char) :=
  let ds := cs.take width
  match Text.hexNumber? ds with
  | some n =>
    if ds.length ≠ width then stop .hexadecimal cs
    else if n.isValidChar then .ok (Char.ofNat n, cs.drop width)
    else stop .notScalar (cs.drop width)
  | none => stop .hexadecimal cs

/-- Whether a character is blank or ends a line. -/
def isBlankOrBreak (c : Char) : Bool := isBlank c || c == '\n'

/-- Skips what a backslash at the end of a line hides: the break and all blanks after it. -/
def skipHidden (cs : List Char) : Except Stop (List Char) :=
  match cs.dropWhile isBlank with
  | [] => .ok []
  | '\n' :: rest => .ok (rest.dropWhile isBlankOrBreak)
  | rest => stop .backslash rest

/-- An escape, behind its backslash: the characters that it stands for. -/
def escaped (multiline : Bool) (cs : List Char) : Except Stop (List Char × List Char) :=
  match cs with
  | [] => stop .backslash []
  | 'u' :: rest => (numberedChar 4 rest).map fun r => ([r.1], r.2)
  | 'U' :: rest => (numberedChar 8 rest).map fun r => ([r.1], r.2)
  | c :: rest =>
    if multiline && isBlankOrBreak c then (skipHidden cs).map fun after => ([], after)
    else
      match simpleEscape? c with
      | some d => .ok ([d], rest)
      | none => stop .backslash rest

/-- What may not stand in a string as it is. -/
def isIllegal (multiline : Bool) (c : Char) : Bool := isControl c && !(multiline && c == '\n')

/-- Reads a basic string behind its opening quote or quotes; `done` holds what was read,
reversed. -/
def basicBody (multiline : Bool) : Nat → List Char → List Char → Except Stop (List Char × List Char)
  | 0, _, cs => stop .unterminated cs
  | fuel + 1, done, cs =>
    match cs with
    | [] => stop .unterminated []
    | '"' :: rest =>
      if !multiline then .ok (done.reverse, rest)
      else
        match rest with
        | '"' :: '"' :: after => .ok (done.reverse, after)
        | _ => basicBody multiline fuel ('"' :: done) rest
    | '\\' :: rest => do
      let (e, rest) ← escaped multiline rest
      basicBody multiline fuel (e.reverse ++ done) rest
    | c :: rest =>
      if isIllegal multiline c then stop (.illegal c) cs
      else basicBody multiline fuel (c :: done) rest

/-- Reads a basic string behind its opening quote or quotes. -/
def basicString (multiline : Bool) (cs : List Char) : Except Stop (List Char × List Char) :=
  basicBody multiline (cs.length + 1) [] cs

/-- Cuts a text at the first occurrence of another, which belongs to neither part. -/
def cutAtText (needle : List Char) : List Char → Option (List Char × List Char)
  | [] => none
  | c :: cs =>
    match Text.afterStart needle (c :: cs) with
    | some after => some ([], after)
    | none => (cutAtText needle cs).map fun r => (c :: r.1, r.2)

/-- Reads a literal string behind its opening quotes, up to the given closing quotes. -/
def literalString (multiline : Bool) (closing : String) (cs : List Char) :
    Except Stop (List Char × List Char) :=
  match cutAtText closing.toList cs with
  | none => stop (.missing closing) []
  | some (body, after) =>
    match body.dropWhile fun c => !isIllegal multiline c with
    | [] => .ok (body, after)
    | c :: rest => .error (.malformed (.forbidden c)
        (1 + rest.length + closing.length + after.length))

/-- One or two more quotes in front of the closing ones belong to the string. -/
def extraQuotes (quote : Char) (body cs : List Char) : List Char × List Char :=
  match cs with
  | c :: d :: rest =>
    if c = quote then
      if d = quote then (body ++ [quote, quote], rest) else (body ++ [quote], d :: rest)
    else (body, cs)
  | [c] => if c = quote then (body ++ [quote], []) else (body, cs)
  | [] => (body, [])

/-- A line break right behind the opening quotes is no part of the string. -/
def skipBreak : List Char → List Char
  | '\n' :: rest => rest
  | cs => cs

/-- Reads a string, if one starts here. -/
def string? (cs : List Char) : Option (Except Stop (List Char × List Char)) :=
  match cs with
  | '"' :: '"' :: '"' :: rest =>
    some ((basicString true (skipBreak rest)).map fun r => extraQuotes '"' r.1 r.2)
  | '\'' :: '\'' :: '\'' :: rest =>
    some ((literalString true "'''" (skipBreak rest)).map fun r => extraQuotes '\'' r.1 r.2)
  | '"' :: rest => some (basicString false rest)
  | '\'' :: rest => some (literalString false "'" rest)
  | _ => none

/-- The characters of bare words. -/
def isBare (c : Char) : Bool :=
  ('a' ≤ c && c ≤ 'z') || ('A' ≤ c && c ≤ 'Z') || ('0' ≤ c && c ≤ '9') || c == '-' || c == '_'

/-- Whether a key may start with a character. -/
def startsKey (c : Char) : Bool := isBare c || c == '"' || c == '\''

/-- Reads one part of a key. -/
def keyPart (cs : List Char) : Except Stop (String × List Char) :=
  match cs with
  | '"' :: rest => (basicString false rest).map fun r => (String.ofList r.1, r.2)
  | '\'' :: rest => (literalString false "'" rest).map fun r => (String.ofList r.1, r.2)
  | c :: _ =>
    if isBare c then .ok (String.ofList (cs.takeWhile isBare), cs.dropWhile isBare)
    else stop .keyStart cs
  | [] => stop .keyStart []

/-- Reads a key of at most the given count of parts, and the blanks behind it. -/
def keyParts : Nat → List Char → Except Stop (Key × List Char)
  | 0, cs => stop .keyStart cs
  | fuel + 1, cs => do
    let (part, rest) ← keyPart cs
    match skipBlanks rest with
    | '.' :: rest => do
      let (parts, rest) ← keyParts fuel (skipBlanks rest)
      pure (part :: parts, rest)
    | rest => pure ([part], rest)

/-- Reads a key and the blanks behind it. -/
def key (cs : List Char) : Except Stop (Key × List Char) := keyParts (cs.length + 1) cs

end ArgumentSchema.Toml
