import ArgumentSchema.Text.Case
import ArgumentSchema.Text.Digit
import ArgumentSchema.Text.Hex
import ArgumentSchema.Text.Printable
import ArgumentSchema.Text.Split
import ArgumentSchema.Text.Word

/-!
# Tokens of a call

The arguments of a call are words, numbers, texts in quotes and signs. Brackets of all kinds have to
match, and inside of them a line may end anywhere. Main definitions: `Flaw`, `Token`, `Placed`,
`scan`.
-/

namespace ArgumentSchema.Call

/-! ## Flaws -/

/-- What keeps arguments from being read. -/
inductive Flaw where
  | unexpected
  | missingComma
  | missingElse
  | assignsToName
  | assignsTo (what : String)
  | assignsInCall
  | takesNoValue (what : String)
  | names (what : String)
  | missingBrackets (word : String)
  | missingValue
  | missingColon
  | starredValue
  | badStar
  | starredLoop
  | starredGroup
  | doubleStarredGroup
  | mixedTexts
  | badByte
  | neverClosed (bracket : Char)
  | unmatched (bracket : Char)
  /-- The line of the opening bracket is given if it is another one. -/
  | mismatched (closing opening : Char) (line : Option Nat)
  | tooDeep
  | unterminated (triple : Bool) (line : Nat)
  | badNumber (kind : String)
  | badDigit (digit : Char) (kind : String)
  | leadingZeros
  | badCharacter (c : Char)
  | strayBackslash
  | cutOff
deriving DecidableEq, Repr

/-- The sentence for a flaw. -/
def Flaw.message : Flaw → String
  | unexpected => "invalid syntax"
  | missingComma => "invalid syntax. Perhaps you forgot a comma?"
  | missingElse => "expected 'else' after 'if' expression"
  | assignsToName => "invalid syntax. Maybe you meant '==' or ':=' instead of '='?"
  | assignsTo what =>
    "cannot assign to " ++ what ++ " here. Maybe you meant '==' instead of '='?"
  | assignsInCall => "expression cannot contain assignment, perhaps you meant \"==\"?"
  | takesNoValue what => "cannot assign to " ++ what
  | names what => "cannot use assignment expressions with " ++ what
  | missingBrackets word =>
    "Missing parentheses in call to '" ++ word ++ "'. Did you mean " ++ word ++ "(...)?"
  | missingValue => "expression expected after dictionary key and ':'"
  | missingColon => "':' expected after dictionary key"
  | starredValue => "cannot use a starred expression in a dictionary value"
  | badStar => "Invalid star expression"
  | starredLoop => "iterable unpacking cannot be used in comprehension"
  | starredGroup => "cannot use starred expression here"
  | doubleStarredGroup => "cannot use double starred expression here"
  | mixedTexts => "cannot mix bytes and nonbytes literals"
  | badByte => "bytes can only contain ASCII literal characters"
  | neverClosed bracket => "'" ++ bracket.toString ++ "' was never closed"
  | unmatched bracket => "unmatched '" ++ bracket.toString ++ "'"
  | mismatched closing opening line =>
    "closing parenthesis '" ++ closing.toString ++ "' does not match opening parenthesis '" ++
      opening.toString ++ "'" ++ line.elim "" fun n => " on line " ++ toString n
  | tooDeep => "too many nested parentheses"
  | unterminated triple line =>
    "unterminated " ++ (if triple then "triple-quoted " else "") ++
      "string literal (detected at line " ++ toString line ++ ")"
  | badNumber kind => "invalid " ++ kind ++ " literal"
  | badDigit digit kind => "invalid digit '" ++ digit.toString ++ "' in " ++ kind ++ " literal"
  | leadingZeros => "leading zeros in decimal integer literals are not permitted; " ++
      "use an 0o prefix for octal integers"
  | badCharacter c =>
    let width := if c.toNat < 0x10000 then 4 else if c.toNat < 0x100000 then 5 else 6
    let digits := Text.hexPadded width c.toNat
    let code := "U+" ++ String.ofList (Text.upper digits)
    if Text.isPrintable c then "invalid character '" ++ c.toString ++ "' (" ++ code ++ ")"
    else "invalid non-printable character " ++ code
  | strayBackslash => "unexpected character after line continuation character"
  | cutOff => "unexpected EOF while parsing"

/-! ## Numbers -/

/-- Whether a character may stand in a word; which of the characters beyond ASCII are letters is
asked later. -/
def isWordLike (c : Char) : Bool := Text.isWord c || 128 ≤ c.toNat

/-- Whether a word of which only the start counts may stand right behind a number. -/
def startsWordBehindNumber (cs : List Char) : Bool :=
  ["if", "in", "is"].any fun w => (Text.afterStart w.toList cs).isSome

/-- The other words that may stand right behind a number. -/
def wordsBehindNumber : List String := ["and", "else", "for", "or", "not"]

/-- Checks that no word in ASCII runs into the end of a number. -/
def numberEnd (kind : String) (cs : List Char) : Except Flaw (List Char) :=
  if startsWordBehindNumber cs ∨ String.ofList (cs.takeWhile isWordLike) ∈ wordsBehindNumber then
    .ok cs
  else if cs.head?.any fun c => c.toNat < 128 && Text.isWord c then .error (.badNumber kind)
  else .ok cs

/-- Takes the digits of a number in a base other than ten. `needed` tells that a digit has to come
next, and `joins` that an underscore may. -/
def basedDigits (kind : String) (base : Nat) : Bool → Bool → List Char → Except Flaw (List Char)
  | needed, _, [] => if needed then .error (.badNumber kind) else .ok []
  | needed, joins, c :: cs =>
    if (Text.hexValue? c).any (· < base) then basedDigits kind base false true cs
    else if c = '_' ∧ joins then basedDigits kind base true false cs
    else if Text.isAsciiDigit c then .error (.badDigit c kind)
    else if needed then .error (.badNumber kind)
    else numberEnd kind (c :: cs)

/-- Whether a text starts with a digit. -/
def startsWithDigit (cs : List Char) : Bool := cs.head?.any Text.isAsciiDigit

/-- Takes digits in base ten, which an underscore may join. -/
def decimalDigits : List Char → Except Flaw (List Char)
  | [] => .ok []
  | c :: cs =>
    if Text.isAsciiDigit c then decimalDigits cs
    else if c = '_' then
      if startsWithDigit cs then decimalDigits cs
      else .error (.badNumber "decimal")
    else .ok (c :: cs)

/-- The end of a number: whether it is imaginary, and what follows it. -/
def imaginaryPart (cs : List Char) : Except Flaw (Bool × List Char) :=
  match cs with
  | 'j' :: rest | 'J' :: rest => (numberEnd "imaginary" rest).map (true, ·)
  | _ => (numberEnd "decimal" cs).map (false, ·)

/-- A number behind its digits: its exponent, if there is one, and its end. -/
def exponentPart (cs : List Char) : Except Flaw (Bool × List Char) :=
  match cs with
  | e :: rest =>
    if e = 'e' ∨ e = 'E' then
      let signed := rest.head? = some '+' ∨ rest.head? = some '-'
      let digits := if signed then rest.drop 1 else rest
      if startsWithDigit digits then decimalDigits digits >>= imaginaryPart
      else if signed then .error (.badNumber "decimal")
      else (numberEnd "decimal" cs).map (false, ·)
    else imaginaryPart cs
  | [] => .ok (false, [])

/-- A number behind its point. -/
def fractionPart (cs : List Char) : Except Flaw (Bool × List Char) :=
  if startsWithDigit cs then decimalDigits cs >>= exponentPart else exponentPart cs

/-- A number behind the digits in front of its point. -/
def decimalPart (cs : List Char) : Except Flaw (Bool × List Char) :=
  match cs with
  | '.' :: rest => fractionPart rest
  | _ => exponentPart cs

/-- Whether a text goes on as a number that is no integer does. -/
def isFractional (cs : List Char) : Bool := ['.', 'e', 'E', 'j', 'J'].any (cs.head? = some ·)

/-- A number that starts with zero, behind that zero. -/
def afterZero (cs : List Char) : Except Flaw (Bool × List Char) :=
  match cs with
  | 'x' :: rest | 'X' :: rest => (basedDigits "hexadecimal" 16 true true rest).map (false, ·)
  | 'o' :: rest | 'O' :: rest => (basedDigits "octal" 8 true true rest).map (false, ·)
  | 'b' :: rest | 'B' :: rest => (basedDigits "binary" 2 true true rest).map (false, ·)
  | _ => do
    let rest ← decimalDigits cs
    let digits := cs.take (cs.length - rest.length)
    if digits.all (fun d => d == '0' || d == '_') || isFractional rest then decimalPart rest
    else .error .leadingZeros

/-- A number: whether it is imaginary, and what follows it. -/
def number (cs : List Char) : Except Flaw (Bool × List Char) :=
  match cs with
  | '0' :: rest => afterZero rest
  | '.' :: rest => fractionPart rest
  | _ => decimalDigits cs >>= decimalPart

/-! ## Texts -/

/-- What follows a text in quotes, and the number of lines that end in it. `size` is the number of
its closing quotes, and `seen` how many of them were seen last. -/
def textEnd? (quote : Char) (size : Nat) : Nat → Nat → List Char → Option (List Char) × Nat
  | _, lines, [] => (none, lines)
  | _, lines, '\\' :: c :: cs => textEnd? quote size 0 (if c = '\n' then lines + 1 else lines) cs
  | seen, lines, c :: cs =>
    if c = quote then
      if seen + 1 = size then (some cs, lines) else textEnd? quote size (seen + 1) lines cs
    else if c = '\n' then
      if size = 1 then (none, lines) else textEnd? quote size 0 (lines + 1) cs
    else textEnd? quote size 0 lines cs

/-- What follows a text whose first quote has been read. -/
def afterText (line : Nat) (quote : Char) (cs : List Char) : Except Flaw (List Char × Nat) :=
  let size := if cs.take 2 = [quote, quote] then 3 else 1
  match textEnd? quote size 0 line (cs.drop (size - 1)) with
  | (some rest, line) => .ok (rest, line)
  | (none, line) => .error (.unterminated (size = 3) line)

/-! ## Tokens -/

/-- What a text in quotes holds. -/
inductive TextKind where
  | characters | bytes | formatted
deriving DecidableEq, Repr

/-- A token. -/
inductive Token where
  | word (s : String)
  | number (imaginary : Bool)
  | text (kind : TextKind)
  | sign (s : String)
  | lineEnd
  /-- The place behind which nothing can be read. -/
  | stop (f : Flaw)
deriving DecidableEq, Repr

/-- A token and the number of brackets that are open behind it. -/
structure Placed where
  token : Token
  depth : Nat
deriving DecidableEq, Repr

/-- The letters in front of a text, and what it holds. -/
def textKinds : List (String × TextKind) := [
  ("", .characters), ("u", .characters), ("r", .characters), ("b", .bytes), ("br", .bytes),
  ("rb", .bytes), ("f", .formatted), ("fr", .formatted), ("rf", .formatted)]

/-- Signs of more than one character, the longer ones first. -/
def longSigns : List String := [
  "**=", "//=", "<<=", ">>=", "...", "**", "//", "<<", ">>", "==", "!=", "<=", ">=", "<>", "->",
  ":=", "+=", "-=", "*=", "/=", "%=", "&=", "|=", "^=", "@="]

/-- A sign and what follows it. -/
def signAt (c : Char) (cs : List Char) : String × List Char :=
  let long := longSigns.findSome? fun s =>
    (Text.afterStart s.toList (c :: cs)).map fun rest => (s, rest)
  long.getD (c.toString, cs)

/-- A place in the arguments: the brackets that are open, the innermost first, each with its line;
the line of the place; and whether a token stands on it. -/
structure Place where
  brackets : List (Char × Nat)
  line : Nat
  started : Bool

/-- The most brackets that may be open at once. -/
def maxDepth : Nat := 200

/-- The place behind a sign, which may be a bracket. Square brackets do not come up: they bound the
tag. -/
def Place.after (p : Place) (sign : Char) : Except Flaw Place :=
  let opening := if sign = ')' then '(' else '{'
  match sign, p.brackets with
  | '(', bs | '{', bs =>
    if bs.length < maxDepth then .ok { p with brackets := (sign, p.line) :: bs, started := true }
    else .error .tooDeep
  | ')', [] | '}', [] => .error (.unmatched sign)
  | ')', (b, line) :: outer | '}', (b, line) :: outer =>
    if b = opening then .ok { p with brackets := outer, started := true }
    else .error (.mismatched sign b (if line = p.line then none else some line))
  | _, _ => .ok { p with started := true }

/-- What stops the reading at the end, if there is anything. -/
def Place.endFlaw? (p : Place) : Option Flaw := p.brackets.head?.map fun b => .neverClosed b.1

/-- The last token if nothing can be read behind it. -/
def Place.stop (p : Place) (otherwise : Flaw) : List Placed :=
  [⟨.stop (p.endFlaw?.getD otherwise), p.brackets.length⟩]

/-- Checks that only letters and digits stand in a word. -/
def checkWord (cs : List Char) : Except Flaw Unit :=
  let bad :=
    match cs with
    | [] => none
    | c :: cs =>
      if Text.isWord c && !Text.isDigit c then cs.find? fun d => !Text.isWord d else some c
  match bad with
  | some c => .error (.badCharacter c)
  | none => .ok ()

/-- The token of a text in quotes: bytes have to be ASCII. -/
def textToken (kind : TextKind) (written : List Char) : Token :=
  if kind = .bytes ∧ written.any fun c => 128 ≤ c.toNat then .stop .badByte else .text kind

/-- A text in quotes behind its first quote. -/
def text (p : Place) (kind : TextKind) (quote : Char) (cs : List Char) :
    Except Flaw (Token × Place × List Char) := do
  let (rest, line) ← afterText p.line quote cs
  pure (textToken kind (cs.take (cs.length - rest.length)),
    { p with line := line, started := true }, rest)

/-- The token at the start of a text that is no blank, with the place behind it and what follows. -/
def next (p : Place) (c : Char) (cs : List Char) : Except Flaw (Token × Place × List Char) :=
  let letters := (c :: cs).takeWhile isWordLike
  let rest := (c :: cs).dropWhile isWordLike
  let word := String.ofList letters
  if Text.isAsciiDigit c ∨ (c = '.' ∧ startsWithDigit cs) then do
    let (imaginary, rest) ← number (c :: cs)
    pure (.number imaginary, { p with started := true }, rest)
  else
    match textKinds.lookup (String.ofList (Text.asciiLower letters)), rest with
    | some kind, '"' :: inner => text p kind '"' inner
    | some kind, '\'' :: inner => text p kind '\'' inner
    | _, _ =>
      if isWordLike c then do
        checkWord letters
        pure (.word word, { p with started := true }, rest)
      else if !Text.isPrintable c then .error (.badCharacter c)
      else do
        let (sign, rest) := signAt c cs
        pure (.sign sign, ← p.after c, rest)

/-- The tokens from a place on. The first argument bounds their number. -/
def scanFrom : Nat → Place → List Char → Except Flaw (List Placed)
  | 0, _, _ => .ok []
  | _, p, [] => .ok (if p.brackets.isEmpty then [] else p.stop .cutOff)
  | fuel + 1, p, c :: cs =>
    if c = ' ' ∨ c = '\t' ∨ c = '\x0c' then scanFrom fuel p cs
    else if c = '#' then scanFrom fuel p (cs.dropWhile (· != '\n'))
    else if c = '\n' then do
      let rest ← scanFrom fuel { p with line := p.line + 1, started := false } cs
      pure (if p.brackets.isEmpty && p.started then ⟨.lineEnd, 0⟩ :: rest else rest)
    else if c = '\\' then
      match cs with
      | ['\n'] => .ok (p.stop .cutOff)
      | '\n' :: rest => scanFrom fuel { p with line := p.line + 1 } rest
      | _ => .ok [⟨.stop .strayBackslash, p.brackets.length⟩]
    else do
      let (token, p, rest) ← next p c cs
      pure (⟨token, p.brackets.length⟩ :: (← scanFrom fuel p rest))

/-- The tokens of a text. -/
def scan (cs : List Char) : Except Flaw (List Placed) := scanFrom (cs.length + 1) ⟨[], 1, false⟩ cs

end ArgumentSchema.Call
