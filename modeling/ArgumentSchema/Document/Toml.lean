import ArgumentSchema.Document.Toml.Namespaces
import ArgumentSchema.Document.Toml.Quote
import ArgumentSchema.Document.Toml.Scalar

/-!
# Reading TOML documents

A document is a row of statements, one to a line: an entry, the header of a table, or the header of
a new element of an array of tables. Entries go into the table of the last header. There is room for
only so many values inside of one another, beyond which a document is refused as too deep and not as
malformed. Main definitions: `Toml.value`, `Toml.statement`, `Toml.read`.
-/

namespace ArgumentSchema.Toml

/-- Skips a comment, up to the end of its line. -/
def skipComment (cs : List Char) : Except Stop (List Char) :=
  match cs with
  | '#' :: rest =>
    match rest.dropWhile fun c => !isControl c with
    | '\n' :: after => .ok ('\n' :: after)
    | [] => .ok []
    | c :: after => stop (.forbidden c) (c :: after)
  | _ => .ok cs

/-- Skips blanks, line breaks and comments inside an array. -/
def skipFiller : Nat → List Char → Except Stop (List Char)
  | 0, cs => .ok cs
  | fuel + 1, cs => do
    let after ← skipComment (cs.dropWhile isBlankOrBreak)
    if after.length < cs.length then skipFiller fuel after else pure after

/-- Skips blanks, line breaks and comments inside an array. -/
def filler (cs : List Char) : Except Stop (List Char) := skipFiller cs.length cs

/-- Whether a value has parts, which nothing outside of it may change. -/
def hasParts : Value → Bool
  | .dict _ _ => true
  | .list _ => true
  | _ => false

/-- The sign between a key and its value, and the blanks behind it. -/
def takeEquals (cs : List Char) : Except Stop (List Char) :=
  match cs with
  | '=' :: rest => .ok (skipBlanks rest)
  | _ => stop .keyEnd cs

/-- A result without a place, at the place in front of the given characters. -/
def located {α : Type} (cs : List Char) : Except Fault α → Except Stop α
  | .ok a => .ok a
  | .error f => stop f cs

/-- Adds an entry to a table in braces; `marks` says which keys inside are frozen. -/
def addInline (marks : Marks) (name : Key) (v : Value) (es : Entries Value) :
    Except Fault (Entries Value) :=
  let last := name.getLast?.getD ""
  if marks.frozen name then .error (.immutable name)
  else update false (addEntry (.repeatedKey last) last v) name.dropLast es

/-- The room for values inside of one another that a reader finds when nothing else is under way in the
program. -/
def usualRoom : Nat := 978

/-- The room that is taken while a value is read: two by an array, three by a table in braces, one by
any other. -/
def roomFor : List Char → Nat
  | '[' :: _ => 2
  | '\x7b' :: _ => 3
  | _ => 1

mutual

/-- Reads a value with the room that is left by those that it is inside of. -/
def value : Nat → Nat → List Char → Except Stop (Value × List Char)
  | 0, _, cs => stop .value cs
  | fuel + 1, room, cs =>
    if room < roomFor cs then .error .tooDeep
    else
      match string? cs with
      | some r => r.map fun r => (.str (String.ofList r.1), r.2)
      | none =>
        match cs with
        | '[' :: rest => do
          match ← filler rest with
          | ']' :: after => pure (.list [], after)
          | rest => do
            let (xs, rest) ← elements fuel (room - 2) rest
            pure (.list xs, rest)
        | '\x7b' :: rest =>
          match skipBlanks rest with
          | '\x7d' :: after => .ok (.dict false [], after)
          | rest => do
            let (es, rest) ← inlineEntries fuel (room - 3) [] [] rest
            pure (.dict false es, rest)
        | _ => scalar cs

/-- Reads the elements of an array, at least one, up to the closing bracket. -/
def elements : Nat → Nat → List Char → Except Stop (List Value × List Char)
  | 0, _, cs => stop .unclosedArray cs
  | fuel + 1, room, cs => do
    let (v, rest) ← value fuel room cs
    match ← filler rest with
    | ']' :: after => pure ([v], after)
    | ',' :: rest =>
      match ← filler rest with
      | ']' :: after => pure ([v], after)
      | rest => do
        let (vs, rest) ← elements fuel room rest
        pure (v :: vs, rest)
    | rest => stop .unclosedArray rest

/-- Reads the entries of a table in braces, at least one more, up to the closing brace. -/
def inlineEntries :
    Nat → Nat → Marks → Entries Value → List Char → Except Stop (Entries Value × List Char)
  | 0, _, _, _, cs => stop .unclosedTable cs
  | fuel + 1, room, marks, es, cs => do
    let (name, rest) ← key cs
    let (v, rest) ← value fuel room (← takeEquals rest)
    let es ← located rest (addInline marks name v es)
    match skipBlanks rest with
    | '\x7d' :: after => pure (es, after)
    | ',' :: rest =>
      let marks := if hasParts v then marks.freeze name else marks
      inlineEntries fuel room marks es (skipBlanks rest)
    | rest => stop .unclosedTable rest

end

/-- What has been read of a document: its content, the restrictions in force, those that come into
force with the next header, and the key of the last header. -/
structure Draft where
  content : Entries Value
  marks : Marks
  pending : List Key
  header : Key

/-- The draft before the first statement. -/
def Draft.empty : Draft := ⟨[], [], [], []⟩

/-- The keys that a dotted key passes, under a header. -/
def passedKeys (header key : Key) : List Key :=
  (List.range (key.length - 1)).map fun i => header ++ key.take (i + 1)

/-- Adds an entry under the current header. -/
def Draft.addEntry (d : Draft) (key : Key) (v : Value) : Except Fault Draft := do
  let passed := passedKeys d.header key
  let parent := d.header ++ key.dropLast
  match passed.find? d.marks.declared with
  | some k => throw (.redefined k)
  | none => pure ()
  if d.marks.frozen parent then throw (.immutable parent)
  let content ← update true (Toml.addEntry .overwritten (key.getLast?.getD "") v) parent d.content
  let marks := if hasParts v then d.marks.freeze (d.header ++ key) else d.marks
  pure { d with content, marks, pending := d.pending ++ passed }

/-- Lets the pending restrictions come into force. -/
def Draft.settle (d : Draft) : Draft :=
  { d with marks := d.pending.foldl Marks.declare d.marks, pending := [] }

/-- Opens a table by its header. -/
def Draft.openTable (d : Draft) (key : Key) : Except Fault Draft := do
  if d.marks.declared key || d.marks.frozen key then throw (.declaredTwice key)
  let content ← update true .ok key d.content
  pure { d with content, marks := d.marks.declare key, header := key }

/-- Opens a new element of an array of tables by its header. -/
def Draft.openElement (d : Draft) (key : Key) : Except Fault Draft := do
  if d.marks.frozen key then throw (.immutable key)
  let content ← update true (addTable (key.getLast?.getD "")) key.dropLast d.content
  pure { d with content, marks := (d.marks.release key).declare key, header := key }

/-- Reads an entry. -/
def entry (room : Nat) (d : Draft) (cs : List Char) : Except Stop (Draft × List Char) := do
  let (name, rest) ← key cs
  let rest ← takeEquals rest
  let (v, rest) ← value (3 * rest.length + 3) room rest
  let d ← located rest (d.addEntry name v)
  pure (d, rest)

/-- Reads the header of a table behind its bracket. -/
def tableHeader (d : Draft) (cs : List Char) : Except Stop (Draft × List Char) := do
  let (name, rest) ← key (skipBlanks cs)
  let d ← located rest (d.openTable name)
  match rest with
  | ']' :: after => pure (d, after)
  | _ => stop .tableEnd rest

/-- Reads the header of an element of an array of tables behind its brackets. -/
def elementHeader (d : Draft) (cs : List Char) : Except Stop (Draft × List Char) := do
  let (name, rest) ← key (skipBlanks cs)
  let d ← located rest (d.openElement name)
  match rest with
  | ']' :: ']' :: after => pure (d, after)
  | _ => stop .tablesEnd rest

/-- Reads a statement, or nothing in front of a comment. -/
def statement (room : Nat) (d : Draft) (cs : List Char) : Except Stop (Draft × List Char) :=
  match cs with
  | '[' :: '[' :: rest => elementHeader d.settle rest
  | '[' :: rest => tableHeader d.settle rest
  | '#' :: _ => .ok (d, cs)
  | c :: _ => if startsKey c then entry room d cs else stop .statement cs
  | [] => .ok (d, [])

/-- Reads statements line by line. -/
def statements (room : Nat) : Nat → Draft → List Char → Except Stop Draft
  | 0, d, _ => .ok d
  | fuel + 1, d, cs =>
    match skipBlanks cs with
    | [] => .ok d
    | '\n' :: rest => statements room fuel d rest
    | cs => do
      let (d, rest) ← statement room d cs
      match ← skipComment (skipBlanks rest) with
      | [] => pure d
      | '\n' :: rest => statements room fuel d rest
      | rest => stop .statementEnd rest

/-- Line breaks of two characters become line feeds. -/
def joinBreaks : List Char → List Char
  | '\r' :: '\n' :: rest => '\n' :: joinBreaks rest
  | c :: rest => c :: joinBreaks rest
  | [] => []

/-- Why a text is not read. The place is absent at the end of the document. -/
inductive Error where
  | malformed (fault : Fault) (place : Option (Nat × Nat))
  | tooManyDigits (e : Literal.TooManyDigits)
  | tooDeep
deriving DecidableEq, Repr

/-- The message for an error. -/
def Error.message : Error → String
  | malformed fault none => fault.message ++ " (at end of document)"
  | malformed fault (some (line, column)) =>
    fault.message ++ " (at line " ++ toString line ++ ", column " ++ toString column ++ ")"
  | tooManyDigits e => e.message
  | tooDeep => "maximum recursion depth exceeded"

/-- Where a reader stopped, as a place in the text. -/
def Stop.locate (text : List Char) : Stop → Error
  | malformed fault 0 => .malformed fault none
  | malformed fault left =>
    let offset := text.length - left
    .malformed fault (some (Document.lineOf text offset, Document.columnOf text offset))
  | tooManyDigits e => .tooManyDigits e
  | tooDeep => .tooDeep

/-- Reads a text as the entries of a document. -/
def read (text : List Char) (room : Nat := usualRoom) : Except Error (Entries Value) :=
  let text := joinBreaks text
  match statements room (text.length + 1) Draft.empty text with
  | .ok d => .ok d.content
  | .error s => .error (s.locate text)

end ArgumentSchema.Toml
