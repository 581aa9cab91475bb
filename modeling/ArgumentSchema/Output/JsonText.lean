import ArgumentSchema.Number.Notation
import ArgumentSchema.Text.Hex
import ArgumentSchema.Text.Utf8
import ArgumentSchema.Value.Text

/-!
# Values as JSON text

A value is turned into a `JsonTree`, which is all that JSON can say, and a tree is written on one
line or with one entry to a line, with all characters or with ASCII ones only. There are two ways
to turn a value into a tree. The strict way refuses what has no agreed form, writes dates in ISO
form and bytes as text, has no word for the infinities, and does not follow values that lie too
deep inside one another. The loose way never refuses a value: it shows whatever JSON does not know
as inside a message; but it refuses keys that are neither texts, numbers, truth values nor null.
Main definitions: `JsonTree`, `JsonTree.write`, `JsonTree.strictRecord?`, `JsonTree.loose`.
-/

namespace ArgumentSchema

/-- What JSON can say; numbers and words are written as they are. -/
inductive JsonTree where
  | token (s : String)
  | text (s : String)
  | array (items : List JsonTree)
  | object (entries : List (String × JsonTree))
deriving Inhabited

namespace JsonTree

/-! ## Writing -/

/-- One unit of an escape by number. -/
def unitEscape (n : Nat) : List Char := '\\' :: 'u' :: Text.hexPadded 4 n

/-- A character by its number: one unit, or the two of a surrogate pair. -/
def numberEscape (n : Nat) : List Char :=
  if n < 0x10000 then unitEscape n
  else
    let m := n - 0x10000
    unitEscape (0xD800 + m / 0x400) ++ unitEscape (0xDC00 + m % 0x400)

/-- A character inside a string. -/
def escapedChar (asciiOnly : Bool) (c : Char) : List Char :=
  let n := c.toNat
  if c = '"' ∨ c = '\\' then ['\\', c]
  else if c = '\n' then ['\\', 'n']
  else if c = '\r' then ['\\', 'r']
  else if c = '\t' then ['\\', 't']
  else if n = 8 then ['\\', 'b']
  else if n = 12 then ['\\', 'f']
  else if n < 32 ∨ (asciiOnly ∧ 126 < n) then numberEscape n
  else [c]

/-- A text between quotes. -/
def quoted (asciiOnly : Bool) (s : String) : String :=
  String.ofList ('"' :: (s.toList.flatMap (escapedChar asciiOnly) ++ ['"']))

/-- How a tree is laid out. -/
structure Layout where
  asciiOnly : Bool
  /-- Every entry stands on a line of its own, two columns further in. -/
  indented : Bool

namespace Layout

/-- All on one line. -/
def line : Layout := ⟨false, false⟩

/-- One entry to a line. -/
def block : Layout := ⟨false, true⟩

/-- One entry to a line, in ASCII. -/
def asciiBlock : Layout := ⟨true, true⟩

/-- The written entries of a container at a depth, between its brackets. -/
def enclose (l : Layout) (depth : Nat) (left right : String) (parts : List String) : String :=
  if parts.isEmpty then left ++ right
  else if l.indented then
    let margin (d : Nat) : String := "\n" ++ String.ofList (List.replicate (2 * d) ' ')
    let inner := margin (depth + 1)
    left ++ inner ++ ("," ++ inner).intercalate parts ++ margin depth ++ right
  else left ++ ", ".intercalate parts ++ right

end Layout

mutual

/-- A tree at a depth as text. -/
def writeAt (l : Layout) (depth : Nat) : JsonTree → String
  | token s => s
  | text s => quoted l.asciiOnly s
  | array xs => l.enclose depth "[" "]" (writeItems l (depth + 1) xs)
  | object es => l.enclose depth "\x7b" "\x7d" (writeEntries l (depth + 1) es)

/-- The elements of an array as texts. -/
def writeItems (l : Layout) (depth : Nat) : List JsonTree → List String
  | [] => []
  | x :: xs => writeAt l depth x :: writeItems l depth xs

/-- The entries of an object as texts. -/
def writeEntries (l : Layout) (depth : Nat) : List (String × JsonTree) → List String
  | [] => []
  | (k, v) :: es => (quoted l.asciiOnly k ++ ": " ++ writeAt l depth v) :: writeEntries l depth es

end

/-- A tree as text. -/
def write (l : Layout) (t : JsonTree) : String := writeAt l 0 t

/-! ## The strict way -/

/-- A word for a truth value. -/
def flag (b : Bool) : JsonTree := token (if b then "true" else "false")

/-- The word for nothing. -/
def null : JsonTree := token "null"

mutual

/-- A key in its agreed form. -/
def strictKey? : Value → Option String
  | .absent => Value.markerText? .absent
  | .wildcard => Value.markerText? .wildcard
  | .null => some "None"
  | .bool b => some (if b then "true" else "false")
  | .int i => some (toString i)
  | .float x => some (if x.toRatio?.isSome then x.write .plain else "None")
  | .str s => some s
  | .bytes _ data => (Utf8.decode data).toOption.map String.ofList
  | .regex p _ => some p
  | .date d => some d.iso
  | .moment m => some (m.date.iso ++ "T" ++ m.clock.isoMarked)
  | .clock c => some c.isoMarked
  | .tuple xs => (strictKeys? xs).map (",".intercalate ·)
  | _ => none

/-- The parts of a key in their agreed form. -/
def strictKeys? : List Value → Option (List String)
  | [] => some []
  | x :: xs => do pure ((← strictKey? x) :: (← strictKeys? xs))

end

mutual

/-- A value in its agreed form, if it has one. -/
def strict? : Value → Option JsonTree
  | .absent => (Value.markerText? .absent).map text
  | .wildcard => (Value.markerText? .wildcard).map text
  | .null => some null
  | .bool b => some (flag b)
  | .int i => some (token (toString i))
  | .float x => some (token (x.write .strictJson))
  | .str s => some (text s)
  | .bytes _ data => (Utf8.decode data).toOption.map fun cs => text (String.ofList cs)
  | .regex p _ => some (text p)
  | .date d => some (text d.iso)
  | .moment m => some (text (m.date.iso ++ "T" ++ m.clock.isoMarked))
  | .clock c => some (text c.isoMarked)
  | .list xs | .tuple xs | .set xs => (strictItems? xs).map array
  | .dict _ es => (strictEntries? es).map object
  | .callback _ _ | .classRef _ | .object _ => none

/-- Elements in their agreed form. -/
def strictItems? : List Value → Option (List JsonTree)
  | [] => some []
  | x :: xs => do pure ((← strict? x) :: (← strictItems? xs))

/-- Entries in their agreed form. -/
def strictEntries? : List (Value × Value) → Option (List (String × JsonTree))
  | [] => some []
  | (k, v) :: es => do pure ((← strictKey? k, ← strict? v) :: (← strictEntries? es))

end

/-- How many values may lie inside one another, the innermost included. -/
def depthLimit : Nat := 255

mutual

/-- How many values lie inside one another in a value, itself included. -/
def height : Value → Nat
  | .list xs | .tuple xs | .set xs => heightOfItems xs + 1
  | .dict _ es => heightOfEntries es + 1
  | _ => 1

/-- The greatest height among elements. -/
def heightOfItems : List Value → Nat
  | [] => 0
  | x :: xs => max (height x) (heightOfItems xs)

/-- The greatest height among the contents of entries; keys do not count. -/
def heightOfEntries : List (Value × Value) → Nat
  | [] => 0
  | (_, v) :: es => max (height v) (heightOfEntries es)

end

/-- Named values as an object in their agreed form, if they have one and none of them is too
high. -/
def strictRecord? (fields : List (String × Value)) : Option JsonTree :=
  let es := fields.map fun f => (Value.str f.1, f.2)
  if heightOfEntries es ≤ depthLimit then (strictEntries? es).map object else none

/-! ## The loose way -/

/-- A key that no JSON object can have; `kind` is the class that it belongs to. -/
structure BadKey where
  kind : Class
deriving DecidableEq, Repr

/-- The message for a bad key, with the class named in full or not. -/
def BadKey.message (e : BadKey) (full : Bool) : String :=
  "keys must be str, int, float, bool or None, not " ++
    (if full then e.kind.qualifiedName else e.kind.name)

/-- A key as text. -/
def looseKey : Value → Except BadKey String
  | .null => .ok "null"
  | .bool b => .ok (if b then "true" else "false")
  | .int i => .ok (toString i)
  | .float x => .ok (x.write .looseJson)
  | .str s => .ok s
  | v => .error ⟨v.classOf⟩

mutual

/-- A value as JSON, or shown if it is nothing that JSON knows. -/
def loose : Value → Except BadKey JsonTree
  | .null => .ok null
  | .bool b => .ok (flag b)
  | .int i => .ok (token (toString i))
  | .float x => .ok (token (x.write .looseJson))
  | .str s => .ok (text s)
  | .list xs | .tuple xs => (looseItems xs).map array
  | .dict _ es => (looseEntries es).map object
  | v => .ok (text v.shown)

/-- Elements as JSON. -/
def looseItems : List Value → Except BadKey (List JsonTree)
  | [] => .ok []
  | x :: xs => do pure ((← loose x) :: (← looseItems xs))

/-- Entries as JSON. -/
def looseEntries : List (Value × Value) → Except BadKey (List (String × JsonTree))
  | [] => .ok []
  | (k, v) :: es => do pure ((← looseKey k, ← loose v) :: (← looseEntries es))

end

end JsonTree

end ArgumentSchema
