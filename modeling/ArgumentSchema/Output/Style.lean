import ArgumentSchema.Output.Color
import ArgumentSchema.Text.Blank

/-!
# Styles

A style is written in words: attributes, each of which may stand behind `not`, a colour, a colour
behind `on` for the background, and an address behind `link`. The order of the words and their case
do not matter, and of two words that contradict each other the last counts, so a style has many
written forms and one normal form. Main definitions: `Attribute`, `Style`, `Style.read`,
`Style.write`, `Style.normal`.
-/

namespace ArgumentSchema

/-- An attribute of written text. -/
inductive Attribute where
  | bold | dim | italic | underline | blink | blink2 | reverse | conceal | strike | underline2
  | frame | encircle | overline
deriving DecidableEq, Repr

namespace Attribute

/-- All attributes, in the order in which they are written. -/
def all : List Attribute :=
  [bold, dim, italic, underline, blink, blink2, reverse, conceal, strike, underline2, frame,
    encircle, overline]

/-- The name of an attribute. -/
def name : Attribute → String
  | bold => "bold" | dim => "dim" | italic => "italic" | underline => "underline"
  | blink => "blink" | blink2 => "blink2" | reverse => "reverse" | conceal => "conceal"
  | strike => "strike" | underline2 => "underline2" | frame => "frame" | encircle => "encircle"
  | overline => "overline"

/-- The short name of an attribute, if it has one. -/
def shortName? : Attribute → Option String
  | bold => some "b" | dim => some "d" | italic => some "i" | underline => some "u"
  | reverse => some "r" | conceal => some "c" | strike => some "s" | underline2 => some "uu"
  | overline => some "o" | blink | blink2 | frame | encircle => none

/-- The attribute of a name, which may be the short one. -/
def ofName? (s : String) : Option Attribute :=
  all.find? fun a => a.name = s ∨ a.shortName? = some s

end Attribute

/-- A style. Of several entries for one attribute the first counts. -/
structure Style where
  attributes : List (Attribute × Bool)
  color : Option String
  background : Option String
  link : Option String
deriving Repr

namespace Style

/-- The style that sets nothing. -/
def plain : Style := ⟨[], none, none, none⟩

/-- Why words are no style. -/
inductive Fault where
  | malformed
  /-- A part of a colour has no digits. -/
  | emptyNumber
deriving DecidableEq, Repr

/-- Reads a colour in a style. -/
def readColor (word : List Char) : Except Fault String :=
  (Color.read word).mapError fun
    | .unknown => .malformed
    | .emptyNumber => .emptyNumber

/-- Reads further words into a style. -/
def readFrom : Style → List (List Char) → Except Fault Style
  | s, [] => .ok s
  | s, w :: ws =>
    let word := String.ofList (w.map Text.lowerChar)
    match word, ws with
    | "on", [] | "not", [] | "link", [] => .error .malformed
    | "on", c :: ws => do
      let name ← readColor c
      readFrom { s with background := some name } ws
    | "not", a :: ws =>
      match Attribute.ofName? (String.ofList a) with
      | some a => readFrom { s with attributes := (a, false) :: s.attributes } ws
      | none => .error .malformed
    | "link", address :: ws => readFrom { s with link := some (String.ofList address) } ws
    | _, ws =>
      match Attribute.ofName? word with
      | some a => readFrom { s with attributes := (a, true) :: s.attributes } ws
      | none => do
        let name ← readColor w
        readFrom { s with color := some name } ws

/-- Reads a style. -/
def read (cs : List Char) : Except Fault Style :=
  if Text.trim cs = "none".toList then .ok plain else readFrom plain (Text.fields cs)

/-- A style in words, in a fixed order. -/
def write (s : Style) : String :=
  let attributes := Attribute.all.filterMap fun a =>
    (s.attributes.lookup a).map fun on => if on then a.name else "not " ++ a.name
  let words := attributes ++ s.color.toList ++ (s.background.elim [] fun c => ["on", c]) ++
    (s.link.elim [] fun l => ["link", l])
  if words.isEmpty then "none" else " ".intercalate words

/-- The normal form of a style; words that are no style are taken as they are, in lower case. -/
def normal (cs : List Char) : Except Fault String :=
  match read cs with
  | .ok s => .ok s.write
  | .error .malformed => .ok (String.ofList ((Text.trim cs).map Text.lowerChar))
  | .error .emptyNumber => .error .emptyNumber

end Style

end ArgumentSchema
