import ArgumentSchema.Text.Blank
import ArgumentSchema.Text.Cluster
import ArgumentSchema.Text.Split

/-!
# Text in lines of a given width

A text is laid out line by line. A line that is too wide is broken behind blanks; a word that no
line can hold is either folded over several lines or left to be cut, and what is cut ends in an
ellipsis. Blanks behind the last word of a line stay unless they stick out. Control characters that
would move the cursor are dropped first, and tabs become blanks. Main definitions: `Layout.words`,
`Layout.breaks`, `Layout.paragraph`, `Layout.cell`.
-/

namespace ArgumentSchema.Layout

/-- Whether a character would ring, or move the cursor other than to the next line. -/
def movesCursor (c : Char) : Bool := c.toNat ∈ [7, 8, 11, 12, 13]

/-- A text without the characters that would move the cursor. -/
def clean (cs : List Char) : List Char := cs.filter fun c => !movesCursor c

/-- The columns between two stops of the tab. -/
def tabWidth : Nat := 8

/-- The parts of a line between its tabs, put together with blanks up to the next stop; `column` is
the place of the first part. -/
def fillTabs (column : Nat) : List (List Char) → List Char
  | [] => []
  | [part] => part
  | part :: parts =>
    let next := column + Text.textColumns (part ++ [' '])
    let more := (tabWidth - next % tabWidth) % tabWidth
    part ++ List.replicate (more + 1) ' ' ++ fillTabs (next + more) parts

/-- A line in which tabs have become blanks. -/
def expandTabs (cs : List Char) : List Char := fillTabs 0 (Text.splitOn ['\t'] cs)

/-- A character that is no blank. -/
def isInk (c : Char) : Bool := !Text.isBlank c

/-- The words of a line, each with the blanks behind it, and the first with those in front of it.
A line of blanks has none. -/
def wordsFrom : Nat → List Char → List (List Char)
  | 0, _ => []
  | fuel + 1, cs =>
    let lead := cs.takeWhile Text.isBlank
    let afterLead := cs.dropWhile Text.isBlank
    let body := afterLead.takeWhile isInk
    let afterBody := afterLead.dropWhile isInk
    if body.isEmpty then []
    else
      (lead ++ body ++ afterBody.takeWhile Text.isBlank) ::
        wordsFrom fuel (afterBody.dropWhile Text.isBlank)

/-- The words of a line. -/
def words (cs : List Char) : List (List Char) := wordsFrom cs.length cs

/-- Pieces of a word that fit a width; `piece` is the current one and `used` its columns. -/
def chopFrom (width : Nat) (piece : List Char) (used : Nat) :
    List Text.Cluster → List (List Char)
  | [] => [piece]
  | k :: ks =>
    if width < used + k.width then piece :: chopFrom width k.chars k.width ks
    else chopFrom width (piece ++ k.chars) (used + k.width) ks

/-- Pieces of a word that fit a width. -/
def chop (width : Nat) (cs : List Char) : List (List Char) :=
  chopFrom width [] 0 (Text.clusters cs)

/-- The places where folded pieces begin, the start of the line excepted. -/
def pieceStarts : Nat → List (List Char) → List Nat
  | _, [] => []
  | start, p :: ps => (if start = 0 then [] else [start]) ++ pieceStarts (start + p.length) ps

/-- The places where a line is broken. `start` is the place of the first of the words, and `used`
the columns that are taken before it. -/
def breaksFrom (fold : Bool) (width : Nat) : Nat → Nat → List (List Char) → List Nat
  | _, _, [] => []
  | start, used, w :: ws =>
    let bare := Text.textColumns (Text.trimRight w)
    let full := Text.textColumns w
    let next := start + w.length
    if used + bare ≤ width then breaksFrom fold width next (used + full) ws
    else if width < bare then
      if fold then
        let pieces := chop width w
        pieceStarts start pieces ++
          breaksFrom fold width next (Text.textColumns (pieces.getLast?.getD [])) ws
      else (if start = 0 then [] else [start]) ++ breaksFrom fold width next full ws
    else if used = 0 ∨ start = 0 then breaksFrom fold width next used ws
    else start :: breaksFrom fold width next full ws

/-- The places where a line is broken. -/
def breaks (fold : Bool) (width : Nat) (cs : List Char) : List Nat :=
  breaksFrom fold width 0 0 (words cs)

/-- Cuts a text at places, counted from the given offset. -/
def divide : Nat → List Nat → List Char → List (List Char)
  | _, [], cs => [cs]
  | offset, b :: bs, cs => cs.take (b - offset) :: divide b bs (cs.drop (b - offset))

/-- Drops blanks at the end as far as the text is longer than a width. -/
def dropExcessBlanks (width : Nat) (cs : List Char) : List Char :=
  let blanks := (cs.reverse.takeWhile Text.isBlank).length
  cs.take (cs.length - min blanks (cs.length - width))

/-- A text that is cut or filled up with blanks so that it takes exactly `width` columns. -/
def fit (width : Nat) (cs : List Char) : List Char :=
  let size := Text.textColumns cs
  if size ≤ width then cs ++ List.replicate (width - size) ' '
  else Text.takeColumns width (Text.clusters cs)

/-- A line that is cut if it is wider than `width`; an ellipsis stands for what is missing. -/
def cut (width : Nat) (cs : List Char) : List Char :=
  if Text.textColumns cs ≤ width then cs else fit (width - 1) cs ++ ['…']

/-- The lines of a text. -/
def lines (cs : List Char) : List (List Char) := Text.splitOn ['\n'] cs

/-- One line as lines of a width. -/
def wrapLine (fold : Bool) (width : Nat) (cs : List Char) : List (List Char) :=
  let cs := expandTabs cs
  (divide 0 (breaks fold width cs) cs).map (dropExcessBlanks width)

/-- A text as lines of a width, its longest words folded. What still sticks out is cut off. -/
def paragraph (width : Nat) (cs : List Char) : List (List Char) :=
  (lines (clean cs)).flatMap fun line =>
    (wrapLine true width line).map fun l => if Text.textColumns l ≤ width then l else fit width l

/-- A text as the lines of a table cell: all equally wide, and what sticks out ends in an ellipsis.
A cell that does not wrap has one line for each line of the text, and its blanks count. -/
def cell (wraps : Bool) (width : Nat) (cs : List Char) : List (List Char) :=
  let inner (line : List Char) : List (List Char) :=
    if wraps then wrapLine false width line else [expandTabs line]
  ((lines cs).flatMap inner).map fun l => fit width (cut width l)

end ArgumentSchema.Layout
