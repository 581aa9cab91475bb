import ArgumentSchema.Output.Picture.Listing
import ArgumentSchema.Text.Blank
import ArgumentSchema.Text.Case
import ArgumentSchema.Text.Split
import ArgumentSchema.Text.Width

/-!
# Pictures by name

A name between colons stands for a picture, in any case of letters. Behind the name of a picture
may stand whether it is to be shown as text or as a picture, and behind the name of a person or a
hand a tone of skin. What names no picture stays as it is. Main definitions: `Picture.glyph?`,
`Picture.replace`.
-/

namespace ArgumentSchema.Picture

/-- A row of the listing as pairs of a name and its picture. -/
def rowPairs (row : List Char) : List (String × List Char) :=
  match Text.fields row with
  | [] => []
  | glyph :: names => names.map fun n => (String.ofList n, glyph)

/-- Pictures by name. -/
def table : List (String × List Char) := (Text.splitOn [','] listing.toList).flatMap rowPairs

/-- The names of the pictures that come in several tones of skin. -/
def tonedNames : List String := (Text.fields tonedListing.toList).map String.ofList

/-- The tones of skin, each with the character that follows the picture. -/
def tones : List (String × Char) := [
  ("light", '🏻'), ("medium-light", '🏼'), ("medium", '🏽'), ("medium-dark", '🏾'), ("dark", '🏿')]

/-- A picture in a tone of skin, which takes the place of a picture sign. -/
def inTone (tone : Char) : List Char → List Char
  | [] => []
  | c :: cs => c :: tone :: (if cs.head? = some Text.pictureSign then cs.drop 1 else cs)

/-- A text without the given end. -/
def beforeEnd? (last cs : List Char) : Option (List Char) :=
  (Text.afterStart last.reverse cs.reverse).map List.reverse

/-- The picture of a name in a tone of skin. -/
def tonedGlyph? (name : List Char) : Option (List Char) :=
  tones.findSome? fun t => do
    let base ← beforeEnd? ("_" ++ t.1 ++ "_skin_tone").toList name
    let base := String.ofList base
    if base ∈ tonedNames then (table.lookup base).map (inTone t.2) else none

/-- The picture of a name. -/
def glyph? (name : List Char) : Option (List Char) :=
  let name := name.map Text.lowerChar
  match table.lookup (String.ofList name) with
  | some g => some g
  | none => tonedGlyph? name

/-- The character that asks for the text form of the character before it. -/
def textSign : Char := '\ufe0e'

/-- What stands between two colons as a name and the sign for the form that is asked for. -/
def nameAndForm (cs : List Char) : List Char × List Char :=
  match beforeEnd? "-emoji".toList cs, beforeEnd? "-text".toList cs with
  | some name, _ => (name, [Text.pictureSign])
  | none, some name => (name, [textSign])
  | none, none => (cs, [])

/-- What stands for a text between two colons. -/
def shown (cs : List Char) : List Char :=
  let (name, form) := nameAndForm cs
  match glyph? name with
  | some g => g ++ form
  | none => ':' :: (cs ++ [':'])

/-- Whether a character may stand between the colons. -/
def inCode (c : Char) : Bool := c != ':' && !Text.isBlank c

/-- What stands behind a colon up to the next one, and what follows that, if no blank comes
between. -/
def code? (cs : List Char) : Option (List Char × List Char) :=
  match cs.dropWhile inCode with
  | ':' :: after => some (cs.takeWhile inCode, after)
  | _ => none

theorem code?_length {cs code after : List Char} (h : code? cs = some (code, after)) :
    after.length < cs.length := by
  unfold code? at h
  split at h
  · rename_i rest hrest
    have hle : (cs.dropWhile inCode).length ≤ cs.length :=
      (List.dropWhile_suffix inCode).length_le
    rw [hrest] at hle
    simp only [Option.some.injEq, Prod.mk.injEq] at h
    rw [← h.2]
    simp only [List.length_cons] at hle
    omega
  · simp at h

/-- A text with pictures in the places of their names. -/
def replace (cs : List Char) : List Char :=
  match cs with
  | [] => []
  | c :: rest =>
    if c = ':' then
      match _h : code? rest with
      | some (code, after) => shown code ++ replace after
      | none => c :: replace rest
    else c :: replace rest
termination_by cs.length
decreasing_by
  · have := code?_length _h
    simp only [List.length_cons]
    omega
  · simp
  · simp

end ArgumentSchema.Picture
