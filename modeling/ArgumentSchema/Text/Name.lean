import ArgumentSchema.Text.Blank
import ArgumentSchema.Text.Case
import ArgumentSchema.Text.Hex
import ArgumentSchema.Text.Name.Listing
import ArgumentSchema.Text.Split

/-!
# Characters by name

A character has a name, and some have others besides; the case of the letters of a name does not
matter. Main definition: `codeNamed?`.
-/

namespace ArgumentSchema.Text

/-- What a row of a listing says of a name: the code point that the row starts with, and the place
of the name among the names of the row. -/
def placeInRow? (name row : List Char) : Option (Nat × Nat) :=
  match splitOn [':'] row with
  | [head, ends] =>
    match fields head with
    | code :: shared => do
      let code ← hexNumber? code
      let last ← afterStart (shared.flatMap (· ++ [' '])) name
      let place ← (splitOn [','] ends).findIdx? fun e => join [' '] (fields e) == last
      some (code, place)
    | [] => none
  | _ => none

/-- The code point of the character with a name. -/
def codeNamed? (name : List Char) : Option Nat :=
  let name := name.map fun c => if c.toNat < 128 then upperChar c else c
  let inRows (listing : String) := (splitOn [';'] listing.toList).findSome? (placeInRow? name)
  match inRows nameListing with
  | some (code, place) => some (code + place)
  | none => (inRows otherNameListing).map Prod.fst

end ArgumentSchema.Text
