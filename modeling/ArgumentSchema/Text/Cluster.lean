import ArgumentSchema.Text.Width

/-!
# Clusters

A text is cut only between clusters. A cluster is a character that takes columns, with the marks
and the joined pictures behind it; marks at the very start of a text form a cluster of their own. Main
definitions: `Cluster`, `clusters`, `takeColumns`.
-/

namespace ArgumentSchema.Text

/-- What stays together when a text is cut. -/
structure Cluster where
  chars : List Char
  width : Nat
deriving Repr

/-- The clusters of a text read so far, the last first, the last character that took columns and
may still grow, and whether a joiner waits for its right neighbour. -/
structure Clustered where
  found : List Cluster
  last : Option Char
  joining : Bool
deriving Repr

namespace Clustered

/-- A character that goes with the last cluster and adds columns to it. -/
def attach (found : List Cluster) (c : Char) (more : Nat) : List Cluster :=
  match found with
  | [] => [⟨[c], 0⟩]
  | k :: ks => ⟨k.chars ++ [c], k.width + more⟩ :: ks

/-- The clusters of a text that goes on for one character. -/
def push (s : Clustered) (c : Char) : Clustered :=
  if s.joining then { s with found := attach s.found c 0, joining := false }
  else if c = joiner then
    { s with found := attach s.found c 0, joining := !s.found.isEmpty }
  else if c = pictureSign then
    let more := s.last.elim 0 pictureColumns
    { s with found := attach s.found c more, last := if more = 0 then s.last else none }
  else if columns c = 0 then { s with found := attach s.found c 0 }
  else { s with found := ⟨[c], columns c⟩ :: s.found, last := some c }

end Clustered

/-- The clusters of a text. -/
def clusters (cs : List Char) : List Cluster :=
  (cs.foldl Clustered.push ⟨[], none, false⟩).found.reverse

/-- The beginning of a text that takes exactly `width` columns, if it has so many. A cluster across
the edge becomes a blank. -/
def takeColumns (width : Nat) : List Cluster → List Char
  | [] => []
  | k :: ks =>
    if width = 0 then []
    else if k.width ≤ width then k.chars ++ takeColumns (width - k.width) ks
    else [' ']

end ArgumentSchema.Text
