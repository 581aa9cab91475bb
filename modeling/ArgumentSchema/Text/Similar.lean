/-!
# Similar words

Two words are as similar as the characters that they share in order: the longest common piece, the
earliest of those, and then the same on either side of it. The share of common characters in all
characters decides which of several words are close to a misspelled one. Main definitions:
`commonCount`, `closeWords`.
-/

namespace ArgumentSchema.Text

/-- The length of the common beginning of two texts. -/
def commonStart : List Char → List Char → Nat
  | a :: as, b :: bs => if a = b then commonStart as bs + 1 else 0
  | _, _ => 0

/-- A common piece of two texts: where it starts in each, and its length. -/
structure CommonPiece where
  first : Nat
  second : Nat
  length : Nat

/-- The longest common piece of two texts; of several the one that starts first in the first text,
and then in the second. -/
def longestPiece (a b : List Char) : CommonPiece :=
  let places := (List.range a.length).flatMap fun i => (List.range b.length).map fun j => (i, j)
  places.foldl (fun best p =>
    let n := commonStart (a.drop p.1) (b.drop p.2)
    if best.length < n then ⟨p.1, p.2, n⟩ else best) ⟨0, 0, 0⟩

/-- The number of characters in common pieces, with pieces of at most `fuel` splits. -/
def commonCountFrom : Nat → List Char → List Char → Nat
  | 0, _, _ => 0
  | fuel + 1, a, b =>
    let p := longestPiece a b
    if p.length = 0 then 0
    else
      p.length + commonCountFrom fuel (a.take p.first) (b.take p.second) +
        commonCountFrom fuel (a.drop (p.first + p.length)) (b.drop (p.second + p.length))

/-- The number of characters that two texts share in order. -/
def commonCount (a b : List Char) : Nat := commonCountFrom (a.length + 1) a b

/-- A candidate for a misspelled word, with the fraction of characters that the two share. -/
structure Candidate where
  word : String
  shared : Nat
  total : Nat

/-- How a word compares with a misspelled one. -/
def Candidate.of (wrong word : String) : Candidate :=
  ⟨word, 2 * commonCount word.toList wrong.toList, word.length + wrong.length⟩

/-- Whether at least six tenths of the characters are shared. -/
def Candidate.isClose (c : Candidate) : Bool := 6 * c.total ≤ 10 * c.shared

/-- Whether one candidate comes before another: it shares more, or it is the later word. -/
def Candidate.before (c d : Candidate) : Bool :=
  let x := c.shared * d.total
  let y := d.shared * c.total
  y < x || (x == y && !(c.word < d.word))

/-- The three words closest to a misspelled one, in the order of words. -/
def closeWords (wrong : String) (known : List String) : List String :=
  let close := (known.map (Candidate.of wrong)).filter Candidate.isClose
  (((close.mergeSort Candidate.before).take 3).map (·.word)).mergeSort fun a b => !(b < a)

end ArgumentSchema.Text
