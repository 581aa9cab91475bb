/-!
# Splitting a text at a separator

`splitOn sep cs` cuts `cs` at every occurrence of a non-empty separator, read from the left and
without overlap, and keeps empty pieces. Joining the pieces with the separator gives the text
back (`join_splitOn`). Main definitions: `splitOn`, `join`, `cutAt`.
-/

namespace ArgumentSchema.Text

/-- What is left of a text after a given beginning, `none` if it does not begin so. -/
def afterStart : List Char → List Char → Option (List Char)
  | [], cs => some cs
  | _ :: _, [] => none
  | s :: ss, c :: cs => if s = c then afterStart ss cs else none

/-- A text is its beginning and what is left of it. -/
theorem afterStart_eq_some {s cs r : List Char} (h : afterStart s cs = some r) : cs = s ++ r := by
  induction s generalizing cs with
  | nil => simp_all [afterStart]
  | cons a s ih =>
    cases cs with
    | nil => simp [afterStart] at h
    | cons c cs =>
      by_cases hac : a = c
      · simp only [afterStart, hac, if_true] at h
        simp [hac, ih h]
      · simp [afterStart, hac] at h

/-- The pieces of a text between the occurrences of a separator: the separator is given by its
first character and the rest, so it is not empty. `piece` holds the current piece, reversed. -/
def splitAux (s : Char) (sep piece : List Char) (cs : List Char) : List (List Char) :=
  match cs with
  | [] => [piece.reverse]
  | c :: rest =>
    match _h : afterStart (s :: sep) (c :: rest) with
    | some after => piece.reverse :: splitAux s sep [] after
    | none => splitAux s sep (c :: piece) rest
termination_by cs.length
decreasing_by
  · have := afterStart_eq_some _h
    simp only [List.length_cons, List.length_append, this]
    omega
  · simp

/-- The pieces of a text between the occurrences of a separator; with an empty separator the text
is one piece. -/
def splitOn (sep cs : List Char) : List (List Char) :=
  match sep with
  | [] => [cs]
  | s :: ss => splitAux s ss [] cs

/-- The pieces with a separator between each two. -/
def join (sep : List Char) : List (List Char) → List Char
  | [] => []
  | [p] => p
  | p :: q :: ps => p ++ sep ++ join sep (q :: ps)

theorem join_cons (sep p : List Char) {ps : List (List Char)} (hps : ps ≠ []) :
    join sep (p :: ps) = p ++ sep ++ join sep ps := by
  cases ps with
  | nil => exact absurd rfl hps
  | cons q ps => rfl

theorem splitAux_ne_nil (s : Char) (sep piece cs : List Char) :
    splitAux s sep piece cs ≠ [] := by
  fun_induction splitAux s sep piece cs with
  | case1 => exact List.cons_ne_nil _ _
  | case2 => exact List.cons_ne_nil _ _
  | case3 _ _ _ _ ih => exact ih

theorem join_splitAux (s : Char) (sep piece cs : List Char) :
    join (s :: sep) (splitAux s sep piece cs) = piece.reverse ++ cs := by
  fun_induction splitAux s sep piece cs with
  | case1 piece => simp [join]
  | case2 piece c rest after h ih =>
    rw [join_cons _ _ (splitAux_ne_nil s sep [] after), ih, afterStart_eq_some h]
    simp
  | case3 piece c rest _ ih => simp [ih]

/-- The pieces of a text, joined with the separator, are the text. -/
theorem join_splitOn (sep cs : List Char) : join sep (splitOn sep cs) = cs := by
  cases sep with
  | nil => rfl
  | cons s ss => simpa [splitOn] using join_splitAux s ss [] cs

/-- Cuts a text at the first place where a character occurs; the character belongs to neither
part, and the second part is absent when there is no such place. -/
def cutAt (x : Char) : List Char → List Char × Option (List Char)
  | [] => ([], none)
  | c :: cs => if c = x then ([], some cs) else
      let (before, after) := cutAt x cs
      (c :: before, after)

/-- Whether one text occurs in another. -/
def occursIn (needle : List Char) : List Char → Bool
  | [] => needle.isEmpty
  | c :: cs => (afterStart needle (c :: cs)).isSome || occursIn needle cs

end ArgumentSchema.Text
