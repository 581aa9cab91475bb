import ArgumentSchema.Output.Wrap

/-!
# Tables

A table has a head and rows of cells. Its columns are as wide as their widest cell. If that is too
much for the page, the columns that may wrap give way first, the widest before the others, and then
all columns evenly. Cells stand a blank away from the lines between columns, but not from the outer
ones. Main definitions: `Table`, `Table.widths`, `Table.draw`.
-/

namespace ArgumentSchema

/-- A column: its head, its cells, and whether it may break its cells into several lines. -/
structure TableColumn where
  wraps : Bool
  cells : List (List Char)

/-- A table by columns; the first cell of each is its head. -/
structure Table where
  columns : List TableColumn

namespace Table

/-! ## Widths -/

/-- Whether a character ends a line when a text is measured. -/
def endsLine (c : Char) : Bool :=
  let n := c.toNat
  n == 10 || (28 ≤ n && n ≤ 30) || n == 0x85 || n == 0x2028 || n == 0x2029

/-- The lines of a text as they are measured; `line` is the current one, reversed. -/
def measuredLines (line : List Char) : List Char → List (List Char)
  | [] => [line.reverse]
  | c :: cs =>
    if endsLine c then line.reverse :: measuredLines [] cs else measuredLines (c :: line) cs

/-- The greatest number of columns that a line of a text takes. -/
def widest (cs : List Char) : Nat := ((measuredLines [] cs).map Text.textColumns).foldl max 0

/-- The blanks beside the cells of a column. -/
def padding (count index : Nat) : Nat × Nat :=
  (if index = 0 then 0 else 1, if index + 1 = count then 0 else 1)

/-- The width that a column asks for. -/
def natural (page count index : Nat) (c : TableColumn) : Nat :=
  let (left, right) := padding count index
  max 1 (min page (((c.cells.map widest).foldl max 0) + left + right))

/-- A quotient rounded to the nearest number, a half to the even one. -/
def roundedQuotient (num den : Nat) : Nat :=
  let q := num / den
  let r := num % den
  if 2 * r < den then q
  else if den < 2 * r then q + 1
  else if q % 2 = 0 then q else q + 1

/-- Takes `total` from the widths that share in it, in turn and in equal parts, and from each at
most its bound. The first argument counts the widths that still share. -/
def shrinkFrom : Nat → Nat → List (Bool × Nat × Nat) → List Nat
  | _, _, [] => []
  | sharing, total, (shares, bound, width) :: rest =>
    if shares && 0 < sharing then
      let part := min bound (roundedQuotient total sharing)
      (width - part) :: shrinkFrom (sharing - 1) (total - part) rest
    else width :: shrinkFrom sharing total rest

/-- Takes `total` from the widths that share in it. -/
def shrink (total : Nat) (parts : List (Bool × Nat × Nat)) : List Nat :=
  let parts := parts.map fun p => (p.1 && p.2.1 != 0, p.2.1, p.2.2)
  shrinkFrom (parts.countP (·.1)) total parts

/-- The width of columns side by side. -/
def total (widths : List Nat) : Nat := widths.foldl (· + ·) 0

/-- Narrows the widest of the columns that may wrap down to the next of them, again and again, until
all fit or none can give way. -/
def narrow (page : Nat) : Nat → List (Bool × Nat) → List (Bool × Nat)
  | 0, ws => ws
  | fuel + 1, ws =>
    let excess := total (ws.map Prod.snd) - page
    let wrapping := (ws.filter Prod.fst).map Prod.snd
    let top := wrapping.foldl max 0
    let second := (wrapping.filter (· != top)).foldl max 0
    if excess = 0 ∨ top = 0 then ws
    else
      let bound := min excess (top - second)
      let parts := ws.map fun w => (w.1 && w.2 == top, bound, w.2)
      narrow page fuel ((ws.map Prod.fst).zip (shrink excess parts))

/-- The widths of the columns on a page of the given width, lines excepted. -/
def widths (page : Nat) (t : Table) : List Nat :=
  let count := t.columns.length
  let asked := t.columns.zipIdx.map fun c => (c.1.wraps, natural page count c.2 c.1)
  let narrowed := (narrow page (page + total (asked.map Prod.snd)) asked).map Prod.snd
  let excess := total narrowed - page
  if excess = 0 then narrowed else shrink excess (narrowed.map fun w => (true, w, w))

/-! ## Drawing -/

/-- A cell as lines of the full width of its column. -/
def cellLines (count index width : Nat) (wraps : Bool) (text : List Char) : List (List Char) :=
  let (left, right) := padding count index
  let inner := width - left - right
  if inner = 0 then []
  else
    (Layout.cell wraps inner text).map fun l =>
      List.replicate left ' ' ++ l ++ List.replicate right ' '

/-- A cell filled up to a height; the head stands at the bottom and any other cell at the top. -/
def fill (height width : Nat) (head : Bool) (lines : List (List Char)) : List (List Char) :=
  let blank := List.replicate (height - lines.length) (List.replicate width ' ')
  if head then blank ++ lines else lines ++ blank

/-- A line of a table: what stands between its ends, with dividers. -/
def bordered (left divider right : Char) (parts : List (List Char)) : String :=
  String.ofList (left :: (Text.join [divider] parts ++ [right]))

/-- A line without cells. -/
def rule (left bar divider right : Char) (widths : List Nat) : String :=
  bordered left divider right (widths.map fun w => List.replicate w bar)

/-- The lines of one row, given its cells as lines. -/
def rowLines (head : Bool) (widths : List Nat) (cells : List (List (List Char))) : List String :=
  let height := max 1 ((cells.map List.length).foldl max 0)
  let filled := List.zipWith (fun w c => fill height w head c) widths cells
  let side := if head then '┃' else '│'
  (List.range height).map fun i => bordered side side side (filled.map fun c => c.getD i [])

/-- The cells of a row as lines. -/
def rowCells (t : Table) (widths : List Nat) (row : Nat) : List (List (List Char)) :=
  let count := t.columns.length
  (t.columns.zip widths).zipIdx.map fun c =>
    cellLines count c.2 c.1.2 c.1.1.wraps (c.1.1.cells.getD row [])

/-- The lines of a table on a page of the given width. -/
def draw (page : Nat) (t : Table) : List String :=
  let count := t.columns.length
  let ws := t.widths (page - (count + 1))
  let rows := (t.columns.head?.map fun c => c.cells.length).getD 0
  let body := (List.range (rows - 1)).flatMap fun i =>
    rowLines false ws (t.rowCells ws (i + 1))
  [rule '┏' '━' '┳' '┓' ws] ++ rowLines true ws (t.rowCells ws 0) ++
    [rule '┡' '━' '╇' '┩' ws] ++ body ++ [rule '└' '─' '┴' '┘' ws]

end Table

end ArgumentSchema
