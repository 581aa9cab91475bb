/-!
# Blanks around a text

A blank is a character of the white space class: the ASCII controls from tab to carriage return
and from file separator to unit separator, the space, and the space and line separators of
Unicode. Main definitions: `isBlank`, `trimLeft`, `trimRight`, `trim`. Trimming takes blanks off
the ends only, so `trim` is idempotent (`trim_trim`) and no trimmed text starts or ends with a
blank. `fields` are the words of a text, without the blanks around them.
-/

namespace ArgumentSchema.Text

/-- White space. -/
def isBlank (c : Char) : Bool :=
  let n := c.toNat
  (9 ≤ n && n ≤ 13) || (28 ≤ n && n ≤ 32) || n == 0x85 || n == 0xA0 || n == 0x1680 ||
    (0x2000 ≤ n && n ≤ 0x200A) || n == 0x2028 || n == 0x2029 || n == 0x202F || n == 0x205F ||
    n == 0x3000

/-- White space of ASCII: the space and the controls from tab to carriage return. -/
def isAsciiBlank (c : Char) : Bool := c == ' ' || (9 ≤ c.toNat && c.toNat ≤ 13)

/-- Drops the blanks at the start. -/
def trimLeft (cs : List Char) : List Char := cs.dropWhile isBlank

/-- Drops the blanks at the end. -/
def trimRight (cs : List Char) : List Char := (cs.reverse.dropWhile isBlank).reverse

/-- Drops the blanks at both ends. -/
def trim (cs : List Char) : List Char := trimRight (trimLeft cs)

/-- The words of a text behind a word that has begun, which is reversed. -/
def fieldsFrom (word : List Char) : List Char → List (List Char)
  | [] => if word.isEmpty then [] else [word.reverse]
  | c :: cs =>
    if !isBlank c then fieldsFrom (c :: word) cs
    else if word.isEmpty then fieldsFrom [] cs
    else word.reverse :: fieldsFrom [] cs

/-- The words of a text. -/
def fields (cs : List Char) : List (List Char) := fieldsFrom [] cs

theorem dropWhile_append_last (cs : List Char) (c : Char) (hc : isBlank c = false) :
    (cs ++ [c]).dropWhile isBlank = cs.dropWhile isBlank ++ [c] := by
  induction cs with
  | nil => simp [hc]
  | cons a cs ih => by_cases ha : isBlank a = true <;> simp_all

theorem dropWhile_dropWhile (cs : List Char) :
    (cs.dropWhile isBlank).dropWhile isBlank = cs.dropWhile isBlank := by
  induction cs with
  | nil => rfl
  | cons a cs ih => by_cases ha : isBlank a = true <;> simp_all

/-- A text that is empty or starts with ink still does so when blanks at its end are dropped. -/
theorem trimLeft_trimRight {cs : List Char} (h : trimLeft cs = cs) :
    trimLeft (trimRight cs) = trimRight cs := by
  cases cs with
  | nil => rfl
  | cons a cs =>
    have ha : isBlank a = false := by
      cases hblank : isBlank a with
      | false => rfl
      | true =>
        have hlen := congrArg List.length h
        have hle := (List.dropWhile_suffix isBlank : cs.dropWhile isBlank <:+ cs).length_le
        simp only [trimLeft, List.dropWhile_cons, hblank, if_true, List.length_cons] at hlen
        omega
    simp [trimRight, trimLeft, List.reverse_cons, dropWhile_append_last, ha]

/-- Trimming a trimmed text changes nothing. -/
theorem trim_trim (cs : List Char) : trim (trim cs) = trim cs := by
  have hleft : trimLeft (trim cs) = trim cs := trimLeft_trimRight (dropWhile_dropWhile cs)
  rw [trim, hleft]
  simp [trim, trimRight, dropWhile_dropWhile]

end ArgumentSchema.Text
