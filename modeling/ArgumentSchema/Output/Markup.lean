import ArgumentSchema.Output.Call
import ArgumentSchema.Output.Picture
import ArgumentSchema.Output.Style
import ArgumentSchema.Text.Split

/-!
# Markup in short texts

Markup sets styles by tags in square brackets: a tag opens a style, and a tag that starts with a
stroke closes the style that it names, or the last one if it names none. A backslash in front of a
tag makes it plain text. What follows a sign of equality in a tag goes with its style; in a tag that
starts with `@` it is a call, which is read when the tag is closed. Where no style is shown, only
the text between the tags remains, with pictures in the places of their names; but a tag that closes
nothing is an error. Main definitions: `Markup.Fault`, `Markup.pieces`, `Markup.Shown`,
`Markup.read`.
-/

namespace ArgumentSchema.Markup

/-! ## Faults -/

/-- What is wrong with a markup. -/
inductive Fault where
  | closesNothing (position : Nat)
  | unmatched (tag : String) (position : Nat)
  /-- The call of a tag cannot be read. -/
  | badCall (e : Call.Fault)
  /-- A part of the colour of a style has no digits. -/
  | emptyNumber
deriving DecidableEq, Repr

namespace Fault

/-- The name of the class of a fault. -/
def className : Fault → String
  | emptyNumber => "ValueError"
  | closesNothing _ | unmatched _ _ | badCall _ => "MarkupError"

/-- The sentence for a fault. -/
def message : Fault → String
  | closesNothing position =>
    "closing tag '[/]' at position " ++ toString position ++ " has nothing to close"
  | unmatched tag position =>
    "closing tag '[" ++ tag ++ "]' at position " ++ toString position ++
      " doesn't match any open tag"
  | badCall e => e.message
  | emptyNumber => "invalid literal for int() with base 10: ''"

end Fault

/-! ## Pieces -/

/-- A piece of a markup: text as it stands, or the inside of a tag and its place. -/
inductive Piece where
  | text (cs : List Char)
  | tag (position : Nat) (body : List Char)
deriving DecidableEq, Repr

/-- Whether the inside of brackets may start with a character. -/
def startsTag (c : Char) : Bool := ('a' ≤ c && c ≤ 'z') || c == '#' || c == '/' || c == '@'

/-- Whether a character may stand in brackets. -/
def insideTag (c : Char) : Bool := c != '[' && c != ']'

/-- The inside of a tag behind its opening bracket, and what follows the closing one. -/
def tagBody? : List Char → Option (List Char × List Char)
  | [] => none
  | c :: rest =>
    match startsTag c, rest.dropWhile insideTag with
    | true, ']' :: after => some (c :: rest.takeWhile insideTag, after)
    | _, _ => none

/-- A tag at the start of a text, with the number of the backslashes in front of it, and what
follows it. -/
def tag? (cs : List Char) : Option (Nat × List Char × List Char) :=
  match cs.dropWhile (· == '\\') with
  | '[' :: rest => (tagBody? rest).map fun r => ((cs.takeWhile (· == '\\')).length, r.1, r.2)
  | _ => none

theorem tagBody?_length {cs body after : List Char} (h : tagBody? cs = some (body, after)) :
    after.length < cs.length := by
  unfold tagBody? at h
  split at h
  · simp at h
  · rename_i c rest
    split at h
    · rename_i tail _ hrest
      have hle : (rest.dropWhile insideTag).length ≤ rest.length :=
        (List.dropWhile_suffix insideTag).length_le
      simp only [Option.some.injEq, Prod.mk.injEq] at h
      rw [hrest, h.2] at hle
      simp only [List.length_cons] at hle ⊢
      omega
    · simp at h

theorem tag?_length {cs : List Char} {r : Nat × List Char × List Char} (h : tag? cs = some r) :
    r.2.2.length < cs.length := by
  unfold tag? at h
  split at h
  · rename_i rest hrest
    obtain ⟨b, hb, rfl⟩ := Option.map_eq_some_iff.1 h
    have hlt : b.2.length < rest.length := tagBody?_length hb
    have hle : (cs.dropWhile (· == '\\')).length ≤ cs.length :=
      (List.dropWhile_suffix _).length_le
    rw [hrest, List.length_cons] at hle
    simp only
    omega
  · simp at h

/-- What a tag stands for: of the backslashes in front of it each second one remains, and the last
of an odd number makes the tag plain text. -/
def tagPieces (position slashes : Nat) (body : List Char) : List Piece :=
  let kept := .text (List.replicate (slashes / 2) '\\')
  if slashes % 2 = 1 then [kept, .text ('[' :: (body ++ [']']))]
  else [kept, .tag (position + slashes) body]

/-- The pieces of a markup; `position` is the place of its first character, and `before` the text
between it and the tag in front of it, reversed. -/
def piecesFrom (position : Nat) (before cs : List Char) : List Piece :=
  match cs with
  | [] => [.text before.reverse]
  | c :: rest =>
    match _h : tag? (c :: rest) with
    | some (slashes, body, after) =>
      .text before.reverse :: (tagPieces position slashes body ++
        piecesFrom (position + slashes + body.length + 2) [] after)
    | none => piecesFrom (position + 1) (c :: before) rest
termination_by cs.length
decreasing_by
  · exact tag?_length _h
  · simp

/-- The pieces of a markup. -/
def pieces (cs : List Char) : List Piece := piecesFrom 0 [] cs

/-! ## Tags -/

/-- An open tag: the normal form of its style, and what stands behind its sign of equality. -/
structure OpenTag where
  style : String
  parameters : Option (List Char)
deriving DecidableEq, Repr

/-- The normal form of a style. -/
def styleName (cs : List Char) : Except Fault String :=
  (Style.normal cs).mapError fun _ => .emptyNumber

/-- Whether a tag names an action. -/
def OpenTag.namesAction (t : OpenTag) : Bool := t.style.startsWith "@"

/-- Reads the call of a tag that names an action. -/
def OpenTag.checkCall (t : OpenTag) : Except Fault Unit :=
  let call := t.parameters.getD []
  if t.namesAction ∧ !call.isEmpty then (Call.read call).mapError .badCall else .ok ()

/-- What is wrong with the style of a tag once it is shown, with what stands behind its sign of
equality. Words that are no style do not matter then. -/
def OpenTag.styleFault? (t : OpenTag) : Option Fault :=
  match Style.read (t.style.toList ++ ' ' :: t.parameters.getD []) with
  | .error .emptyNumber => some .emptyNumber
  | .ok _ | .error .malformed => none

/-- Removes the last opened tag of a style. -/
def close? (style : String) : List OpenTag → Option (OpenTag × List OpenTag)
  | [] => none
  | t :: ts =>
    if t.style = style then some (t, ts) else (close? style ts).map fun r => (r.1, t :: r.2)

/-- The tag that a closing tag closes, and the others. -/
def closed (position : Nat) (body name : List Char) (opened : List OpenTag) :
    Except Fault (OpenTag × List OpenTag) :=
  match Text.trim name, opened with
  | [], t :: ts => .ok (t, ts)
  | [], [] => .error (.closesNothing position)
  | name, opened => do
    match close? (← styleName name) opened with
    | some r => .ok r
    | none => .error (.unmatched (String.ofList body) position)

/-- A tag takes effect on the tags that are open, the last opened first. The tag that it closes is
given as well. -/
def apply (position : Nat) (body : List Char) (opened : List OpenTag) :
    Except Fault (Option OpenTag × List OpenTag) :=
  match Text.cutAt '=' body with
  | ('/' :: name, _) => do
    let (t, others) ← closed position body name opened
    t.checkCall
    pure (some t, others)
  | (name, parameters) => do pure (none, ⟨← styleName name, parameters⟩ :: opened)

/-- Text between tags: a backslash in front of a bracket goes away, and names of pictures become
pictures. -/
def shown (cs : List Char) : List Char :=
  Picture.replace (Text.join ['['] (Text.splitOn ['\\', '['] cs))

/-- The text of a markup without its tags, and what is wrong with its styles once it is shown. -/
structure Shown where
  text : List Char
  fault? : Option Fault

/-- Text that is shown as it stands. -/
def Shown.verbatim (cs : List Char) : Shown := ⟨cs, none⟩

/-- Follows the pieces of a markup. Tags that are still open at its end are closed there. -/
def follow (opened : List OpenTag) : List Piece → Except Fault Shown
  | [] => .ok ⟨[], opened.findSome? (·.styleFault?)⟩
  | .text cs :: rest => do
    let s ← follow opened rest
    pure { s with text := shown cs ++ s.text }
  | .tag position body :: rest => do
    let (ended, opened) ← apply position body opened
    let s ← follow opened rest
    let styled := ended.filter fun t => !t.namesAction
    pure { s with fault? := (styled.bind (·.styleFault?)).or s.fault? }

/-- Reads a markup. -/
def read (s : String) : Except Fault Shown := follow [] (pieces s.toList)

end ArgumentSchema.Markup
