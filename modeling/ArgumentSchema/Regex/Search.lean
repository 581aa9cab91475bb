import ArgumentSchema.Regex.Letters
import ArgumentSchema.Regex.Reader

/-!
# Searching with regular expressions

`Regex.find` looks for the preferred way in which an expression, and then whatever follows it, can
match from a place of the subject. What follows is a continuation, so an alternative is tried only
when all before it have failed. A repetition does not go round again after a round that got no
further, which bounds it by the length of the subject. `Regex.occursIn` says whether an expression
matches from some place. Main definitions: `Regex.find`, `Regex.occursIn`, `searches`.
-/

namespace ArgumentSchema.Regex

/-! ## Places -/

/-- A place in the subject, and where each group has last begun and last ended, the latest first. -/
structure Match where
  pos : Nat
  begun : List (Nat × Nat)
  ended : List (Nat × Nat)
deriving DecidableEq

/-- Where what a group holds begins and ends. A group that has begun again further on than it last
ended holds nothing until it ends. -/
def Match.span? (m : Match) (index : Nat) : Option (Nat × Nat) :=
  match m.begun.lookup index, m.ended.lookup index with
  | some a, some b => if a ≤ b then some (a, b) else none
  | _, _ => none

/-- What has to match behind an expression. -/
abbrev Follow := Match → Option Match

/-- Whether the subject holds a word character at a place. -/
def wordAt (subject : Array Char) (ascii : Bool) (pos : Nat) : Bool :=
  match subject[pos]? with
  | some c => if ascii then Text.isAsciiWord c else Text.isWord c
  | none => false

/-- Whether a place lies between a word character and none. -/
def isWordEdge (subject : Array Char) (ascii : Bool) (pos : Nat) : Bool :=
  (if pos = 0 then false else wordAt subject ascii (pos - 1)) != wordAt subject ascii pos

/-- Whether a place is the start of a line, or of the text. -/
def isLineStart (subject : Array Char) (everyLine : Bool) (pos : Nat) : Bool :=
  pos == 0 || (everyLine && subject[pos - 1]? == some '\n')

/-- Whether a place is the end of a line, or of the text or its last line. -/
def isLineEnd (subject : Array Char) (everyLine : Bool) (pos : Nat) : Bool :=
  pos == subject.size || (pos + 1 == subject.size && subject[pos]? == some '\n') ||
    (everyLine && subject[pos]? == some '\n')

/-- Whether the characters from `a` to `b` stand again at `pos`. -/
def sameSpan (subject : Array Char) (rule : CaseRule) (a b pos : Nat) : Bool :=
  (List.range (b - a)).all fun i =>
    match subject[a + i]?, subject[pos + i]? with
    | some x, some y => rule.folded x == rule.folded y
    | _, _ => false

/-- Takes a character of the subject that passes a test. -/
def takeChar (subject : Array Char) (test : Char → Bool) (m : Match) (k : Follow) : Option Match :=
  match subject[m.pos]? with
  | some c => if test c then k { m with pos := m.pos + 1 } else none
  | none => none

/-- Rounds of a repetition, as many as possible first if it is greedy and as few otherwise. -/
def rounds (step : Match → Follow → Option Match) (greedy : Bool) :
    Nat → Nat → Option Nat → Match → Follow → Option Match
  | 0, min, _, m, k => if min = 0 then k m else none
  | fuel + 1, min, max, m, k =>
    let further := fun (_ : Unit) =>
      if max = some 0 then none
      else step m fun n =>
        if n.pos = m.pos ∧ min = 0 then k n
        else rounds step greedy fuel (min - 1) (max.map (· - 1)) n k
    if 0 < min then further ()
    else if greedy then further () <|> k m
    else k m <|> further ()

/-- The preferred match of an expression from a place and of what follows it. -/
def find (subject : Array Char) : Regex → Match → Follow → Option Match
  | .empty, m, k => k m
  | .char rule c, m, k => takeChar subject (rule.same c) m k
  | .any newline, m, k => takeChar subject (fun c => newline || c != '\n') m k
  | .oneOf rule negated parts, m, k => takeChar subject (rule.admits negated parts) m k
  | .lineStart everyLine, m, k => if isLineStart subject everyLine m.pos then k m else none
  | .lineEnd everyLine, m, k => if isLineEnd subject everyLine m.pos then k m else none
  | .textStart, m, k => if m.pos = 0 then k m else none
  | .textEnd, m, k => if m.pos = subject.size then k m else none
  | .wordBoundary ascii negated, m, k =>
    if !subject.isEmpty && isWordEdge subject ascii m.pos != negated then k m else none
  | .seq a b, m, k => find subject a m fun n => find subject b n k
  | .alt a b, m, k => find subject a m k <|> find subject b m k
  | .repeat greedy min max r, m, k =>
    rounds (find subject r) greedy (subject.size - m.pos + min + 1) min max m k
  | .atomic r, m, k => (find subject r m some).bind k
  | .group index r, m, k =>
    find subject r { m with begun := (index, m.pos) :: m.begun } fun n =>
      k { n with ended := (index, n.pos) :: n.ended }
  | .reference rule index, m, k =>
    match m.span? index with
    | some (a, b) =>
      if sameSpan subject rule a b m.pos then k { m with pos := m.pos + (b - a) } else none
    | none => none
  | .ifGroup index held absent, m, k =>
    if (m.span? index).isSome then find subject held m k else find subject absent m k
  | .look ahead negated r, m, k =>
    let found :=
      if ahead then find subject r m some
      else (List.range (m.pos + 1)).findSome? fun i =>
        find subject r { m with pos := i } fun n => if n.pos = m.pos then some n else none
    match found, negated with
    | some n, false => k { n with pos := m.pos }
    | none, true => k m
    | _, _ => none

/-- Whether an expression matches from some place of a text. -/
def occursIn (r : Regex) (text : String) : Bool :=
  let subject := text.toList.toArray
  (List.range (subject.size + 1)).any fun i => (find subject r ⟨i, [], []⟩ some).isSome

/-- Whether the expression with the given text and options occurs in a text. -/
def searches (pattern : String) (flags : RegexFlags) (text : String) : Bool :=
  match read? pattern flags with
  | some r => r.occursIn text
  | none => false

end ArgumentSchema.Regex
