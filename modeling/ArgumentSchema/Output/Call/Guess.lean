import ArgumentSchema.Output.Call.Joint

/-!
# Guesses at what is wrong

Where tokens do not fit, what follows may tell what was meant: a comma or brackets that are missing,
or a sign of equality in the place of a comparison. Each guess is given readings of what follows and
raises a flaw only if they fit. Main definitions: `tried`, `adjacent`, `follower?`, `assigned`.
-/

namespace ArgumentSchema.Call

/-- The number of brackets that are open behind the last of the tokens that stand in front of
others. -/
def depthBefore (ts rest : List Placed) : Nat :=
  ((ts.take (ts.length - rest.length)).getLast?.map (·.depth)).getD 0

/-- What a reading gives on trial: nothing if the tokens just do not fit. The token behind what has
been read is always looked at, so nothing is given either if the reading has to stop there. -/
def tried (r : Except Flaw Parsed) : Except Flaw (Option Parsed) :=
  match r with
  | .ok b =>
    match head? b.rest with
    | some (.stop f) => .error f
    | _ => .ok (some b)
  | .error .unexpected => .ok none
  | .error f => .error f

/-- Whether tokens start with a word that may stand right in front of something else: a word that
opens a statement, or the letters in front of a text. -/
def startsOddly : List Placed → Bool
  | ⟨.word w, _⟩ :: rest =>
    decide (w ∈ openingWords) || (decide (w ∉ reserved) && (head? rest).any (· matches .text _))
  | _ => false

/-- The name at the start if it is followed by something else than the arguments of a call, and what
follows it. -/
def calledBare? : List Placed → Option (String × List Placed)
  | ⟨.word w, _⟩ :: rest => if w ∈ reserved ∨ atSign "(" rest then none else some (w, rest)
  | _ => none

/-- Guesses at what is wrong if a second expression follows a first one: within brackets, a comma
may be missing between them. `start` is where the first one starts. -/
def adjacent (start rest : List Placed) (second : Except Flaw Parsed) : Except Flaw Unit := do
  if startsOddly start then return
  match ← tried second with
  | none => pure ()
  | some b =>
    let former := match calledBare? start with
      | some (w, follower) => decide (w ∈ formerStatements) && follower.length == rest.length
      | none => false
    if former || depthBefore rest b.rest == 0 then pure () else .error .missingComma

/-- What follows a name that starts an expression, if it may be an expression itself: either nothing
else belongs to the first expression, or a sign follows that may also stand in front of a term,
which is told by the last part. -/
def follower? (start rest : List Placed) : Option (String × List Placed × Bool) := do
  let (w, follower) ← calledBare? start
  let signed := ["+", "-", "*"].any (atSign · follower)
  if follower.length = rest.length then some (w, follower, false)
  else if signed then some (w, follower, true)
  else none

/-- Whether what an expression starts with keeps it from being told from what gets a value. -/
def startsFixed (first : Except Flaw Parsed) : Bool :=
  match first with
  | .ok a =>
    match a.term.kind with
    | .tuple | .loop | .constant _ => true
    | _ => false
  | .error _ => false

/-- Guesses at what is wrong if a sign of equality follows an expression. -/
def assigned (left : Parsed) (right : Except Flaw Parsed) : Except Flaw Parsed := do
  match ← tried right with
  | none => pure left
  | some b =>
    if atSign "=" b.rest || atSign ":=" b.rest then pure left
    else match left.term.kind with
      | .word _ => .error .assignsToName
      | kind => .error (.assignsTo kind.label)

end ArgumentSchema.Call
