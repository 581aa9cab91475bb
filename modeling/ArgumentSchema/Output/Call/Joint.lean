import ArgumentSchema.Output.Call.Term

/-!
# Joints between terms

Terms are joined by signs of arithmetic, by signs and words that compare them, and by words for
`and` and `or`. Tokens that do not fit are told by their flaw, and a token that stops the reading is
told before any other. Main definitions: `Parsed`, `flawAt`, `Joint`, `joint?`, `texts`.
-/

namespace ArgumentSchema.Call

/-- What has been read: a term, whether at most signs of arithmetic join its parts, and what follows
it. -/
structure Parsed where
  term : Term
  arithmetic : Bool
  rest : List Placed

/-- The first token. -/
def head? (ts : List Placed) : Option Token := ts.head?.map (·.token)

/-- Whether a sign comes next. -/
def atSign (s : String) (ts : List Placed) : Bool := head? ts = some (.sign s)

/-- The flaw of tokens that do not fit from their first on. -/
def flawAt (ts : List Placed) : Flaw :=
  match head? ts with
  | some (.stop f) => f
  | _ => .unexpected

/-- A flaw that is only told if nothing stops the reading before. -/
def flawUnlessStopped (ts : List Placed) (f : Flaw) : Flaw :=
  match head? ts with
  | some (.stop g) => g
  | _ => f

/-- Tokens behind a sign that has to come. -/
def afterSign (s : String) (ts : List Placed) : Except Flaw (List Placed) :=
  if atSign s ts then .ok (ts.drop 1) else .error (flawAt ts)

/-! ## Words and signs -/

/-- Words with a fixed value. -/
def constants : List String := ["None", "True", "False"]

/-- Words that are no names. -/
def reserved : List String := constants ++ [
  "and", "as", "assert", "async", "await", "break", "class", "continue", "def", "del", "elif",
  "else", "except", "finally", "for", "from", "global", "if", "import", "in", "is", "lambda",
  "nonlocal", "not", "or", "pass", "raise", "return", "try", "while", "with", "yield"]

/-- Words that open a statement where one may stand. -/
def openingWords : List String := ["_", "case", "match"]

/-- Words of former statements, whose arguments now stand in brackets. -/
def formerStatements : List String := ["print", "exec"]

/-- Signs that join terms by arithmetic. -/
def arithmeticSigns : List String :=
  ["+", "-", "*", "/", "//", "%", "@", "<<", ">>", "&", "^", "|", "**"]

/-- Signs that compare terms. -/
def comparingSigns : List String := ["<", ">", "==", ">=", "<=", "!="]

/-- What joins two terms. -/
inductive Joint where
  | arithmetic (sign : String)
  | comparison
  | choice
deriving DecidableEq, Repr

/-- The joint at the start, and what follows it. -/
def joint? : List Placed → Option (Joint × List Placed)
  | ⟨.sign s, _⟩ :: rest =>
    if s ∈ arithmeticSigns then some (.arithmetic s, rest)
    else if s ∈ comparingSigns then some (.comparison, rest)
    else none
  | ⟨.word "and", _⟩ :: rest | ⟨.word "or", _⟩ :: rest => some (.choice, rest)
  | ⟨.word "not", _⟩ :: ⟨.word "in", _⟩ :: rest => some (.comparison, rest)
  | ⟨.word "is", _⟩ :: ⟨.word "not", _⟩ :: rest => some (.comparison, rest)
  | ⟨.word "in", _⟩ :: rest | ⟨.word "is", _⟩ :: rest => some (.comparison, rest)
  | _ => none

/-- Two terms with a joint between them. -/
def Joint.join : Joint → Term → Term → Term
  | arithmetic s, a, b => Term.joined s a b
  | comparison, _, _ => Term.other .comparison
  | choice, _, _ => Term.other .operation

/-! ## Texts -/

/-- Texts that stand side by side make one text, and either all or none of them hold bytes. -/
def texts (ts : List Placed) : Except Flaw Parsed := do
  let kinds := ts.map fun t => match t.token with
    | .text k => some k
    | _ => none
  let kinds := (kinds.takeWhile Option.isSome).filterMap id
  let rest := ts.drop kinds.length
  if kinds.contains .bytes && kinds.any (· != .bytes) then
    .error (flawUnlessStopped rest .mixedTexts)
  else if kinds.contains .formatted then .ok ⟨Term.other .formatted, true, rest⟩
  else .ok ⟨⟨.text, .ok none⟩, true, rest⟩

end ArgumentSchema.Call
