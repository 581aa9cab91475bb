import ArgumentSchema.Output.Call.Guess

/-!
# Expressions of a call

Expressions are read from left to right, and what does not fit is told by its flaw. Where a reader
may guess what was meant, the flaw says so, unless `hints` is off: then the text is only tried as a
guess itself. Main definitions: `expression`, `readTerm`.
-/

namespace ArgumentSchema.Call

/-! ## Expressions -/

mutual

/-- An expression, which may be a choice. `guesses` tells whether to guess at what is wrong if
something else follows right behind. -/
def expression (hints guesses : Bool) : Nat → List Placed → Except Flaw Parsed
  | 0, ts => .error (flawAt ts)
  | fuel + 1, ts => do
    if head? ts = some (.word "lambda") then
      let body ← parameters hints fuel (ts.drop 1)
      let a ← expression hints hints fuel body
      return ⟨Term.other .function, false, a.rest⟩
    let a ← chain hints fuel ts
    match a.rest with
    | ⟨.word "if", _⟩ :: rest =>
      match ← tried (chain hints fuel rest) with
      | none => pure a
      | some condition =>
        match condition.rest with
        | ⟨.word "else", _⟩ :: rest => do
          match ← tried (expression hints hints fuel rest) with
          | none => pure a
          | some b => pure ⟨Term.other .choice, false, b.rest⟩
        | rest =>
          if hints && !atSign ":" rest then .error (flawUnlessStopped rest .missingElse) else pure a
    | rest =>
      if guesses then
        let second := expression false false fuel rest
        adjacent ts rest second
        match follower? ts rest with
        | some (w, follower, signed) =>
          let found ← if signed then do
              if !atSign "*" follower then adjacent follower rest second
              pure true
            else do
              let b ← tried (followers hints fuel follower)
              pure b.isSome
          if found && decide (w ∈ formerStatements) then .error (.missingBrackets w)
        | none =>
          if atSign "\x7b" rest then
            match items true false "\x7d" fuel (rest.drop 1) with
            | .ok _ | .error .unexpected => pure ()
            | .error f => .error f
      pure a

/-- The parameters of a function, up to its colon. -/
def parameters (hints : Bool) : Nat → List Placed → Except Flaw (List Placed)
  | 0, ts => .error (flawAt ts)
  | fuel + 1, ts => do
    if atSign ":" ts then return ts.drop 1
    let starless := if atSign "*" ts || atSign "**" ts then ts.drop 1 else ts
    let rest ← match starless with
      | ⟨.word w, _⟩ :: rest =>
        if w ∈ reserved then .error (flawAt starless)
        else if atSign "=" rest then (expression hints hints fuel (rest.drop 1)).map (·.rest)
        else .ok rest
      | ⟨.sign "/", _⟩ :: rest => .ok rest
      | rest => if atSign "*" ts && atSign "," rest then .ok rest else .error (flawAt rest)
    if atSign ":" rest then pure (rest.drop 1)
    else parameters hints fuel (← afterSign "," rest)

/-- Expressions with commas between them, which may be starred; the last of them is given. -/
def followers (hints : Bool) : Nat → List Placed → Except Flaw Parsed
  | 0, ts => .error (flawAt ts)
  | fuel + 1, ts => do
    let a ← if atSign "*" ts then sum hints fuel (ts.drop 1) else expression hints hints fuel ts
    if atSign "," a.rest then
      match ← tried (followers hints fuel (a.rest.drop 1)) with
      | some b => pure b
      | none => pure a
    else pure a

/-- Terms with joints between them. -/
def chain (hints : Bool) : Nat → List Placed → Except Flaw Parsed
  | 0, ts => .error (flawAt ts)
  | fuel + 1, ts => do chainFrom hints fuel (← operand hints true fuel ts)

/-- A chain whose first terms have been read. It ends where what follows does not fit. -/
def chainFrom (hints : Bool) : Nat → Parsed → Except Flaw Parsed
  | 0, a => .error (flawAt a.rest)
  | fuel + 1, a =>
    match joint? a.rest with
    | none =>
      match a.rest with
      | ⟨.word "not", _⟩ :: ⟨.stop f, _⟩ :: _ => .error f
      | _ => .ok a
    | some (j, rest) => do
      match ← tried (operand hints (j = .choice) fuel rest) with
      | none => pure a
      | some b =>
        let arithmetic := a.arithmetic && b.arithmetic && (j matches .arithmetic _)
        chainFrom hints fuel ⟨j.join a.term b.term, arithmetic, b.rest⟩

/-- Terms with signs of arithmetic between them. -/
def sum (hints : Bool) : Nat → List Placed → Except Flaw Parsed
  | 0, ts => .error (flawAt ts)
  | fuel + 1, ts => operand hints false fuel ts >>= sumFrom hints fuel

/-- Terms with signs of arithmetic between them of which the first have been read. -/
def sumFrom (hints : Bool) : Nat → Parsed → Except Flaw Parsed
  | 0, a => .error (flawAt a.rest)
  | fuel + 1, a =>
    match joint? a.rest with
    | some (.arithmetic _, rest) => do
      match ← tried (operand hints false fuel rest) with
      | none => pure a
      | some b => sumFrom hints fuel b
    | _ => .ok a

/-- A term with the signs in front of it, and with `not` if that may stand there. -/
def operand (hints negates : Bool) : Nat → List Placed → Except Flaw Parsed
  | 0, ts => .error (flawAt ts)
  | fuel + 1, ts =>
    match ts with
    | ⟨.sign s, _⟩ :: rest =>
      if s = "+" ∨ s = "-" ∨ s = "~" then do
        let a ← operand hints false fuel rest
        pure { a with term := Term.signed s a.term }
      else atom hints fuel ts >>= trailers hints fuel
    | ⟨.word "not", _⟩ :: rest =>
      if negates then do
        let a ← operand hints true fuel rest
        pure ⟨Term.other .operation, false, a.rest⟩
      else .error (flawAt ts)
    | ⟨.word "await", _⟩ :: rest => do
      let a ← atom hints fuel rest >>= trailers hints fuel
      pure { a with term := Term.other .operation }
    | _ => atom hints fuel ts >>= trailers hints fuel

/-- The members that are taken from a term and the calls that are made of it. -/
def trailers (hints : Bool) : Nat → Parsed → Except Flaw Parsed
  | 0, a => .error (flawAt a.rest)
  | fuel + 1, a =>
    match a.rest with
    | ⟨.sign ".", _⟩ :: rest =>
      match rest with
      | ⟨.word w, _⟩ :: after =>
        if w ∈ reserved then .ok a else trailers hints fuel ⟨Term.other .member, true, after⟩
      | _ => if flawAt rest = .unexpected then .ok a else .error (flawAt rest)
    | ⟨.sign "(", _⟩ :: ⟨.sign ")", _⟩ :: rest =>
      let empty := if a.term.kind = .word "set" then ⟨.call, .ok (some "set")⟩ else Term.other .call
      trailers hints fuel ⟨empty, true, rest⟩
    | ⟨.sign "(", _⟩ :: rest => do
      match ← tried (arguments hints fuel rest) with
      | none => pure a
      | some b => trailers hints fuel b
    | _ => .ok a

/-- A call behind its opening bracket. -/
def arguments (hints : Bool) : Nat → List Placed → Except Flaw Parsed
  | 0, ts => .error (flawAt ts)
  | fuel + 1, ts => do
    let a ← argument hints fuel ts
    let call := Term.other .call
    if head? a.rest = some (.word "for") then
      return ⟨call, true, ← afterSign ")" (← loops hints fuel a.rest)⟩
    if atSign ")" a.rest then pure ⟨call, true, a.rest.drop 1⟩
    else
      let rest ← afterSign "," a.rest
      if atSign ")" rest then pure ⟨call, true, rest.drop 1⟩ else arguments hints fuel rest

/-- An argument of a call: it may be starred, or have a name. -/
def argument (hints : Bool) : Nat → List Placed → Except Flaw Parsed
  | 0, ts => .error (flawAt ts)
  | fuel + 1, ts => do
    match ts with
    | ⟨.sign "*", _⟩ :: rest => starred hints fuel rest
    | ⟨.sign "**", _⟩ :: rest => expression hints hints fuel rest
    | _ =>
      let named := match ts with
        | ⟨.word w, _⟩ :: ⟨.sign s, _⟩ :: rest =>
          if w ∉ reserved ∧ (s = "=" ∨ s = ":=") then some rest else none
        | _ => none
      let a ← expression hints hints fuel (named.getD ts)
      if hints && atSign "=" a.rest then
        .error (match ts with
          | ⟨.word w, _⟩ :: ⟨.sign "=", _⟩ :: _ =>
            if w ∈ constants then .takesNoValue w else .assignsInCall
          | _ => .assignsInCall)
      else pure a

/-- What is starred, behind the star. -/
def starred (hints : Bool) : Nat → List Placed → Except Flaw Parsed
  | 0, ts => .error (flawAt ts)
  | fuel + 1, ts => do
    match ← tried (expression hints hints fuel ts) with
    | some a => pure { a with term := Term.other .starred }
    | none => .error (if hints then .badStar else .unexpected)

/-- A word, a number, a text, or what stands in brackets. -/
def atom (hints : Bool) : Nat → List Placed → Except Flaw Parsed
  | 0, ts => .error (flawAt ts)
  | fuel + 1, ts =>
    match ts with
    | ⟨.number imaginary, _⟩ :: rest => .ok ⟨⟨.number imaginary, .ok none⟩, true, rest⟩
    | ⟨.text _, _⟩ :: _ => texts ts
    | ⟨.sign "...", _⟩ :: rest => .ok ⟨⟨.ellipsis, .ok none⟩, true, rest⟩
    | ⟨.word w, _⟩ :: rest =>
      if w ∈ constants then .ok ⟨⟨.constant w, .ok none⟩, true, rest⟩
      else if w ∈ reserved then .error (flawAt ts)
      else .ok ⟨Term.other (.word w), true, rest⟩
    | ⟨.sign "(", _⟩ :: ⟨.sign "**", _⟩ :: rest => do
      let a ← expression hints hints fuel rest
      .error (if hints && atSign ")" a.rest then .doubleStarredGroup else flawAt a.rest)
    | ⟨.sign "(", _⟩ :: ⟨.word "yield", _⟩ :: rest => do
      let rest ← if atSign ")" rest then pure rest else do
        let source := if head? rest = some (.word "from") then rest.drop 1 else rest
        pure (← followers hints fuel source).rest
      pure ⟨Term.other .yielded, true, ← afterSign ")" rest⟩
    | ⟨.sign "(", _⟩ :: rest => do
      let (terms, comma, rest) ← items hints true ")" fuel rest
      match terms, comma with
      | [a], false =>
        if a.kind = .starred then .error .unexpected
        else pure ⟨a.inBrackets, true, rest⟩
      | _, _ => pure ⟨Term.tuple terms, true, rest⟩
    | ⟨.sign "\x7b", _⟩ :: ⟨.sign "\x7d", _⟩ :: rest => .ok ⟨Term.table [], true, rest⟩
    | ⟨.sign "\x7b", _⟩ :: rest => braces hints fuel rest
    | _ => .error (flawAt ts)

/-- The items of a tuple or a set up to its closing bracket, and whether a comma stands among them.
The first of them may be made in a loop, and is the only one then. -/
def items (hints first : Bool) (closing : String) :
    Nat → List Placed → Except Flaw (List Term × Bool × List Placed)
  | 0, ts => .error (flawAt ts)
  | fuel + 1, ts =>
    if atSign closing ts then .ok ([], false, ts.drop 1)
    else if hints && first && atSign "*" ts then do
      let a ← starred hints fuel (ts.drop 1)
      if head? a.rest = some (.word "for") then
        let _ ← loops hints fuel a.rest
        .error .starredLoop
      if closing = ")" && atSign ")" a.rest then .error .starredGroup
      if a.arithmetic then itemsFrom hints first closing fuel a else .error .unexpected
    else do
      let a ← item hints fuel ts
      itemsFrom hints first closing fuel a

/-- Items of which the first has been read. -/
def itemsFrom (hints first : Bool) (closing : String) :
    Nat → Parsed → Except Flaw (List Term × Bool × List Placed)
  | 0, a => .error (flawAt a.rest)
  | fuel + 1, a =>
    if atSign closing a.rest then .ok ([a.term], false, a.rest.drop 1)
    else if first && head? a.rest = some (.word "for") && a.term.kind != .starred then do
      let rest ← afterSign closing (← loops hints fuel a.rest)
      pure ([Term.other .loop], false, rest)
    else do
      let (terms, _, rest) ← items hints false closing fuel (← afterSign "," a.rest)
      pure (a.term :: terms, true, rest)

/-- Loops one in another, with their conditions. -/
def loops (hints : Bool) : Nat → List Placed → Except Flaw (List Placed)
  | 0, ts => .error (flawAt ts)
  | fuel + 1, ts =>
    match ts with
    | ⟨.word "for", _⟩ :: rest => do
      let source ← chain hints fuel (← targets hints fuel rest)
      conditions hints fuel source.rest
    | _ => .error (flawAt ts)

/-- Conditions of a loop and what follows them. -/
def conditions (hints : Bool) : Nat → List Placed → Except Flaw (List Placed)
  | 0, ts => .error (flawAt ts)
  | fuel + 1, ts =>
    match ts with
    | ⟨.word "if", _⟩ :: rest => do conditions hints fuel (← chain hints fuel rest).rest
    | ⟨.word "for", _⟩ :: _ => loops hints fuel ts
    | _ => .ok ts

/-- What gets a value in a loop, up to the word behind it. -/
def targets (hints : Bool) : Nat → List Placed → Except Flaw (List Placed)
  | 0, ts => .error (flawAt ts)
  | fuel + 1, ts => do
    match ← tried (operand false false fuel (if atSign "*" ts then ts.drop 1 else ts)) with
    | some a =>
      if a.term.kind.isTarget && head? a.rest = some (.word "in") then return a.rest.drop 1
      if a.term.kind.isTarget && atSign "," a.rest then
        if head? (a.rest.drop 1) = some (.word "in") then return a.rest.drop 2
        return ← targets hints fuel (a.rest.drop 1)
      if hints then
        let _ ← followers hints fuel ts
        if !a.term.kind.isTarget then .error (.takesNoValue a.term.kind.label)
      .error (flawAt a.rest)
    | none =>
      if hints then
        let _ ← followers hints fuel ts
      .error (flawAt ts)

/-- An item, which may be starred. -/
def item (hints : Bool) : Nat → List Placed → Except Flaw Parsed
  | 0, ts => .error (flawAt ts)
  | fuel + 1, ts =>
    if atSign "*" ts then do
      let a ← sum hints fuel (ts.drop 1)
      pure ⟨Term.other .starred, false, a.rest⟩
    else do named hints fuel ts (← expression hints hints fuel ts)

/-- An expression that may get a name where it stands. `start` is where it starts. -/
def named (hints : Bool) : Nat → List Placed → Parsed → Except Flaw Parsed
  | 0, _, a => .error (flawAt a.rest)
  | fuel + 1, start, a =>
    match a.rest with
    | ⟨.sign ":=", _⟩ :: rest =>
      match a.term.kind, hints with
      | .word _, _ => do
        let b ← expression hints hints fuel rest
        pure ⟨Term.other .operation, false, b.rest⟩
      | kind, true => do
        let _ ← expression hints hints fuel rest
        .error (.names kind.label)
      | _, false => .error .unexpected
    | ⟨.sign "=", _⟩ :: rest =>
      if hints && a.arithmetic && !startsFixed (atom false fuel start) then
        assigned a (sum hints fuel rest)
      else .ok a
    | _ => .ok a

/-- A table or a set behind its opening bracket; it is not empty. -/
def braces (hints : Bool) : Nat → List Placed → Except Flaw Parsed
  | 0, ts => .error (flawAt ts)
  | fuel + 1, ts =>
    if atSign "**" ts then do
      let (entries, rest) ← entries hints true fuel ts
      pure ⟨Term.table entries, true, rest⟩
    else if atSign "*" ts then do
      let (terms, _, rest) ← items hints true "\x7d" fuel ts
      pure ⟨Term.set terms, true, rest⟩
    else do
      let a ← expression hints hints fuel ts
      if atSign ":" a.rest then
        let (value, rest) ← entryValue hints fuel (a.rest.drop 1)
        if head? rest = some (.word "for") then
          return ⟨Term.other .loop, true, ← afterSign "\x7d" (← loops hints fuel rest)⟩
        let (entries, rest) ← entriesFrom hints fuel rest
        pure ⟨Term.table ((some a.term, value) :: entries), true, rest⟩
      else
        let (terms, _, rest) ← itemsFrom hints true "\x7d" fuel (← named hints fuel ts a)
        pure ⟨Term.set terms, true, rest⟩

/-- The value of an entry. -/
def entryValue (hints : Bool) : Nat → List Placed → Except Flaw (Term × List Placed)
  | 0, ts => .error (flawAt ts)
  | fuel + 1, ts =>
    if atSign "\x7d" ts || atSign "," ts then .error .missingValue
    else if atSign "*" ts then do
      let a ← sum false fuel (ts.drop 1)
      .error (flawUnlessStopped a.rest .starredValue)
    else do
      let a ← expression hints hints fuel ts
      pure (a.term, a.rest)

/-- The entries of a table up to its closing bracket. -/
def entries (hints first : Bool) :
    Nat → List Placed → Except Flaw (List (Option Term × Term) × List Placed)
  | 0, ts => .error (flawAt ts)
  | fuel + 1, ts => do
    if atSign "**" ts then
      let a ← sum hints fuel (ts.drop 1)
      let (entries, rest) ← entriesFrom hints fuel a.rest
      pure ((none, a.term) :: entries, rest)
    else
      let a ← expression hints (hints && first) fuel ts
      if atSign ":" a.rest then
        let (value, rest) ← entryValue hints fuel (a.rest.drop 1)
        let (entries, rest) ← entriesFrom hints fuel rest
        pure ((some a.term, value) :: entries, rest)
      else .error (if first then flawAt a.rest else flawUnlessStopped a.rest .missingColon)

/-- The entries of a table behind one of them. -/
def entriesFrom (hints : Bool) :
    Nat → List Placed → Except Flaw (List (Option Term × Term) × List Placed)
  | 0, ts => .error (flawAt ts)
  | fuel + 1, ts =>
    if atSign "\x7d" ts then .ok ([], ts.drop 1)
    else do
      let rest ← afterSign "," ts
      if atSign "\x7d" rest then pure ([], rest.drop 1) else entries hints false fuel rest

end

/-! ## Whole texts -/

/-- Whether only ends of lines remain. -/
def isEnd (ts : List Placed) : Bool := ts.all fun t => t.token = .lineEnd

/-- Expressions with commas between them, which make a tuple unless there is one without a comma. -/
def expressions (hints : Bool) : Nat → List Placed → Except Flaw (List Term × Bool)
  | 0, ts => .error (flawAt ts)
  | fuel + 1, ts => do
    let a ← expression hints hints fuel ts
    if isEnd a.rest then pure ([a.term], false)
    else
      let rest ← afterSign "," a.rest
      if isEnd rest then pure ([a.term], true)
      else
        let (terms, _) ← expressions hints fuel rest
        pure (a.term :: terms, true)

/-- Reads a whole text as a term. Only if it cannot be read is it read again with guesses. -/
def readTerm (cs : List Char) : Except Flaw Term := do
  let ts ← scan cs
  let fuel := 16 * (ts.length + 1)
  let (terms, comma) ←
    match expressions false fuel ts with
    | .error .unexpected => do
      let _ ← expressions true fuel ts
      .error .unexpected
    | r => r
  match terms, comma with
  | [a], false => pure a
  | _, _ => pure (Term.tuple terms)

end ArgumentSchema.Call
