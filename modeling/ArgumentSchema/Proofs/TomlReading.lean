import ArgumentSchema.Proofs.TomlTokens

/-!
# Where reading TOML comes to an end

A document is a row of lines, and a line asks for a value behind the name of its entry. From there on
every place is told where a value is asked for, up to the deepest one, and what the reader can do
there. So a document is refused for its size exactly if an integer of too many digits stands at such
a place, or there is no room for the value there; and every other one is read, or is malformed.

> `Toml.value_step`, `Toml.elements_step`, `Toml.entries_step`: what one step of each reader can do.
> `Toml.readers_stable`: that more steps than there are characters make no difference.
> `Toml.Asked`: the places where a value is asked for.
> `Toml.statements_eq_oversize_iff`: what is refused for its size.
-/

namespace ArgumentSchema.Toml

variable {cs rest : List Char} {s : Stop}

/-! ## One step of a reader -/

/-- Neither a string nor anything in brackets or braces starts here. -/
structure Bare (cs : List Char) : Prop where
  string : string? cs = none
  parts : ∀ c ∈ cs.head?, c ≠ '[' ∧ c ≠ '\x7b'

theorem shape (cs : List Char) : (∃ result, string? cs = some result) ∨ (∃ rest, cs = '[' :: rest) ∨
    (∃ rest, cs = '\x7b' :: rest) ∨ Bare cs := by
  cases hstring : string? cs with
  | some result => exact .inl ⟨result, rfl⟩
  | none =>
    cases cs with
    | nil => exact .inr (.inr (.inr ⟨hstring, nofun⟩))
    | cons c rest =>
      by_cases hbracket : c = '['
      · exact .inr (.inl ⟨rest, by rw [hbracket]⟩)
      · by_cases hbrace : c = '\x7b'
        · exact .inr (.inr (.inl ⟨rest, by rw [hbrace]⟩))
        · refine .inr (.inr (.inr ⟨hstring, ?_⟩))
          rintro _ ⟨⟩
          exact ⟨hbracket, hbrace⟩

theorem Overlong.bare {n : Nat} (h : Overlong n cs) : Bare cs := by
  obtain ⟨d, hd, hhead⟩ := h.digit
  obtain ⟨sign, hsign, more, rfl⟩ := (takeSign_digit_iff hd).mp hhead
  have hother : ∀ (c : Char) (more : List Char), c = d ∨ c = '-' ∨ c = '+' → Bare (c :: more) := by
    intro c more hc
    have hquote : c ≠ '"' ∧ c ≠ '\'' ∧ c ≠ '[' ∧ c ≠ '\x7b' := by
      rcases hc with rfl | rfl | rfl
      · refine ⟨?_, ?_, ?_, ?_⟩ <;>
        · rintro rfl
          cases hd
      · decide
      · decide
    obtain ⟨hdouble, hsingle, hparts⟩ := hquote
    refine ⟨?_, ?_⟩
    · unfold string?
      split
      · next heq => exact absurd (List.cons.inj heq).1 hdouble
      · next heq => exact absurd (List.cons.inj heq).1 hsingle
      · next heq => exact absurd (List.cons.inj heq).1 hdouble
      · next heq => exact absurd (List.cons.inj heq).1 hsingle
      · rfl
    · rintro _ ⟨⟩
      exact hparts
  simp only [List.mem_cons, List.not_mem_nil, or_false] at hsign
  rcases hsign with rfl | rfl | rfl
  · exact hother d more (.inl rfl)
  · exact hother '-' _ (.inr (.inl rfl))
  · exact hother '+' _ (.inr (.inr rfl))

theorem Bare.roomFor (h : Bare cs) : roomFor cs = 1 := by
  unfold Toml.roomFor
  split
  · exact absurd rfl (h.parts _ rfl).1
  · exact absurd rfl (h.parts _ rfl).2
  · rfl

/-- What a reader stops at because of its size, where a value is asked for: there is no room left for the
value, or it is an integer that is too long. -/
inductive Breaks : Stop → Nat → List Char → Prop where
  | deep {room : Nat} {cs : List Char} : room < roomFor cs → Breaks .tooDeep room cs
  | digits {n room : Nat} {cs : List Char} : 1 ≤ room → Overlong n cs →
      Breaks (.tooManyDigits ⟨n⟩) room cs

/-- What the reader of a value does, whatever steps it is given: it ends, it breaks off, or it reads
what is inside of an array or a table. -/
inductive ValueStep (room : Nat) (cs : List Char) : Prop where
  | ends {result : Except Stop (Value × List Char)} : Ends Stop.Oversize cs.length result →
      (∀ fuel, value (fuel + 1) room cs = result) → ValueStep room cs
  | breaks {s : Stop} : Breaks s room cs → (∀ fuel, value (fuel + 1) room cs = .error s) →
      ValueStep room cs
  | array {rest inside : List Char} : cs = '[' :: rest → 2 ≤ room →
      filler rest = .ok inside → inside.head? ≠ some ']' →
      (∀ fuel, value (fuel + 1) room cs =
        (elements fuel (room - 2) inside).map fun r => (.list r.1, r.2)) → ValueStep room cs
  | table {rest : List Char} : cs = '\x7b' :: rest → 3 ≤ room →
      (skipBlanks rest).head? ≠ some '\x7d' →
      (∀ fuel, value (fuel + 1) room cs =
        (inlineEntries fuel (room - 3) [] [] (skipBlanks rest)).map
          fun r => (.dict false r.1, r.2)) → ValueStep room cs

section Value

variable {room : Nat}

theorem value_deep (h : room < roomFor cs) (fuel : Nat) :
    value (fuel + 1) room cs = .error .tooDeep := by
  unfold value
  rw [if_pos h]

theorem value_string {result : Except Stop (List Char × List Char)}
    (hroom : ¬ room < roomFor cs) (h : string? cs = some result) (fuel : Nat) :
    value (fuel + 1) room cs = result.map fun r => (.str (String.ofList r.1), r.2) := by
  unfold value
  rw [if_neg hroom]
  simp only [h]

theorem value_bare (hroom : 1 ≤ room) (h : Bare cs) (fuel : Nat) :
    value (fuel + 1) room cs = scalar cs := by
  have hfree : ¬ room < roomFor cs := by
    rw [h.roomFor]
    omega
  unfold value
  rw [if_neg hfree]
  simp only [h.string]
  split
  · exact absurd rfl (h.parts _ rfl).1
  · exact absurd rfl (h.parts _ rfl).2
  · rfl

theorem value_bracket (hroom : 2 ≤ room) (fuel : Nat) :
    value (fuel + 1) room ('[' :: rest) = filler rest >>= fun inside =>
      if inside.head? = some ']' then .ok (.list [], inside.tail)
      else (elements fuel (room - 2) inside).map fun r => (.list r.1, r.2) := by
  have hfree : ¬ room < roomFor ('[' :: rest) := Nat.not_lt.mpr hroom
  have hstring : string? ('[' :: rest) = none := rfl
  rw [value, if_neg hfree]
  simp only [hstring]
  cases filler rest with
  | error s => rfl
  | ok inside =>
    simp only [bind, Except.bind]
    split
    · rfl
    · next hother =>
      rw [if_neg]
      · cases elements fuel (room - 2) inside <;> rfl
      · intro hhead
        obtain ⟨more, rfl⟩ := List.head?_eq_some_iff.mp hhead
        exact hother _ rfl

theorem value_brace (hroom : 3 ≤ room) (fuel : Nat) :
    value (fuel + 1) room ('\x7b' :: rest) =
      if (skipBlanks rest).head? = some '\x7d' then .ok (.dict false [], (skipBlanks rest).tail)
      else (inlineEntries fuel (room - 3) [] [] (skipBlanks rest)).map
        fun r => (.dict false r.1, r.2) := by
  have hfree : ¬ room < roomFor ('\x7b' :: rest) := Nat.not_lt.mpr hroom
  have hstring : string? ('\x7b' :: rest) = none := rfl
  rw [value, if_neg hfree]
  simp only [hstring]
  generalize skipBlanks rest = inside
  split
  · rfl
  · next hother =>
    rw [if_neg]
    · cases inlineEntries fuel (room - 3) [] [] inside <;> rfl
    · intro hhead
      obtain ⟨more, rfl⟩ := List.head?_eq_some_iff.mp hhead
      exact hother _ rfl

theorem value_step (room : Nat) (cs : List Char) : ValueStep room cs := by
  rcases Nat.lt_or_ge room (roomFor cs) with hdeep | hroom
  · exact .breaks (.deep hdeep) (value_deep hdeep)
  · rcases shape cs with ⟨result, hstring⟩ | ⟨rest, rfl⟩ | ⟨rest, rfl⟩ | hbare
    · exact .ends ((string?_ends hstring).map fun body => .str (String.ofList body))
        (value_string (Nat.not_lt.mpr hroom) hstring)
    · have hvalue := @value_bracket rest room hroom
      have hfiller := filler_passes rest
      cases hinside : filler rest with
      | error s =>
        rw [hinside] at hvalue
        exact .ends (.error (hfiller.mild hinside)) hvalue
      | ok inside =>
        have hle := hfiller.within hinside
        simp only [hinside, bind, Except.bind] at hvalue
        split at hvalue
        · refine .ends (.ok ?_) hvalue
          rw [List.length_tail, List.length_cons]
          omega
        · next hfull => exact .array rfl hroom hinside hfull hvalue
    · have hvalue := @value_brace rest room hroom
      have hle := length_skipBlanks_le rest
      split at hvalue
      · refine .ends (.ok ?_) hvalue
        rw [List.length_tail, List.length_cons]
        omega
      · next hfull => exact .table rfl hroom hfull hvalue
    · rw [hbare.roomFor] at hroom
      rcases scalar_cases cs with hends | ⟨n, hlong⟩
      · exact .ends hends (value_bare hroom hbare)
      · refine .breaks (.digits hroom hlong) fun fuel => ?_
        rw [value_bare hroom hbare, scalar_of_overlong hlong]

/-- Where a reader breaks off, it breaks off whatever steps it is given. -/
theorem value_of_breaks (h : Breaks s room cs) (fuel : Nat) :
    value (fuel + 1) room cs = .error s := by
  cases h with
  | deep hdeep => exact value_deep hdeep fuel
  | digits hroom hlong => rw [value_bare hroom hlong.bare, scalar_of_overlong hlong]

end Value

/-- Behind a comma more elements of an array are read, unless it is closed there. -/
def Comma (rest next : List Char) : Prop :=
  ∃ behind, filler rest = .ok (',' :: behind) ∧ filler behind = .ok next ∧ next.head? ≠ some ']'

theorem Comma.shorter {next : List Char} (h : Comma rest next) : next.length < rest.length := by
  obtain ⟨behind, hcomma, hnext, -⟩ := h
  exact Nat.lt_of_le_of_lt ((filler_passes behind).within hnext) ((filler_passes rest).within hcomma)

/-- The elements of an array from one that has been read on. -/
def elementsFrom (room : Nat) (v : Value) (rest : List Char) (fuel : Nat) :
    Except Stop (List Value × List Char) := do
  match ← filler rest with
  | ']' :: after => pure ([v], after)
  | ',' :: rest =>
    match ← filler rest with
    | ']' :: after => pure ([v], after)
    | rest => do
      let (vs, rest) ← elements fuel room rest
      pure (v :: vs, rest)
  | rest => stop .unclosedArray rest

theorem elements_eq (fuel room : Nat) (cs : List Char) : elements (fuel + 1) room cs =
    value fuel room cs >>= fun r => elementsFrom room r.1 r.2 fuel := by
  rw [elements]
  rfl

theorem elementsFrom_comma {room : Nat} {v : Value} {next : List Char} (h : Comma rest next)
    (fuel : Nat) : elementsFrom room v rest fuel =
      (elements fuel room next).map fun r => (v :: r.1, r.2) := by
  obtain ⟨behind, hcomma, hnext, hopen⟩ := h
  simp only [elementsFrom, hcomma, hnext, bind, Except.bind]
  split
  · exact absurd rfl hopen
  · cases elements fuel room next <;> rfl

theorem elements_step (room : Nat) (v : Value) (rest : List Char) :
    RowStep Stop.Oversize rest (Comma rest) (elementsFrom room v rest)
      fun fuel => elements fuel room := by
  have hfiller := filler_passes rest
  cases hinside : filler rest with
  | error s =>
    have heq : ∀ fuel, elementsFrom room v rest fuel = .error s := fun _ => by
      rw [elementsFrom, hinside]
      rfl
    exact .ends (.error (hfiller.mild hinside)) heq
  | ok inside =>
    have hle := hfiller.within hinside
    by_cases hcomma : ∃ behind, inside = ',' :: behind
    · obtain ⟨behind, rfl⟩ := hcomma
      have hfiller := filler_passes behind
      cases hnext : filler behind with
      | error s =>
        have heq : ∀ fuel, elementsFrom room v rest fuel = .error s := fun _ => by
          simp only [elementsFrom, hinside, hnext, bind, Except.bind]
        exact .ends (.error (hfiller.mild hnext)) heq
      | ok next =>
        by_cases hclosed : next.head? = some ']'
        · obtain ⟨after, rfl⟩ := List.head?_eq_some_iff.mp hclosed
          have heq : ∀ fuel, elementsFrom room v rest fuel = .ok ([v], after) := fun _ => by
            simp only [elementsFrom, hinside, hnext, bind, Except.bind]
            rfl
          have hnext := hfiller.within hnext
          rw [List.length_cons] at hle hnext
          exact .ends (.ok (by omega)) heq
        · have hcomma : Comma rest next := ⟨behind, hinside, hnext, hclosed⟩
          exact .next (v :: ·) hcomma hcomma.shorter (elementsFrom_comma hcomma)
    · unfold elementsFrom
      simp only [hinside, bind, Except.bind]
      split
      · exact .ends (.ok hle) fun _ => rfl
      · exact absurd ⟨_, rfl⟩ hcomma
      · exact .ends ends_stop fun _ => rfl

/-! ## Entries in braces -/

/-- Reads the key of an entry and its sign. -/
def nameEquals (cs : List Char) : Except Stop (Key × List Char) :=
  key cs >>= fun n => (takeEquals n.2).map fun rest => (n.1, rest)

theorem nameEquals_ends (cs : List Char) : Ends Stop.Oversize cs.length (nameEquals cs) :=
  (key_ends cs).followed fun _ => (takeEquals_passes _).ends _ (Nat.lt_succ_self _)

/-- The restrictions behind an entry of a table in braces. -/
def marksBehind (marks : Marks) (name : Key) (v : Value) : Marks :=
  if hasParts v then marks.freeze name else marks

/-- Behind a comma more entries of a table in braces are read. -/
def EntryComma (rest next : List Char) : Prop :=
  ∃ after, skipBlanks rest = ',' :: after ∧ skipBlanks after = next

theorem EntryComma.shorter {next : List Char} (h : EntryComma rest next) :
    next.length < rest.length := by
  obtain ⟨after, hcomma, rfl⟩ := h
  have hskip := length_skipBlanks_le rest
  rw [hcomma, List.length_cons] at hskip
  exact Nat.lt_of_le_of_lt (length_skipBlanks_le after) hskip

/-- The entries of a table in braces from one that has been read on and added. -/
def entriesFrom (room : Nat) (marks : Marks) (es : Entries Value) (rest : List Char) (fuel : Nat) :
    Except Stop (Entries Value × List Char) :=
  match skipBlanks rest with
  | '\x7d' :: after => pure (es, after)
  | ',' :: rest => inlineEntries fuel room marks es (skipBlanks rest)
  | rest => stop .unclosedTable rest

theorem inlineEntries_eq (fuel room : Nat) (marks : Marks) (es : Entries Value) (cs : List Char) :
    inlineEntries (fuel + 1) room marks es cs =
      nameEquals cs >>= fun n => value fuel room n.2 >>= fun r =>
        located r.2 (addInline marks n.1 r.1 es) >>= fun es =>
          entriesFrom room (marksBehind marks n.1 r.1) es r.2 fuel := by
  rw [inlineEntries, nameEquals]
  cases key cs with
  | error s => rfl
  | ok n =>
    simp only [bind, Except.bind]
    cases takeEquals n.2 with
    | error s => rfl
    | ok start => rfl

theorem entriesFrom_comma {room : Nat} {marks : Marks} {es : Entries Value} {next : List Char}
    (h : EntryComma rest next) (fuel : Nat) :
    entriesFrom room marks es rest fuel = inlineEntries fuel room marks es next := by
  obtain ⟨after, hcomma, rfl⟩ := h
  simp only [entriesFrom, hcomma]

theorem entries_step (room : Nat) (marks : Marks) (es : Entries Value) (rest : List Char) :
    RowStep Stop.Oversize rest (EntryComma rest) (entriesFrom room marks es rest)
      fun fuel => inlineEntries fuel room marks es := by
  have hskip := length_skipBlanks_le rest
  unfold entriesFrom
  split
  · next after hlast =>
    rw [hlast, List.length_cons] at hskip
    exact .ends (.ok hskip) fun _ => rfl
  · next after hnext =>
    have hcomma : EntryComma rest (skipBlanks after) := ⟨after, hnext, rfl⟩
    refine .next id hcomma hcomma.shorter fun fuel => ?_
    cases inlineEntries fuel room marks es (skipBlanks after) <;> rfl
  · exact .ends ends_stop fun _ => rfl

/-- Adding an entry fails for no size. -/
theorem located_mild {α : Type} {result : Except Fault α} (h : located cs result = .error s) :
    ¬ s.Oversize := by
  cases result with
  | error f =>
    cases h
    exact nofun
  | ok a => cases h

theorem located_ok {α : Type} {result : Except Fault α} {a : α} (h : located cs result = .ok a) :
    result = .ok a := by
  cases result with
  | error f => cases h
  | ok a =>
    cases h
    rfl

/-! ## Whole readings -/

theorem readers_shorten (fuel : Nat) : (∀ room, Shortens (value fuel room)) ∧
    (∀ room, Shortens (elements fuel room)) ∧
    ∀ room marks es, Shortens (inlineEntries fuel room marks es) := by
  induction fuel with
  | zero =>
    refine ⟨fun room cs v rest h => ?_, fun room cs vs rest h => ?_,
      fun room marks es cs es' rest h => ?_⟩ <;> cases h
  | succ fuel ih =>
    obtain ⟨hvalue, helements, hentries⟩ := ih
    refine ⟨fun room cs v rest h => ?_, fun room cs vs rest h => ?_,
      fun room marks es cs es' rest h => ?_⟩
    · cases value_step room cs with
      | ends hends heq =>
        rw [heq] at h
        exact hends.shorter h
      | breaks _ heq =>
        rw [heq] at h
        cases h
      | @array body inside hcs _ hinside _ heq =>
        rw [heq] at h
        obtain ⟨r, hr, hrest⟩ := Attempt.map_eq_ok_iff.mp h
        cases hrest
        rw [hcs]
        exact Nat.lt_succ_of_lt
          (Nat.lt_of_lt_of_le (helements _ hr) ((filler_passes body).within hinside))
      | @table body hcs _ _ heq =>
        rw [heq] at h
        obtain ⟨r, hr, hrest⟩ := Attempt.map_eq_ok_iff.mp h
        cases hrest
        rw [hcs]
        exact Nat.lt_succ_of_lt (Nat.lt_of_lt_of_le (hentries _ _ _ hr) (length_skipBlanks_le body))
    · rw [elements_eq] at h
      obtain ⟨⟨v, behind⟩, hfirst, h⟩ := Attempt.bind_eq_ok_iff.mp h
      refine Nat.lt_trans ?_ (hvalue room hfirst)
      exact (elements_step room v behind).shorter (helements room) h
    · rw [inlineEntries_eq] at h
      obtain ⟨⟨name, start⟩, hname, h⟩ := Attempt.bind_eq_ok_iff.mp h
      obtain ⟨⟨v, behind⟩, hfirst, h⟩ := Attempt.bind_eq_ok_iff.mp h
      obtain ⟨es'', -, h⟩ := Attempt.bind_eq_ok_iff.mp h
      refine Nat.lt_trans ?_ (Nat.lt_trans (hvalue room hfirst) ((nameEquals_ends cs).shorter hname))
      exact (entries_step room _ es'' behind).shorter (hentries room _ _) h

/-- With steps enough to read what is given, it makes no difference how many there are. -/
theorem readers_stable (n : Nat) : ∀ cs : List Char, cs.length < n →
    (∀ room fuel fuel', 2 * cs.length < fuel → 2 * cs.length < fuel' →
      value fuel room cs = value fuel' room cs) ∧
    (∀ room fuel fuel', 2 * cs.length + 1 < fuel → 2 * cs.length + 1 < fuel' →
      elements fuel room cs = elements fuel' room cs) ∧
    ∀ room marks es fuel fuel', 2 * cs.length + 1 < fuel → 2 * cs.length + 1 < fuel' →
      inlineEntries fuel room marks es cs = inlineEntries fuel' room marks es cs := by
  -- on the length: a row and its first value share the characters, so a row takes one step more
  induction n with
  | zero => exact fun _ h => absurd h (Nat.not_lt_zero _)
  | succ n ih =>
    intro cs hcs
    have hvalue : ∀ room fuel fuel', 2 * cs.length < fuel → 2 * cs.length < fuel' →
        value fuel room cs = value fuel' room cs := by
      intro room fuel fuel' hfuel hfuel'
      obtain ⟨fuel, rfl⟩ := Nat.exists_eq_succ_of_ne_zero (Nat.ne_zero_of_lt hfuel)
      obtain ⟨fuel', rfl⟩ := Nat.exists_eq_succ_of_ne_zero (Nat.ne_zero_of_lt hfuel')
      cases value_step room cs with
      | ends _ heq => rw [heq, heq]
      | breaks _ heq => rw [heq, heq]
      | @array rest inside hrest _ hinside _ heq =>
        have hle := (filler_passes rest).within hinside
        rw [hrest, List.length_cons] at hcs hfuel hfuel'
        rw [heq, heq, (ih inside (by omega)).2.1 _ fuel fuel' (by omega) (by omega)]
      | @table rest hrest _ _ heq =>
        have hskip := length_skipBlanks_le rest
        rw [hrest, List.length_cons] at hcs hfuel hfuel'
        rw [heq, heq, (ih (skipBlanks rest) (by omega)).2.2 _ _ _ fuel fuel' (by omega) (by omega)]
    refine ⟨hvalue, fun room fuel fuel' hfuel hfuel' => ?_,
      fun room marks es fuel fuel' hfuel hfuel' => ?_⟩
    · obtain ⟨fuel, rfl⟩ := Nat.exists_eq_succ_of_ne_zero (Nat.ne_zero_of_lt hfuel)
      obtain ⟨fuel', rfl⟩ := Nat.exists_eq_succ_of_ne_zero (Nat.ne_zero_of_lt hfuel')
      rw [elements_eq, elements_eq, hvalue room fuel fuel' (by omega) (by omega)]
      cases hfirst : value fuel' room cs with
      | error s => rfl
      | ok r =>
        have hrest := (readers_shorten fuel').1 room hfirst
        refine (elements_step room r.1 r.2).stable fun after hafter => ?_
        exact (ih after (by omega)).2.1 room fuel fuel' (by omega) (by omega)
    · obtain ⟨fuel, rfl⟩ := Nat.exists_eq_succ_of_ne_zero (Nat.ne_zero_of_lt hfuel)
      obtain ⟨fuel', rfl⟩ := Nat.exists_eq_succ_of_ne_zero (Nat.ne_zero_of_lt hfuel')
      rw [inlineEntries_eq, inlineEntries_eq]
      cases hname : nameEquals cs with
      | error s => rfl
      | ok name =>
        have hstart := (nameEquals_ends cs).shorter hname
        simp only [bind, Except.bind]
        rw [(ih name.2 (by omega)).1 room fuel fuel' (by omega) (by omega)]
        cases hfirst : value fuel' room name.2 with
        | error s => rfl
        | ok r =>
          have hrest := (readers_shorten fuel').1 room hfirst
          dsimp only
          cases located r.2 (addInline marks name.1 r.1 es) with
          | error s => rfl
          | ok es' =>
            refine (entries_step room _ es' r.2).stable fun after hafter => ?_
            exact (ih after (by omega)).2.2 room _ _ fuel fuel' (by omega) (by omega)

/-- Reads a value with steps enough. -/
def valueAt (room : Nat) (cs : List Char) : Except Stop (Value × List Char) :=
  value (2 * cs.length + 1) room cs

/-- Reads the elements of an array with steps enough. -/
def elementsAt (room : Nat) (cs : List Char) : Except Stop (List Value × List Char) :=
  elements (2 * cs.length + 2) room cs

/-- Reads the entries of a table in braces with steps enough. -/
def entriesAt (marks : Marks) (es : Entries Value) (room : Nat) (cs : List Char) :
    Except Stop (Entries Value × List Char) :=
  inlineEntries (2 * cs.length + 2) room marks es cs

section Enough

variable {fuel room : Nat} {marks : Marks} {es : Entries Value}

theorem value_eq_valueAt (h : 2 * cs.length < fuel) : value fuel room cs = valueAt room cs :=
  (readers_stable _ cs (Nat.lt_succ_self _)).1 room _ _ h (by omega)

theorem elements_eq_elementsAt (h : 2 * cs.length + 1 < fuel) :
    elements fuel room cs = elementsAt room cs :=
  (readers_stable _ cs (Nat.lt_succ_self _)).2.1 room _ _ h (by omega)

theorem inlineEntries_eq_entriesAt (h : 2 * cs.length + 1 < fuel) :
    inlineEntries fuel room marks es cs = entriesAt marks es room cs :=
  (readers_stable _ cs (Nat.lt_succ_self _)).2.2 room _ _ _ _ h (by omega)

end Enough

/-! ## Lines -/

theorem startsKey_of_keyPart {part : String} (h : keyPart cs = .ok (part, rest)) :
    ∃ c ∈ cs.head?, startsKey c = true := by
  unfold keyPart at h
  split at h
  · exact ⟨'"', rfl, rfl⟩
  · exact ⟨'\'', rfl, rfl⟩
  · next c _ _ _ =>
    split at h
    · next hbare => exact ⟨c, rfl, by rw [startsKey, hbare]; rfl⟩
    · cases h
  · cases h

theorem startsKey_of_nameEquals {name : Key} (h : nameEquals cs = .ok (name, rest)) :
    ∃ c ∈ cs.head?, startsKey c = true := by
  obtain ⟨⟨key, behind⟩, hkey, -⟩ := Attempt.bind_eq_ok_iff.mp h
  obtain ⟨⟨part, behind⟩, hpart, -⟩ := Attempt.bind_eq_ok_iff.mp hkey
  exact startsKey_of_keyPart hpart

variable {total : Nat}

theorem entry_eq (d : Draft) (cs : List Char) : entry total d cs =
    nameEquals cs >>= fun n => valueAt total n.2 >>= fun r =>
      (located r.2 (d.addEntry n.1 r.1)).map fun d => (d, r.2) := by
  rw [entry, nameEquals]
  cases key cs with
  | error s => rfl
  | ok n =>
    simp only [bind, Except.bind]
    cases takeEquals n.2 with
    | error s => rfl
    | ok start =>
      simp only [Except.map]
      rw [value_eq_valueAt (by omega)]
      cases valueAt total start with
      | error s => rfl
      | ok r =>
        dsimp only
        cases located r.2 (d.addEntry n.1 r.1) <;> rfl

theorem statement_entry {c : Char} (hhead : cs.head? = some c) (hc : startsKey c = true) (d : Draft) :
    statement total d cs = entry total d cs := by
  obtain ⟨more, rfl⟩ := List.head?_eq_some_iff.mp hhead
  unfold statement
  have hother : c ≠ '[' ∧ c ≠ '#' := by
    refine ⟨?_, ?_⟩ <;>
    · rintro rfl
      exact absurd hc (by decide)
  split
  · next heq => exact absurd (List.cons.inj heq).1 hother.1
  · next heq => exact absurd (List.cons.inj heq).1 hother.1
  · next heq => exact absurd (List.cons.inj heq).1 hother.2
  · next heq =>
    obtain ⟨rfl, rfl⟩ := List.cons.inj heq
    exact if_pos hc
  · next heq => cases heq

theorem tableHeader_ends (d : Draft) (cs : List Char) :
    Ends Stop.Oversize cs.length (tableHeader d cs) := by
  refine ((key_ends _).mono (length_skipBlanks_le cs)).followed fun _ => ?_
  refine .after located_mild fun d => ?_
  split
  · exact .ok (Nat.lt_succ_of_lt (Nat.lt_succ_self _))
  · exact ends_stop

theorem elementHeader_ends (d : Draft) (cs : List Char) :
    Ends Stop.Oversize cs.length (elementHeader d cs) := by
  refine ((key_ends _).mono (length_skipBlanks_le cs)).followed fun _ => ?_
  refine .after located_mild fun d => ?_
  split
  · exact .ok (by simp only [List.length_cons]; omega)
  · exact ends_stop

/-- A statement that is no entry asks for no value. -/
theorem statement_cases (total : Nat) (d : Draft) (cs : List Char) :
    Ends Stop.Oversize (cs.length + 1) (statement total d cs) ∨
      statement total d cs = entry total d cs := by
  unfold statement
  split
  · exact .inl ((elementHeader_ends _ _).mono (by simp only [List.length_cons]; omega))
  · exact .inl ((tableHeader_ends _ _).mono (by simp only [List.length_cons]; omega))
  · exact .inl (.ok (Nat.lt_succ_self _))
  · split
    · exact .inr rfl
    · exact .inl ends_stop
  · exact .inl (.ok (Nat.lt_succ_self _))

theorem entry_shorter {d d' : Draft} (h : entry total d cs = .ok (d', rest)) :
    rest.length < cs.length := by
  rw [entry_eq] at h
  obtain ⟨⟨name, start⟩, hname, h⟩ := Attempt.bind_eq_ok_iff.mp h
  obtain ⟨⟨v, behind⟩, hvalue, h⟩ := Attempt.bind_eq_ok_iff.mp h
  obtain ⟨d'', -, heq⟩ := Attempt.map_eq_ok_iff.mp h
  cases heq
  exact Nat.lt_trans ((readers_shorten _).1 _ hvalue) ((nameEquals_ends cs).shorter hname)

theorem statement_within {d d' : Draft} (h : statement total d cs = .ok (d', rest)) :
    rest.length ≤ cs.length := by
  rcases statement_cases total d cs with hends | heq
  · exact Nat.le_of_lt_succ (hends.shorter h)
  · rw [heq] at h
    exact Nat.le_of_lt (entry_shorter h)

/-- From one line to the next. -/
inductive NextLine (total : Nat) (d : Draft) (cs : List Char) : Draft → List Char → Prop where
  | blank {after : List Char} : skipBlanks cs = '\n' :: after → NextLine total d cs d after
  | statement {d' : Draft} {rest after : List Char} :
      statement total d (skipBlanks cs) = .ok (d', rest) →
      skipComment (skipBlanks rest) = .ok ('\n' :: after) → NextLine total d cs d' after

/-- The statements behind one that has been read. -/
def statementsFrom (total : Nat) (d : Draft) (rest : List Char) (fuel : Nat) : Except Stop Draft := do
  match ← skipComment (skipBlanks rest) with
  | [] => pure d
  | '\n' :: rest => statements total fuel d rest
  | rest => stop .statementEnd rest

theorem statements_eq (fuel : Nat) (d : Draft) (cs : List Char) : statements total (fuel + 1) d cs =
    match skipBlanks cs with
    | [] => .ok d
    | '\n' :: rest => statements total fuel d rest
    | cs => statement total d cs >>= fun r => statementsFrom total r.1 r.2 fuel := rfl

/-- A line with a statement. -/
theorem statements_statement {c : Char} (hhead : (skipBlanks cs).head? = some c) (hc : c ≠ '\n')
    (fuel : Nat) (d : Draft) : statements total (fuel + 1) d cs =
      statement total d (skipBlanks cs) >>= fun r => statementsFrom total r.1 r.2 fuel := by
  rw [statements_eq]
  split
  · next hnil => rw [hnil] at hhead; cases hhead
  · next hbreak => rw [hbreak] at hhead; exact absurd (Option.some.inj hhead).symm hc
  · rfl

theorem NextLine.shorter {d d' : Draft} {after : List Char} (h : NextLine total d cs d' after) :
    after.length < cs.length := by
  have hskip := length_skipBlanks_le cs
  cases h with
  | blank hblank =>
    rw [hblank, List.length_cons] at hskip
    exact hskip
  | @statement _ rest _ hstatement hrest =>
    have hwithin := statement_within hstatement
    have hbehind := length_skipBlanks_le rest
    have hcomment := (skipComment_passes (skipBlanks rest)).within hrest
    rw [List.length_cons] at hcomment
    omega

theorem statements_next {d d' : Draft} {after : List Char} (h : NextLine total d cs d' after)
    (fuel : Nat) :
    statements total (fuel + 1) d cs = statements total fuel d' after := by
  cases h with
  | blank hblank => simp only [statements_eq, hblank]
  | @statement _ rest _ hstatement hrest =>
    rw [statements_eq]
    split
    · next hnil =>
      rw [hnil] at hstatement
      cases hstatement
      cases hrest
    · next hblank =>
      rw [hblank] at hstatement
      cases hstatement
    · rw [hstatement]
      simp only [statementsFrom, hrest, bind, Except.bind]

/-- What the reader of lines does at the start of one, whatever steps it is given: it ends, its
statement fails, or it goes on to the next line. -/
inductive LineStep (total : Nat) (d : Draft) (cs : List Char) : Prop where
  | ends {result : Except Stop Draft} : (∀ {s}, result = .error s → ¬ s.Oversize) →
      (∀ fuel, statements total (fuel + 1) d cs = result) → LineStep total d cs
  | fails {s : Stop} : statement total d (skipBlanks cs) = .error s →
      (∀ fuel, statements total (fuel + 1) d cs = .error s) → LineStep total d cs
  | next {d' : Draft} {after : List Char} : NextLine total d cs d' after → LineStep total d cs

theorem line_step (total : Nat) (d : Draft) (cs : List Char) : LineStep total d cs := by
  by_cases hblank : ∃ after, skipBlanks cs = '\n' :: after
  · obtain ⟨after, hblank⟩ := hblank
    exact .next (.blank hblank)
  cases hhead : (skipBlanks cs).head? with
  | none =>
    have hend : ∀ fuel, statements total (fuel + 1) d cs = .ok d := by
      intro fuel
      rw [statements_eq, List.head?_eq_none_iff.mp hhead]
    exact .ends (fun heq => by cases heq) hend
  | some c =>
    have hc : c ≠ '\n' := by
      rintro rfl
      exact hblank (List.head?_eq_some_iff.mp hhead)
    have hline : ∀ fuel, statements total (fuel + 1) d cs =
        statement total d (skipBlanks cs) >>= fun r => statementsFrom total r.1 r.2 fuel :=
      fun fuel => statements_statement hhead hc fuel d
    cases hstatement : statement total d (skipBlanks cs) with
    | error s =>
      rw [hstatement] at hline
      exact .fails hstatement hline
    | ok r =>
      simp only [hstatement, bind, Except.bind, statementsFrom] at hline
      cases hrest : skipComment (skipBlanks r.2) with
      | error s =>
        have hmild := (skipComment_passes (skipBlanks r.2)).mild hrest
        simp only [hrest] at hline
        exact .ends (fun heq => by cases heq; exact hmild) hline
      | ok behind =>
        simp only [hrest] at hline
        split at hline
        · exact .ends (fun heq => by cases heq) hline
        · exact .next (.statement hstatement hrest)
        · exact .ends (fun heq => by cases heq; exact nofun) hline

/-- With steps enough for the lines that are given, it makes no difference how many there are. -/
theorem statements_stable (n : Nat) : ∀ (d : Draft) (cs : List Char), cs.length < n →
    ∀ fuel fuel', cs.length < fuel → cs.length < fuel' →
      statements total fuel d cs = statements total fuel' d cs := by
  induction n with
  | zero => exact fun _ _ h => absurd h (Nat.not_lt_zero _)
  | succ n ih =>
    intro d cs hcs fuel fuel' hfuel hfuel'
    obtain ⟨fuel, rfl⟩ := Nat.exists_eq_succ_of_ne_zero (Nat.ne_zero_of_lt hfuel)
    obtain ⟨fuel', rfl⟩ := Nat.exists_eq_succ_of_ne_zero (Nat.ne_zero_of_lt hfuel')
    cases line_step total d cs with
    | ends _ heq => rw [heq, heq]
    | fails _ heq => rw [heq, heq]
    | next hnext =>
      have hlength := hnext.shorter
      rw [statements_next hnext, statements_next hnext,
        ih _ _ (by omega) fuel fuel' (by omega) (by omega)]

/-- Reads statements with steps enough. -/
def linesAt (total : Nat) (d : Draft) (cs : List Char) : Except Stop Draft :=
  statements total (cs.length + 1) d cs

theorem statements_eq_linesAt {fuel : Nat} {d : Draft} (h : cs.length < fuel) :
    statements total fuel d cs = linesAt total d cs :=
  statements_stable _ d cs (Nat.lt_succ_self _) _ _ h (Nat.lt_succ_self _)

theorem linesAt_next {d d' : Draft} {after : List Char} (h : NextLine total d cs d' after) :
    linesAt total d cs = linesAt total d' after := by
  rw [linesAt, statements_next h, statements_eq_linesAt h.shorter]

/-! ## Places -/

/-- The lines of a document, with what has been read in front of each. -/
inductive Line (total : Nat) (text : List Char) : Draft → List Char → Prop where
  | start : Line total text .empty text
  | next {d d' : Draft} {cs after : List Char} : Line total text d cs → NextLine total d cs d' after →
      Line total text d' after

/-- The readers inside of a line. -/
inductive Part where
  | value
  | elements
  | entries (marks : Marks) (es : Entries Value)

/-- The places of a document where a reader is at work, with the room that is left there of the
total room. A
value is asked for behind the key of an entry, at each element of an array, and behind the key of each
entry of a table in braces. -/
inductive Asked (total : Nat) (text : List Char) : Part → Nat → List Char → Prop where
  | entry {d : Draft} {cs rest : List Char} {name : Key} : Line total text d cs →
      nameEquals (skipBlanks cs) = .ok (name, rest) → Asked total text .value total rest
  | array {room : Nat} {rest inside : List Char} : Asked total text .value room ('[' :: rest) →
      2 ≤ room → filler rest = .ok inside → inside.head? ≠ some ']' →
      Asked total text .elements (room - 2) inside
  | element {room : Nat} {cs : List Char} : Asked total text .elements room cs →
      Asked total text .value room cs
  | nextElement {room : Nat} {cs rest next : List Char} {v : Value} :
      Asked total text .elements room cs → valueAt room cs = .ok (v, rest) → Comma rest next →
      Asked total text .elements room next
  | table {room : Nat} {rest : List Char} : Asked total text .value room ('\x7b' :: rest) →
      3 ≤ room → (skipBlanks rest).head? ≠ some '\x7d' →
      Asked total text (.entries [] []) (room - 3) (skipBlanks rest)
  | member {room : Nat} {marks : Marks} {es : Entries Value} {cs rest : List Char} {name : Key} :
      Asked total text (.entries marks es) room cs → nameEquals cs = .ok (name, rest) →
      Asked total text .value room rest
  | nextMember {room : Nat} {marks : Marks} {es es' : Entries Value}
      {cs rest behind next : List Char} {name : Key} {v : Value} :
      Asked total text (.entries marks es) room cs →
      nameEquals cs = .ok (name, rest) → valueAt room rest = .ok (v, behind) →
      addInline marks name v es = .ok es' → EntryComma behind next →
      Asked total text (.entries (marksBehind marks name v) es') room next

/-- Whether a reader stops, read on with steps enough. -/
def Fails : Part → Nat → List Char → Stop → Prop
  | .value, room, cs, s => valueAt room cs = .error s
  | .elements, room, cs, s => elementsAt room cs = .error s
  | .entries marks es, room, cs, s => entriesAt marks es room cs = .error s

section Fails

variable {text : List Char} {room : Nat} {marks : Marks} {es : Entries Value}

theorem elementsAt_eq (room : Nat) (cs : List Char) : elementsAt room cs =
    valueAt room cs >>= fun r => elementsFrom room r.1 r.2 (2 * cs.length + 1) :=
  elements_eq _ room cs

theorem entriesAt_eq (marks : Marks) (es : Entries Value) (room : Nat) (cs : List Char) :
    entriesAt marks es room cs =
      nameEquals cs >>= fun n => valueAt room n.2 >>= fun r =>
        located r.2 (addInline marks n.1 r.1 es) >>= fun es =>
          entriesFrom room (marksBehind marks n.1 r.1) es r.2 (2 * cs.length + 1) := by
  rw [entriesAt, inlineEntries_eq]
  cases hname : nameEquals cs with
  | error s => rfl
  | ok n =>
    have hstart := (nameEquals_ends cs).shorter hname
    simp only [bind, Except.bind]
    rw [value_eq_valueAt (by omega)]

theorem elementsFrom_next {v : Value} (hcomma : Comma rest cs) {fuel : Nat}
    (hfuel : 2 * rest.length < fuel) :
    elementsFrom room v rest fuel = (elementsAt room cs).map fun r => (v :: r.1, r.2) := by
  have hshorter := hcomma.shorter
  rw [elementsFrom_comma hcomma, elements_eq_elementsAt (by omega)]

theorem entriesFrom_next (hcomma : EntryComma rest cs) {fuel : Nat}
    (hfuel : 2 * rest.length < fuel) :
    entriesFrom room marks es rest fuel = entriesAt marks es room cs := by
  have hshorter := hcomma.shorter
  rw [entriesFrom_comma hcomma, inlineEntries_eq_entriesAt (by omega)]

theorem valueAt_array {inside : List Char} (hroom : 2 ≤ room)
    (hinside : filler rest = .ok inside) (hfull : inside.head? ≠ some ']') :
    valueAt room ('[' :: rest) =
      (elementsAt (room - 2) inside).map fun r => (.list r.1, r.2) := by
  have hle := (filler_passes rest).within hinside
  rw [valueAt, List.length_cons, value_bracket hroom, hinside]
  show ite _ _ _ = _
  rw [if_neg hfull, elements_eq_elementsAt (by omega)]

theorem valueAt_table (hroom : 3 ≤ room) (hfull : (skipBlanks rest).head? ≠ some '\x7d') :
    valueAt room ('\x7b' :: rest) = (entriesAt [] [] (room - 3) (skipBlanks rest)).map
      fun r => (.dict false r.1, r.2) := by
  have hskip := length_skipBlanks_le rest
  rw [valueAt, List.length_cons, value_brace hroom, if_neg hfull,
    inlineEntries_eq_entriesAt (by omega)]

/-- Where a line is read, its errors are those of the document. -/
theorem lines_of_line {d : Draft} (h : Line total text d cs) (herror : linesAt total d cs = .error s) :
    linesAt total .empty text = .error s := by
  induction h with
  | start => exact herror
  | next _ hnext ih => exact ih ((linesAt_next hnext).trans herror)

/-- Where a reader is at work, its errors are those of the document. -/
theorem lines_of_asked {part : Part} (h : Asked total text part room cs)
    (herror : Fails part room cs s) : linesAt total .empty text = .error s := by
  induction h with
  | @entry d cs rest name hline hname =>
    refine lines_of_line hline ?_
    obtain ⟨c, hhead, hc⟩ := startsKey_of_nameEquals hname
    have hbreak : c ≠ '\n' := by
      rintro rfl
      exact absurd hc (by decide)
    rw [linesAt, statements_statement hhead hbreak, statement_entry hhead hc, entry_eq, hname]
    show (valueAt total rest >>= _) >>= _ = _
    rw [show valueAt total rest = .error s from herror]
    rfl
  | array _ hroom hinside hfull ih =>
    refine ih ?_
    show valueAt _ _ = _
    rw [valueAt_array hroom hinside hfull, show elementsAt _ _ = .error s from herror]
    rfl
  | element _ ih =>
    refine ih ?_
    show elementsAt _ _ = _
    rw [elementsAt_eq, show valueAt _ _ = .error s from herror]
    rfl
  | nextElement _ hvalue hcomma ih =>
    refine ih ?_
    show elementsAt _ _ = _
    have hrest := (readers_shorten _).1 _ hvalue
    rw [elementsAt_eq, hvalue]
    show elementsFrom _ _ _ _ = _
    rw [elementsFrom_next hcomma (by omega), show elementsAt _ _ = .error s from herror]
    rfl
  | table _ hroom hfull ih =>
    refine ih ?_
    show valueAt _ _ = _
    rw [valueAt_table hroom hfull, show entriesAt _ _ _ _ = .error s from herror]
    rfl
  | member _ hname ih =>
    refine ih ?_
    show entriesAt _ _ _ _ = _
    rw [entriesAt_eq, hname]
    show (valueAt _ _ >>= _) = _
    rw [show valueAt _ _ = .error s from herror]
    rfl
  | nextMember _ hname hvalue hadd hcomma ih =>
    refine ih ?_
    show entriesAt _ _ _ _ = _
    have hstart := (nameEquals_ends _).shorter hname
    have hrest := (readers_shorten _).1 _ hvalue
    rw [entriesAt_eq, hname]
    show (valueAt _ _ >>= _) = _
    rw [hvalue]
    show (located _ (addInline _ _ _ _) >>= _) = _
    rw [hadd]
    show entriesFrom _ _ _ _ _ = _
    rw [entriesFrom_next hcomma (by omega), show entriesAt _ _ _ _ = .error s from herror]

/-- How much a reader has before it. A row has more than the value that it begins with. -/
def Part.size : Part → List Char → Nat
  | .value, cs => 2 * cs.length
  | .elements, cs | .entries _ _, cs => 2 * cs.length + 1

/-- Somewhere a value is asked for and the reader breaks off, or a smaller part stops for the same
reason. -/
def Handed (total : Nat) (text : List Char) (s : Stop) (n : Nat) : Prop :=
  (∃ room cs, Asked total text .value room cs ∧ Breaks s room cs) ∨
    ∃ part room cs, part.size cs < n ∧ Asked total text part room cs ∧ Fails part room cs s

section Handed

variable (hs : s.Oversize)

include hs

theorem value_handed (hasked : Asked total text .value room cs) (hfails : valueAt room cs = .error s) :
    Handed total text s (Part.value.size cs) := by
  cases value_step room cs with
  | ends hends heq => exact absurd hs (hends.mild ((heq _).symm.trans hfails))
  | breaks hbreaks heq =>
    cases (heq _).symm.trans hfails
    exact .inl ⟨room, cs, hasked, hbreaks⟩
  | @array rest inside hrest hroom hinside hfull _ =>
    subst hrest
    rw [valueAt_array hroom hinside hfull] at hfails
    have hle := (filler_passes rest).within hinside
    refine .inr ⟨.elements, _, _, ?_, .array hasked hroom hinside hfull,
      Attempt.map_eq_error_iff.mp hfails⟩
    simp only [Part.size, List.length_cons]
    omega
  | @table rest hrest hroom hfull _ =>
    subst hrest
    rw [valueAt_table hroom hfull] at hfails
    have hskip := length_skipBlanks_le rest
    refine .inr ⟨.entries [] [], _, _, ?_, .table hasked hroom hfull,
      Attempt.map_eq_error_iff.mp hfails⟩
    simp only [Part.size, List.length_cons]
    omega

theorem elements_handed (hasked : Asked total text .elements room cs)
    (hfails : elementsAt room cs = .error s) : Handed total text s (Part.elements.size cs) := by
  rw [elementsAt_eq] at hfails
  rcases Attempt.bind_eq_error_iff.mp hfails with hfirst | ⟨⟨v, rest⟩, hfirst, hrow⟩
  · exact .inr ⟨.value, room, cs, Nat.lt_succ_self _, .element hasked, hfirst⟩
  · have hrest : rest.length < cs.length := (readers_shorten _).1 _ hfirst
    cases elements_step room v rest with
    | ends hends heq => exact absurd hs (hends.mild ((heq _).symm.trans hrow))
    | next _ hcomma hshorter _ =>
      rw [elementsFrom_next hcomma (by omega)] at hrow
      refine .inr ⟨.elements, _, _, ?_, .nextElement hasked hfirst hcomma,
        Attempt.map_eq_error_iff.mp hrow⟩
      simp only [Part.size]
      omega

theorem entries_handed (hasked : Asked total text (.entries marks es) room cs)
    (hfails : entriesAt marks es room cs = .error s) :
    Handed total text s ((Part.entries marks es).size cs) := by
  rw [entriesAt_eq] at hfails
  rcases Attempt.bind_eq_error_iff.mp hfails with hname | ⟨⟨name, start⟩, hname, hfails⟩
  · exact absurd hs ((nameEquals_ends cs).mild hname)
  have hstart := (nameEquals_ends cs).shorter hname
  rcases Attempt.bind_eq_error_iff.mp hfails with hfirst | ⟨⟨v, rest⟩, hfirst, hfails⟩
  · refine .inr ⟨.value, room, start, ?_, .member hasked hname, hfirst⟩
    simp only [Part.size]
    omega
  have hrest : rest.length < start.length := (readers_shorten _).1 _ hfirst
  rcases Attempt.bind_eq_error_iff.mp hfails with hadd | ⟨es', hadd, hrow⟩
  · exact absurd hs (located_mild hadd)
  dsimp only at hrow
  cases entries_step room (marksBehind marks name v) es' rest with
  | ends hends heq => exact absurd hs (hends.mild ((heq _).symm.trans hrow))
  | next _ hcomma hshorter _ =>
    rw [entriesFrom_next hcomma (by omega)] at hrow
    refine .inr ⟨.entries _ _, _, _, ?_,
      .nextMember hasked hname hfirst (located_ok hadd) hcomma, hrow⟩
    simp only [Part.size]
    omega

/-- A reader that stops hands this on, from a part to a smaller one. -/
theorem fails_handed {part : Part} (hasked : Asked total text part room cs)
    (hfails : Fails part room cs s) : Handed total text s (part.size cs) := by
  cases part with
  | value => exact value_handed hs hasked hfails
  | elements => exact elements_handed hs hasked hfails
  | entries marks es => exact entries_handed hs hasked hfails

end Handed

/-- An error about a size comes from a place where a value is asked for and the reader breaks off. -/
theorem asked_of_fails (hs : s.Oversize) (n : Nat) : ∀ {part : Part} {room : Nat} {cs : List Char},
    part.size cs < n → Asked total text part room cs → Fails part room cs s →
    ∃ room' cs', Asked total text .value room' cs' ∧ Breaks s room' cs' := by
  induction n with
  | zero => exact fun h => absurd h (Nat.not_lt_zero _)
  | succ n ih =>
    intro part room cs hsize hasked hfails
    rcases fails_handed hs hasked hfails with hbreaks | ⟨part', room', cs', hless, hasked', hfails'⟩
    · exact hbreaks
    · exact ih (by omega) hasked' hfails'

theorem asked_of_lines (hs : s.Oversize) (n : Nat) : ∀ {d : Draft} {cs : List Char},
    cs.length < n → Line total text d cs → linesAt total d cs = .error s →
    ∃ room cs', Asked total text .value room cs' ∧ Breaks s room cs' := by
  induction n with
  | zero => exact fun h => absurd h (Nat.not_lt_zero _)
  | succ n ih =>
    intro d cs hcs hline hfails
    cases line_step total d cs with
    | ends hmild heq => exact absurd hs (hmild ((heq _).symm.trans hfails))
    | next hnext =>
      have hshorter := hnext.shorter
      exact ih (by omega) (hline.next hnext) ((linesAt_next hnext).symm.trans hfails)
    | fails hstatement heq =>
      cases (heq _).symm.trans hfails
      rcases statement_cases total d (skipBlanks cs) with hends | hentry
      -- a header asks for no value
      · exact absurd hs (hends.mild hstatement)
      · rw [hentry, entry_eq] at hstatement
        rcases Attempt.bind_eq_error_iff.mp hstatement with hname | ⟨⟨name, start⟩, hname, hvalue⟩
        · exact absurd hs ((nameEquals_ends _).mild hname)
        · rcases Attempt.bind_eq_error_iff.mp hvalue with hvalue | ⟨r, -, hadd⟩
          · exact asked_of_fails hs _ (Nat.lt_succ_self _) (.entry hline hname) hvalue
          · exact absurd hs (located_mild (Attempt.map_eq_error_iff.mp hadd))

end Fails

/-- A document is refused for its size exactly if the reader breaks off at a place where it asks for a
value. -/
theorem statements_eq_oversize_iff {text : List Char} (hs : s.Oversize) :
    statements total (text.length + 1) .empty text = .error s ↔
      ∃ room cs, Asked total text .value room cs ∧ Breaks s room cs := by
  constructor
  · exact asked_of_lines hs _ (Nat.lt_succ_self _) .start
  · rintro ⟨room, cs, hasked, hbreaks⟩
    exact lines_of_asked hasked (value_of_breaks hbreaks _)

end ArgumentSchema.Toml
