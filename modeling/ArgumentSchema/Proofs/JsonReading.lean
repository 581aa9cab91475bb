import ArgumentSchema.Document.Json
import ArgumentSchema.Proofs.Readers

/-!
# Where reading JSON comes to an end

A reader of a document goes from value to value. Here every place is told where it asks for one, what
it can do there, and that the count of steps which it is given always lasts. So a document is refused
for its size exactly if an integer of too many digits stands at such a place, or a container too deep
inside of others; and every other one is read, or is malformed.

> `Json.value_step`, `Json.elements_step`, `Json.members_step`: what one step of each reader can do.
> `Json.readers_stable`: that more steps than there are characters make no difference.
> `Json.Asked`: the places where a value is asked for.
> `Json.document_eq_oversize_iff`: what is refused for its size.
-/

namespace ArgumentSchema.Json

variable {cs rest : List Char}

theorem length_skipBlanks_le (cs : List Char) : (skipBlanks cs).length ≤ cs.length :=
  length_dropWhile_le _ cs

/-- Whether a reader stops at the size of what it reads. -/
inductive Stop.Oversize : Stop → Prop where
  | tooManyDigits (e : Literal.TooManyDigits) : Oversize (.tooManyDigits e)
  | tooDeep (object : Bool) : Oversize (.tooDeep object)

/-- A reader that stops at something malformed comes to an end. -/
theorem ends_malformed {α : Type} {length left : Nat} {fault : Fault} :
    Ends Stop.Oversize length (.error (.malformed fault left) : Except Stop (α × List Char)) :=
  .error nofun

/-! ## Strings -/

theorem takeUnit?_shorter {n : Nat} (h : takeUnit? cs = some (n, rest)) :
    rest.length < cs.length := by
  unfold takeUnit? at h
  dsimp only at h
  split at h
  · next hlength =>
    obtain ⟨m, -, hm⟩ := Option.map_eq_some_iff.mp h
    rw [← (Prod.mk.inj hm).2, List.length_drop]
    omega
  · cases h

theorem unicodeEscape_ends (left : Nat) (cs : List Char) :
    Ends Stop.Oversize cs.length (unicodeEscape left cs) := by
  unfold unicodeEscape
  split
  · exact ends_malformed
  · next n after hunit =>
    have hafter := takeUnit?_shorter hunit
    split
    · next more =>
      split
      · exact .ok hafter
      · split
        · exact ends_malformed
        · next m behind hlow =>
          have hbehind := takeUnit?_shorter hlow
          simp only [List.length_cons] at hafter
          split
          · exact .ok (by omega)
          · exact .ok hafter
    · exact .ok hafter

theorem stringBody_ends (opened fuel : Nat) (done cs : List Char) :
    Ends Stop.Oversize cs.length (stringBody opened fuel done cs) := by
  induction fuel generalizing done cs with
  | zero => exact ends_malformed
  | succ fuel ih =>
    unfold stringBody
    split
    · exact ends_malformed
    · exact .ok (Nat.lt_succ_self _)
    · exact ends_malformed
    · next body =>
      exact ((unicodeEscape_ends _ body).mono (Nat.le_add_right _ 2)).bind fun _ => ih _ _
    · split
      · exact (ih _ _).mono (Nat.le_add_right _ 2)
      · exact ends_malformed
    · split
      · exact ends_malformed
      · exact (ih _ _).mono (Nat.le_succ _)

theorem string_ends (cs : List Char) : Ends Stop.Oversize cs.length (string cs) := by
  have hmap : string cs = (stringBody (cs.length + 1) (cs.length + 1) [] cs).map
      fun r => (String.ofList r.1, r.2) := by
    rw [string]
    cases stringBody (cs.length + 1) (cs.length + 1) [] cs <;> rfl
  rw [hmap]
  exact (stringBody_ends _ _ _ _).map _

/-! ## Numbers -/

theorem integerPart?_shorter {ds : List Char} (h : integerPart? cs = some (ds, rest)) :
    rest.length < cs.length := by
  unfold integerPart? at h
  split at h
  · cases h
    exact Nat.lt_succ_self _
  · split at h
    · next hdigit =>
      cases h
      refine length_dropWhile_lt ?_
      rw [List.takeWhile_cons_of_pos hdigit]
      exact List.cons_ne_nil _ _
    · cases h
  · cases h

theorem fractionPart_shorter {ds : List Char} (h : fractionPart cs = some (ds, rest)) :
    ds ≠ [] ∧ rest.length < cs.length := by
  unfold fractionPart at h
  split at h
  · dsimp only at h
    split at h
    · cases h
    · next hfull =>
      cases h
      exact ⟨fun hnil => hfull (List.isEmpty_iff.mpr hnil), Nat.lt_succ_of_le (length_dropWhile_le _ _)⟩
  · cases h

theorem exponentPart_shorter {n : Int} (h : exponentPart cs = some (n, rest)) :
    rest.length < cs.length := by
  unfold exponentPart at h
  split at h
  · next e behind =>
    split at h
    · have hsign := length_takeSign_le behind
      generalize Literal.takeSign behind = signed at h hsign
      obtain ⟨negative, ds⟩ := signed
      dsimp only at h hsign
      split at h
      · cases h
      · cases h
        have hdrop := length_dropWhile_le Text.isAsciiDigit ds
        rw [List.length_cons]
        omega
    · cases h
  · cases h

/-- Digits that are an integer behind its sign, and not only the start of a decimal. -/
structure Whole (ds rest cs : List Char) : Prop where
  digits : integerPart? cs = some (ds, rest)
  fraction : fractionPart rest = none
  exponent : exponentPart rest = none

theorem unsigned_of_whole {ds : List Char} (h : Whole ds rest cs)
    (hlong : Literal.maxIntegerDigits < ds.length) (negative : Bool) (left : Nat) :
    unsigned negative left cs = .error (.tooManyDigits ⟨ds.length⟩) := by
  rw [unsigned, h.digits]
  dsimp only
  rw [h.fraction]
  dsimp only [Option.getD]
  rw [h.exponent]
  exact if_pos hlong

theorem unsigned_cases (negative : Bool) (left : Nat) (cs : List Char) :
    Ends Stop.Oversize cs.length (unsigned negative left cs) ∨
      ∃ ds rest, Whole ds rest cs ∧ Literal.maxIntegerDigits < ds.length := by
  unfold unsigned
  split
  · exact .inl ends_malformed
  · next whole after hwhole =>
    have hafter := integerPart?_shorter hwhole
    cases hfraction : fractionPart after with
    | none =>
      dsimp only [Option.getD]
      split
      · next hexponent => exact .inl (.ok (Nat.lt_trans (exponentPart_shorter hexponent) hafter))
      · next hexponent =>
        rw [if_pos List.isEmpty_nil]
        split
        · next hlong => exact .inr ⟨whole, after, ⟨hwhole, hfraction, hexponent⟩, hlong⟩
        · exact .inl (.ok hafter)
    | some r =>
      obtain ⟨fraction, behind⟩ := r
      obtain ⟨hne, hbehind⟩ := fractionPart_shorter hfraction
      dsimp only [Option.getD]
      split
      · next hexponent =>
        exact .inl (.ok (Nat.lt_trans (exponentPart_shorter hexponent) (Nat.lt_trans hbehind hafter)))
      · rw [if_neg (by simpa using hne)]
        exact .inl (.ok (Nat.lt_trans hbehind hafter))

theorem fractionPart_eq_none_iff : fractionPart rest = none ↔
    ∀ behind, rest = '.' :: behind → ∀ d ∈ behind.head?, Text.isAsciiDigit d = false := by
  unfold fractionPart
  split
  · next behind =>
    dsimp only
    rw [ite_eq_left_iff]
    simp only [reduceCtorEq, imp_false, not_not, List.isEmpty_iff, takeWhile_eq_nil_iff]
    exact ⟨fun h _ heq => (List.cons.inj heq).2 ▸ h, fun h => h _ rfl⟩
  · next hother => exact iff_of_true rfl fun behind heq => absurd heq (hother _)

theorem exponentPart_eq_none_iff : exponentPart rest = none ↔
    ∀ e behind, rest = e :: behind → e = 'e' ∨ e = 'E' →
      ∀ d ∈ (Literal.takeSign behind).2.head?, Text.isAsciiDigit d = false := by
  unfold exponentPart
  cases rest with
  | nil => exact iff_of_true rfl fun _ _ heq => nomatch heq
  | cons e behind =>
    dsimp only
    by_cases he : e = 'e' ∨ e = 'E'
    · rw [if_pos he, ite_eq_left_iff]
      simp only [reduceCtorEq, imp_false, not_not, List.isEmpty_iff, takeWhile_eq_nil_iff]
      constructor
      · intro h e' behind' heq _
        rw [← (List.cons.inj heq).2]
        exact h
      · intro h
        exact h e behind rfl he
    · rw [if_neg he]
      refine iff_of_true rfl fun e' behind' heq he' => ?_
      rw [← (List.cons.inj heq).1] at he'
      exact absurd he' he

theorem integral_iff_parts : Integral rest ↔ fractionPart rest = none ∧ exponentPart rest = none := by
  rw [integral_iff, fractionPart_eq_none_iff, exponentPart_eq_none_iff]

/-- A row of digits that does not start with a zero, up to where it ends. -/
structure Row (ds rest : List Char) : Prop where
  digits : ∀ d ∈ ds, Text.isAsciiDigit d = true
  first : ds.head? ≠ some '0'
  stop : ∀ c ∈ rest.head?, Text.isAsciiDigit c = false

theorem integerPart?_row {ds : List Char} (hne : ds ≠ []) (h : Row ds rest) :
    integerPart? (ds ++ rest) = some (ds, rest) := by
  obtain ⟨d, ds', rfl⟩ := List.exists_cons_of_ne_nil hne
  have hd := h.digits d (List.mem_cons_self ..)
  unfold integerPart?
  split
  · next heq => exact absurd (congrArg some (List.cons.inj heq).1) h.first
  · next c behind _ heq =>
    rw [← (List.cons.inj heq).1, if_pos hd, Text.takeWhile_append_of_stop h.digits h.stop,
      Text.dropWhile_append_of_stop h.digits h.stop]
  · next heq => cases heq

theorem row_of_integerPart? {ds : List Char} (h : integerPart? cs = some (ds, rest))
    (hlong : 1 < ds.length) : cs = ds ++ rest ∧ Row ds rest := by
  unfold integerPart? at h
  split at h
  · cases h
    exact absurd hlong (Nat.lt_irrefl 1)
  · next c behind hzero =>
    split at h
    · next hdigit =>
      obtain ⟨rfl, rfl⟩ := Prod.mk.inj (Option.some.inj h)
      refine ⟨List.takeWhile_append_dropWhile.symm, fun d hd => List.mem_takeWhile_imp hd, ?_,
        stop_dropWhile _ _⟩
      rw [List.takeWhile_cons_of_pos hdigit]
      exact fun hhead => hzero (Option.some.inj hhead)
    · cases h
  · cases h

/-- An integer of `n` digits, which are too many to be read. -/
def Overlong (n : Nat) (cs : List Char) : Prop :=
  ∃ sign ds rest, sign ∈ [[], ['-']] ∧ cs = sign ++ (ds ++ rest) ∧ Row ds rest ∧ Integral rest ∧
    ds.length = n ∧ Literal.maxIntegerDigits < n

theorem number_of_overlong {n : Nat} (h : Overlong n cs) :
    number cs = .error (.tooManyDigits ⟨n⟩) := by
  obtain ⟨sign, ds, rest, hsign, rfl, hrow, hintegral, rfl, hlong⟩ := h
  have hne : ds ≠ [] := List.ne_nil_of_length_pos (Nat.lt_of_le_of_lt (Nat.zero_le _) hlong)
  obtain ⟨hfraction, hexponent⟩ := integral_iff_parts.mp hintegral
  have hwhole : Whole ds rest (ds ++ rest) := ⟨integerPart?_row hne hrow, hfraction, hexponent⟩
  rcases List.mem_pair.mp hsign with rfl | rfl
  · rw [List.nil_append]
    unfold number
    split
    · next heq =>
      -- a digit is no sign
      obtain ⟨d, ds, rfl⟩ := List.exists_cons_of_ne_nil hne
      obtain ⟨rfl, -⟩ := List.cons.inj heq
      cases hrow.digits _ (List.mem_cons_self ..)
    · exact unsigned_of_whole hwhole hlong _ _
  · exact unsigned_of_whole hwhole hlong _ _

/-- A number is read or malformed, or it is an integer that is too long. -/
theorem number_cases (cs : List Char) :
    Ends Stop.Oversize cs.length (number cs) ∨ ∃ n, Overlong n cs := by
  have hoverlong : ∀ {sign body ds rest}, sign ∈ [[], ['-']] → cs = sign ++ body →
      Whole ds rest body → Literal.maxIntegerDigits < ds.length → ∃ n, Overlong n cs := by
    rintro sign body ds rest hsign rfl hwhole hlong
    have hone : 1 < ds.length := Nat.lt_of_le_of_lt (by decide) hlong
    obtain ⟨rfl, hrow⟩ := row_of_integerPart? hwhole.digits hone
    exact ⟨_, sign, ds, rest, hsign, rfl, hrow,
      integral_iff_parts.mpr ⟨hwhole.fraction, hwhole.exponent⟩, rfl, hlong⟩
  unfold number
  split
  · next body =>
    rcases unsigned_cases true _ body with hends | ⟨ds, rest, hwhole, hlong⟩
    · exact .inl (hends.mono (Nat.le_succ _))
    · exact .inr (@hoverlong ['-'] _ _ _ (by simp) rfl hwhole hlong)
  · rcases unsigned_cases false _ cs with hends | ⟨ds, rest, hwhole, hlong⟩
    · exact .inl hends
    · exact .inr (@hoverlong [] _ _ _ (by simp) rfl hwhole hlong)

theorem word?_shorter {v : Value} (h : word? cs = some (v, rest)) : rest.length < cs.length := by
  obtain ⟨w, hw, hword⟩ := List.exists_of_findSome?_eq_some h
  split at hword
  · next hstart =>
    have hne : ∀ w ∈ words, w.1 ≠ [] := by decide
    cases hword
    have hpos := List.length_pos_of_ne_nil (hne w hw)
    have hle := (List.isPrefixOf_iff_prefix.mp hstart).length_le
    rw [List.length_drop]
    omega
  · cases hword

/-- What starts with a digit, behind a sign or none, is no word. -/
theorem word?_of_digit {d : Char} (hd : Text.isAsciiDigit d = true)
    (hcs : (Literal.takeSign cs).2.head? = some d) : word? cs = none := by
  have hwords : ∀ w ∈ words, ∃ c ∈ (Literal.takeSign w.1).2.head?, Text.isAsciiDigit c = false := by
    simp only [words, List.forall_mem_cons]
    refine ⟨⟨'n', rfl, rfl⟩, ⟨'t', rfl, rfl⟩, ⟨'f', rfl, rfl⟩, ⟨'N', rfl, rfl⟩, ⟨'I', rfl, rfl⟩,
      ⟨'I', rfl, rfl⟩, nofun⟩
  rw [word?, List.findSome?_eq_none_iff]
  intro w hw
  rw [not_isPrefixOf_of_digit hd hcs (hwords w hw)]
  rfl

/-! ## One step of a reader -/

/-- Neither a string nor a container starts here. -/
structure Bare (cs : List Char) : Prop where
  full : cs ≠ []
  other : ∀ c ∈ cs.head?, c ≠ '"' ∧ c ≠ '\x7b' ∧ c ≠ '['

theorem shape (cs : List Char) : cs = [] ∨ (∃ rest, cs = '"' :: rest) ∨
    (∃ rest, cs = '\x7b' :: rest) ∨ (∃ rest, cs = '[' :: rest) ∨ Bare cs := by
  cases cs with
  | nil => exact .inl rfl
  | cons c rest =>
    by_cases hquote : c = '"'
    · exact .inr (.inl ⟨rest, by rw [hquote]⟩)
    · by_cases hbrace : c = '\x7b'
      · exact .inr (.inr (.inl ⟨rest, by rw [hbrace]⟩))
      · by_cases hbracket : c = '['
        · exact .inr (.inr (.inr (.inl ⟨rest, by rw [hbracket]⟩)))
        · refine .inr (.inr (.inr (.inr ⟨List.cons_ne_nil _ _, ?_⟩)))
          rintro _ ⟨⟩
          exact ⟨hquote, hbrace, hbracket⟩

theorem Overlong.digit {n : Nat} (h : Overlong n cs) :
    ∃ d, Text.isAsciiDigit d = true ∧ (Literal.takeSign cs).2.head? = some d := by
  obtain ⟨sign, ds, rest, hsign, rfl, hrow, -, rfl, hlong⟩ := h
  obtain ⟨d, ds, rfl⟩ := List.exists_cons_of_ne_nil
    (List.ne_nil_of_length_pos (Nat.lt_of_le_of_lt (Nat.zero_le _) hlong))
  have hd := hrow.digits d (List.mem_cons_self ..)
  refine ⟨d, hd, (takeSign_digit_iff hd).mpr ⟨sign, ?_, ds ++ rest, rfl⟩⟩
  exact List.mem_of_mem_dropLast (l := [[], ['-'], ['+']]) hsign

theorem Overlong.bare {n : Nat} (h : Overlong n cs) : Bare cs := by
  obtain ⟨d, hd, hhead⟩ := h.digit
  obtain ⟨sign, hsign, more, rfl⟩ := (takeSign_digit_iff hd).mp hhead
  refine ⟨by simp, fun c hc => ?_⟩
  have hother : ∀ c, c = d ∨ c = '-' ∨ c = '+' → c ≠ '"' ∧ c ≠ '\x7b' ∧ c ≠ '[' := by
    rintro c (rfl | rfl | rfl)
    · refine ⟨?_, ?_, ?_⟩ <;>
      · rintro rfl
        cases hd
    · decide
    · decide
  simp only [List.mem_cons, List.not_mem_nil, or_false] at hsign
  rcases hsign with rfl | rfl | rfl
  · exact hother c (.inl (Option.some.inj hc).symm)
  · exact hother c (.inr (.inl (Option.some.inj hc).symm))
  · exact hother c (.inr (.inr (Option.some.inj hc).symm))

/-- What a reader stops at because of its size, where a value is asked for and there is room for so
many containers. -/
inductive Breaks : Stop → Nat → List Char → Prop where
  | digits {n room : Nat} {cs : List Char} : Overlong n cs → Breaks (.tooManyDigits ⟨n⟩) room cs
  | array {cs : List Char} : Breaks (.tooDeep false) 0 ('[' :: cs)
  | object {cs : List Char} : Breaks (.tooDeep true) 0 ('\x7b' :: cs)

/-- What the reader of a value does, whatever steps it is given: it ends, it breaks off, or it reads
what is inside of a container. -/
inductive ValueStep (room : Nat) (cs : List Char) : Prop where
  | ends {result : Except Stop (Value × List Char)} : Ends Stop.Oversize cs.length result →
      (∀ fuel, value (fuel + 1) room cs = result) → ValueStep room cs
  | breaks {s : Stop} : Breaks s room cs → (∀ fuel, value (fuel + 1) room cs = .error s) →
      ValueStep room cs
  | array {rest : List Char} : cs = '[' :: rest → room ≠ 0 → (skipBlanks rest).head? ≠ some ']' →
      (∀ fuel, value (fuel + 1) room cs =
        (elements fuel (room - 1) (skipBlanks rest)).map fun r => (.list r.1, r.2)) → ValueStep room cs
  | object {rest : List Char} : cs = '\x7b' :: rest → room ≠ 0 →
      (skipBlanks rest).head? ≠ some '\x7d' →
      (∀ fuel, value (fuel + 1) room cs = (members fuel (room - 1) (skipBlanks rest)).map
        fun r => (.dict false (Entries.ofPairs r.1), r.2)) → ValueStep room cs

theorem value_quote (fuel room : Nat) : value (fuel + 1) room ('"' :: rest) =
    (string rest).map fun r => (.str r.1, r.2) := by
  rw [value]
  cases string rest <;> rfl

theorem value_bare (h : Bare cs) (fuel room : Nat) :
    value (fuel + 1) room cs = (word? cs).elim (number cs) .ok := by
  obtain ⟨hne, hhead⟩ := h
  unfold value
  split
  · exact absurd rfl hne
  · exact absurd rfl (hhead _ rfl).1
  · exact absurd rfl (hhead _ rfl).2.1
  · exact absurd rfl (hhead _ rfl).2.2
  · cases word? cs <;> rfl

theorem value_array {room : Nat} (hroom : room ≠ 0) (hfull : (skipBlanks rest).head? ≠ some ']')
    (fuel : Nat) : value (fuel + 1) room ('[' :: rest) =
      (elements fuel (room - 1) (skipBlanks rest)).map fun r => (.list r.1, r.2) := by
  rw [value, if_neg hroom]
  split
  · next hclosed => exact absurd (congrArg List.head? hclosed) hfull
  · cases elements fuel (room - 1) (skipBlanks rest) <;> rfl

theorem value_object {room : Nat} (hroom : room ≠ 0) (hfull : (skipBlanks rest).head? ≠ some '\x7d')
    (fuel : Nat) :
    value (fuel + 1) room ('\x7b' :: rest) = (members fuel (room - 1) (skipBlanks rest)).map
      fun r => (.dict false (Entries.ofPairs r.1), r.2) := by
  rw [value, if_neg hroom]
  split
  · next hclosed => exact absurd (congrArg List.head? hclosed) hfull
  · cases members fuel (room - 1) (skipBlanks rest) <;> rfl

theorem value_step (room : Nat) (cs : List Char) : ValueStep room cs := by
  rcases shape cs with rfl | ⟨rest, rfl⟩ | ⟨rest, rfl⟩ | ⟨rest, rfl⟩ | hbare
  · exact .ends ends_malformed fun _ => rfl
  · exact .ends (((string_ends rest).mono (Nat.le_succ _)).map _) fun fuel => value_quote fuel room
  · by_cases hroom : room = 0
    · subst hroom
      exact .breaks .object fun fuel => by rw [value, if_pos rfl]
    · by_cases hempty : (skipBlanks rest).head? = some '\x7d'
      · obtain ⟨after, hafter⟩ := List.head?_eq_some_iff.mp hempty
        have hskip := length_skipBlanks_le rest
        rw [hafter, List.length_cons] at hskip
        have hempty : ∀ fuel, value (fuel + 1) room ('\x7b' :: rest) = .ok (.dict false [], after) := by
          intro fuel
          rw [value, if_neg hroom, hafter]
          rfl
        exact .ends (.ok (Nat.lt_succ_of_lt hskip)) hempty
      · exact .object rfl hroom hempty (value_object hroom hempty)
  · by_cases hroom : room = 0
    · subst hroom
      exact .breaks .array fun fuel => by rw [value, if_pos rfl]
    · by_cases hempty : (skipBlanks rest).head? = some ']'
      · obtain ⟨after, hafter⟩ := List.head?_eq_some_iff.mp hempty
        have hskip := length_skipBlanks_le rest
        rw [hafter, List.length_cons] at hskip
        have hempty : ∀ fuel, value (fuel + 1) room ('[' :: rest) = .ok (.list [], after) := by
          intro fuel
          rw [value, if_neg hroom, hafter]
          rfl
        exact .ends (.ok (Nat.lt_succ_of_lt hskip)) hempty
      · exact .array rfl hroom hempty (value_array hroom hempty)
  · cases hword : word? cs with
    | some r =>
      have hvalue : ∀ fuel, value (fuel + 1) room cs = .ok (r.1, r.2) := by
        intro fuel
        rw [value_bare hbare, hword]
        rfl
      exact .ends (.ok (word?_shorter hword)) hvalue
    | none =>
      have hvalue : ∀ fuel, value (fuel + 1) room cs = number cs := by
        intro fuel
        rw [value_bare hbare, hword]
        rfl
      rcases number_cases cs with hends | ⟨n, hlong⟩
      · exact .ends hends hvalue
      · exact .breaks (.digits hlong) fun fuel => (hvalue fuel).trans (number_of_overlong hlong)

/-- Where a reader breaks off, it breaks off whatever steps it is given. -/
theorem value_of_breaks {s : Stop} {room : Nat} (h : Breaks s room cs) (fuel : Nat) :
    value (fuel + 1) room cs = .error s := by
  cases h with
  | digits hlong =>
    obtain ⟨c, hc, hhead⟩ := hlong.digit
    rw [value_bare hlong.bare, word?_of_digit hc hhead]
    exact number_of_overlong hlong
  | array => rw [value, if_pos rfl]
  | object => rw [value, if_pos rfl]

/-- Behind a comma more of a row is read. -/
def Comma (rest cs : List Char) : Prop :=
  ∃ after, skipBlanks rest = ',' :: after ∧ skipBlanks after = cs

theorem Comma.shorter (h : Comma rest cs) : cs.length < rest.length := by
  obtain ⟨after, hcomma, rfl⟩ := h
  have hskip := length_skipBlanks_le rest
  rw [hcomma, List.length_cons] at hskip
  exact Nat.lt_of_le_of_lt (length_skipBlanks_le after) hskip

/-- The elements of an array from one that has been read on. -/
def elementsFrom (room : Nat) (v : Value) (rest : List Char) (fuel : Nat) :
    Except Stop (List Value × List Char) :=
  match skipBlanks rest with
  | ']' :: after => pure ([v], after)
  | ',' :: after => do
    let (vs, rest) ← elements fuel room (skipBlanks after)
    pure (v :: vs, rest)
  | rest => throw (.malformed .comma rest.length)

theorem elements_eq (fuel room : Nat) (cs : List Char) : elements (fuel + 1) room cs =
    value fuel room cs >>= fun r => elementsFrom room r.1 r.2 fuel := by
  rw [elements]
  rfl

theorem elements_step (room : Nat) (v : Value) (rest : List Char) :
    RowStep Stop.Oversize rest (Comma rest) (elementsFrom room v rest)
      fun fuel => elements fuel room := by
  have hskip := length_skipBlanks_le rest
  unfold elementsFrom
  split
  · next after hlast =>
    rw [hlast, List.length_cons] at hskip
    exact .ends (.ok hskip) fun _ => rfl
  · next after hnext =>
    have hcomma : Comma rest (skipBlanks after) := ⟨after, hnext, rfl⟩
    refine .next (v :: ·) hcomma hcomma.shorter fun fuel => ?_
    cases elements fuel room (skipBlanks after) <;> rfl
  · exact .ends ends_malformed fun _ => rfl

/-- Reads the colon behind the name of a member, and the blanks behind that. -/
def colon (n : String × List Char) : Except Stop (String × List Char) :=
  match skipBlanks n.2 with
  | ':' :: after => .ok (n.1, skipBlanks after)
  | rest => .error (.malformed .colon rest.length)

/-- Reads the name of a member and its colon. -/
def nameColon (cs : List Char) : Except Stop (String × List Char) :=
  match cs with
  | '"' :: rest => string rest >>= colon
  | _ => .error (.malformed .name cs.length)

theorem colon_cases (n : String × List Char) :
    (∃ after, skipBlanks n.2 = ':' :: after ∧ colon n = .ok (n.1, skipBlanks after)) ∨
      (∀ after, skipBlanks n.2 ≠ ':' :: after) ∧
        colon n = .error (.malformed .colon (skipBlanks n.2).length) := by
  unfold colon
  split
  · next after hcolon => exact .inl ⟨after, hcolon, rfl⟩
  · next hother => exact .inr ⟨hother, rfl⟩

theorem nameColon_ends (cs : List Char) : Ends Stop.Oversize cs.length (nameColon cs) := by
  unfold nameColon
  split
  · next rest =>
    refine ((string_ends rest).mono (Nat.le_succ _)).bind fun {name behind} _ => ?_
    have hskip := length_skipBlanks_le behind
    rcases colon_cases (name, behind) with ⟨after, hcolon, heq⟩ | ⟨-, heq⟩
    · rw [hcolon, List.length_cons] at hskip
      rw [heq]
      exact .ok (Nat.lt_of_le_of_lt (length_skipBlanks_le after) hskip)
    · rw [heq]
      exact ends_malformed
  · exact ends_malformed

/-- The members of an object from one that has been read on. -/
def membersFrom (room : Nat) (name : String) (v : Value) (rest : List Char) (fuel : Nat) :
    Except Stop (Entries Value × List Char) :=
  match skipBlanks rest with
  | '\x7d' :: after => pure ([(.str name, v)], after)
  | ',' :: after => do
    let (es, rest) ← members fuel room (skipBlanks after)
    pure ((.str name, v) :: es, rest)
  | rest => throw (.malformed .comma rest.length)

theorem nameColon_nameless (h : ∀ rest, cs ≠ '"' :: rest) :
    nameColon cs = .error (.malformed .name cs.length) := by
  unfold nameColon
  split
  · exact absurd rfl (h _)
  · rfl

theorem members_nameless (h : ∀ rest, cs ≠ '"' :: rest) (fuel room : Nat) :
    members (fuel + 1) room cs = .error (.malformed .name cs.length) := by
  unfold members
  split
  · exact absurd rfl (h _)
  · rfl

theorem members_eq (fuel room : Nat) (cs : List Char) : members (fuel + 1) room cs =
    nameColon cs >>= fun n => value fuel room n.2 >>= fun r => membersFrom room n.1 r.1 r.2 fuel := by
  by_cases hname : ∃ rest, cs = '"' :: rest
  · obtain ⟨rest, rfl⟩ := hname
    rw [members, nameColon]
    cases string rest with
    | error s => rfl
    | ok n =>
      simp only [bind, Except.bind]
      rcases colon_cases n with ⟨after, hcolon, heq⟩ | ⟨hother, heq⟩
      · simp only [hcolon, heq]
        rfl
      · rw [heq]
        split
        · next hcolon => exact absurd hcolon (hother _)
        · rfl
  · have hname := not_exists.mp hname
    rw [members_nameless hname, nameColon_nameless hname]
    rfl

theorem members_step (room : Nat) (name : String) (v : Value) (rest : List Char) :
    RowStep Stop.Oversize rest (Comma rest) (membersFrom room name v rest)
      fun fuel => members fuel room := by
  have hskip := length_skipBlanks_le rest
  unfold membersFrom
  split
  · next after hlast =>
    rw [hlast, List.length_cons] at hskip
    exact .ends (.ok hskip) fun _ => rfl
  · next after hnext =>
    have hcomma : Comma rest (skipBlanks after) := ⟨after, hnext, rfl⟩
    refine .next ((.str name, v) :: ·) hcomma hcomma.shorter fun fuel => ?_
    cases members fuel room (skipBlanks after) <;> rfl
  · exact .ends ends_malformed fun _ => rfl

/-! ## Whole readings -/

theorem readers_shorten (fuel : Nat) : (∀ room, Shortens (value fuel room)) ∧
    (∀ room, Shortens (elements fuel room)) ∧ ∀ room, Shortens (members fuel room) := by
  induction fuel with
  | zero =>
    refine ⟨fun room cs v rest h => ?_, fun room cs vs rest h => ?_, fun room cs es rest h => ?_⟩
    all_goals cases h
  | succ fuel ih =>
    obtain ⟨hvalue, helements, hmembers⟩ := ih
    refine ⟨fun room cs v rest h => ?_, fun room cs vs rest h => ?_, fun room cs es rest h => ?_⟩
    · cases value_step room cs with
      | ends hends heq =>
        rw [heq] at h
        exact hends.shorter h
      | breaks _ heq =>
        rw [heq] at h
        cases h
      | @array body hcs _ _ heq =>
        rw [heq] at h
        obtain ⟨r, hr, hrest⟩ := Attempt.map_eq_ok_iff.mp h
        cases hrest
        rw [hcs]
        exact Nat.lt_succ_of_lt (Nat.lt_of_lt_of_le (helements _ hr) (length_skipBlanks_le body))
      | @object body hcs _ _ heq =>
        rw [heq] at h
        obtain ⟨r, hr, hrest⟩ := Attempt.map_eq_ok_iff.mp h
        cases hrest
        rw [hcs]
        exact Nat.lt_succ_of_lt (Nat.lt_of_lt_of_le (hmembers _ hr) (length_skipBlanks_le body))
    · rw [elements_eq] at h
      obtain ⟨⟨v, behind⟩, hfirst, h⟩ := Attempt.bind_eq_ok_iff.mp h
      refine Nat.lt_trans ?_ (hvalue room hfirst)
      exact (elements_step room v behind).shorter (helements room) h
    · rw [members_eq] at h
      obtain ⟨⟨name, start⟩, hname, h⟩ := Attempt.bind_eq_ok_iff.mp h
      obtain ⟨⟨v, behind⟩, hfirst, h⟩ := Attempt.bind_eq_ok_iff.mp h
      refine Nat.lt_trans ?_ (Nat.lt_trans (hvalue room hfirst) ((nameColon_ends cs).shorter hname))
      exact (members_step room name v behind).shorter (hmembers room) h

/-- With steps enough to read what is given, it makes no difference how many there are. -/
theorem readers_stable (n : Nat) : ∀ cs : List Char, cs.length < n →
    (∀ room fuel fuel', 2 * cs.length < fuel → 2 * cs.length < fuel' →
      value fuel room cs = value fuel' room cs) ∧
    (∀ room fuel fuel', 2 * cs.length + 1 < fuel → 2 * cs.length + 1 < fuel' →
      elements fuel room cs = elements fuel' room cs) ∧
    ∀ room fuel fuel', 2 * cs.length + 1 < fuel → 2 * cs.length + 1 < fuel' →
      members fuel room cs = members fuel' room cs := by
  -- on the length: a row and its first value share the characters, so a row takes one step more
  induction n with
  | zero => exact fun _ h => absurd h (Nat.not_lt_zero _)
  | succ n ih =>
    intro cs hcs
    have hvalue : ∀ room fuel fuel', 2 * cs.length < fuel → 2 * cs.length < fuel' →
        value fuel room cs = value fuel' room cs := by
      intro room fuel fuel' hfuel hfuel'
      obtain ⟨fuel, rfl⟩ := Nat.exists_eq_succ_of_ne_zero (Nat.ne_zero_of_lt hfuel)
      obtain ⟨fuel', rfl⟩ := Nat.exists_eq_succ_of_ne_zero (Nat.ne_zero_of_lt hfuel')
      cases value_step room cs with
      | ends _ heq => rw [heq, heq]
      | breaks _ heq => rw [heq, heq]
      | @array rest hrest _ _ heq =>
        have hskip := length_skipBlanks_le rest
        rw [hrest, List.length_cons] at hcs hfuel hfuel'
        rw [heq, heq, (ih (skipBlanks rest) (by omega)).2.1 _ fuel fuel' (by omega) (by omega)]
      | @object rest hrest _ _ heq =>
        have hskip := length_skipBlanks_le rest
        rw [hrest, List.length_cons] at hcs hfuel hfuel'
        rw [heq, heq, (ih (skipBlanks rest) (by omega)).2.2 _ fuel fuel' (by omega) (by omega)]
    refine ⟨hvalue, fun room fuel fuel' hfuel hfuel' => ?_, fun room fuel fuel' hfuel hfuel' => ?_⟩
    · obtain ⟨fuel, rfl⟩ := Nat.exists_eq_succ_of_ne_zero (Nat.ne_zero_of_lt hfuel)
      obtain ⟨fuel', rfl⟩ := Nat.exists_eq_succ_of_ne_zero (Nat.ne_zero_of_lt hfuel')
      rw [elements_eq, elements_eq, hvalue room fuel fuel' (by omega) (by omega)]
      cases hfirst : value fuel' room cs with
      | error s => rfl
      | ok r =>
        have hrest := (readers_shorten fuel').1 room hfirst
        refine (elements_step room r.1 r.2).stable fun after hafter => ?_
        exact (ih after (by omega)).2.1 room fuel fuel' (by omega) (by omega)
    · obtain ⟨fuel, rfl⟩ := Nat.exists_eq_succ_of_ne_zero (Nat.ne_zero_of_lt hfuel)
      obtain ⟨fuel', rfl⟩ := Nat.exists_eq_succ_of_ne_zero (Nat.ne_zero_of_lt hfuel')
      rw [members_eq, members_eq]
      cases hname : nameColon cs with
      | error s => rfl
      | ok name =>
        have hstart := (nameColon_ends cs).shorter hname
        simp only [bind, Except.bind]
        rw [(ih name.2 (by omega)).1 room fuel fuel' (by omega) (by omega)]
        cases hfirst : value fuel' room name.2 with
        | error s => rfl
        | ok r =>
          have hrest := (readers_shorten fuel').1 room hfirst
          refine (members_step room name.1 r.1 r.2).stable fun after hafter => ?_
          exact (ih after (by omega)).2.2 room fuel fuel' (by omega) (by omega)

/-- Reads a value with steps enough. -/
def valueAt (room : Nat) (cs : List Char) : Except Stop (Value × List Char) :=
  value (2 * cs.length + 1) room cs

/-- Reads the elements of an array with steps enough. -/
def elementsAt (room : Nat) (cs : List Char) : Except Stop (List Value × List Char) :=
  elements (2 * cs.length + 2) room cs

/-- Reads the members of an object with steps enough. -/
def membersAt (room : Nat) (cs : List Char) : Except Stop (Entries Value × List Char) :=
  members (2 * cs.length + 2) room cs

section Enough

variable {fuel room : Nat}

theorem value_eq_valueAt (h : 2 * cs.length < fuel) : value fuel room cs = valueAt room cs :=
  (readers_stable _ cs (Nat.lt_succ_self _)).1 room _ _ h (by omega)

theorem elements_eq_elementsAt (h : 2 * cs.length + 1 < fuel) :
    elements fuel room cs = elementsAt room cs :=
  (readers_stable _ cs (Nat.lt_succ_self _)).2.1 room _ _ h (by omega)

theorem members_eq_membersAt (h : 2 * cs.length + 1 < fuel) : members fuel room cs = membersAt room cs :=
  (readers_stable _ cs (Nat.lt_succ_self _)).2.2 room _ _ h (by omega)

end Enough

/-- The readers of a document. -/
inductive Part where
  | value
  | elements
  | members

/-- The places of a document where a reader is at work, with the room that is left there of the total
room. A value is asked for at the start of the document, at each element of an array, and behind the
name of each member of an object. -/
inductive Asked (total : Nat) (text : List Char) : Part → Nat → List Char → Prop where
  | start : text.head? ≠ some '\ufeff' → Asked total text .value total (skipBlanks text)
  | array {room : Nat} {rest : List Char} : Asked total text .value room ('[' :: rest) → room ≠ 0 →
      (skipBlanks rest).head? ≠ some ']' → Asked total text .elements (room - 1) (skipBlanks rest)
  | element {room : Nat} {cs : List Char} : Asked total text .elements room cs →
      Asked total text .value room cs
  | nextElement {room : Nat} {cs rest next : List Char} {v : Value} :
      Asked total text .elements room cs →
      valueAt room cs = .ok (v, rest) → Comma rest next → Asked total text .elements room next
  | object {room : Nat} {rest : List Char} : Asked total text .value room ('\x7b' :: rest) → room ≠ 0 →
      (skipBlanks rest).head? ≠ some '\x7d' → Asked total text .members (room - 1) (skipBlanks rest)
  | member {room : Nat} {cs rest : List Char} {name : String} : Asked total text .members room cs →
      nameColon cs = .ok (name, rest) → Asked total text .value room rest
  | nextMember {room : Nat} {cs rest behind next : List Char} {name : String} {v : Value} :
      Asked total text .members room cs → nameColon cs = .ok (name, rest) →
      valueAt room rest = .ok (v, behind) → Comma behind next → Asked total text .members room next

/-- Whether a reader stops, read on with steps enough. -/
def Fails : Part → Nat → List Char → Stop → Prop
  | .value, room, cs, s => valueAt room cs = .error s
  | .elements, room, cs, s => elementsAt room cs = .error s
  | .members, room, cs, s => membersAt room cs = .error s

section Fails

variable {total room : Nat} {text : List Char} {s : Stop}

theorem elementsAt_eq (room : Nat) (cs : List Char) :
    elementsAt room cs = valueAt room cs >>= fun r => elementsFrom room r.1 r.2 (2 * cs.length + 1) :=
  elements_eq _ room cs

theorem membersAt_eq (room : Nat) (cs : List Char) : membersAt room cs =
    nameColon cs >>= fun n => valueAt room n.2 >>= fun r =>
      membersFrom room n.1 r.1 r.2 (2 * cs.length + 1) := by
  rw [membersAt, members_eq]
  cases hname : nameColon cs with
  | error s => rfl
  | ok n =>
    have hstart := (nameColon_ends cs).shorter hname
    simp only [bind, Except.bind]
    rw [value_eq_valueAt (by omega)]

theorem elementsFrom_next {v : Value} (hcomma : Comma rest cs) {fuel : Nat}
    (hfuel : 2 * rest.length < fuel) :
    elementsFrom room v rest fuel = (elementsAt room cs).map fun r => (v :: r.1, r.2) := by
  have hshorter := hcomma.shorter
  obtain ⟨after, hcomma, rfl⟩ := hcomma
  have hlater : elements fuel room (skipBlanks after) = elementsAt room (skipBlanks after) :=
    elements_eq_elementsAt (by omega)
  rw [← hlater]
  simp only [elementsFrom, hcomma]
  cases elements fuel room (skipBlanks after) <;> rfl

theorem membersFrom_next {name : String} {v : Value} (hcomma : Comma rest cs) {fuel : Nat}
    (hfuel : 2 * rest.length < fuel) : membersFrom room name v rest fuel =
      (membersAt room cs).map fun r => ((.str name, v) :: r.1, r.2) := by
  have hshorter := hcomma.shorter
  obtain ⟨after, hcomma, rfl⟩ := hcomma
  have hlater : members fuel room (skipBlanks after) = membersAt room (skipBlanks after) :=
    members_eq_membersAt (by omega)
  rw [← hlater]
  simp only [membersFrom, hcomma]
  cases members fuel room (skipBlanks after) <;> rfl

theorem valueAt_array (hroom : room ≠ 0) (hfull : (skipBlanks rest).head? ≠ some ']') :
    valueAt room ('[' :: rest) =
      (elementsAt (room - 1) (skipBlanks rest)).map fun r => (.list r.1, r.2) := by
  have hskip := length_skipBlanks_le rest
  rw [valueAt, List.length_cons, value_array hroom hfull, elements_eq_elementsAt (by omega)]

theorem valueAt_object (hroom : room ≠ 0) (hfull : (skipBlanks rest).head? ≠ some '\x7d') :
    valueAt room ('\x7b' :: rest) = (membersAt (room - 1) (skipBlanks rest)).map
      fun r => (.dict false (Entries.ofPairs r.1), r.2) := by
  have hskip := length_skipBlanks_le rest
  rw [valueAt, List.length_cons, value_object hroom hfull, members_eq_membersAt (by omega)]

theorem document_eq (hmark : text.head? ≠ some '\ufeff') : document total text =
    valueAt total (skipBlanks text) >>= fun r => match skipBlanks r.2 with
      | [] => pure r.1
      | rest => throw (.malformed .extraData rest.length) := by
  have hskip := length_skipBlanks_le text
  have hvalue : value (2 * text.length + 2) total (skipBlanks text) = valueAt total (skipBlanks text) :=
    value_eq_valueAt (by omega)
  unfold document
  split
  · next heq => exact absurd rfl hmark
  · exact congrArg (fun read => read >>= _) hvalue

/-- Where a reader is at work, its errors are those of the document. -/
theorem document_of_asked {part : Part} {cs : List Char} (h : Asked total text part room cs)
    (herror : Fails part room cs s) : document total text = .error s := by
  induction h with
  | start hmark =>
    rw [document_eq hmark, show valueAt total (skipBlanks text) = .error s from herror]
    rfl
  | array _ hroom hfull ih =>
    refine ih ?_
    show valueAt _ _ = _
    rw [valueAt_array hroom hfull, show elementsAt _ _ = .error s from herror]
    rfl
  | element _ ih =>
    refine ih ?_
    show elementsAt _ _ = _
    rw [elementsAt_eq, show valueAt _ _ = .error s from herror]
    rfl
  | nextElement _ hvalue hcomma ih =>
    refine ih ?_
    show elementsAt _ _ = _
    have hrest := (readers_shorten _).1 _ hvalue
    rw [elementsAt_eq, hvalue]
    show elementsFrom _ _ _ _ = _
    rw [elementsFrom_next hcomma (by omega), show elementsAt _ _ = .error s from herror]
    rfl
  | object _ hroom hfull ih =>
    refine ih ?_
    show valueAt _ _ = _
    rw [valueAt_object hroom hfull, show membersAt _ _ = .error s from herror]
    rfl
  | member _ hname ih =>
    refine ih ?_
    show membersAt _ _ = _
    rw [membersAt_eq, hname]
    show (valueAt _ _ >>= _) = _
    rw [show valueAt _ _ = .error s from herror]
    rfl
  | nextMember _ hname hvalue hcomma ih =>
    refine ih ?_
    show membersAt _ _ = _
    have hstart := (nameColon_ends _).shorter hname
    have hrest := (readers_shorten _).1 _ hvalue
    rw [membersAt_eq, hname]
    show (valueAt _ _ >>= _) = _
    rw [hvalue]
    show membersFrom _ _ _ _ _ = _
    rw [membersFrom_next hcomma (by omega), show membersAt _ _ = .error s from herror]
    rfl

/-- How much a reader has before it. A row has more than the value that it begins with. -/
def Part.size : Part → List Char → Nat
  | .value, cs => 2 * cs.length
  | .elements, cs | .members, cs => 2 * cs.length + 1

/-- Somewhere a value is asked for and the reader breaks off, or a smaller part stops for the same
reason. -/
def Handed (total : Nat) (text : List Char) (s : Stop) (n : Nat) : Prop :=
  (∃ room cs, Asked total text .value room cs ∧ Breaks s room cs) ∨
    ∃ part room cs, part.size cs < n ∧ Asked total text part room cs ∧ Fails part room cs s

section Handed

variable (hs : s.Oversize) {cs : List Char}

include hs

theorem value_handed (hasked : Asked total text .value room cs) (hfails : valueAt room cs = .error s) :
    Handed total text s (Part.value.size cs) := by
  cases value_step room cs with
  | ends hends heq => exact absurd hs (hends.mild ((heq _).symm.trans hfails))
  | breaks hbreaks heq =>
    cases (heq _).symm.trans hfails
    exact .inl ⟨room, cs, hasked, hbreaks⟩
  | @array rest hrest hroom hfull _ =>
    subst hrest
    rw [valueAt_array hroom hfull] at hfails
    have hskip := length_skipBlanks_le rest
    refine .inr ⟨.elements, _, _, ?_, .array hasked hroom hfull, Attempt.map_eq_error_iff.mp hfails⟩
    simp only [Part.size, List.length_cons]
    omega
  | @object rest hrest hroom hfull _ =>
    subst hrest
    rw [valueAt_object hroom hfull] at hfails
    have hskip := length_skipBlanks_le rest
    refine .inr ⟨.members, _, _, ?_, .object hasked hroom hfull, Attempt.map_eq_error_iff.mp hfails⟩
    simp only [Part.size, List.length_cons]
    omega

theorem elements_handed (hasked : Asked total text .elements room cs)
    (hfails : elementsAt room cs = .error s) : Handed total text s (Part.elements.size cs) := by
  rw [elementsAt_eq] at hfails
  rcases Attempt.bind_eq_error_iff.mp hfails with hfirst | ⟨⟨v, rest⟩, hfirst, hrow⟩
  · exact .inr ⟨.value, room, cs, Nat.lt_succ_self _, .element hasked, hfirst⟩
  · have hrest : rest.length < cs.length := (readers_shorten _).1 _ hfirst
    cases elements_step room v rest with
    | ends hends heq => exact absurd hs (hends.mild ((heq _).symm.trans hrow))
    | next _ hcomma hshorter _ =>
      rw [elementsFrom_next hcomma (by omega)] at hrow
      refine .inr ⟨.elements, _, _, ?_, .nextElement hasked hfirst hcomma,
        Attempt.map_eq_error_iff.mp hrow⟩
      simp only [Part.size]
      omega

theorem members_handed (hasked : Asked total text .members room cs)
    (hfails : membersAt room cs = .error s) : Handed total text s (Part.members.size cs) := by
  rw [membersAt_eq] at hfails
  rcases Attempt.bind_eq_error_iff.mp hfails with hname | ⟨⟨name, start⟩, hname, hfails⟩
  · exact absurd hs ((nameColon_ends cs).mild hname)
  · have hstart := (nameColon_ends cs).shorter hname
    rcases Attempt.bind_eq_error_iff.mp hfails with hfirst | ⟨⟨v, rest⟩, hfirst, hrow⟩
    · refine .inr ⟨.value, room, start, ?_, .member hasked hname, hfirst⟩
      simp only [Part.size]
      omega
    · have hrest : rest.length < start.length := (readers_shorten _).1 _ hfirst
      dsimp only at hrow
      cases members_step room name v rest with
      | ends hends heq => exact absurd hs (hends.mild ((heq _).symm.trans hrow))
      | next _ hcomma hshorter _ =>
        rw [membersFrom_next hcomma (by omega)] at hrow
        refine .inr ⟨.members, _, _, ?_, .nextMember hasked hname hfirst hcomma,
          Attempt.map_eq_error_iff.mp hrow⟩
        simp only [Part.size]
        omega

/-- A reader that stops hands this on, from a part to a smaller one. -/
theorem fails_handed {part : Part} (hasked : Asked total text part room cs)
    (hfails : Fails part room cs s) : Handed total text s (part.size cs) := by
  cases part with
  | value => exact value_handed hs hasked hfails
  | elements => exact elements_handed hs hasked hfails
  | members => exact members_handed hs hasked hfails

end Handed

/-- An error about a size comes from a place where a value is asked for and the reader breaks off. -/
theorem asked_of_fails (hs : s.Oversize) (n : Nat) : ∀ {part : Part} {room : Nat} {cs : List Char},
    part.size cs < n → Asked total text part room cs → Fails part room cs s →
    ∃ room' cs', Asked total text .value room' cs' ∧ Breaks s room' cs' := by
  induction n with
  | zero => exact fun h => absurd h (Nat.not_lt_zero _)
  | succ n ih =>
    intro part room cs hsize hasked hfails
    rcases fails_handed hs hasked hfails with hbreaks | ⟨part', room', cs', hless, hasked', hfails'⟩
    · exact hbreaks
    · exact ih (by omega) hasked' hfails'

end Fails

/-- A document is refused for its size exactly if the reader breaks off at a place where it asks for a
value. -/
theorem document_eq_oversize_iff {total : Nat} {text : List Char} {s : Stop} (hs : s.Oversize) :
    document total text = .error s ↔
      ∃ room cs, Asked total text .value room cs ∧ Breaks s room cs := by
  constructor
  · intro h
    have hmark : text.head? ≠ some '\ufeff' := by
      intro hmark
      obtain ⟨rest, rfl⟩ := List.head?_eq_some_iff.mp hmark
      cases h
      cases hs
    rw [document_eq hmark] at h
    rcases Attempt.bind_eq_error_iff.mp h with h | ⟨r, -, h⟩
    · exact asked_of_fails hs _ (Nat.lt_succ_self _) (.start hmark) h
    · split at h
      · cases h
      -- what is left behind the document is malformed
      · cases h
        cases hs
  · rintro ⟨room, cs, hasked, hbreaks⟩
    exact document_of_asked hasked (value_of_breaks hbreaks _)

end ArgumentSchema.Json
