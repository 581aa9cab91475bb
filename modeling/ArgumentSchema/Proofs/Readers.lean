import ArgumentSchema.Proofs.Defaults

/-!
# Readers of documents

Both kinds of documents are read from the left to the right, and in both an integer is a row of digits
that nothing behind it makes a decimal of.

> `Shortens`: a reader that takes at least one character of what it is given.
> `Ends`, `Passes`: what a reader comes to that stops for no size.
> `RowStep`: what the reader of a row comes to behind one of its values.
> `Integral`: what may stand behind a row of digits that is an integer.
-/

namespace ArgumentSchema

/-- What a reader leaves is shorter than what it was given. -/
def Shortens {ε α : Type} (read : List Char → Except ε (α × List Char)) : Prop :=
  ∀ {cs a rest}, read cs = .ok (a, rest) → rest.length < cs.length

/-- What a reader comes to without going on: something is left that is shorter than the given length,
or it stops, and not because of a size. -/
structure Ends {ε α : Type} (oversize : ε → Prop) (length : Nat)
    (result : Except ε (α × List Char)) : Prop where
  shorter : ∀ {a rest}, result = .ok (a, rest) → rest.length < length
  mild : ∀ {e}, result = .error e → ¬ oversize e

namespace Ends

variable {ε α β : Type} {oversize : ε → Prop} {length length' : Nat} {rest : List Char}
  {result : Except ε (α × List Char)}

theorem ok {a : α} (h : rest.length < length) : Ends oversize length (.ok (a, rest)) where
  shorter heq := (Prod.mk.inj (Except.ok.inj heq)).2 ▸ h
  mild heq := nomatch heq

theorem error {e : ε} (h : ¬ oversize e) :
    Ends oversize length (.error e : Except ε (α × List Char)) where
  shorter heq := nomatch heq
  mild heq := Except.error.inj heq ▸ h

theorem mono (h : Ends oversize length result) (hle : length ≤ length') :
    Ends oversize length' result where
  shorter heq := Nat.lt_of_lt_of_le (h.shorter heq) hle
  mild := h.mild

/-- What is done with a result does not undo its reading. -/
theorem adjust {f : α × List Char → β × List Char} (h : Ends oversize length result)
    (hf : ∀ r, (f r).2.length ≤ r.2.length) : Ends oversize length (result.map f) where
  shorter heq := by
    obtain ⟨r, hresult, hr⟩ := Attempt.map_eq_ok_iff.mp heq
    have hle := hf r
    rw [hr] at hle
    exact Nat.lt_of_le_of_lt hle (h.shorter hresult)
  mild heq := h.mild (Attempt.map_eq_error_iff.mp heq)

theorem map (f : α → β) (h : Ends oversize length result) :
    Ends oversize length (result.map fun r => (f r.1, r.2)) :=
  h.adjust fun _ => Nat.le_refl _

/-- A step that reads nothing may come first. -/
theorem after {γ : Type} {step : Except ε γ} {next : γ → Except ε (β × List Char)}
    (hstep : ∀ {e}, step = .error e → ¬ oversize e)
    (hnext : ∀ c, Ends oversize length (next c)) : Ends oversize length (step >>= next) where
  shorter heq := by
    obtain ⟨c, -, hr⟩ := Attempt.bind_eq_ok_iff.mp heq
    exact (hnext c).shorter hr
  mild heq := by
    rcases Attempt.bind_eq_error_iff.mp heq with herror | ⟨c, -, herror⟩
    · exact hstep herror
    · exact (hnext c).mild herror

/-- A reader that takes something may be followed by one that takes nothing. -/
theorem followed {next : α × List Char → Except ε (β × List Char)} (h : Ends oversize length result)
    (hnext : ∀ {a rest}, result = .ok (a, rest) →
      Ends oversize (rest.length + 1) (next (a, rest))) :
    Ends oversize length (result >>= next) where
  shorter heq := by
    obtain ⟨⟨a, rest⟩, hresult, hr⟩ := Attempt.bind_eq_ok_iff.mp heq
    exact Nat.lt_of_lt_of_le ((hnext hresult).shorter hr) (h.shorter hresult)
  mild heq := by
    rcases Attempt.bind_eq_error_iff.mp heq with herror | ⟨⟨a, rest⟩, hresult, herror⟩
    · exact h.mild herror
    · exact (hnext hresult).mild herror

theorem bind {next : α × List Char → Except ε (β × List Char)} (h : Ends oversize length result)
    (hnext : ∀ {a rest}, result = .ok (a, rest) → Ends oversize rest.length (next (a, rest))) :
    Ends oversize length (result >>= next) :=
  h.followed fun heq => (hnext heq).mono (Nat.le_succ _)

end Ends

/-- What a reader comes to that only skips something: no more is left than it was given, or it stops,
and not because of a size. -/
structure Passes {ε : Type} (oversize : ε → Prop) (length : Nat) (result : Except ε (List Char)) :
    Prop where
  within : ∀ {rest}, result = .ok rest → rest.length ≤ length
  mild : ∀ {e}, result = .error e → ¬ oversize e

namespace Passes

variable {ε α : Type} {oversize : ε → Prop} {length length' : Nat} {rest : List Char}
  {result : Except ε (List Char)}

theorem ok (h : rest.length ≤ length) : Passes oversize length (.ok rest) where
  within heq := Except.ok.inj heq ▸ h
  mild heq := nomatch heq

theorem error {e : ε} (h : ¬ oversize e) :
    Passes oversize length (.error e : Except ε (List Char)) where
  within heq := nomatch heq
  mild heq := Except.error.inj heq ▸ h

theorem mono (h : Passes oversize length result) (hle : length ≤ length') :
    Passes oversize length' result where
  within heq := Nat.le_trans (h.within heq) hle
  mild := h.mild

theorem bind {next : List Char → Except ε (List Char)} (h : Passes oversize length result)
    (hnext : ∀ {rest}, result = .ok rest → Passes oversize rest.length (next rest)) :
    Passes oversize length (result >>= next) where
  within heq := by
    obtain ⟨rest, hresult, hr⟩ := Attempt.bind_eq_ok_iff.mp heq
    exact Nat.le_trans ((hnext hresult).within hr) (h.within hresult)
  mild heq := by
    rcases Attempt.bind_eq_error_iff.mp heq with herror | ⟨rest, hresult, herror⟩
    · exact h.mild herror
    · exact (hnext hresult).mild herror

/-- Something skipped behind a result. -/
theorem ends (a : α) (h : Passes oversize length result) (hlt : length < length') :
    Ends oversize length' (result.map fun rest => (a, rest)) where
  shorter heq := by
    obtain ⟨rest, hresult, hr⟩ := Attempt.map_eq_ok_iff.mp heq
    cases hr
    exact Nat.lt_of_le_of_lt (h.within hresult) hlt
  mild heq := h.mild (Attempt.map_eq_error_iff.mp heq)

end Passes

/-! ## Rows -/

/-- What the reader of a row does behind one of its values, whatever steps it is given: it ends, or it
reads more of them from a place behind this one. -/
inductive RowStep {ε α : Type} (oversize : ε → Prop) (rest : List Char) (Behind : List Char → Prop)
    (now : Nat → Except ε (α × List Char)) (later : Nat → List Char → Except ε (α × List Char)) :
    Prop where
  | ends {result : Except ε (α × List Char)} : Ends oversize rest.length result →
      (∀ fuel, now fuel = result) → RowStep oversize rest Behind now later
  | next {cs : List Char} (f : α → α) : Behind cs → cs.length < rest.length →
      (∀ fuel, now fuel = (later fuel cs).map fun r => (f r.1, r.2)) →
      RowStep oversize rest Behind now later

namespace RowStep

variable {ε α : Type} {oversize : ε → Prop} {rest left : List Char} {Behind : List Char → Prop}
  {now : Nat → Except ε (α × List Char)} {later : Nat → List Char → Except ε (α × List Char)}
  {fuel fuel' : Nat}

theorem shorter {a : α} (hstep : RowStep oversize rest Behind now later)
    (hlater : Shortens (later fuel)) (h : now fuel = .ok (a, left)) : left.length < rest.length := by
  cases hstep with
  | ends hends heq =>
    rw [heq] at h
    exact hends.shorter h
  | next f _ hlength heq =>
    rw [heq] at h
    obtain ⟨r, hr, hrest⟩ := Attempt.map_eq_ok_iff.mp h
    cases hrest
    exact Nat.lt_trans (hlater hr) hlength

theorem stable (hstep : RowStep oversize rest Behind now later)
    (hlater : ∀ cs, cs.length < rest.length → later fuel cs = later fuel' cs) :
    now fuel = now fuel' := by
  cases hstep with
  | ends _ heq => rw [heq, heq]
  | next f _ hlength heq => rw [heq, heq, hlater _ hlength]

end RowStep

/-! ## Digits -/

section

variable {cs : List Char} {p : Char → Bool}

theorem length_dropWhile_le (p : Char → Bool) (cs : List Char) :
    (cs.dropWhile p).length ≤ cs.length :=
  (List.dropWhile_suffix p).length_le

theorem length_dropWhile_lt (h : cs.takeWhile p ≠ []) : (cs.dropWhile p).length < cs.length := by
  have hlength := congrArg List.length (List.takeWhile_append_dropWhile (p := p) (l := cs))
  have hpos := List.length_pos_of_ne_nil h
  rw [List.length_append] at hlength
  omega

theorem takeWhile_eq_nil_iff : cs.takeWhile p = [] ↔ ∀ c ∈ cs.head?, p c = false := by
  cases cs with
  | nil => simp
  | cons c cs => by_cases hc : p c = true <;> simp [hc]

theorem stop_dropWhile (p : Char → Bool) (cs : List Char) :
    ∀ c ∈ (cs.dropWhile p).head?, p c = false := by
  intro c hc
  have hstop := List.head?_dropWhile_not p cs
  rw [Option.mem_def.mp hc] at hstop
  exact hstop

theorem length_takeSign_le (cs : List Char) : (Literal.takeSign cs).2.length ≤ cs.length := by
  unfold Literal.takeSign
  split
  · exact Nat.le_succ _
  · exact Nat.le_succ _
  · exact Nat.le_refl _

theorem takeSign_append_right (hne : cs ≠ []) (rest : List Char) :
    (Literal.takeSign (cs ++ rest)).2 = (Literal.takeSign cs).2 ++ rest := by
  obtain ⟨c, cs, rfl⟩ := List.exists_cons_of_ne_nil hne
  by_cases hminus : c = '-'
  · rw [hminus]
    rfl
  · by_cases hplus : c = '+'
    · rw [hplus]
      rfl
    · have hplain : ∀ tail, Literal.takeSign (c :: tail) = (false, c :: tail) := by
        intro tail
        unfold Literal.takeSign
        split
        · next heq => exact absurd (List.cons.inj heq).1 hminus
        · next heq => exact absurd (List.cons.inj heq).1 hplus
        · rfl
      rw [List.cons_append, hplain, hplain]
      rfl

/-- What starts with a digit, behind a sign or none, starts with none of a list of words that have a
letter there. -/
theorem not_isPrefixOf_of_digit {d : Char} {word : List Char} (hd : Text.isAsciiDigit d = true)
    (hcs : (Literal.takeSign cs).2.head? = some d)
    (hword : ∃ c ∈ (Literal.takeSign word).2.head?, Text.isAsciiDigit c = false) :
    word.isPrefixOf cs = false := by
  rw [← Bool.not_eq_true, List.isPrefixOf_iff_prefix]
  rintro ⟨rest, rfl⟩
  obtain ⟨c, hc, hletter⟩ := hword
  have hne : word ≠ [] := by
    rintro rfl
    cases hc
  rw [takeSign_append_right hne, List.head?_append, Option.mem_def.mp hc] at hcs
  rw [← Option.some.inj hcs, hletter] at hd
  cases hd

theorem ne_sign_of_isAsciiDigit {c : Char} (h : Text.isAsciiDigit c = true) : c ≠ '-' ∧ c ≠ '+' := by
  constructor
  · rintro rfl
    cases h
  · rintro rfl
    cases h

/-- A digit behind a sign or none. -/
theorem takeSign_digit_iff {d : Char} (hd : Text.isAsciiDigit d = true) :
    (Literal.takeSign cs).2.head? = some d ↔
      ∃ sign ∈ [[], ['-'], ['+']], ∃ more, cs = sign ++ d :: more := by
  constructor
  · intro h
    obtain ⟨sign, hsign, hcs⟩ := Literal.takeSign_eq cs
    obtain ⟨more, hmore⟩ := List.head?_eq_some_iff.mp h
    exact ⟨sign, hsign, more, hmore ▸ hcs⟩
  · rintro ⟨sign, hsign, more, rfl⟩
    rw [Literal.takeSign_append hsign]
    · rfl
    · rintro _ ⟨⟩
      exact ne_sign_of_isAsciiDigit hd

/-- Behind a row of digits there is no point with a digit behind it, and no exponent. -/
structure Integral (rest : List Char) : Prop where
  point : ∀ d more, rest = '.' :: d :: more → Text.isAsciiDigit d = false
  exponent : ∀ e sign d more, rest = e :: (sign ++ d :: more) → e = 'e' ∨ e = 'E' →
    sign ∈ [[], ['-'], ['+']] → Text.isAsciiDigit d = false

/-- Whether digits are an integer is told by what is in front behind a point, and behind an exponent
mark and its sign. -/
theorem integral_iff : Integral cs ↔
    (∀ behind, cs = '.' :: behind → ∀ d ∈ behind.head?, Text.isAsciiDigit d = false) ∧
    ∀ e behind, cs = e :: behind → e = 'e' ∨ e = 'E' →
      ∀ d ∈ (Literal.takeSign behind).2.head?, Text.isAsciiDigit d = false := by
  constructor
  · rintro ⟨hpoint, hexponent⟩
    refine ⟨fun behind heq d hd => ?_, fun e behind heq he d hd => ?_⟩
    · obtain ⟨more, rfl⟩ := List.head?_eq_some_iff.mp hd
      exact hpoint d more heq
    · rw [← Bool.not_eq_true]
      intro hdigit
      obtain ⟨sign, hsign, more, rfl⟩ := (takeSign_digit_iff hdigit).mp hd
      exact Bool.false_ne_true ((hexponent e sign d more heq he hsign).symm.trans hdigit)
  · rintro ⟨hpoint, hexponent⟩
    refine ⟨fun d more heq => hpoint _ heq d rfl, fun e sign d more heq he hsign => ?_⟩
    rw [← Bool.not_eq_true]
    intro hdigit
    have hhead := (takeSign_digit_iff hdigit).mpr ⟨sign, hsign, more, rfl⟩
    exact Bool.false_ne_true ((hexponent e _ heq he d hhead).symm.trans hdigit)

end

end ArgumentSchema
