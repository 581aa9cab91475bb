import ArgumentSchema.Document.Toml
import ArgumentSchema.Proofs.Readers

/-!
# Where the tokens of TOML come to an end

Strings, keys, dates, times and numbers, and what stands between them. Each of their readers takes
something of what it is given, and none but that of decimal numbers stops because of a size: it stops
exactly at the integers of too many digits, whose digits may have low lines between them.

> `Toml.key_ends`, `Toml.string?_ends`, `Toml.filler_passes`: readers that stop for no size.
> `Toml.digits_of_spaced`, `Toml.spaced_of_digits`: what a row of digits with low lines is.
> `Toml.scalar_of_overlong`, `Toml.scalar_cases`: when a value without parts is too long.
-/

namespace ArgumentSchema.Toml

variable {cs rest : List Char}

theorem length_skipBlanks_le (cs : List Char) : (skipBlanks cs).length ≤ cs.length :=
  length_dropWhile_le _ cs

/-- Whether a reader stops at the size of what it reads. -/
inductive Stop.Oversize : Stop → Prop where
  | tooManyDigits (e : Literal.TooManyDigits) : Oversize (.tooManyDigits e)
  | tooDeep : Oversize .tooDeep

section Malformed

variable {α : Type} {length left : Nat} {fault : Fault}

/-- A reader that stops at something malformed comes to an end. -/
theorem ends_malformed :
    Ends Stop.Oversize length (.error (.malformed fault left) : Except Stop (α × List Char)) :=
  .error nofun

theorem ends_stop : Ends Stop.Oversize length (stop fault cs : Except Stop (α × List Char)) :=
  ends_malformed

theorem passes_stop : Passes Stop.Oversize length (stop fault cs : Except Stop (List Char)) :=
  .error nofun

end Malformed

/-! ## Between tokens -/

theorem skipComment_passes (cs : List Char) : Passes Stop.Oversize cs.length (skipComment cs) := by
  unfold skipComment
  split
  · next rest =>
    have hdrop := length_dropWhile_le (fun c => !isControl c) rest
    split
    · next heq =>
      rw [heq] at hdrop
      exact .ok (Nat.le_succ_of_le hdrop)
    · exact .ok (Nat.zero_le _)
    · exact passes_stop
  · exact .ok (Nat.le_refl _)

theorem skipFiller_passes (fuel : Nat) (cs : List Char) :
    Passes Stop.Oversize cs.length (skipFiller fuel cs) := by
  induction fuel generalizing cs with
  | zero => exact .ok (Nat.le_refl _)
  | succ fuel ih =>
    unfold skipFiller
    refine ((skipComment_passes _).mono (length_dropWhile_le isBlankOrBreak cs)).bind fun _ => ?_
    split
    · exact ih _
    · exact .ok (Nat.le_refl _)

theorem filler_passes (cs : List Char) : Passes Stop.Oversize cs.length (filler cs) :=
  skipFiller_passes _ _

theorem takeEquals_passes (cs : List Char) : Passes Stop.Oversize cs.length (takeEquals cs) := by
  unfold takeEquals
  split
  · exact .ok (Nat.le_succ_of_le (length_skipBlanks_le _))
  · exact passes_stop

/-! ## Strings and keys -/

theorem numberedChar_ends (width : Nat) (cs : List Char) :
    Ends Stop.Oversize (cs.length + 1) (numberedChar width cs) := by
  have hdrop : (cs.drop width).length < cs.length + 1 := by
    rw [List.length_drop]
    omega
  unfold numberedChar
  dsimp only
  split
  · split
    · exact ends_stop
    · split
      · exact .ok hdrop
      · exact ends_stop
  · exact ends_stop

theorem skipHidden_passes (cs : List Char) : Passes Stop.Oversize cs.length (skipHidden cs) := by
  have hdrop := length_dropWhile_le isBlank cs
  unfold skipHidden
  split
  · exact .ok (Nat.zero_le _)
  · next rest heq =>
    have hbehind := length_dropWhile_le isBlankOrBreak rest
    rw [heq, List.length_cons] at hdrop
    exact .ok (by omega)
  · exact passes_stop

theorem escaped_ends (multiline : Bool) (cs : List Char) :
    Ends Stop.Oversize (cs.length + 1) (escaped multiline cs) := by
  unfold escaped
  split
  · exact ends_stop
  · next rest => exact ((numberedChar_ends 4 rest).map fun c => [c]).mono (Nat.le_succ _)
  · next rest => exact ((numberedChar_ends 8 rest).map fun c => [c]).mono (Nat.le_succ _)
  · split
    · exact (skipHidden_passes _).ends _ (Nat.lt_succ_self _)
    · split
      · exact .ok (Nat.lt_succ_of_lt (Nat.lt_succ_self _))
      · exact ends_stop

theorem basicBody_ends (multiline : Bool) (fuel : Nat) (done cs : List Char) :
    Ends Stop.Oversize cs.length (basicBody multiline fuel done cs) := by
  induction fuel generalizing done cs with
  | zero => exact ends_stop
  | succ fuel ih =>
    unfold basicBody
    split
    · exact ends_stop
    · split
      · exact .ok (Nat.lt_succ_self _)
      · split
        · exact .ok (by simp only [List.length_cons]; omega)
        · exact (ih _ _).mono (Nat.le_succ _)
    · exact (escaped_ends multiline _).bind fun _ => ih _ _
    · split
      · exact ends_stop
      · exact (ih _ _).mono (Nat.le_succ _)

theorem basicString_ends (multiline : Bool) (cs : List Char) :
    Ends Stop.Oversize cs.length (basicString multiline cs) := basicBody_ends _ _ _ _

theorem cutAtText_shorter {needle body after : List Char}
    (h : cutAtText needle cs = some (body, after)) : after.length ≤ cs.length := by
  induction cs generalizing body with
  | nil => cases h
  | cons c cs ih =>
    unfold cutAtText at h
    split at h
    · next hstart =>
      cases h
      rw [Text.afterStart_eq_some hstart, List.length_append]
      exact Nat.le_add_left _ _
    · obtain ⟨r, hr, heq⟩ := Option.map_eq_some_iff.mp h
      cases heq
      exact Nat.le_succ_of_le (ih hr)

theorem literalString_ends (multiline : Bool) (closing : String) (cs : List Char) :
    Ends Stop.Oversize (cs.length + 1) (literalString multiline closing cs) := by
  unfold literalString
  split
  · exact ends_stop
  · next hcut =>
    split
    · exact .ok (Nat.lt_succ_of_le (cutAtText_shorter hcut))
    · exact ends_malformed

theorem length_extraQuotes_le (quote : Char) (r : List Char × List Char) :
    (extraQuotes quote r.1 r.2).2.length ≤ r.2.length := by
  obtain ⟨body, cs⟩ := r
  unfold extraQuotes
  dsimp only
  split
  · split
    · split
      · exact Nat.le_add_right _ 2
      · exact Nat.le_succ _
    · exact Nat.le_refl _
  · split
    · exact Nat.zero_le _
    · exact Nat.le_refl _
  · exact Nat.le_refl _

theorem length_skipBreak_le (cs : List Char) : (skipBreak cs).length ≤ cs.length := by
  unfold skipBreak
  split
  · exact Nat.le_succ _
  · exact Nat.le_refl _

theorem string?_ends {result : Except Stop (List Char × List Char)} (h : string? cs = some result) :
    Ends Stop.Oversize cs.length result := by
  unfold string? at h
  split at h
  · next rest =>
    cases h
    have hbreak := length_skipBreak_le rest
    exact ((basicString_ends true _).adjust fun r => length_extraQuotes_le _ r).mono
      (by simp only [List.length_cons]; omega)
  · next rest =>
    cases h
    have hbreak := length_skipBreak_le rest
    exact ((literalString_ends true _ _).adjust fun r => length_extraQuotes_le _ r).mono
      (by simp only [List.length_cons]; omega)
  · cases h
    exact (basicString_ends false _).mono (Nat.le_succ _)
  · cases h
    exact literalString_ends false _ _
  · cases h

theorem keyPart_ends (cs : List Char) : Ends Stop.Oversize cs.length (keyPart cs) := by
  unfold keyPart
  split
  · exact ((basicString_ends false _).mono (Nat.le_succ _)).map _
  · exact (literalString_ends false _ _).map _
  · split
    · next hbare =>
      refine .ok (length_dropWhile_lt ?_)
      rw [List.takeWhile_cons_of_pos hbare]
      exact List.cons_ne_nil _ _
    · exact ends_stop
  · exact ends_stop

theorem keyParts_ends (fuel : Nat) (cs : List Char) :
    Ends Stop.Oversize cs.length (keyParts fuel cs) := by
  induction fuel generalizing cs with
  | zero => exact ends_stop
  | succ fuel ih =>
    unfold keyParts
    refine (keyPart_ends cs).followed fun {part rest} _ => ?_
    have hskip := length_skipBlanks_le rest
    dsimp only
    split
    · next behind heq =>
      have hbehind := length_skipBlanks_le behind
      rw [heq, List.length_cons] at hskip
      exact ((ih (skipBlanks behind)).map fun parts => part :: parts).mono (by omega)
    · exact .ok (Nat.lt_succ_of_le hskip)

theorem key_ends (cs : List Char) : Ends Stop.Oversize cs.length (key cs) := keyParts_ends _ _

/-! ## Dates and times -/

theorem twoDigits?_shorter {greatest n : Nat} (h : twoDigits? greatest cs = some (n, rest)) :
    rest.length < cs.length := by
  unfold twoDigits? at h
  split at h
  · dsimp only at h
    split at h
    · cases h
      exact Nat.lt_succ_of_lt (Nat.lt_succ_self _)
    · cases h
  · cases h

theorem expect?_shorter {x : Char} (h : expect? x cs = some rest) : rest.length < cs.length := by
  unfold expect? at h
  split at h
  · split at h
    · cases h
      exact Nat.lt_succ_self _
    · cases h
  · cases h

theorem length_fraction_le (cs : List Char) : (fraction cs).2.length ≤ cs.length := by
  unfold fraction
  split
  · dsimp only
    split
    · exact Nat.le_refl _
    · exact Nat.le_succ_of_le (length_dropWhile_le _ _)
  · exact Nat.le_refl _

theorem clock?_shorter {clock : Clock} (h : clock? cs = some (clock, rest)) :
    rest.length < cs.length := by
  simp only [clock?, Option.bind_eq_bind, Option.bind_eq_some_iff] at h
  obtain ⟨⟨hour, r₁⟩, h₁, r₂, h₂, ⟨minute, r₃⟩, h₃, r₄, h₄, ⟨second, r₅⟩, h₅, hclock⟩ := h
  cases hclock
  have hfraction := length_fraction_le r₅
  have := twoDigits?_shorter h₁
  have := expect?_shorter h₂
  have := twoDigits?_shorter h₃
  have := expect?_shorter h₄
  have := twoDigits?_shorter h₅
  dsimp only at *
  omega

theorem offset?_shorter {n : Int} (h : offset? cs = some (n, rest)) : rest.length < cs.length := by
  unfold offset? at h
  split at h
  · split at h
    · cases h
      exact Nat.lt_succ_self _
    · split at h
      · simp only [Option.bind_eq_bind, Option.bind_eq_some_iff] at h
        obtain ⟨⟨hour, r₁⟩, h₁, r₂, h₂, ⟨minute, r₃⟩, h₃, hoffset⟩ := h
        cases hoffset
        have := twoDigits?_shorter h₁
        have := expect?_shorter h₂
        have := twoDigits?_shorter h₃
        dsimp only [List.length_cons] at *
        omega
      · cases h
  · cases h

theorem clockAfterDate?_shorter {clock : Clock} (h : clockAfterDate? cs = some (clock, rest)) :
    rest.length < cs.length := by
  unfold clockAfterDate? at h
  split at h
  · split at h
    · simp only [Option.bind_eq_bind, Option.bind_eq_some_iff] at h
      obtain ⟨⟨clock', r₁⟩, hclock, h⟩ := h
      have hshorter := clock?_shorter hclock
      rw [List.length_cons]
      split at h
      · next hoffset =>
        cases h
        have := offset?_shorter hoffset
        dsimp only at *
        omega
      · cases h
        dsimp only at *
        omega
    · cases h
  · cases h

/-- A date starts with four digits and a hyphen behind them. -/
theorem dateFields?_inv {fields : Nat × Nat × Nat} (h : dateFields? cs = some (fields, rest)) :
    (∀ c ∈ cs.take 4, Text.isAsciiDigit c = true) ∧
      ∃ behind, expect? '-' (cs.drop 4) = some behind ∧ rest.length < behind.length := by
  simp only [dateFields?, Option.bind_eq_bind] at h
  split at h
  · cases h
  · next hyear =>
    simp only [Option.bind_eq_some_iff] at h
    obtain ⟨behind, hhyphen, ⟨month, r₁⟩, h₁, r₂, h₂, ⟨day, r₃⟩, h₃, h⟩ := h
    refine ⟨by simpa using (not_or.mp hyear).2, behind, hhyphen, ?_⟩
    have := twoDigits?_shorter h₁
    have := expect?_shorter h₂
    have := twoDigits?_shorter h₃
    dsimp only at *
    split at h
    · cases h
    · cases h
      omega

theorem moment?_ends {result : Except Stop (Value × List Char)} (h : moment? cs = some result) :
    Ends Stop.Oversize cs.length result := by
  simp only [moment?, Option.bind_eq_bind, Option.bind_eq_some_iff] at h
  obtain ⟨⟨⟨year, month, day⟩, behind⟩, hdate, h⟩ := h
  dsimp only [pure] at h
  obtain ⟨-, r, hhyphen, hbehind⟩ := dateFields?_inv hdate
  have hshorter : behind.length < cs.length := by
    have := expect?_shorter hhyphen
    rw [List.length_drop] at this
    omega
  cases hclock : clockAfterDate? behind with
  | none =>
    rw [hclock] at h
    rw [← Option.some.inj h]
    cases Date.make? year month day with
    | none => exact ends_stop
    | some d => exact .ok hshorter
  | some r =>
    rw [hclock] at h
    rw [← Option.some.inj h]
    cases Date.make? year month day with
    | none => exact ends_stop
    | some d => exact .ok (Nat.lt_trans (clockAfterDate?_shorter hclock) hshorter)

/-! ## Numbers -/

theorem length_digits_le (isDigit : Char → Bool) (cs : List Char) :
    (digits isDigit cs).2.length ≤ cs.length := by
  fun_induction digits isDigit cs with
  | case1 => exact Nat.le_refl _
  | case2 c rest hdigit ds after heq ih =>
    rw [heq] at ih
    exact Nat.le_succ_of_le (Nat.le_succ_of_le ih)
  | case3 => exact Nat.le_refl _
  | case4 c rest hother hdigit ds after heq ih =>
    rw [heq] at ih
    exact Nat.le_succ_of_le ih
  | case5 => exact Nat.le_refl _

/-- A digit is taken, unless it is a low line. -/
theorem digits_digit {isDigit : Char → Bool} (hlow : isDigit '_' = false) {d : Char}
    (hd : isDigit d = true) (cs : List Char) :
    digits isDigit (d :: cs) = (d :: (digits isDigit cs).1, (digits isDigit cs).2) := by
  rw [digits, if_pos hd]
  rintro c rest rfl
  rw [hlow] at hd
  cases hd

theorem digitRow?_shorter {isDigit : Char → Bool} (hlow : isDigit '_' = false) {ds : List Char}
    (h : digitRow? isDigit cs = some (ds, rest)) : rest.length < cs.length := by
  unfold digitRow? at h
  split at h
  · next c cs =>
    split at h
    · next hdigit =>
      rw [digits_digit hlow hdigit] at h
      cases h
      exact Nat.lt_succ_of_le (length_digits_le isDigit cs)
    · cases h
  · cases h

theorem otherBase?_shorter {n : Int} (h : otherBase? cs = some (n, rest)) :
    rest.length < cs.length := by
  have hbase : ∀ (base : Nat) (cs : List Char),
      (digitRow? (fun c => (Text.hexValue? c).any (· < base)) cs).map
        (fun r => (valueIn base r.1, r.2)) = some (n, rest) → rest.length < cs.length := by
    intro base cs h
    obtain ⟨r, hrow, heq⟩ := Option.map_eq_some_iff.mp h
    cases heq
    exact digitRow?_shorter rfl hrow
  unfold otherBase? at h
  dsimp only at h
  split at h
  · exact Nat.lt_succ_of_lt (hbase 16 _ h)
  · exact Nat.lt_succ_of_lt (hbase 8 _ h)
  · exact Nat.lt_succ_of_lt (hbase 2 _ h)
  · cases h

/-- Digits, and how they are written with single low lines between them. -/
inductive Spaced : List Char → List Char → Prop where
  | nil : Spaced [] []
  | digit {d : Char} {ds body : List Char} : Text.isAsciiDigit d = true → Spaced ds body →
      Spaced (d :: ds) (d :: body)
  | low {d : Char} {ds body : List Char} : Text.isAsciiDigit d = true → Spaced ds body →
      Spaced (d :: ds) ('_' :: d :: body)

/-- Neither a digit stands here nor one behind a low line. -/
structure Stopped (rest : List Char) : Prop where
  digit : ∀ c ∈ rest.head?, Text.isAsciiDigit c = false
  low : ∀ c more, rest = '_' :: c :: more → Text.isAsciiDigit c = false

theorem digits_low {d : Char} (hd : Text.isAsciiDigit d = true) (cs : List Char) :
    digits Text.isAsciiDigit ('_' :: d :: cs) =
      (d :: (digits Text.isAsciiDigit cs).1, (digits Text.isAsciiDigit cs).2) := by
  rw [digits, if_pos hd]

theorem digits_stopped (h : Stopped rest) : digits Text.isAsciiDigit rest = ([], rest) := by
  unfold digits
  split
  · rfl
  · next c more => rw [if_neg (by simp [h.low c more rfl])]
  · next c more _ => rw [if_neg (by simp [h.digit c rfl])]

theorem digits_of_spaced {ds body : List Char} (h : Spaced ds body) (hstop : Stopped rest) :
    digits Text.isAsciiDigit (body ++ rest) = (ds, rest) := by
  induction h with
  | nil => exact digits_stopped hstop
  | digit hd _ ih => rw [List.cons_append, digits_digit rfl hd, ih]
  | low hd _ ih => rw [List.cons_append, List.cons_append, digits_low hd, ih]

/-- The digits that are taken stand at the start, and are all that stand there. -/
theorem spaced_of_digits (cs : List Char) : ∃ body, cs = body ++ (digits Text.isAsciiDigit cs).2 ∧
    Spaced (digits Text.isAsciiDigit cs).1 body ∧ Stopped (digits Text.isAsciiDigit cs).2 := by
  fun_induction digits Text.isAsciiDigit cs with
  | case1 => exact ⟨[], rfl, .nil, nofun, nofun⟩
  | case2 c rest hdigit ds after heq ih =>
    rw [heq] at ih
    obtain ⟨body, hrest, hspaced, hstop⟩ := ih
    exact ⟨'_' :: c :: body, congrArg _ (congrArg _ hrest), .low hdigit hspaced, hstop⟩
  | case3 c rest hother =>
    refine ⟨[], rfl, .nil, ?_, ?_⟩
    · rintro _ ⟨⟩
      rfl
    · rintro d more heq
      cases heq
      exact Bool.not_eq_true _ ▸ hother
  | case4 c rest hother hdigit ds after heq ih =>
    rw [heq] at ih
    obtain ⟨body, hrest, hspaced, hstop⟩ := ih
    exact ⟨c :: body, congrArg _ hrest, .digit hdigit hspaced, hstop⟩
  | case5 c rest hlow hother =>
    refine ⟨[], rfl, .nil, ?_, ?_⟩
    · rintro _ ⟨⟩
      exact Bool.not_eq_true _ ▸ hother
    · intro d more heq
      cases heq
      exact (hlow _ _ rfl rfl).elim

theorem wholePart?_shorter {ds : List Char} (h : wholePart? cs = some (ds, rest)) :
    rest.length < cs.length := by
  unfold wholePart? at h
  split at h
  · cases h
    exact Nat.lt_succ_self _
  · exact digitRow?_shorter rfl h

theorem fractionPart?_shorter {ds : List Char} (h : fractionPart? cs = some (ds, rest)) :
    rest.length < cs.length := by
  unfold fractionPart? at h
  split at h
  · exact Nat.lt_succ_of_lt (digitRow?_shorter rfl h)
  · cases h

theorem exponentPart?_shorter {n : Int} (h : exponentPart? cs = some (n, rest)) :
    rest.length < cs.length := by
  unfold exponentPart? at h
  split at h
  · next e behind =>
    split at h
    · have hsign := length_takeSign_le behind
      obtain ⟨r, hrow, heq⟩ := Option.map_eq_some_iff.mp h
      cases heq
      exact Nat.lt_succ_of_lt (Nat.lt_of_lt_of_le (digitRow?_shorter rfl hrow) hsign)
    · cases h
  · cases h

theorem digitRow?_eq_none_iff {isDigit : Char → Bool} :
    digitRow? isDigit cs = none ↔ ∀ c ∈ cs.head?, isDigit c = false := by
  cases cs with
  | nil => simp [digitRow?]
  | cons c cs => simp [digitRow?]

theorem fractionPart?_eq_none_iff : fractionPart? rest = none ↔
    ∀ behind, rest = '.' :: behind → ∀ d ∈ behind.head?, Text.isAsciiDigit d = false := by
  unfold fractionPart?
  split
  · next behind =>
    rw [digitRow?_eq_none_iff]
    exact ⟨fun h _ heq => (List.cons.inj heq).2 ▸ h, fun h => h _ rfl⟩
  · next hother => exact iff_of_true rfl fun behind heq => absurd heq (hother _)

theorem exponentPart?_eq_none_iff : exponentPart? rest = none ↔
    ∀ e behind, rest = e :: behind → e = 'e' ∨ e = 'E' →
      ∀ d ∈ (Literal.takeSign behind).2.head?, Text.isAsciiDigit d = false := by
  unfold exponentPart?
  cases rest with
  | nil => exact iff_of_true rfl fun _ _ heq => nomatch heq
  | cons e behind =>
    dsimp only
    by_cases he : e = 'e' ∨ e = 'E'
    · rw [if_pos he, Option.map_eq_none_iff, digitRow?_eq_none_iff]
      constructor
      · intro h e' behind' heq _
        rw [← (List.cons.inj heq).2]
        exact h
      · intro h
        exact h e behind rfl he
    · rw [if_neg he]
      refine iff_of_true rfl fun e' behind' heq he' => ?_
      rw [← (List.cons.inj heq).1] at he'
      exact absurd he' he

theorem integral_iff_parts :
    Integral rest ↔ fractionPart? rest = none ∧ exponentPart? rest = none := by
  rw [integral_iff, fractionPart?_eq_none_iff, exponentPart?_eq_none_iff]

/-- A row of digits that starts with one other than zero, as it is written, up to where it ends. -/
structure Row (ds body rest : List Char) : Prop where
  spaced : Spaced ds body
  first : ∃ d ∈ body.head?, Text.isAsciiDigit d = true ∧ d ≠ '0'
  stop : Stopped rest

theorem wholePart?_row {ds body : List Char} (h : Row ds body rest) :
    wholePart? (body ++ rest) = some (ds, rest) := by
  obtain ⟨d, hhead, hd, hzero⟩ := h.first
  obtain ⟨more, rfl⟩ := List.head?_eq_some_iff.mp hhead
  unfold wholePart?
  split
  · next heq => exact absurd (List.cons.inj heq).1 hzero
  · rw [← digits_of_spaced h.spaced h.stop]
    exact if_pos hd

theorem row_of_wholePart? {ds : List Char} (h : wholePart? cs = some (ds, rest))
    (hlong : 1 < ds.length) : ∃ body, cs = body ++ rest ∧ Row ds body rest := by
  unfold wholePart? at h
  split at h
  · cases h
    exact absurd hlong (Nat.lt_irrefl 1)
  · next hzero =>
    unfold digitRow? at h
    split at h
    · next d more =>
      split at h
      · next hd =>
        obtain ⟨body, hcs, hspaced, hstop⟩ := spaced_of_digits (d :: more)
        rw [Option.some.inj h] at hcs hspaced hstop
        refine ⟨body, hcs, hspaced, ?_, hstop⟩
        cases hspaced with
        | nil => exact absurd hlong (Nat.not_lt_zero 1)
        | digit _ _ =>
          refine ⟨d, ?_, hd, ?_⟩
          · rw [(List.cons.inj hcs).1]
            rfl
          · rintro rfl
            exact hzero _ rfl
        | low _ _ =>
          rw [(List.cons.inj hcs).1] at hd
          cases hd
      · cases h
    · cases h

/-- An integer of `n` digits, which are too many to be read. -/
def Overlong (n : Nat) (cs : List Char) : Prop :=
  ∃ sign ds body rest, sign ∈ [[], ['-'], ['+']] ∧ cs = sign ++ (body ++ rest) ∧ Row ds body rest ∧
    Integral rest ∧ ds.length = n ∧ Literal.maxIntegerDigits < n

theorem decimal?_of_overlong {n : Nat} (h : Overlong n cs) :
    decimal? cs = some (.error (.tooManyDigits ⟨n⟩)) := by
  obtain ⟨sign, ds, body, rest, hsign, rfl, hrow, hintegral, rfl, hlong⟩ := h
  obtain ⟨hfraction, hexponent⟩ := integral_iff_parts.mp hintegral
  obtain ⟨d, hhead, hd, -⟩ := hrow.first
  have hplain : ∀ c ∈ (body ++ rest).head?, c ≠ '-' ∧ c ≠ '+' := by
    intro c hc
    rw [List.head?_append, Option.mem_def.mp hhead] at hc
    cases hc
    exact ne_sign_of_isAsciiDigit hd
  rw [decimal?, Literal.takeSign_append hsign hplain]
  dsimp only
  rw [wholePart?_row hrow, Option.map_some]
  dsimp only
  rw [hfraction]
  dsimp only [Option.elim]
  rw [hexponent]
  exact congrArg some (if_pos hlong)

theorem decimal?_cases {result : Except Stop (Value × List Char)} (h : decimal? cs = some result) :
    Ends Stop.Oversize cs.length result ∨ ∃ n, Overlong n cs := by
  have hlength := length_takeSign_le cs
  obtain ⟨sign, hsign, hcs⟩ := Literal.takeSign_eq cs
  unfold decimal? at h
  generalize Literal.takeSign cs = signed at h hlength hcs
  obtain ⟨negative, body⟩ := signed
  dsimp only at h hlength hcs
  obtain ⟨⟨whole, after⟩, hwhole, h⟩ := Option.map_eq_some_iff.mp h
  have hafter := wholePart?_shorter hwhole
  subst h
  dsimp only
  cases hfraction : fractionPart? after with
  | none =>
    dsimp only [Option.elim]
    cases hexponent : exponentPart? after with
    | none =>
      dsimp only
      split
      · next hlong =>
        have hone : 1 < whole.length := Nat.lt_of_le_of_lt (by decide) hlong
        obtain ⟨written, rfl, hrow⟩ := row_of_wholePart? hwhole hone
        exact .inr ⟨_, sign, whole, written, after, hsign, hcs, hrow,
          integral_iff_parts.mpr ⟨hfraction, hexponent⟩, rfl, hlong⟩
      · exact .inl (.ok (by omega))
    | some r =>
      have := exponentPart?_shorter hexponent
      exact .inl (.ok (by dsimp only [Option.getD] at *; omega))
  | some f =>
    have hbehind := fractionPart?_shorter hfraction
    dsimp only [Option.elim]
    cases hexponent : exponentPart? f.2 with
    | none => exact .inl (.ok (by dsimp only [Option.getD] at *; omega))
    | some r =>
      have := exponentPart?_shorter hexponent
      exact .inl (.ok (by dsimp only [Option.getD] at *; omega))

theorem number?_of_overlong {n : Nat} (h : Overlong n cs) :
    number? cs = some (.error (.tooManyDigits ⟨n⟩)) := by
  have hdecimal := decimal?_of_overlong h
  obtain ⟨sign, ds, body, rest, hsign, rfl, hrow, -, rfl, hlong⟩ := h
  unfold number?
  split
  · next more heq =>
    -- in front there is a sign, or a digit other than zero
    obtain ⟨d, hhead, -, hzero⟩ := hrow.first
    obtain ⟨behind, rfl⟩ := List.head?_eq_some_iff.mp hhead
    simp only [List.mem_cons, List.not_mem_nil, or_false] at hsign
    rcases hsign with rfl | rfl | rfl
    · exact absurd (List.cons.inj heq).1 hzero
    · cases heq
    · cases heq
  · exact hdecimal

theorem number?_cases {result : Except Stop (Value × List Char)} (h : number? cs = some result) :
    Ends Stop.Oversize cs.length result ∨ ∃ n, Overlong n cs := by
  unfold number? at h
  dsimp only at h
  split at h
  · next hother =>
    cases h
    split at hother
    · exact .inl (.ok (Nat.lt_succ_of_lt (otherBase?_shorter hother)))
    · cases hother
  · exact decimal?_cases h

theorem Spaced.chars {ds body : List Char} (h : Spaced ds body) :
    ∀ c ∈ body, Text.isAsciiDigit c = true ∨ c = '_' := by
  induction h with
  | nil => exact nofun
  | digit hd _ ih => exact List.forall_mem_cons.mpr ⟨.inl hd, ih⟩
  | low hd _ ih => exact List.forall_mem_cons.mpr ⟨.inr rfl, List.forall_mem_cons.mpr ⟨.inl hd, ih⟩⟩

theorem Spaced.length_le {ds body : List Char} (h : Spaced ds body) : ds.length ≤ body.length := by
  induction h with
  | nil => exact Nat.le_refl _
  | digit _ _ ih => exact Nat.succ_le_succ ih
  | low _ _ ih => exact Nat.le_succ_of_le (Nat.succ_le_succ ih)

/-- Inside of a row of digits there is nothing but digits and low lines. -/
theorem expect?_of_spaced {ds body : List Char} (h : Spaced ds body) {x : Char}
    (hx : Text.isAsciiDigit x = false) (hlow : x ≠ '_') {k : Nat} (hk : k < ds.length)
    (rest : List Char) : expect? x ((body ++ rest).drop k) = none := by
  have hk := Nat.lt_of_lt_of_le hk h.length_le
  rw [List.drop_append_of_le_length (Nat.le_of_lt hk), List.drop_eq_getElem_cons hk]
  refine if_neg fun heq => ?_
  rcases h.chars _ (List.getElem_mem hk) with hd | hd
  · rw [heq, hx] at hd
    cases hd
  · exact hlow (heq.symm.trans hd)

theorem twoDigits?_inv {greatest n : Nat} (h : twoDigits? greatest cs = some (n, rest)) :
    (∀ c ∈ cs.head?, Text.isAsciiDigit c = true) ∧ rest = cs.drop 2 := by
  unfold twoDigits? at h
  split at h
  · next a b behind =>
    dsimp only at h
    split at h
    · next hdigits =>
      cases h
      refine ⟨?_, rfl⟩
      rintro _ ⟨⟩
      simp only [Bool.and_eq_true] at hdigits
      exact hdigits.1.1
    · cases h
  · cases h

/-- An integer of many digits is no date. -/
theorem moment?_of_overlong {n : Nat} (h : Overlong n cs) : moment? cs = none := by
  obtain ⟨sign, ds, body, rest, hsign, rfl, hrow, -, rfl, hlong⟩ := h
  have hfields : dateFields? (sign ++ (body ++ rest)) = none := by
    rw [Option.eq_none_iff_forall_ne_some]
    rintro ⟨fields, behind⟩ hdate
    obtain ⟨hyear, r, hhyphen, -⟩ := dateFields?_inv hdate
    simp only [List.mem_cons, List.not_mem_nil, or_false] at hsign
    rcases hsign with rfl | rfl | rfl
    · have hk : 4 < ds.length := Nat.lt_of_le_of_lt (by decide) hlong
      rw [List.nil_append, expect?_of_spaced hrow.spaced rfl (by decide) hk] at hhyphen
      cases hhyphen
    · cases hyear '-' (List.mem_cons_self ..)
    · cases hyear '+' (List.mem_cons_self ..)
  rw [moment?, hfields]
  rfl

/-- An integer of many digits is no time of day. -/
theorem clock?_of_overlong {n : Nat} (h : Overlong n cs) : clock? cs = none := by
  obtain ⟨sign, ds, body, rest, hsign, rfl, hrow, -, rfl, hlong⟩ := h
  rw [Option.eq_none_iff_forall_ne_some]
  rintro ⟨clock, behind⟩ hclock
  simp only [clock?, Option.bind_eq_bind, Option.bind_eq_some_iff] at hclock
  obtain ⟨⟨hour, r⟩, hhour, r', hcolon, -⟩ := hclock
  obtain ⟨hfirst, rfl⟩ := twoDigits?_inv hhour
  simp only [List.mem_cons, List.not_mem_nil, or_false] at hsign
  rcases hsign with rfl | rfl | rfl
  · have hk : 2 < ds.length := Nat.lt_of_le_of_lt (by decide) hlong
    rw [List.nil_append] at hcolon
    dsimp only at hcolon
    rw [expect?_of_spaced hrow.spaced rfl (by decide) hk] at hcolon
    cases hcolon
  · cases hfirst '-' rfl
  · cases hfirst '+' rfl

/-! ## Values without parts -/

theorem word?_shorter {v : Value} (h : word? cs = some (v, rest)) : rest.length < cs.length := by
  obtain ⟨w, hw, hword⟩ := List.exists_of_findSome?_eq_some h
  split at hword
  · next hstart =>
    have hne : ∀ w ∈ words, 0 < w.1.length := by decide
    cases hword
    have hpos := hne w hw
    have hle := (List.isPrefixOf_iff_prefix.mp hstart).length_le
    rw [String.length_toList] at hle
    rw [List.length_drop]
    omega
  · cases hword

/-- What starts with a digit, behind a sign or none, is no word. -/
theorem word?_of_digit {d : Char} (hd : Text.isAsciiDigit d = true)
    (hcs : (Literal.takeSign cs).2.head? = some d) : word? cs = none := by
  have hwords : ∀ w ∈ words,
      ∃ c ∈ (Literal.takeSign w.1.toList).2.head?, Text.isAsciiDigit c = false := by
    simp only [words, List.forall_mem_cons]
    refine ⟨⟨'t', rfl, rfl⟩, ⟨'f', rfl, rfl⟩, ⟨'i', rfl, rfl⟩, ⟨'i', rfl, rfl⟩, ⟨'i', rfl, rfl⟩,
      ⟨'n', rfl, rfl⟩, ⟨'n', rfl, rfl⟩, ⟨'n', rfl, rfl⟩, nofun⟩
  rw [word?, List.findSome?_eq_none_iff]
  intro w hw
  rw [not_isPrefixOf_of_digit hd hcs (hwords w hw)]
  rfl

theorem Overlong.digit {n : Nat} (h : Overlong n cs) :
    ∃ d, Text.isAsciiDigit d = true ∧ (Literal.takeSign cs).2.head? = some d := by
  obtain ⟨sign, ds, body, rest, hsign, rfl, hrow, -⟩ := h
  obtain ⟨d, hhead, hd, -⟩ := hrow.first
  obtain ⟨more, rfl⟩ := List.head?_eq_some_iff.mp hhead
  exact ⟨d, hd, (takeSign_digit_iff hd).mpr ⟨sign, hsign, more ++ rest, rfl⟩⟩

theorem scalar_of_overlong {n : Nat} (h : Overlong n cs) :
    scalar cs = .error (.tooManyDigits ⟨n⟩) := by
  obtain ⟨d, hd, hcs⟩ := h.digit
  simp only [scalar, word?_of_digit hd hcs, moment?_of_overlong h, clock?_of_overlong h,
    number?_of_overlong h, Option.getD]

/-- A value without parts is read or malformed, or it is an integer that is too long. -/
theorem scalar_cases (cs : List Char) :
    Ends Stop.Oversize cs.length (scalar cs) ∨ ∃ n, Overlong n cs := by
  unfold scalar
  split
  · next hword => exact .inl (.ok (word?_shorter hword))
  · split
    · next hmoment => exact .inl (moment?_ends hmoment)
    · split
      · next hclock => exact .inl (.ok (clock?_shorter hclock))
      · cases hnumber : number? cs with
        | none => exact .inl ends_stop
        | some result => exact number?_cases hnumber

end ArgumentSchema.Toml
