import ArgumentSchema.Proofs.Chain
import ArgumentSchema.Proofs.Grammar

/-!
# Defaults that are read back

What a default is read as is told by its form, blanks about it apart: the words for truth values and
null, an integer, a decimal, a text between equal quotes. Any text between quotes is such a text,
however it looks inside, and anything of none of these forms is read as the text that stands there.

> `Literal.integerDigits?_isSome_iff`, `Literal.decimalParts?_isSome_iff`, `Literal.unquoted?_eq_some_iff`:
> the forms that are looked for.
> `Literal.read_eq_trimmed_iff`: which texts are read as they stand there.
> `Literal.read_writes`: what is written for a primitive is read as it.
> `Shorthand.defaults_read_back`: and so it is as a default, behind names.
-/

namespace ArgumentSchema

namespace Text

/-- No blank is a word character. -/
theorem isWord_of_isBlank {c : Char} (h : isBlank c = true) : isWord c = false := by
  have hall : ∀ n ∈ List.range' 9 5 ++ List.range' 28 5 ++ [0x85, 0xA0, 0x1680] ++
      List.range' 0x2000 11 ++ [0x2028, 0x2029, 0x202F, 0x205F, 0x3000],
      isWord (Char.ofNat n) = false := by decide +kernel
  have hmem : c.toNat ∈ List.range' 9 5 ++ List.range' 28 5 ++ [0x85, 0xA0, 0x1680] ++
      List.range' 0x2000 11 ++ [0x2028, 0x2029, 0x202F, 0x205F, 0x3000] := by
    simp only [isBlank, Bool.or_eq_true, Bool.and_eq_true, decide_eq_true_eq, beq_iff_eq] at h
    simp only [List.mem_append, List.mem_range'_1, List.mem_cons, List.not_mem_nil, or_false]
    omega
  have hc := hall _ hmem
  rwa [Char.ofNat_toNat] at hc

theorem isBlank_of_isDigit {c : Char} (h : c.isDigit = true) : isBlank c = false := by
  simp only [Char.isDigit, Bool.and_eq_true, decide_eq_true_eq, ge_iff_le,
    UInt32.le_iff_toNat_le] at h
  have hlow : 48 ≤ c.toNat := h.1
  have hhigh : c.toNat ≤ 57 := h.2
  rw [← Bool.not_eq_true]
  simp only [isBlank, Bool.or_eq_true, Bool.and_eq_true, decide_eq_true_eq, beq_iff_eq]
  omega

theorem takeWhile_append_of_stop {p : Char → Bool} {ds rest : List Char} (hds : ∀ d ∈ ds, p d = true)
    (hrest : ∀ c ∈ rest.head?, p c = false) : (ds ++ rest).takeWhile p = ds := by
  rw [List.takeWhile_append_of_pos hds]
  cases rest with
  | nil => simp
  | cons c rest => simp [hrest c rfl]

theorem dropWhile_append_of_stop {p : Char → Bool} {ds rest : List Char} (hds : ∀ d ∈ ds, p d = true)
    (hrest : ∀ c ∈ rest.head?, p c = false) : (ds ++ rest).dropWhile p = rest := by
  rw [List.dropWhile_append_of_pos hds]
  cases rest with
  | nil => rfl
  | cons c rest => exact List.dropWhile_cons_of_neg (by simp [hrest c rfl])

end Text

namespace Literal

/-! ## Forms of literals -/

/-- Digits only. -/
def Digits (cs : List Char) : Prop := ∀ d ∈ cs, Text.isDigit d = true

/-- An integer: digits, at least one, behind a sign or none. -/
inductive Integer : List Char → Prop where
  | intro {sign ds : List Char} : sign ∈ [[], ['-'], ['+']] → ds ≠ [] → Digits ds →
      Integer (sign ++ ds)

/-- The digits of a decimal: a row of them, or one that has a point in it or at an end. -/
inductive Mantissa : List Char → Prop where
  | whole {ds : List Char} : ds ≠ [] → Digits ds → Mantissa ds
  | point {whole fraction : List Char} : whole ≠ [] ∨ fraction ≠ [] → Digits whole →
      Digits fraction → Mantissa (whole ++ '.' :: fraction)

/-- The exponent of a decimal, which may be missing. -/
inductive Exponent : List Char → Prop where
  | none : Exponent []
  | some {e : Char} {cs : List Char} : e = 'e' ∨ e = 'E' → Integer cs → Exponent (e :: cs)

/-- A decimal: digits with a point or without, behind a sign or none, and perhaps an exponent. -/
inductive Decimal : List Char → Prop where
  | intro {sign mantissa exponent : List Char} : sign ∈ [[], ['-'], ['+']] → Mantissa mantissa →
      Exponent exponent → Decimal (sign ++ (mantissa ++ exponent))

/-- A text between two equal quotes. -/
def QuotedAs (inner cs : List Char) : Prop :=
  ∃ quote, (quote = '\'' ∨ quote = '"') ∧ cs = quote :: (inner ++ [quote])

/-- The words that are no texts. -/
def words : List (List Char) := ["true".toList, "false".toList, "null".toList, "None".toList]

/-- A text that has the form of nothing else. -/
structure Plain (cs : List Char) : Prop where
  word : cs ∉ words
  integer : ¬ Integer cs
  decimal : ¬ Decimal cs
  quoted : ∀ inner, ¬ QuotedAs inner cs

section Forms

variable {cs sign : List Char}

/-- A sign is read in front of what does not start with one. -/
theorem takeSign_append (hsign : sign ∈ [[], ['-'], ['+']])
    (hcs : ∀ c ∈ cs.head?, c ≠ '-' ∧ c ≠ '+') :
    takeSign (sign ++ cs) = (decide (sign = ['-']), cs) := by
  simp only [List.mem_cons, List.not_mem_nil, or_false] at hsign
  rcases hsign with rfl | rfl | rfl
  · cases cs with
    | nil => rfl
    | cons c cs =>
      obtain ⟨hminus, hplus⟩ := hcs c rfl
      rw [List.nil_append]
      unfold takeSign
      split
      · next h => exact absurd (List.cons.inj h).1 hminus
      · next h => exact absurd (List.cons.inj h).1 hplus
      · rfl
  · rfl
  · rfl

theorem ne_sign_of_isDigit {c : Char} (h : Text.isDigit c = true) : c ≠ '-' ∧ c ≠ '+' := by
  constructor
  · rintro rfl
    cases h
  · rintro rfl
    cases h

theorem integerDigits?_isSome_iff : (integerDigits? cs).isSome = true ↔ Integer cs := by
  constructor
  · intro h
    obtain ⟨⟨negative, ds⟩, hds⟩ := Option.isSome_iff_exists.mp h
    obtain ⟨⟨sign, hsign, rfl⟩, hdigits⟩ := of_integerDigits? hds
    refine .intro hsign ?_ hdigits
    rintro rfl
    -- nothing is read where there are no digits
    unfold integerDigits? at hds
    dsimp only at hds
    split at hds
    · next hfull =>
      obtain ⟨-, hempty⟩ := Prod.mk.inj (Option.some.inj hds)
      rw [hempty] at hfull
      cases hfull
    · cases hds
  · rintro ⟨hsign, hne, hdigits⟩
    obtain ⟨negative, h⟩ := integerDigits?_sign hsign hne hdigits
    rw [h]
    rfl

theorem digits_takeWhile (cs : List Char) : Digits (cs.takeWhile Text.isDigit) :=
  fun _ hd => List.mem_takeWhile_imp hd

theorem exponent_iff {β : Type} {none' : β} {some' : Bool × List Char → β} :
    (match (motive := List Char → Option β) cs with
      | [] => some none'
      | e :: rest =>
        if e = 'e' ∨ e = 'E' then (integerDigits? rest).map some' else none).isSome = true ↔
      Exponent cs := by
  cases cs with
  | nil => exact iff_of_true rfl .none
  | cons e rest =>
    dsimp only
    split
    · next he =>
      rw [Option.isSome_map, integerDigits?_isSome_iff]
      exact ⟨.some he, fun h => by cases h; assumption⟩
    · next he =>
      refine iff_of_false Bool.false_ne_true fun h => ?_
      cases h with
      | some hletter _ => exact he hletter

/-- What has parts is a decimal. -/
theorem decimal_of_parts (h : (decimalParts? cs).isSome = true) : Decimal cs := by
  obtain ⟨sign, hsign, hcs⟩ := takeSign_eq cs
  unfold decimalParts? at h
  generalize takeSign cs = signed at h hcs
  obtain ⟨negative, body⟩ := signed
  dsimp only at h hcs
  have hbody := List.takeWhile_append_dropWhile (p := Text.isDigit) (l := body)
  have hwhole := digits_takeWhile body
  generalize body.takeWhile Text.isDigit = whole, body.dropWhile Text.isDigit = rest at *
  subst hbody
  split at h
  · next behind =>
    have hbehind := List.takeWhile_append_dropWhile (p := Text.isDigit) (l := behind)
    have hfraction := digits_takeWhile behind
    generalize behind.takeWhile Text.isDigit = fraction,
      behind.dropWhile Text.isDigit = exponent at *
    subst hbehind
    dsimp only at h
    split at h
    · cases h
    · next hdigit =>
      have hparts : whole ++ '.' :: (fraction ++ exponent) =
          (whole ++ '.' :: fraction) ++ exponent := by simp
      rw [hcs, hparts]
      refine .intro hsign (.point ?_ hwhole hfraction) (exponent_iff.mp h)
      by_contra hnone
      obtain ⟨rfl, rfl⟩ := not_or.mp hnone |>.imp not_not.mp not_not.mp
      exact hdigit rfl
  · dsimp only at h
    split at h
    · cases h
    · next hdigit =>
      rw [hcs]
      refine .intro hsign (.whole ?_ hwhole) (exponent_iff.mp h)
      rintro rfl
      exact hdigit rfl

theorem Exponent.head {exponent : List Char} (h : Exponent exponent) :
    ∀ c ∈ exponent.head?, c ≠ '.' ∧ Text.isDigit c = false := by
  rintro c hc
  cases h with
  | none => cases hc
  | some he _ =>
    obtain rfl := Option.some.inj hc
    rcases he with rfl | rfl <;> exact ⟨by decide, rfl⟩

theorem Mantissa.head {mantissa : List Char} (h : Mantissa mantissa) (exponent : List Char) :
    ∀ c ∈ (mantissa ++ exponent).head?, c = '.' ∨ Text.isDigit c = true := by
  have hdigits : ∀ {ds rest : List Char}, Digits ds → (ds ≠ [] ∨ rest.head? = some '.') →
      ∀ c ∈ (ds ++ rest).head?, c = '.' ∨ Text.isDigit c = true := by
    intro ds rest hds hfirst c hc
    cases ds with
    | nil =>
      rcases hfirst with hne | hpoint
      · exact absurd rfl hne
      · exact .inl (Option.some.inj (hc.symm.trans hpoint))
    | cons d ds =>
      obtain rfl := Option.some.inj hc
      exact .inr (hds d (List.mem_cons_self ..))
  cases h with
  | whole hne hds => exact hdigits hds (.inl hne)
  | point _ hwhole _ =>
    rw [List.append_assoc]
    exact hdigits hwhole (.inr rfl)

/-- A decimal has parts. -/
theorem parts_of_decimal (h : Decimal cs) : (decimalParts? cs).isSome = true := by
  obtain ⟨hsign, hmantissa, hexponent⟩ := h
  next sign mantissa exponent =>
  have htake : takeSign (sign ++ (mantissa ++ exponent)) =
      (decide (sign = ['-']), mantissa ++ exponent) := by
    refine takeSign_append hsign fun c hc => ?_
    rcases hmantissa.head exponent c hc with rfl | hdigit
    · decide
    · exact ne_sign_of_isDigit hdigit
  rw [decimalParts?, htake]
  dsimp only
  have hstop : ∀ c ∈ exponent.head?, Text.isDigit c = false := fun c hc => (hexponent.head c hc).2
  cases hmantissa with
  | whole hne hds =>
    rw [Text.takeWhile_append_of_stop hds hstop, Text.dropWhile_append_of_stop hds hstop]
    split
    · exact absurd rfl (hexponent.head _ rfl).1
    · dsimp only
      rw [List.isEmpty_eq_false_iff.mpr hne]
      exact exponent_iff.mpr hexponent
  | point hne hwhole hfraction =>
    next whole fraction =>
    have hpoint : ∀ c ∈ ('.' :: (fraction ++ exponent)).head?, Text.isDigit c = false := by
      rintro c hc
      obtain rfl := Option.some.inj hc
      rfl
    rw [List.append_assoc, List.cons_append, Text.takeWhile_append_of_stop hwhole hpoint,
      Text.dropWhile_append_of_stop hwhole hpoint]
    generalize hbehind : '.' :: (fraction ++ exponent) = behind
    split
    · obtain rfl := (List.cons.inj hbehind).2
      dsimp only
      rw [Text.takeWhile_append_of_stop hfraction hstop, Text.dropWhile_append_of_stop hfraction hstop,
        if_neg (by simpa [imp_iff_not_or] using hne)]
      exact exponent_iff.mpr hexponent
    · next hother => exact absurd hbehind.symm (hother _)

theorem decimalParts?_isSome_iff : (decimalParts? cs).isSome = true ↔ Decimal cs :=
  ⟨decimal_of_parts, parts_of_decimal⟩

theorem unquoted?_eq_some_iff {inner : List Char} :
    unquoted? cs = some inner ↔ QuotedAs inner cs := by
  constructor
  · intro h
    unfold unquoted? at h
    split at h
    · next quote rest =>
      split at h
      · next hquote =>
        obtain ⟨inner', hrest⟩ := List.getLast?_eq_some_iff.mp hquote.2
        rw [hrest, List.dropLast_concat] at h
        obtain rfl := Option.some.inj h
        exact ⟨quote, hquote.1, congrArg _ hrest⟩
      · cases h
    · cases h
  · rintro ⟨quote, hquote, rfl⟩
    rw [unquoted?, if_pos ⟨hquote, List.getLast?_concat⟩, List.dropLast_concat]

theorem QuotedAs.ne {inner : List Char} (h : QuotedAs inner cs) : inner ≠ cs := by
  obtain ⟨quote, -, rfl⟩ := h
  intro heq
  have hlength := congrArg List.length heq
  rw [List.length_cons, List.length_append, List.length_singleton] at hlength
  omega

/-- No number stands between quotes. -/
theorem Decimal.not_quoted (h : Decimal cs) (inner : List Char) : ¬ QuotedAs inner cs := by
  rintro ⟨quote, hquote, hcs⟩
  obtain ⟨hsign, hmantissa, -⟩ := h
  next sign mantissa exponent =>
  simp only [List.mem_cons, List.not_mem_nil, or_false] at hsign
  rcases hsign with rfl | rfl | rfl
  · rcases hmantissa.head exponent quote (congrArg List.head? hcs) with hpoint | hdigit
    · rcases hquote with rfl | rfl <;> cases hpoint
    · rcases hquote with rfl | rfl <;> cases hdigit
  · rcases hquote with rfl | rfl <;> cases (List.cons.inj hcs).1
  · rcases hquote with rfl | rfl <;> cases (List.cons.inj hcs).1

theorem Integer.decimal (h : Integer cs) : Decimal cs := by
  obtain ⟨hsign, hne, hds⟩ := h
  next sign ds =>
  have hdecimal : Decimal (sign ++ (ds ++ [])) := .intro hsign (.whole hne hds) .none
  rwa [List.append_nil] at hdecimal

theorem not_mem_words_iff : cs ∉ words ↔
    cs ≠ "true".toList ∧ cs ≠ "false".toList ∧ ¬ (cs = "null".toList ∨ cs = "None".toList) := by
  simp only [words, List.mem_cons, List.not_mem_nil, or_false, not_or, ne_eq]

/-- What has a form that no word has is none. -/
theorem not_mem_words {α : Type} {form : List Char → Option α} {a : α}
    (hnone : ∀ word ∈ words, form word = none) (h : form cs = some a) : cs ∉ words := by
  intro hword
  cases h.symm.trans (hnone cs hword)

theorem integerDigits?_eq_none_iff : integerDigits? cs = none ↔ ¬ Integer cs := by
  rw [← Option.not_isSome_iff_eq_none, integerDigits?_isSome_iff]

theorem decimal?_eq_none_iff : decimal? cs = none ↔ ¬ Decimal cs := by
  rw [decimal?, Option.map_eq_none_iff, ← Option.not_isSome_iff_eq_none, decimalParts?_isSome_iff]

theorem readTrimmed_of_digits {ds : List Char} {negative : Bool}
    (h : integerDigits? cs = some (negative, ds)) : readTrimmed cs =
      if maxIntegerDigits < ds.length then .error ⟨ds.length⟩
      else .ok (.int (signedValue negative ds)) := by
  obtain ⟨htrue, hfalse, hnull⟩ := not_mem_words_iff.mp (not_mem_words (by decide) h)
  rw [readTrimmed, if_neg htrue, if_neg hfalse, if_neg hnull, h]

theorem readTrimmed_of_integer {ds : List Char} {negative : Bool}
    (h : integerDigits? cs = some (negative, ds)) (hshort : ds.length ≤ maxIntegerDigits) :
    readTrimmed cs = .ok (.int (signedValue negative ds)) := by
  rw [readTrimmed_of_digits h, if_neg (Nat.not_lt.mpr hshort)]

theorem readTrimmed_of_decimal {x : Binary64} (hword : cs ∉ words) (hinteger : ¬ Integer cs)
    (h : decimal? cs = some x) : readTrimmed cs = .ok (.float x) := by
  obtain ⟨htrue, hfalse, hnull⟩ := not_mem_words_iff.mp hword
  rw [readTrimmed, if_neg htrue, if_neg hfalse, if_neg hnull,
    integerDigits?_eq_none_iff.mpr hinteger]
  dsimp only
  rw [h]

theorem readTrimmed_of_quoted {inner : List Char} (h : QuotedAs inner cs) :
    readTrimmed cs = .ok (.str (String.ofList inner)) := by
  have hquoted := unquoted?_eq_some_iff.mpr h
  have hinteger : ¬ Integer cs := fun hi => hi.decimal.not_quoted inner h
  have hdecimal : ¬ Decimal cs := fun hd => hd.not_quoted inner h
  obtain ⟨htrue, hfalse, hnull⟩ := not_mem_words_iff.mp (not_mem_words (by decide) hquoted)
  rw [readTrimmed, if_neg htrue, if_neg hfalse, if_neg hnull,
    integerDigits?_eq_none_iff.mpr hinteger]
  dsimp only
  rw [decimal?_eq_none_iff.mpr hdecimal, hquoted]

theorem Plain.readTrimmed (h : Plain cs) : readTrimmed cs = .ok (.str (String.ofList cs)) := by
  have hquoted : unquoted? cs = none :=
    Option.eq_none_iff_forall_ne_some.mpr fun inner hq =>
      h.quoted inner (unquoted?_eq_some_iff.mp hq)
  obtain ⟨htrue, hfalse, hnull⟩ := not_mem_words_iff.mp h.word
  rw [Literal.readTrimmed, if_neg htrue, if_neg hfalse, if_neg hnull,
    integerDigits?_eq_none_iff.mpr h.integer]
  dsimp only
  rw [decimal?_eq_none_iff.mpr h.decimal]
  dsimp only
  rw [hquoted]

/-- A trimmed text is read as it stands there exactly if it has the form of nothing else. -/
theorem readTrimmed_eq_self_iff : readTrimmed cs = .ok (.str (String.ofList cs)) ↔ Plain cs := by
  refine ⟨fun h => ?_, Plain.readTrimmed⟩
  have hword : cs ∉ words := by
    intro hword
    simp only [words, List.mem_cons, List.not_mem_nil, or_false] at hword
    rcases hword with rfl | rfl | rfl | rfl <;> cases h
  have hinteger : ¬ Integer cs := by
    intro hi
    obtain ⟨⟨negative, ds⟩, hds⟩ := Option.isSome_iff_exists.mp (integerDigits?_isSome_iff.mpr hi)
    rw [readTrimmed_of_digits hds] at h
    split at h <;> cases h
  refine ⟨hword, hinteger, fun hd => ?_, fun inner hq => ?_⟩
  · cases hx : decimal? cs with
    | none => exact decimal?_eq_none_iff.mp hx hd
    | some x => cases (readTrimmed_of_decimal hword hinteger hx).symm.trans h
  · rw [readTrimmed_of_quoted hq] at h
    exact hq.ne (String.ofList_inj.mp (Value.str.inj (Except.ok.inj h)))

/-- A text is read as it stands there, without the blanks about it, exactly if it has the form of
nothing else. -/
theorem read_eq_trimmed_iff :
    read cs = .ok (.str (String.ofList (Text.trim cs))) ↔ Plain (Text.trim cs) :=
  readTrimmed_eq_self_iff

end Forms

/-! ## Writing primitives -/

/-- What is written for a primitive: the words of truth values and null, the decimal digits of an
integer, which must not be too many, and a text between quotes of either kind. -/
inductive Writes : Value → List Char → Prop where
  | bool (b : Bool) : Writes (.bool b) (if b then "true".toList else "false".toList)
  | null : Writes .null "null".toList
  | int {i : Int} : (Nat.toDigits 10 i.natAbs).length ≤ maxIntegerDigits →
      Writes (.int i) (toString i).toList
  | str {quote : Char} (s : String) : quote = '\'' ∨ quote = '"' →
      Writes (.str s) (quote :: (s.toList ++ [quote]))

/-- The digits that a number is written with are those of ASCII. -/
theorem digit?_of_isDigit {c : Char} (h : c.isDigit = true) :
    Text.digit? c = some (c.toNat - '0'.toNat) := by
  simp only [Char.isDigit, Bool.and_eq_true, decide_eq_true_eq, ge_iff_le,
    UInt32.le_iff_toNat_le] at h
  have hlow : 48 ≤ c.toNat := h.1
  have hhigh : c.toNat ≤ 57 := h.2
  rw [Text.digit?, if_pos (by omega), if_pos ⟨hlow, hhigh⟩]
  rfl

theorem digit?_of_mem_toDigits {n : Nat} {c : Char} (h : c ∈ Nat.toDigits 10 n) :
    Text.digit? c = some (c.toNat - '0'.toNat) :=
  digit?_of_isDigit (Nat.isDigit_of_mem_toDigits (by decide) (by decide) h)

theorem digits_toDigits (n : Nat) : Digits (Nat.toDigits 10 n) := by
  intro c hc
  rw [Text.isDigit, digit?_of_mem_toDigits hc]
  rfl

/-- The decimal digits of a number are read as the number. -/
theorem digitsValue_toDigits (n : Nat) : Text.digitsValue (Nat.toDigits 10 n) = n := by
  have hfold : ∀ (cs : List Char) (m : Nat),
      (∀ c ∈ cs, Text.digit? c = some (c.toNat - '0'.toNat)) →
      cs.foldl (fun n c => 10 * n + (Text.digit? c).getD 0) m = Nat.ofDigitChars 10 cs m := by
    intro cs
    induction cs with
    | nil => exact fun _ _ => rfl
    | cons c cs ih =>
      intro m h
      obtain ⟨hc, hcs⟩ := List.forall_mem_cons.mp h
      rw [List.foldl_cons, Nat.ofDigitChars_cons, hc, ih _ hcs]
      rfl
  rw [Text.digitsValue, hfold _ _ fun c hc => digit?_of_mem_toDigits hc]
  exact Nat.ofDigitChars_toDigits (by decide) (by decide)

/-- The text of an integer: its sign, which only stands in front of what is below zero, and its
digits. -/
theorem toList_toString (i : Int) :
    (toString i).toList = (if i < 0 then ['-'] else []) ++ Nat.toDigits 10 i.natAbs := by
  cases i with
  | ofNat n =>
    have hn : ¬ Int.ofNat n < 0 := Int.not_lt.mpr (Int.natCast_nonneg n)
    rw [if_neg hn]
    exact Nat.toList_repr
  | negSucc n =>
    rw [if_pos (Int.negSucc_lt_zero n)]
    change ("-" ++ (n + 1).repr).toList = _
    rw [String.toList_append, Nat.toList_repr]
    rfl

theorem integerDigits?_toString (i : Int) :
    integerDigits? (toString i).toList = some (decide (i < 0), Nat.toDigits 10 i.natAbs) := by
  have hfull : (!(Nat.toDigits 10 i.natAbs).isEmpty && (Nat.toDigits 10 i.natAbs).all Text.isDigit) =
      true := by
    rw [List.all_eq_true.mpr (digits_toDigits i.natAbs), List.isEmpty_eq_false_iff.mpr]
    · rfl
    · exact Nat.toDigits_ne_nil
  have hhead : ∀ c ∈ (Nat.toDigits 10 i.natAbs).head?, c ≠ '-' ∧ c ≠ '+' := fun c hc =>
    ne_sign_of_isDigit (digits_toDigits i.natAbs c (List.mem_of_mem_head? hc))
  have hsign : (if i < 0 then ['-'] else []) ∈ [[], ['-'], ['+']] := by
    split <;> simp
  rw [toList_toString, integerDigits?, takeSign_append hsign hhead]
  dsimp only
  rw [if_pos hfull]
  congr 2
  split <;> simp [*]

theorem signedValue_toDigits (i : Int) :
    signedValue (decide (i < 0)) (Nat.toDigits 10 i.natAbs) = i := by
  rw [signedValue, digitsValue_toDigits]
  by_cases hi : i < 0
  · rw [decide_eq_true hi, if_pos rfl]
    omega
  · rw [decide_eq_false hi, if_neg Bool.false_ne_true]
    omega

/-- What is written for a primitive has no blanks about it. -/
theorem Writes.trim {v : Value} {written : List Char} (h : Writes v written) :
    Text.trim written = written := by
  cases h with
  | bool b => cases b <;> rfl
  | null => rfl
  | @int i _ =>
    refine Text.trim_of_not_blank fun c hc => ?_
    rw [toList_toString, List.mem_append] at hc
    rcases hc with hc | hc
    · split at hc
      · rw [List.mem_singleton.mp hc]
        rfl
      · cases hc
    · exact Text.isBlank_of_isDigit (Nat.isDigit_of_mem_toDigits (by decide) (by decide) hc)
  | @str quote s hquote =>
    have hink : Text.isBlank quote = false := by
      rcases hquote with rfl | rfl <;> rfl
    have hlast : (quote :: (s.toList ++ [quote])).reverse = quote :: (s.toList.reverse ++ [quote]) := by
      simp
    rw [Text.trim, Text.trimLeft, List.dropWhile_cons_of_neg (by simp [hink]), Text.trimRight, hlast,
      List.dropWhile_cons_of_neg (by simp [hink]), ← hlast, List.reverse_reverse]

/-- What is written for a primitive is read as it, with blanks about it or without. -/
theorem read_writes {v : Value} {written l r : List Char} (h : Writes v written)
    (hl : Text.Blanks l) (hr : Text.Blanks r) : read (l ++ written ++ r) = .ok v := by
  rw [read, Text.trim_padded hl hr, h.trim]
  cases h with
  | bool b => cases b <;> rfl
  | null => rfl
  | @int i hshort =>
    rw [readTrimmed_of_integer (integerDigits?_toString i) hshort, signedValue_toDigits]
  | str s hquote =>
    rw [readTrimmed_of_quoted ⟨_, hquote, rfl⟩, String.ofList_toList]

end Literal

namespace Shorthand

theorem Name.trim {cs : List Char} (h : Name cs) : Text.trim cs = cs := by
  refine Text.trim_of_not_blank fun c hc => ?_
  rw [← Bool.not_eq_true]
  intro hblank
  rcases h.isWord_or_hyphen c hc with hword | rfl
  · rw [Text.isWord_of_isBlank hblank] at hword
    cases hword
  · cases hblank

theorem toList_intercalate_bar (names : List String) :
    ("|".intercalate names).toList = Text.join ['|'] (names.map String.toList) := by
  rw [String.toList_intercalate]
  induction names with
  | nil => rfl
  | cons name names ih =>
    cases names with
    | nil => simp [Text.join]
    | cons name' names =>
      have hne : (name' :: names).map String.toList ≠ [] := List.cons_ne_nil _ _
      rw [List.map_cons, Text.join_cons _ _ hne, ← ih, List.map_cons, List.intercalate_cons_cons]
      rfl

/-- Texts between bars list the names that they spell. -/
theorem lists_pieces {pieces : List String} (hne : pieces ≠ [])
    (h : ∀ p ∈ pieces, Name (Text.trim p.toList)) : Lists ("|".intercalate pieces).toList
      (pieces.map fun p => String.ofList (Text.trim p.toList)).eraseDups := by
  have hlists : Lists (Text.join ['|'] (pieces.map String.toList))
      ((pieces.map String.toList).map fun p => String.ofList (Text.trim p)).eraseDups := by
    refine .names (by simpa using hne) fun p hp => ?_
    obtain ⟨n, hn, rfl⟩ := List.mem_map.mp hp
    exact h n hn
  rw [toList_intercalate_bar]
  rwa [List.map_map] at hlists

/-- Names between bars are listed in their order. -/
theorem lists_names {names : List String} (hnames : ∀ n ∈ names, Name n.toList)
    (hdistinct : names.Nodup) : Lists ("|".intercalate names).toList names := by
  by_cases hne : names = []
  · subst hne
    exact .blank nofun
  · have htrimmed : names.map (fun p => String.ofList (Text.trim p.toList)) = names := by
      refine (List.map_congr_left fun n hn => ?_).trans (List.map_id names)
      rw [(hnames n hn).trim, String.ofList_toList]
      rfl
    have hlists := lists_pieces hne fun n hn => (hnames n hn).trim.symm ▸ hnames n hn
    rwa [htrimmed, eraseDups_of_nodup hdistinct] at hlists

/-- A primitive that is written as a default behind names is read back, whatever the text of a string
has in it, and the names with it; blanks about it do not count. And a text is read as it stands there,
without the blanks about it, exactly if it has the form of nothing else. -/
theorem defaults_read_back {names : List String} {v : Value} {written l r : List Char}
    (hnames : ∀ n ∈ names, Name n.toList) (hdistinct : names.Nodup)
    (hwritten : Literal.Writes v written) (hl : Text.Blanks l) (hr : Text.Blanks r) :
    read ("|".intercalate names ++ "=" ++ String.ofList (l ++ written ++ r)) =
        .ok { Contract.ofTypes names with default := some v } ∧
      ∀ cs, Literal.read cs = .ok (.str (String.ofList (Text.trim cs))) ↔
        Literal.Plain (Text.trim cs) := by
  refine ⟨?_, fun cs => Literal.read_eq_trimmed_iff⟩
  have hlists := lists_names hnames hdistinct
  have hcut : Cut ("|".intercalate names ++ "=" ++ String.ofList (l ++ written ++ r)).toList
      ("|".intercalate names).toList (some (l ++ written ++ r)) := by
    refine ⟨?_, hlists.foreign foreign_equals⟩
    simp
  exact (read_eq_ok_of_some hcut).mpr
    ⟨names, false, .plain hlists, v, Literal.read_writes hwritten hl hr, rfl⟩

/-- A default with blanks at its ends and with characters that mean something in front of it, and a
text with a quote at one end. -/
theorem defaults_read_back_quoted :
    Literal.Writes (.str " 7|a=b?'") "\" 7|a=b?'\"".toList ∧
      read "tag|x-1=\t\" 7|a=b?'\" " =
        .ok { Contract.ofTypes ["tag", "x-1"] with default := some (.str " 7|a=b?'") } ∧
      Literal.read " it's 'so' ".toList = .ok (.str "it's 'so'") ∧
      Literal.Plain "it's 'so'".toList := by
  have hnames : ∀ n ∈ ["tag", "x-1"], Name n.toList := by
    intro n hn
    rw [← isTypeName_iff]
    revert n
    decide
  have hwritten : Literal.Writes (.str " 7|a=b?'") "\" 7|a=b?'\"".toList := .str _ (.inr rfl)
  have hl : Text.Blanks "\t".toList := List.forall_mem_singleton.mpr rfl
  have hr : Text.Blanks " ".toList := List.forall_mem_singleton.mpr rfl
  obtain ⟨hread, hplain⟩ := defaults_read_back hnames (by decide) hwritten hl hr
  have htext : Literal.read " it's 'so' ".toList = .ok (.str "it's 'so'") := by cbv
  exact ⟨hwritten, hread, htext, (hplain " it's 'so' ".toList).mp htext⟩

end Shorthand

end ArgumentSchema
