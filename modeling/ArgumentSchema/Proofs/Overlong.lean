import ArgumentSchema.Proofs.Fragments

/-!
# Schemas that are too long to be read

A default in shorthand that is an integer of too many digits cannot be read, and nothing else in a
schema is like it. The first entry that holds one ends the compilation, unless an entry before it is
malformed (`RuleTable.compile_eq_error_iff`):

> `Literal.read_eq_error_iff`: which literals are too long.
> `RuleTable.compile_eq_literal_iff`: which schemas do not compile because they are too long.
-/

namespace ArgumentSchema

/-! ## Literals that are too long -/

namespace Text

theorem cutAt_eq_some_iff {x : Char} {cs before after : List Char} :
    cutAt x cs = (before, some after) ↔ cs = before ++ x :: after ∧ x ∉ before := by
  induction cs generalizing before with
  | nil =>
    constructor
    · intro h
      cases h
    · rintro ⟨h, -⟩
      simp at h
  | cons c cs ih =>
    by_cases hc : c = x
    · subst hc
      rw [cutAt, if_pos rfl]
      constructor
      · intro h
        cases h
        exact ⟨rfl, List.not_mem_nil⟩
      · rintro ⟨h, hnot⟩
        cases before with
        | nil =>
          cases h
          rfl
        | cons b before =>
          obtain ⟨rfl, -⟩ := List.cons.inj h
          exact absurd (List.mem_cons_self ..) hnot
    · rw [cutAt, if_neg hc]
      constructor
      · intro h
        obtain ⟨hbefore, hafter⟩ := Prod.mk.inj h
        obtain ⟨hcs, hnot⟩ := ih.mp (Prod.ext rfl hafter : cutAt x cs = ((cutAt x cs).1, some after))
        rw [← hbefore]
        refine ⟨congrArg (c :: ·) hcs, fun hmem => ?_⟩
        rcases List.mem_cons.mp hmem with rfl | hmem
        · exact hc rfl
        · exact hnot hmem
      · rintro ⟨h, hnot⟩
        cases before with
        | nil =>
          obtain ⟨rfl, -⟩ := List.cons.inj h
          exact absurd rfl hc
        | cons b before =>
          obtain ⟨rfl, hcs⟩ := List.cons.inj h
          rw [ih.mpr ⟨hcs, fun hmem => hnot (List.mem_cons_of_mem _ hmem)⟩]

/-- A text without blanks is a trimmed one. -/
theorem trim_of_not_blank {cs : List Char} (h : ∀ c ∈ cs, isBlank c = false) : trim cs = cs := by
  have hdrop : ∀ ds : List Char, (∀ c ∈ ds, isBlank c = false) → ds.dropWhile isBlank = ds := by
    intro ds hds
    cases ds with
    | nil => rfl
    | cons d ds => exact List.dropWhile_cons_of_neg (by simp [hds d (List.mem_cons_self ..)])
  rw [trim, trimLeft, hdrop cs h, trimRight, hdrop _ fun c hc => h c (List.mem_reverse.mp hc),
    List.reverse_reverse]

end Text

namespace Literal

/-- An integer, with or without a sign and with blanks around it or none, of `n` digits, which are too
many to be read. -/
def Overlong (n : Nat) (cs : List Char) : Prop :=
  ∃ sign ds, Text.trim cs = sign ++ ds ∧ sign ∈ [[], ['-'], ['+']] ∧
    (∀ d ∈ ds, Text.isDigit d = true) ∧ ds.length = n ∧ maxIntegerDigits < n

theorem takeSign_eq (cs : List Char) :
    ∃ sign ∈ [[], ['-'], ['+']], cs = sign ++ (takeSign cs).2 := by
  unfold takeSign
  split
  · exact ⟨['-'], by simp, rfl⟩
  · exact ⟨['+'], by simp, rfl⟩
  · exact ⟨[], by simp, rfl⟩

/-- A sign and digits are an integer. -/
theorem integerDigits?_sign {sign ds : List Char} (hsign : sign ∈ [[], ['-'], ['+']]) (hne : ds ≠ [])
    (hds : ∀ d ∈ ds, Text.isDigit d = true) :
    ∃ negative, integerDigits? (sign ++ ds) = some (negative, ds) := by
  have hall : (!ds.isEmpty && ds.all Text.isDigit) = true := by
    simpa [hne] using hds
  have htake : ∃ negative, takeSign (sign ++ ds) = (negative, ds) := by
    simp only [List.mem_cons, List.not_mem_nil, or_false] at hsign
    rcases hsign with rfl | rfl | rfl
    · cases ds with
      | nil => exact absurd rfl hne
      | cons d ds =>
        -- a digit is no sign
        have hd := hds d (List.mem_cons_self ..)
        refine ⟨false, ?_⟩
        rw [List.nil_append]
        unfold takeSign
        split
        · next h =>
          obtain ⟨rfl, -⟩ := List.cons.inj h
          cases hd
        · next h =>
          obtain ⟨rfl, -⟩ := List.cons.inj h
          cases hd
        · rfl
    · exact ⟨true, rfl⟩
    · exact ⟨false, rfl⟩
  obtain ⟨negative, htake⟩ := htake
  refine ⟨negative, ?_⟩
  rw [integerDigits?, htake]
  exact if_pos hall

theorem of_integerDigits? {cs ds : List Char} {negative : Bool}
    (h : integerDigits? cs = some (negative, ds)) :
    (∃ sign ∈ [[], ['-'], ['+']], cs = sign ++ ds) ∧ ∀ d ∈ ds, Text.isDigit d = true := by
  unfold integerDigits? at h
  dsimp only at h
  split at h
  · next hall =>
    obtain ⟨-, rfl⟩ := Prod.mk.inj (Option.some.inj h)
    rw [Bool.and_eq_true, List.all_eq_true] at hall
    exact ⟨takeSign_eq cs, hall.2⟩
  · cases h

/-- A literal cannot be read exactly if it is an integer of too many digits. -/
theorem read_eq_error_iff {cs : List Char} {n : Nat} : read cs = .error ⟨n⟩ ↔ Overlong n cs := by
  constructor
  · intro h
    unfold read readTrimmed at h
    split at h
    · cases h
    split at h
    · cases h
    split at h
    · cases h
    split at h
    · next negative ds hds =>
      split at h
      · next hlong =>
        cases h
        obtain ⟨⟨sign, hsign, htrim⟩, hdigits⟩ := of_integerDigits? hds
        exact ⟨sign, ds, htrim, hsign, hdigits, rfl, hlong⟩
      · cases h
    · split at h
      · cases h
      · split at h <;> cases h
  · rintro ⟨sign, ds, htrim, hsign, hdigits, rfl, hlong⟩
    -- more digits than can be read are more characters than any of the words has
    have hlength : ∀ word : List Char, word.length ≤ maxIntegerDigits → sign ++ ds ≠ word := by
      rintro word hword rfl
      rw [List.length_append] at hword
      omega
    have hne : ds ≠ [] := by
      rintro rfl
      exact absurd hlong (Nat.not_lt_zero _)
    obtain ⟨negative, hinteger⟩ := integerDigits?_sign hsign hne hdigits
    rw [read, readTrimmed, htrim, if_neg (hlength _ (by decide)), if_neg (hlength _ (by decide)),
      if_neg (not_or.mpr ⟨hlength _ (by decide), hlength _ (by decide)⟩), hinteger]
    exact if_pos hlong

end Literal

/-- A pattern in shorthand whose default is an integer of `n` digits, which are too many to be
read. -/
def Shorthand.Overlong (n : Nat) (text : String) : Prop :=
  ∃ body literal, text.toList = body ++ '=' :: literal ∧ '=' ∉ body ∧
    (Text.trimRight body).getLast? ≠ some '?' ∧ Literal.Overlong n literal

/-- A pattern in shorthand is too long exactly if its default is, whatever stands for its types. -/
theorem Shorthand.read_eq_literal_iff {text : String} {n : Nat} :
    Shorthand.read text = .error (.literal ⟨n⟩) ↔ Overlong n text := by
  unfold Shorthand.read
  generalize hcut : Text.cutAt '=' text.toList = parts
  obtain ⟨body, literal?⟩ := parts
  cases literal? with
  | none =>
    constructor
    · intro h
      dsimp only at h
      generalize typeNames _ = result at h
      cases result <;> cases h
    · rintro ⟨body', literal, htext, hbody, -⟩
      rw [Text.cutAt_eq_some_iff.mpr ⟨htext, hbody⟩] at hcut
      cases hcut
  | some literal =>
    obtain ⟨htext, hbody⟩ := Text.cutAt_eq_some_iff.mp hcut
    have hparts : Overlong n text ↔
        (Text.trimRight body).getLast? ≠ some '?' ∧ Literal.Overlong n literal := by
      refine ⟨?_, fun h => ⟨body, literal, htext, hbody, h⟩⟩
      rintro ⟨body', literal', htext', hbody', h⟩
      rw [Text.cutAt_eq_some_iff.mpr ⟨htext', hbody'⟩] at hcut
      obtain ⟨rfl, hliteral⟩ := Prod.mk.inj hcut
      obtain rfl := Option.some.inj hliteral
      exact h
    rw [hparts, ← Literal.read_eq_error_iff]
    dsimp only
    by_cases hmarked : (Text.trimRight body).getLast? = some '?'
    · rw [if_pos (beq_iff_eq.mpr hmarked)]
      exact ⟨fun h => (by cases h), fun h => absurd hmarked h.1⟩
    · rw [if_neg (by simpa using hmarked)]
      cases hread : Literal.read literal with
      | error e =>
        constructor
        · intro h
          cases h
          exact ⟨hmarked, rfl⟩
        · rintro ⟨-, h⟩
          cases h
          rfl
      | ok v =>
        constructor
        · intro h
          generalize typeNames body = result at h
          cases result <;> cases h
        · rintro ⟨-, h⟩
          cases h

namespace Pattern

variable {registry : Registry} {n : Nat}

/-- A pattern whose default in shorthand is too long: by itself, or as the type of a longhand without
unknown options. -/
inductive Overlong (n : Nat) : Value → Prop where
  | shorthand {text : String} : Shorthand.Overlong n text → Overlong n (.str text)
  | longhand {ordered : Bool} {es : Entries Value} {text : String} :
      (∀ e ∈ es, isLonghandKey e.1 = true) → Value.field? "type" es = some (.str text) →
      Shorthand.Overlong n text → Overlong n (.dict ordered es)

theorem unknownKeys_isEmpty_iff {es : Entries Value} :
    (unknownKeys es).isEmpty = true ↔ ∀ e ∈ es, isLonghandKey e.1 = true := by
  rw [List.isEmpty_iff_length_eq_zero, unknownKeys, List.length_mergeSort, List.length_map,
    List.length_eq_zero_iff, List.filter_eq_nil_iff]
  simp

theorem simple_eq_literal_iff {spec : Value} :
    simple registry spec = .error (.literal ⟨n⟩) ↔
      ∃ text, spec = .str text ∧ Shorthand.Overlong n text := by
  have hother : (∀ text, spec ≠ .str text) → simple registry spec ≠ .error (.literal ⟨n⟩) := by
    intro hspec h
    unfold simple at h
    split at h
    · cases h
    · next text => exact hspec text rfl
    · cases h
    · cases h
    · split at h <;> cases h
    · split at h <;> cases h
    · cases h
  by_cases hspec : ∃ text, spec = .str text
  · obtain ⟨text, rfl⟩ := hspec
    rw [simple, Shorthand.read_eq_literal_iff]
    exact ⟨fun h => ⟨text, rfl, h⟩, fun ⟨text', htext, h⟩ => Value.str.inj htext ▸ h⟩
  · exact ⟨fun h => absurd h (hother fun text htext => hspec ⟨text, htext⟩),
      fun ⟨text, htext, _⟩ => absurd ⟨text, htext⟩ hspec⟩

theorem longhandBase_eq_literal_iff {es : Entries Value} :
    longhandBase registry es = .error (.literal ⟨n⟩) ↔
      ∃ text, Value.field? "type" es = some (.str text) ∧ Shorthand.Overlong n text := by
  unfold longhandBase
  split
  · next hnone =>
    rw [hnone, simple_eq_literal_iff]
    simp
  · next hdict =>
    rw [hdict]
    simp
  · next t _ hsome =>
    rw [hsome, simple_eq_literal_iff]
    simp

/-- Beside its type, a longhand has nothing that could be too long. -/
theorem longhand_eq_literal_iff {es : Entries Value} :
    longhand registry es = .error (.literal ⟨n⟩) ↔ (∀ e ∈ es, isLonghandKey e.1 = true) ∧
      ∃ text, Value.field? "type" es = some (.str text) ∧ Shorthand.Overlong n text := by
  rw [← unknownKeys_isEmpty_iff, ← @longhandBase_eq_literal_iff registry]
  unfold longhand
  dsimp only
  cases (unknownKeys es).isEmpty with
  | false => exact ⟨fun h => (by cases h), fun h => (by cases h.1)⟩
  | true =>
    cases longhandBase registry es with
    | error e =>
      constructor
      · intro h
        cases h
        exact ⟨rfl, rfl⟩
      · rintro ⟨-, h⟩
        cases h
        rfl
    | ok base =>
      refine ⟨fun h => ?_, fun h => (by cases h.2)⟩
      cases hcheck : check? es with
      | error f =>
        rw [hcheck] at h
        cases h
      | ok validate =>
        rw [hcheck] at h
        cases hcatch : callable? es "catch" with
        | error f =>
          rw [hcatch] at h
          cases h
        | ok recovery =>
          rw [hcatch] at h
          cases htransform : callable? es "transform" with
          | error f =>
            rw [htransform] at h
            cases h
          | ok transform =>
            rw [htransform] at h
            cases h

/-- A pattern is too long exactly if its default in shorthand is. -/
theorem read_eq_literal_iff {spec : Value} :
    read registry spec = .error (.literal ⟨n⟩) ↔ Overlong n spec := by
  cases hentries : spec.entries? with
  | some es =>
    obtain ⟨ordered, rfl⟩ := Value.eq_dict_of_entries? hentries
    rw [show read registry (.dict ordered es) = longhand registry es from rfl,
      longhand_eq_literal_iff]
    constructor
    · rintro ⟨hknown, text, htype, hlong⟩
      exact .longhand hknown htype hlong
    · intro h
      cases h with
      | longhand hknown htype hlong => exact ⟨hknown, _, htype, hlong⟩
  | none =>
    have hread : read registry spec = simple registry spec := by
      cases spec <;> first | rfl | cases hentries
    rw [hread, simple_eq_literal_iff]
    constructor
    · rintro ⟨text, rfl, hlong⟩
      exact .shorthand hlong
    · intro h
      cases h with
      | shorthand hlong => exact ⟨_, rfl, hlong⟩
      | longhand => cases hentries

end Pattern

namespace RuleTable

variable {registry : Registry} {o : PathOptions} {n : Nat}

/-- A schema that has an entry with a pattern that is too long: its path can be read, and so can
every entry before it. -/
def Overlong (registry : Registry) (o : PathOptions) (n : Nat) (schema : Value) : Prop :=
  ∃ fs pre text path spec post, fragments schema = .ok fs ∧
    fs.flatten = pre ++ (.str text, spec) :: post ∧
    (∀ e ∈ pre, ∃ read, Reads registry o e read) ∧ Path.split? o text = .ok path ∧
    Pattern.Overlong n spec

theorem readEntry_eq_literal_iff {raw spec : Value} :
    readEntry registry o raw spec = .error (.literal ⟨n⟩) ↔
      (∃ text path, raw = .str text ∧ Path.split? o text = .ok path) ∧ Pattern.Overlong n spec := by
  rw [← @Pattern.read_eq_literal_iff registry]
  have hpath : (∃ path, readPath o raw = .ok path) ↔
      ∃ text path, raw = .str text ∧ Path.split? o text = .ok path :=
    (exists_congr fun _ => readPath_eq_ok_iff).trans exists_comm
  rw [← hpath]
  unfold readEntry
  cases readPath o raw with
  | error e =>
    constructor
    · intro h
      cases h
    · rintro ⟨⟨path, h⟩, -⟩
      cases h
  | ok path =>
    cases Pattern.read registry spec with
    | error e =>
      cases e with
      | fault f =>
        constructor
        · intro h
          cases h
        · rintro ⟨-, h⟩
          cases h
      | literal e =>
        constructor
        · intro h
          cases h
          exact ⟨⟨path, rfl⟩, rfl⟩
        · rintro ⟨-, h⟩
          cases h
          rfl
    | ok c =>
      constructor
      · intro h
        cases h
      · rintro ⟨-, h⟩
        cases h

/-- A schema is too long to be compiled exactly if one of its patterns is, and nothing before it is
malformed. -/
theorem compile_eq_literal_iff {schema : Value} :
    compile registry o schema = .error (.literal ⟨n⟩) ↔ Overlong registry o n schema := by
  constructor
  · intro h
    cases hfs : fragments schema with
    | error f =>
      unfold compile compilation at h
      rw [hfs] at h
      cases h
    | ok fs =>
      obtain ⟨pre, raw, spec, post, hflatten, hpre, herror⟩ := (compile_eq_error_iff hfs).mp h
      obtain ⟨⟨text, path, rfl, hsplit⟩, hlong⟩ := readEntry_eq_literal_iff.mp herror
      exact ⟨fs, pre, text, path, spec, post, hfs, hflatten, hpre, hsplit, hlong⟩
  · rintro ⟨fs, pre, text, path, spec, post, hfs, hflatten, hpre, hsplit, hlong⟩
    exact (compile_eq_error_iff hfs).mpr ⟨pre, .str text, spec, post, hflatten, hpre,
      readEntry_eq_literal_iff.mpr ⟨⟨text, path, rfl, hsplit⟩, hlong⟩⟩

end RuleTable

end ArgumentSchema
