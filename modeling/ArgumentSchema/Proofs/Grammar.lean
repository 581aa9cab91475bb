import ArgumentSchema.Proofs.Overlong
import ArgumentSchema.Proofs.RoundTrip
import ArgumentSchema.Proofs.Steps
import Mathlib.Data.List.TakeWhile

/-!
# The grammar of shorthand

A pattern in shorthand lists type names between bars, with blanks anywhere but inside a name. Behind
them stands a question mark if the field may be left out, or an equals sign and a default, whatever
that is. The first equals sign counts, so that a default may hold everything that means something in
front of it:

> `Shorthand.Declares`: what the part in front of the default declares.
> `Shorthand.typeNames_eq_ok_iff`: the names in a text that lists them.
> `Shorthand.read_eq_ok_iff`: which texts are read, and as what.
> `Shorthand.read_grammar`: every other text is turned down at its path, defaults apart that are too
> long to be read.

A text that lists names has no question mark in it (`Shorthand.Lists.foreign`), so it is told from one
that ends in its mark.
-/

namespace ArgumentSchema

/-! ## Blanks -/

namespace Text

/-- A row of blanks. -/
def Blanks (cs : List Char) : Prop := ∀ c ∈ cs, isBlank c = true

theorem cutAt_eq_none_iff {x : Char} {cs before : List Char} :
    cutAt x cs = (before, none) ↔ cs = before ∧ x ∉ cs := by
  induction cs generalizing before with
  | nil => simp [cutAt, eq_comm]
  | cons c cs ih =>
    by_cases hc : c = x
    · simp [cutAt, hc]
    · rw [cutAt, if_neg hc]
      constructor
      · intro h
        obtain ⟨hbefore, hafter⟩ := Prod.mk.inj h
        obtain ⟨hcs, hnot⟩ := ih.mp (Prod.ext rfl hafter : cutAt x cs = ((cutAt x cs).1, none))
        refine ⟨(congrArg (c :: ·) hcs).trans hbefore, fun hmem => ?_⟩
        rcases List.mem_cons.mp hmem with rfl | hmem
        · exact hc rfl
        · exact hnot hmem
      · rintro ⟨rfl, hnot⟩
        rw [ih.mpr ⟨rfl, fun hmem => hnot (List.mem_cons_of_mem _ hmem)⟩]

theorem trimLeft_eq_nil_iff {cs : List Char} : trimLeft cs = [] ↔ Blanks cs := by
  rw [trimLeft, List.dropWhile_eq_nil_iff]
  rfl

theorem trimRight_append_blanks {r : List Char} (hr : Blanks r) (cs : List Char) :
    trimRight (cs ++ r) = trimRight cs := by
  have hreverse : ∀ c ∈ r.reverse, isBlank c = true := fun c hc => hr c (List.mem_reverse.mp hc)
  rw [trimRight, List.reverse_append, List.dropWhile_append_of_pos hreverse, trimRight]

/-- Blanks at the ends do not count. -/
theorem trim_padded {l r : List Char} (hl : Blanks l) (hr : Blanks r) (cs : List Char) :
    trim (l ++ cs ++ r) = trim cs := by
  have hleft : trimLeft (l ++ cs ++ r) = trimLeft (cs ++ r) := by
    rw [List.append_assoc, trimLeft, List.dropWhile_append_of_pos hl, trimLeft]
  rw [trim, hleft, trim, trimLeft, List.dropWhile_append]
  split
  · next hempty =>
    have hcs : cs.dropWhile isBlank = [] := List.isEmpty_iff.mp hempty
    rw [trimLeft, hcs, List.dropWhile_eq_nil_iff.mpr hr]
  · exact trimRight_append_blanks hr _

theorem exists_trimRight (cs : List Char) : ∃ r, Blanks r ∧ cs = trimRight cs ++ r := by
  refine ⟨(cs.reverse.takeWhile isBlank).reverse, fun c hc => ?_, ?_⟩
  · exact List.mem_takeWhile_imp (List.mem_reverse.mp hc)
  · rw [trimRight, ← List.reverse_append, List.takeWhile_append_dropWhile, List.reverse_reverse]

/-- A text is its trimmed one with blanks about it. -/
theorem exists_trim (cs : List Char) : ∃ l r, Blanks l ∧ Blanks r ∧ cs = l ++ trim cs ++ r := by
  obtain ⟨r, hr, hcs⟩ := exists_trimRight (trimLeft cs)
  refine ⟨cs.takeWhile isBlank, r, fun c hc => List.mem_takeWhile_imp hc, hr, ?_⟩
  rw [List.append_assoc, trim, ← hcs, trimLeft, List.takeWhile_append_dropWhile]

theorem trim_eq_nil_iff {cs : List Char} : trim cs = [] ↔ Blanks cs := by
  constructor
  · intro h
    obtain ⟨l, r, hl, hr, hcs⟩ := exists_trim cs
    rw [h, List.append_nil] at hcs
    rw [hcs]
    exact List.forall_mem_append.mpr ⟨hl, hr⟩
  · intro h
    rw [trim, trimLeft_eq_nil_iff.mpr h]
    rfl

/-- The characters of a text are blanks and those that trimming leaves. -/
theorem mem_trim {cs : List Char} {c : Char} (hc : c ∈ cs) (hink : isBlank c = false) :
    c ∈ trim cs := by
  obtain ⟨l, r, hl, hr, hcs⟩ := exists_trim cs
  rw [hcs, List.mem_append, List.mem_append] at hc
  rcases hc with (hc | hc) | hc
  · rw [hl c hc] at hink
    cases hink
  · exact hc
  · rw [hr c hc] at hink
    cases hink

theorem mem_join {sep : List Char} {c : Char} {ps : List (List Char)} (h : c ∈ join sep ps) :
    c ∈ sep ∨ ∃ p ∈ ps, c ∈ p := by
  induction ps with
  | nil => cases h
  | cons p ps ih =>
    by_cases hps : ps = []
    · subst hps
      exact .inr ⟨p, List.mem_singleton_self p, h⟩
    · rw [join_cons _ _ hps, List.mem_append, List.mem_append] at h
      rcases h with (h | h) | h
      · exact .inr ⟨p, List.mem_cons_self .., h⟩
      · exact .inl h
      · exact (ih h).imp_right fun ⟨q, hq, hc⟩ => ⟨q, List.mem_cons_of_mem _ hq, hc⟩

end Text

namespace Shorthand

/-! ## Names between bars -/

/-- A type name: a letter of ASCII or a low line, and behind it word characters and hyphens. -/
inductive Name : List Char → Prop where
  | intro {c : Char} {cs : List Char} : (Text.isAsciiLetter c = true ∨ c = '_') →
      (∀ d ∈ cs, Text.isWord d = true ∨ d = '-') → Name (c :: cs)

theorem isTypeName_iff {cs : List Char} : isTypeName cs = true ↔ Name cs := by
  cases cs with
  | nil => exact ⟨fun h => (by cases h), fun h => (by cases h)⟩
  | cons c cs =>
    rw [isTypeName, Bool.and_eq_true, Bool.or_eq_true, beq_iff_eq, List.all_eq_true]
    simp only [Bool.or_eq_true, beq_iff_eq]
    refine ⟨fun h => .intro h.1 h.2, fun h => ?_⟩
    cases h with
    | intro hfirst hrest => exact ⟨hfirst, hrest⟩

/-- The alternatives that a text lists: none if it is blank, and otherwise what stands between bars,
without the blanks about it. All of these are names, of which each counts once. -/
inductive Lists : List Char → List String → Prop where
  | blank {body : List Char} : Text.Blanks body → Lists body []
  | names {pieces : List (List Char)} : pieces ≠ [] → (∀ p ∈ pieces, Name (Text.trim p)) →
      Lists (Text.join ['|'] pieces) (pieces.map fun p => String.ofList (Text.trim p)).eraseDups

/-- A character that is neither a blank nor a bar nor part of a name. -/
structure Foreign (c : Char) : Prop where
  ink : Text.isBlank c = false
  bar : c ≠ '|'
  letter : Text.isWord c = false
  hyphen : c ≠ '-'

theorem foreign_question : Foreign '?' := ⟨rfl, by decide, rfl, by decide⟩

theorem foreign_equals : Foreign '=' := ⟨rfl, by decide, rfl, by decide⟩

variable {body : List Char} {types : List String}

theorem isWord_of_first {c : Char} (h : Text.isAsciiLetter c = true ∨ c = '_') :
    Text.isWord c = true := by
  rcases h with h | rfl
  · have hascii : c.toNat < 128 := by
      simp only [Text.isAsciiLetter, Bool.or_eq_true, Bool.and_eq_true, decide_eq_true_eq] at h
      omega
    rw [Text.isWord, if_pos hascii, Text.isAsciiWord, h]
    rfl
  · rfl

theorem Name.isWord_or_hyphen {cs : List Char} (h : Name cs) :
    ∀ c ∈ cs, Text.isWord c = true ∨ c = '-' := by
  cases h with
  | intro hfirst hrest => exact List.forall_mem_cons.mpr ⟨.inl (isWord_of_first hfirst), hrest⟩

theorem Lists.foreign {c : Char} (h : Lists body types) (hc : Foreign c) : c ∉ body := by
  intro hmem
  cases h with
  | blank hblank => exact Bool.false_ne_true (hc.ink.symm.trans (hblank c hmem))
  | names _ hnames =>
    rcases Text.mem_join hmem with hbar | ⟨p, hp, hcp⟩
    · exact hc.bar (List.mem_singleton.mp hbar)
    · rcases (hnames p hp).isWord_or_hyphen c (Text.mem_trim hcp hc.ink) with hword | hhyphen
      · exact Bool.false_ne_true (hc.letter.symm.trans hword)
      · exact hc.hyphen hhyphen

/-- Where there is a name between bars, the text is not blank. -/
theorem Name.not_blank {pieces : List (List Char)} (hne : pieces ≠ [])
    (hnames : ∀ p ∈ pieces, Name (Text.trim p)) : ¬ Text.Blanks (Text.join ['|'] pieces) := by
  intro hblank
  obtain ⟨p, ps, rfl⟩ := List.exists_cons_of_ne_nil hne
  have hp := hnames p (List.mem_cons_self ..)
  have hpblank : Text.Blanks p := by
    intro c hc
    refine hblank c ?_
    cases ps with
    | nil => exact hc
    | cons q qs => exact List.mem_append_left _ (List.mem_append_left _ hc)
  rw [Text.trim_eq_nil_iff.mpr hpblank] at hp
  cases hp

/-- The bars between names are all the bars there are. -/
theorem Name.splitOn_join {pieces : List (List Char)} (hne : pieces ≠ [])
    (hnames : ∀ p ∈ pieces, Name (Text.trim p)) :
    Text.splitOn ['|'] (Text.join ['|'] pieces) = pieces := by
  have hbars : ∀ p ∈ pieces, '|' ∉ p := by
    intro p hp hbar
    rcases (hnames p hp).isWord_or_hyphen _ (Text.mem_trim hbar rfl) with hword | hhyphen
    · cases hword
    · exact absurd hhyphen (by decide)
  exact Text.splitOn_join (List.cons_ne_nil _ _)
    (Text.row_of_foreign (List.mem_singleton_self _) hne hbars)

theorem firstInvalid?_eq_none_iff {names : List (List Char)} :
    firstInvalid? names = none ↔ ∀ n ∈ names, Name n := by
  simp only [firstInvalid?, List.find?_eq_none, Bool.not_eq_true', Bool.not_eq_false, isTypeName_iff]

/-- The names in a text are read exactly if it lists them. -/
theorem typeNames_eq_ok_iff : typeNames body = .ok types ↔ Lists body types := by
  unfold typeNames
  by_cases hblank : Text.Blanks body
  · rw [Text.trim_eq_nil_iff.mpr hblank]
    constructor
    · intro h
      cases h
      exact .blank hblank
    · rintro (_ | ⟨hne, hnames⟩)
      · rfl
      · exact absurd hblank (Name.not_blank hne hnames)
  · have hfull : (Text.trim body).isEmpty = false := by
      rw [List.isEmpty_eq_false_iff]
      exact fun h => hblank (Text.trim_eq_nil_iff.mp h)
    rw [hfull, if_neg Bool.false_ne_true]
    dsimp only
    constructor
    · intro h
      split at h
      · cases h
      · next hvalid =>
        cases h
        have hnames := List.forall_mem_map.mp (firstInvalid?_eq_none_iff.mp hvalid)
        have hne : Text.splitOn ['|'] body ≠ [] := Text.splitAux_ne_nil '|' [] [] body
        have hlists := Lists.names hne hnames
        rw [Text.join_splitOn] at hlists
        rw [List.map_map]
        exact hlists
    · rintro (hbody | ⟨hne, hnames⟩)
      · exact absurd hbody hblank
      · rw [Name.splitOn_join hne hnames,
          firstInvalid?_eq_none_iff.mpr (List.forall_mem_map.mpr hnames), List.map_map]
        rfl

/-! ## Modifiers -/

/-- What the part in front of a default declares, or the whole text if there is no default: names, and
whether the field may be left out, which a question mark at the end says. Beside a default there is no
such mark. -/
inductive Declares (defaulted : Bool) : List Char → List String → Bool → Prop where
  | plain {body : List Char} {types : List String} :
      Lists body types → Declares defaulted body types false
  | marked {body blanks : List Char} {types : List String} : defaulted = false →
      Lists body types → Text.Blanks blanks → Declares defaulted (body ++ '?' :: blanks) types true

/-- The text behind the first equals sign, in front of which a part of the text ends. -/
structure Cut (text body : List Char) (literal? : Option (List Char)) : Prop where
  joined : text = body ++ literal?.elim [] ('=' :: ·)
  first : '=' ∉ body

theorem cut_iff {text body : List Char} {literal? : Option (List Char)} :
    Cut text body literal? ↔ Text.cutAt '=' text = (body, literal?) := by
  cases literal? with
  | none =>
    rw [Text.cutAt_eq_none_iff]
    refine ⟨fun h => ⟨?_, ?_⟩, fun ⟨hbody, hfirst⟩ => ⟨?_, ?_⟩⟩
    · simpa using h.joined
    · simpa [h.joined] using h.first
    · simpa using hbody
    · exact hbody ▸ hfirst
  | some literal =>
    rw [Text.cutAt_eq_some_iff]
    exact ⟨fun h => ⟨h.joined, h.first⟩, fun ⟨hbody, hfirst⟩ => ⟨hbody, hfirst⟩⟩

theorem trimRight_marked {blanks : List Char} (hblanks : Text.Blanks blanks) (inner : List Char) :
    Text.trimRight (inner ++ '?' :: blanks) = inner ++ ['?'] := by
  have hsplit : inner ++ '?' :: blanks = inner ++ ['?'] ++ blanks := by simp
  rw [hsplit, Text.trimRight_append_blanks hblanks, Text.trimRight, List.reverse_concat,
    List.dropWhile_cons_of_neg (by decide), List.reverse_cons, List.reverse_reverse]

theorem exists_of_marked (h : (Text.trimRight body).getLast? = some '?') :
    ∃ blanks, Text.Blanks blanks ∧ body = (Text.trimRight body).dropLast ++ '?' :: blanks := by
  obtain ⟨blanks, hblanks, hbody⟩ := Text.exists_trimRight body
  obtain ⟨inner, hinner⟩ := List.getLast?_eq_some_iff.mp h
  refine ⟨blanks, hblanks, hbody.trans ?_⟩
  rw [hinner, List.dropLast_concat, List.append_assoc]
  rfl

/-- No text that lists names ends in a mark. -/
theorem Lists.not_marked (h : Lists body types) : (Text.trimRight body).getLast? ≠ some '?' := by
  intro hmarked
  obtain ⟨blanks, -, hbody⟩ := exists_of_marked hmarked
  refine h.foreign foreign_question ?_
  rw [hbody]
  exact List.mem_append_right _ (List.mem_cons_self ..)

/-- What a part declares, told by the mark at its end. -/
theorem declares_iff {defaulted optional : Bool} :
    Declares defaulted body types optional ↔
      if (Text.trimRight body).getLast? = some '?' then
        defaulted = false ∧ optional = true ∧ Lists (Text.trimRight body).dropLast types
      else optional = false ∧ Lists body types := by
  split
  · next hmarked =>
    constructor
    · rintro (hlists | ⟨hnone, hlists, hblanks⟩)
      · exact absurd hmarked hlists.not_marked
      · rw [trimRight_marked hblanks, List.dropLast_concat]
        exact ⟨hnone, rfl, hlists⟩
    · rintro ⟨hnone, rfl, hlists⟩
      obtain ⟨blanks, hblanks, hbody⟩ := exists_of_marked hmarked
      rw [hbody]
      exact .marked hnone hlists hblanks
  · next hplain =>
    constructor
    · rintro (hlists | ⟨-, hlists, hblanks⟩)
      · exact ⟨rfl, hlists⟩
      · refine absurd ?_ hplain
        rw [trimRight_marked hblanks]
        exact List.getLast?_concat
    · rintro ⟨rfl, hlists⟩
      exact .plain hlists

section Read

variable {text : String} {c : Contract}

theorem read_eq_ok_of_none (hcut : Cut text.toList body none) :
    read text = .ok c ↔ ∃ types optional, Declares false body types optional ∧
      c = { Contract.ofTypes types with optional } := by
  rw [read, cut_iff.mp hcut]
  simp only [declares_iff, ← typeNames_eq_ok_iff, Attempt.bind_eq_ok_iff,
    Attempt.mapError_eq_ok_iff]
  by_cases hmarked : (Text.trimRight body).getLast? = some '?'
  · simp only [hmarked, beq_self_eq_true, if_true, true_and]
    constructor
    · rintro ⟨types, htypes, hc⟩
      exact ⟨types, true, ⟨rfl, htypes⟩, (Except.ok.inj hc).symm⟩
    · rintro ⟨types, _, ⟨rfl, htypes⟩, rfl⟩
      exact ⟨types, htypes, rfl⟩
  · simp only [hmarked, beq_eq_false_iff_ne.mpr hmarked, Bool.false_eq_true, if_false]
    constructor
    · rintro ⟨types, htypes, hc⟩
      exact ⟨types, false, ⟨rfl, htypes⟩, (Except.ok.inj hc).symm⟩
    · rintro ⟨types, _, ⟨rfl, htypes⟩, rfl⟩
      exact ⟨types, htypes, rfl⟩

theorem read_eq_ok_of_some {literal : List Char} (hcut : Cut text.toList body (some literal)) :
    read text = .ok c ↔ ∃ types optional, Declares true body types optional ∧
      ∃ v, Literal.read literal = .ok v ∧
        c = { Contract.ofTypes types with default := some v, optional } := by
  rw [read, cut_iff.mp hcut]
  simp only [declares_iff, ← typeNames_eq_ok_iff]
  by_cases hmarked : (Text.trimRight body).getLast? = some '?'
  · simp only [hmarked, beq_self_eq_true, if_true]
    exact ⟨fun h => (by cases h), fun ⟨_, _, ⟨h, _⟩, _⟩ => (by cases h)⟩
  · simp only [hmarked, beq_eq_false_iff_ne.mpr hmarked, Bool.false_eq_true, if_false,
      Attempt.bind_eq_ok_iff, Attempt.mapError_eq_ok_iff]
    constructor
    · rintro ⟨v, hv, types, htypes, hc⟩
      exact ⟨types, false, ⟨rfl, htypes⟩, v, hv, (Except.ok.inj hc).symm⟩
    · rintro ⟨types, _, ⟨rfl, htypes⟩, v, hv, rfl⟩
      exact ⟨v, hv, types, htypes, rfl⟩

/-- What a text in shorthand is read as: what the part in front of its default declares, and the
default. -/
theorem read_eq_ok_iff {literal? : Option (List Char)} (hcut : Cut text.toList body literal?) :
    read text = .ok c ↔ ∃ types optional, Declares literal?.isSome body types optional ∧
      ∃ default, literal?.map Literal.read = default.map .ok ∧
        c = { Contract.ofTypes types with default, optional } := by
  cases literal? with
  | none =>
    rw [read_eq_ok_of_none hcut]
    refine exists_congr fun types => exists_congr fun optional => and_congr_right fun _ => ?_
    constructor
    · rintro rfl
      exact ⟨none, rfl, rfl⟩
    · rintro ⟨_ | v, hdefault, rfl⟩
      · rfl
      · cases hdefault
  | some literal =>
    rw [read_eq_ok_of_some hcut]
    refine exists_congr fun types => exists_congr fun optional => and_congr_right fun _ => ?_
    constructor
    · rintro ⟨v, hv, rfl⟩
      exact ⟨some v, congrArg some hv, rfl⟩
    · rintro ⟨_ | v, hdefault, rfl⟩
      · cases hdefault
      · exact ⟨v, Option.some.inj hdefault, rfl⟩

/-- A text in shorthand is read exactly if the part in front of its default, which is not too long to
be read, declares something: blanks or names between bars, and then a question mark only if there is
no default. Every other text is malformed, at the path that it was given for. What is read has the
names that are declared, may be left out exactly if the mark says so, and has a default exactly if
the text has one: what this literal is read as. So it never has both, and nothing else. -/
theorem read_grammar {text : String} {body : List Char} {literal? : Option (List Char)}
    (hcut : Cut text.toList body literal?)
    (hshort : ∀ literal, literal? = some literal → ∀ n, ¬ Literal.Overlong n literal)
    (path : Option String) :
    ((∃ c, read text = .ok c) ↔ ∃ types optional, Declares literal?.isSome body types optional) ∧
    ((¬ ∃ types optional, Declares literal?.isSome body types optional) →
      ∃ fault, (read text).mapError (·.at path) = .error (.schema ⟨fault, path⟩)) ∧
    ∀ c, read text = .ok c → Declares literal?.isSome body c.types c.optional ∧
      literal?.map Literal.read = c.default.map .ok ∧
      ¬ (c.optional = true ∧ c.default.isSome = true) ∧ c.Present ∧
      c = { Contract.ofTypes c.types with default := c.default, optional := c.optional } := by
  have hiff : (∃ c, read text = .ok c) ↔
      ∃ types optional, Declares literal?.isSome body types optional := by
    simp only [read_eq_ok_iff hcut]
    constructor
    · rintro ⟨c, types, optional, hdeclares, -⟩
      exact ⟨types, optional, hdeclares⟩
    · rintro ⟨types, optional, hdeclares⟩
      cases literal? with
      | none => exact ⟨_, types, optional, hdeclares, none, rfl, rfl⟩
      | some literal =>
        cases hv : Literal.read literal with
        | ok v => exact ⟨_, types, optional, hdeclares, some v, congrArg some hv, rfl⟩
        | error e => exact absurd (Literal.read_eq_error_iff.mp hv) (hshort literal rfl e.count)
  refine ⟨hiff, fun hnone => ?_, fun c hc => ?_⟩
  · cases hread : read text with
    | ok c => exact absurd (hiff.mp ⟨c, hread⟩) hnone
    | error e =>
      cases e with
      | fault fault => exact ⟨fault, rfl⟩
      | literal e =>
        -- only a default can be too long
        obtain ⟨body', literal, htext, hbody', -, hlong⟩ := read_eq_literal_iff.mp hread
        have hsame := (cut_iff.mp hcut).symm.trans (Text.cutAt_eq_some_iff.mpr ⟨htext, hbody'⟩)
        exact absurd hlong (hshort literal (Prod.mk.inj hsame).2 e.count)
  · have hpresent := read_present hc
    obtain ⟨types, optional, hdeclares, default, hdefault, rfl⟩ := (read_eq_ok_iff hcut).mp hc
    refine ⟨hdeclares, hdefault, ?_, hpresent, rfl⟩
    rintro ⟨rfl, hsome⟩
    cases hdeclares with
    | marked hnone =>
      -- a mark is read only where there is no default
      cases literal? with
      | some literal => cases hnone
      | none =>
        cases default with
        | none => cases hsome
        | some v => cases hdefault

end Read

/-- Blanks about the names, a name that is given twice, and a default with characters that mean
something in front of it; and a mark that does not stand at the end. -/
theorem read_grammar_padded :
    Cut " tag| x-1 |tag= 'a=b?' ".toList " tag| x-1 |tag".toList (some " 'a=b?' ".toList) ∧
      (∀ n, ¬ Literal.Overlong n " 'a=b?' ".toList) ∧
      (∃ c, read " tag| x-1 |tag= 'a=b?' " = .ok c ∧
        Declares true " tag| x-1 |tag".toList c.types c.optional ∧
        c.default = some (.str "a=b?")) ∧
      Cut "tag?|x-1".toList "tag?|x-1".toList none ∧
      ∃ fault, (read "tag?|x-1").mapError (·.at (some "a.b")) =
        .error (.schema ⟨fault, some "a.b"⟩) := by
  have hcut : Cut " tag| x-1 |tag= 'a=b?' ".toList " tag| x-1 |tag".toList
      (some " 'a=b?' ".toList) := cut_iff.mpr (by cbv)
  have hliteral : Literal.read " 'a=b?' ".toList = .ok (.str "a=b?") := by cbv
  have hshort : ∀ n, ¬ Literal.Overlong n " 'a=b?' ".toList := by
    intro n hlong
    cases hliteral.symm.trans (Literal.read_eq_error_iff.mpr hlong)
  have hnames : typeNames " tag| x-1 |tag".toList = .ok ["tag", "x-1"] := by cbv
  have hbad : read "tag?|x-1" = .error (.fault (.invalidTypeName "tag?")) := by cbv
  have hcut' : Cut "tag?|x-1".toList "tag?|x-1".toList none := cut_iff.mpr (by cbv)
  generalize " tag| x-1 |tag= 'a=b?' " = text, " tag| x-1 |tag".toList = body,
    " 'a=b?' ".toList = literal, "tag?|x-1" = text' at *
  obtain ⟨hiff, -, hread⟩ := read_grammar hcut (by rintro _ ⟨⟩; exact hshort) none
  obtain ⟨c, hc⟩ := hiff.mpr ⟨_, _, .plain (typeNames_eq_ok_iff.mp hnames)⟩
  obtain ⟨hdeclares, hdefault, -⟩ := hread c hc
  have hvalue : c.default = some (.str "a=b?") := by
    cases hd : c.default with
    | none =>
      rw [hd] at hdefault
      cases hdefault
    | some v =>
      rw [hd] at hdefault
      exact congrArg some (Except.ok.inj ((Option.some.inj hdefault).symm.trans hliteral))
  -- the mark in the middle is part of no name
  obtain ⟨hiff', herror, -⟩ := read_grammar hcut' (by rintro _ ⟨⟩) (some "a.b")
  refine ⟨hcut, hshort, ⟨c, hc, hdeclares, hvalue⟩, hcut', herror fun h => ?_⟩
  obtain ⟨c', hc'⟩ := hiff'.mpr h
  cases hbad.symm.trans hc'

end Shorthand

end ArgumentSchema
