import ArgumentSchema.Proofs.Fragments

/-!
# Paths and their texts

A schema writes the path of a rule as one text, and messages write it back. No text is written in two
ways, whatever the separator and the wildcard are, since the pieces that a text is cut into are joined
again as they were (`Path.write_of_split?`). A path can be read back from its text if its pieces are
not cut at another place: it is so if a character of the separator occurs in none of them.

> `Text.pieces_iff`: the pieces of a text are told by the text and the separator.
> `Path.split?_write`: which paths can be read back.
> `Path.read_written`: which texts are paths, and that reading and writing paths undo each other.

More than one character in a separator is too many for the second half: with `--` between the
segments, the names `a-` and `b` are written `a---b`, which reads as `a` and `-b`.
-/

namespace ArgumentSchema

namespace Text

/-- The pieces of a text between the occurrences of a separator, which are read from the left: joined
with the separator they are the text, and no occurrence begins within one of them. -/
structure Pieces (sep cs : List Char) (pieces : List (List Char)) : Prop where
  joined : join sep pieces = cs
  row : Row sep pieces

/-- A text has one row of pieces. -/
theorem pieces_iff {sep cs : List Char} (hsep : sep ≠ []) {pieces : List (List Char)} :
    Pieces sep cs pieces ↔ splitOn sep cs = pieces := by
  constructor
  · rintro ⟨rfl, hrow⟩
    exact splitOn_join hsep hrow
  · rintro rfl
    exact ⟨join_splitOn sep cs, row_splitOn hsep cs⟩

/-- Pieces are a row if none of them has a certain character of the separator. -/
theorem row_of_foreign {sep : List Char} {x : Char} (hx : x ∈ sep) {pieces : List (List Char)}
    (hne : pieces ≠ []) (hpieces : ∀ p ∈ pieces, x ∉ p) : Row sep pieces := by
  induction pieces with
  | nil => exact absurd rfl hne
  | cons p ps ih =>
    obtain ⟨hp, hps⟩ := List.forall_mem_cons.mp hpieces
    have hclear := clear_of_foreign hx hp
    by_cases hlast : ps = []
    · subst hlast
      exact hclear.alone
    · exact (row_cons hlast).mpr ⟨hclear, ih hlast hps⟩

/-- A text occurs in those that hold it as a piece. -/
theorem occursIn_append (needle pre post : List Char) :
    occursIn needle (pre ++ needle ++ post) = true := by
  induction pre with
  | nil =>
    cases needle with
    | nil => cases post <;> rfl
    | cons c needle =>
      have hafter := afterStart_append (c :: needle) post
      rw [List.cons_append] at hafter
      rw [List.nil_append, List.cons_append, occursIn, hafter]
      rfl
  | cons c pre ih =>
    rw [List.cons_append, List.cons_append, occursIn, ih, Bool.or_true]

end Text

/-- The wildcard does not hold the separator. -/
theorem PathOptions.Valid.wildcard_ne_append {o : PathOptions} (h : o.Valid) (pre post : List Char) :
    o.wildcard.toList ≠ pre ++ o.separator.toList ++ post := by
  intro heq
  have hoccurs := Text.occursIn_append o.separator.toList pre post
  rw [← heq] at hoccurs
  rw [Valid, fault?, hoccurs] at h
  split at h
  · cases h
  · split at h <;> cases h

namespace Path

variable {o : PathOptions}

theorem readSegment_writePiece {segment : Segment}
    (h : ∀ s, segment = .name s → s ≠ o.wildcard) :
    readSegment o (writePiece o (.segment segment)) = segment := by
  cases segment with
  | wildcard => exact if_pos rfl
  | name s =>
    have hne : s.toList ≠ o.wildcard.toList := fun heq => h s rfl (String.toList_injective heq)
    show readSegment o s.toList = .name s
    rw [readSegment, if_neg hne, String.ofList_toList]

/-- A path can be read back from its text if its pieces are a row: they are not cut elsewhere. -/
theorem split?_write (ho : o.Valid) {path : List Segment} (hroot : path.head? ≠ some .wildcard)
    (hnames : ∀ s, .name s ∈ path → s ≠ "" ∧ s ≠ o.wildcard)
    (hrow : Text.Row o.separator.toList (path.map fun segment => writePiece o (.segment segment))) :
    split? o (write o path) = .ok path := by
  have hpieces : Text.splitOn o.separator.toList (write o path).toList =
      path.map fun segment => writePiece o (.segment segment) := by
    rw [write, writePieces, List.map_map, String.toList_ofList]
    exact Text.splitOn_join ho.separator_ne_nil hrow
  have hread : (path.map fun segment => writePiece o (.segment segment)).map (readSegment o) =
      path := by
    rw [List.map_map]
    refine (List.map_congr_left fun segment hmem => ?_).trans (List.map_id _)
    exact readSegment_writePiece fun s hs => (hnames s (hs ▸ hmem)).2
  have hfull : ¬ ((path.map fun segment => writePiece o (.segment segment)).any
      (·.isEmpty)) = true := by
    rw [List.any_eq_true]
    rintro ⟨piece, hpiece, hempty⟩
    obtain ⟨segment, hmem, rfl⟩ := List.mem_map.mp hpiece
    have hnil := List.isEmpty_iff.mp hempty
    cases segment with
    | name s => exact (hnames s hmem).1 (String.toList_injective hnil)
    | wildcard => exact ho.wildcard_ne_nil hnil
  unfold split?
  dsimp only
  rw [hpieces, if_neg hfull, hread, if_neg hroot]

/-- A text is no path exactly if one of its pieces is empty or the first one is the wildcard. -/
theorem split?_eq_error_iff {raw : String} {pieces : List (List Char)}
    (hpieces : Text.splitOn o.separator.toList raw.toList = pieces) :
    (∃ fault, split? o raw = .error fault) ↔
      [] ∈ pieces ∨ pieces.head? = some o.wildcard.toList := by
  have hempty : (pieces.any (·.isEmpty)) = true ↔ [] ∈ pieces := by
    simp
  have hhead : (pieces.map (readSegment o)).head? = some .wildcard ↔
      pieces.head? = some o.wildcard.toList := by
    rw [List.head?_map, Option.map_eq_some_iff]
    constructor
    · rintro ⟨piece, hpiece, hsegment⟩
      unfold readSegment at hsegment
      split at hsegment
      · next heq => rw [hpiece, heq]
      · cases hsegment
    · intro h
      exact ⟨_, h, if_pos rfl⟩
  rw [← hempty, ← hhead]
  unfold split?
  dsimp only
  rw [hpieces]
  constructor
  · rintro ⟨fault, h⟩
    split at h
    · next hany => exact Or.inl hany
    · split at h
      · next hwild => exact Or.inr hwild
      · cases h
  · intro h
    split
    · exact ⟨_, rfl⟩
    · next hany => exact ⟨_, if_pos (h.resolve_left hany)⟩

/-- A text is turned down as a path exactly if one of the pieces between its separators is empty or the
first piece is the wildcard, with an error that carries the text; and any other text is a path that is
written as this text. So no two texts are one path. If the separator is one character, then a path
that starts with a name, and whose names are neither empty nor the wildcard and are without the
separator, is what its text is read as. -/
theorem read_written (ho : o.Valid) :
    (∀ raw : String, ∃ pieces, Text.Pieces o.separator.toList raw.toList pieces ∧
      ((∃ fault, RuleTable.readPath o (.str raw) = .error ⟨.path fault, some raw⟩) ↔
        [] ∈ pieces ∨ pieces.head? = some o.wildcard.toList) ∧
      ((∃ path, RuleTable.readPath o (.str raw) = .ok path ∧ write o path = raw) ↔
        ¬ ([] ∈ pieces ∨ pieces.head? = some o.wildcard.toList))) ∧
    (∀ (raw raw' : String) path, RuleTable.readPath o (.str raw) = .ok path →
      RuleTable.readPath o (.str raw') = .ok path → raw = raw') ∧
    ∀ (c : Char) (path : List Segment), o.separator.toList = [c] → path ≠ [] →
      path.head? ≠ some .wildcard →
      (∀ s, .name s ∈ path → s ≠ "" ∧ s ≠ o.wildcard ∧ c ∉ s.toList) →
      RuleTable.readPath o (.str (write o path)) = .ok path := by
  refine ⟨fun raw => ?_, fun raw raw' path h h' => ?_, fun c path hsep hne hroot hnames => ?_⟩
  · have hpieces := (Text.pieces_iff ho.separator_ne_nil).mpr (Eq.refl (Text.splitOn _ raw.toList))
    refine ⟨_, hpieces, ?_⟩
    rw [← split?_eq_error_iff rfl, RuleTable.readPath]
    cases hsplit : split? o raw with
    | error fault => simp
    | ok path => simp [write_of_split? hsplit]
  · obtain ⟨text, hraw, hsplit⟩ := RuleTable.readPath_eq_ok_iff.mp h
    obtain ⟨text', hraw', hsplit'⟩ := RuleTable.readPath_eq_ok_iff.mp h'
    obtain rfl := Value.str.inj hraw
    obtain rfl := Value.str.inj hraw'
    rw [← write_of_split? hsplit, write_of_split? hsplit']
  · refine RuleTable.readPath_eq_ok_iff.mpr ⟨_, rfl, split?_write ho hroot (fun s hs => ?_) ?_⟩
    · exact ⟨(hnames s hs).1, (hnames s hs).2.1⟩
    · rw [hsep]
      refine Text.row_of_foreign (List.mem_singleton_self c) (by simpa using hne) fun piece hpiece => ?_
      obtain ⟨segment, hmem, rfl⟩ := List.mem_map.mp hpiece
      cases segment with
      | name s => exact (hnames s hmem).2.2
      | wildcard =>
        -- the options exclude a wildcard that holds the separator
        intro hc
        obtain ⟨pre, post, heq⟩ := List.append_of_mem hc
        exact ho.wildcard_ne_append pre post (by rw [hsep, List.append_assoc]; exact heq)

/-- Slashes between the segments and a star for every element, where a name holds the star and
another holds what would be separator and wildcard by default. -/
theorem read_written_slashes :
    let o : PathOptions := ⟨"/", "*"⟩
    let path : List Segment := [.name "items.$", .wildcard, .name "*id"]
    o.Valid ∧ write o path = "items.$/*/*id" ∧
      RuleTable.readPath o (.str "items.$/*/*id") = .ok path := by
  intro o path
  have ho : o.Valid := by decide
  have hwrite : write o path = "items.$/*/*id" := by decide
  refine ⟨ho, hwrite, ?_⟩
  rw [← hwrite]
  refine (read_written ho).2.2 '/' path (by decide) (by decide) (by decide) ?_
  intro s hs
  simp only [path, List.mem_cons, Segment.name.injEq, reduceCtorEq, List.not_mem_nil, or_false,
    false_or] at hs
  rcases hs with rfl | rfl <;> decide

example : write ⟨"--", "$"⟩ [.name "a-", .name "b"] = "a---b" ∧
    split? ⟨"--", "$"⟩ "a---b" = .ok [.name "a", .name "-b"] := by
  constructor <;> cbv

end Path

end ArgumentSchema
