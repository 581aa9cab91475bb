import ArgumentSchema.Text.Split
import Mathlib.Data.List.Infix

/-!
# Rows of pieces

Pieces that were joined with a separator come apart again where they were joined, unless the
separator can be read too early: at a place within a piece, be it that it runs on into the
separator that follows. A piece is `Clear` before a text if no occurrence of the separator begins
within the piece, and pieces are a `Row` if each is clear before what comes next.

> `row_splitOn`: what a text is split into is a row.
> `splitOn_join`: and a row is what its join is split into.

A separator that repeats itself could still begin within a piece that it ends in. It does so only if
all its characters occur in the piece (`clear_of_foreign`).
-/

namespace ArgumentSchema.Text

/-- The separator begins nowhere within a piece that is followed by a text. -/
def Clear (sep behind : List Char) : List Char → Prop
  | [] => True
  | c :: p => ¬ sep <+: c :: p ++ behind ∧ Clear sep behind p

/-- Each piece is clear before the separator, and the last one before the end. -/
def Row (sep : List Char) : List (List Char) → Prop
  | [] => False
  | [p] => Clear sep [] p
  | p :: q :: ps => Clear sep sep p ∧ Row sep (q :: ps)

theorem row_cons {sep p : List Char} {ps : List (List Char)} (hps : ps ≠ []) :
    Row sep (p :: ps) ↔ Clear sep sep p ∧ Row sep ps := by
  cases ps with
  | nil => exact absurd rfl hps
  | cons q ps => rfl

theorem afterStart_append (sep r : List Char) : afterStart sep (sep ++ r) = some r := by
  induction sep with
  | nil => cases r <;> rfl
  | cons s sep ih => simp only [List.cons_append, afterStart, if_true, ih]

theorem afterStart_eq_none {sep cs : List Char} : afterStart sep cs = none ↔ ¬ sep <+: cs := by
  constructor
  · rintro h ⟨r, rfl⟩
    rw [afterStart_append] at h
    cases h
  · intro h
    cases hafter : afterStart sep cs with
    | none => rfl
    | some r => exact absurd ⟨r, (afterStart_eq_some hafter).symm⟩ h

section Clear

variable {sep behind behind' p q : List Char}

theorem Clear.shorten (h : Clear sep (behind ++ behind') p) : Clear sep behind p := by
  induction p with
  | nil => trivial
  | cons c p ih =>
    refine ⟨fun hsep => h.1 ?_, ih h.2⟩
    rw [← List.append_assoc]
    exact hsep.trans (List.prefix_append ..)

theorem Clear.alone (h : Clear sep behind p) : Clear sep [] p :=
  @Clear.shorten sep [] behind p h

/-- A separator that fits behind the piece is not read before it, whatever comes after. -/
theorem Clear.lengthen (h : Clear sep sep p) (r : List Char) : Clear sep (sep ++ r) p := by
  induction p with
  | nil => trivial
  | cons c p ih =>
    refine ⟨fun hsep => h.1 ?_, ih h.2⟩
    rw [← List.append_assoc] at hsep
    refine List.prefix_of_prefix_length_le hsep (List.prefix_append ..) ?_
    rw [List.length_append]
    omega

theorem Clear.snoc {c : Char} (h : Clear sep (c :: behind) p) (hc : ¬ sep <+: c :: behind) :
    Clear sep behind (p ++ [c]) := by
  induction p with
  | nil => exact ⟨hc, trivial⟩
  | cons d p ih =>
    refine ⟨fun hsep => h.1 ?_, ih h.2⟩
    have hassoc : d :: (p ++ [c]) ++ behind = d :: p ++ c :: behind := by simp
    rwa [← hassoc]

theorem Clear.drop (h : Clear sep behind (p ++ q)) : Clear sep behind q := by
  induction p with
  | nil => exact h
  | cons c p ih => exact ih h.2

/-- The separator does not occur in a piece that is clear before the end. -/
theorem Clear.ne_append (hsep : sep ≠ []) (h : Clear sep [] p) (r : List Char) :
    p ≠ q ++ sep ++ r := by
  rintro rfl
  rw [List.append_assoc] at h
  have hrest := h.drop
  cases sep with
  | nil => exact hsep rfl
  | cons s sep =>
    refine hrest.1 ?_
    rw [List.append_nil]
    exact List.prefix_append ..

/-- Pieces that are clear before the separator end where it begins. -/
theorem Clear.cancel {r r' : List Char} (hp : Clear sep sep p) (hq : Clear sep sep q)
    (h : p ++ sep ++ r = q ++ sep ++ r') : p = q ∧ r = r' := by
  -- of two pieces of which one ended earlier, the other would hold the separator
  have early : ∀ {c : Char} {q r r' : List Char}, Clear sep sep (c :: q) →
      sep ++ r ≠ c :: q ++ sep ++ r' := by
    intro c q r r' hq heq
    have hwhole : c :: q ++ sep <+: sep ++ r := by
      rw [heq]
      exact List.prefix_append ..
    refine hq.1 (List.prefix_of_prefix_length_le (List.prefix_append ..) hwhole ?_)
    rw [List.length_append]
    omega
  induction p generalizing q with
  | nil =>
    cases q with
    | nil => exact ⟨rfl, List.append_cancel_left h⟩
    | cons d q => exact absurd h (early hq)
  | cons c p ih =>
    cases q with
    | nil => exact absurd h.symm (early hp)
    | cons d q =>
      rw [List.cons_append, List.cons_append, List.cons_append, List.cons_append] at h
      obtain ⟨rfl, htail⟩ := List.cons.inj h
      obtain ⟨rfl, hr⟩ := ih hp.2 hq.2 htail
      exact ⟨rfl, hr⟩

/-- The beginnings of a text that starts with a piece and goes on like itself have the characters of
the piece. -/
theorem mem_of_prefix_append {x : Char} (hp : p ≠ []) :
    ∀ (n : Nat) (t : List Char), t.length ≤ n → t <+: p ++ t → x ∈ t → x ∈ p := by
  intro n
  induction n with
  | zero =>
    intro t hn _ hx
    rw [List.length_eq_zero_iff.mp (Nat.le_zero.mp hn)] at hx
    cases hx
  | succ n ih =>
    intro t hn ht hx
    -- a short text begins the piece; a long one begins with it, and its rest is shorter
    rcases Nat.le_total t.length p.length with hle | hle
    · exact (List.prefix_of_prefix_length_le ht (List.prefix_append ..) hle).subset hx
    · obtain ⟨u, rfl⟩ := List.prefix_of_prefix_length_le (List.prefix_append ..) ht hle
      rcases List.mem_append.mp hx with hx | hx
      · exact hx
      · have hlength := List.length_pos_of_ne_nil hp
        rw [List.length_append] at hn
        refine ih u (by omega) ?_ hx
        have hu := (List.prefix_append_right_inj p).mp ht
        exact hu

/-- A separator with a character that a piece does not have is not read within it. -/
theorem clear_of_foreign {x : Char} (hx : x ∈ sep) (hp : x ∉ p) : Clear sep sep p := by
  induction p with
  | nil => trivial
  | cons c p ih =>
    refine ⟨fun hsep => hp ?_, ih fun hmem => hp (List.mem_cons_of_mem _ hmem)⟩
    exact mem_of_prefix_append (List.cons_ne_nil _ _) _ sep (Nat.le_refl _) hsep hx

end Clear

/-! ## Splitting and joining -/

section Split

variable {s : Char} {ss : List Char}

theorem splitAux_cons {c : Char} {piece rest : List Char} (h : ¬ s :: ss <+: c :: rest) :
    splitAux s ss piece (c :: rest) = splitAux s ss (c :: piece) rest := by
  rw [splitAux]
  split
  · next after hafter =>
    rw [afterStart_eq_none.mpr h] at hafter
    cases hafter
  · rfl

theorem splitAux_separator (piece r : List Char) :
    splitAux s ss piece (s :: ss ++ r) = piece.reverse :: splitAux s ss [] r := by
  rw [List.cons_append, splitAux]
  have hsep := afterStart_append (s :: ss) r
  rw [List.cons_append] at hsep
  split
  · next after hafter =>
    rw [hsep] at hafter
    obtain rfl := Option.some.inj hafter
    rfl
  · next hafter =>
    rw [hsep] at hafter
    cases hafter

/-- A clear piece goes into the current one as a whole. -/
theorem splitAux_clear {p behind : List Char} (h : Clear (s :: ss) behind p) (piece : List Char) :
    splitAux s ss piece (p ++ behind) = splitAux s ss (p.reverse ++ piece) behind := by
  induction p generalizing piece with
  | nil => rfl
  | cons c p ih =>
    have hsep : ¬ s :: ss <+: c :: (p ++ behind) := h.1
    rw [List.cons_append, splitAux_cons hsep, ih h.2, List.reverse_cons, List.append_assoc]
    rfl

theorem row_splitAux (s : Char) (ss piece cs : List Char) (h : Clear (s :: ss) cs piece.reverse) :
    Row (s :: ss) (splitAux s ss piece cs) := by
  fun_induction splitAux s ss piece cs with
  | case1 piece => exact h
  | case2 piece c rest after hafter ih =>
    rw [afterStart_eq_some hafter] at h
    exact (row_cons (splitAux_ne_nil _ _ _ _)).mpr ⟨h.shorten, ih trivial⟩
  | case3 piece c rest hafter ih =>
    refine ih ?_
    rw [List.reverse_cons]
    exact h.snoc (afterStart_eq_none.mp hafter)

end Split

/-- The pieces of a text are a row. -/
theorem row_splitOn {sep : List Char} (hsep : sep ≠ []) (cs : List Char) :
    Row sep (splitOn sep cs) := by
  cases sep with
  | nil => exact absurd rfl hsep
  | cons s ss => exact row_splitAux s ss [] cs trivial

/-- A row is the pieces of its join. -/
theorem splitOn_join {sep : List Char} (hsep : sep ≠ []) {ps : List (List Char)}
    (h : Row sep ps) : splitOn sep (join sep ps) = ps := by
  cases sep with
  | nil => exact absurd rfl hsep
  | cons s ss =>
    induction ps with
    | nil => exact absurd h id
    | cons p ps ih =>
      by_cases hps : ps = []
      · subst hps
        have hp := splitAux_clear h []
        rw [List.append_nil, List.append_nil, splitAux, List.reverse_reverse] at hp
        exact hp
      · -- the piece is read as a whole, then the separator behind it
        obtain ⟨hp, hrow⟩ := (row_cons hps).mp h
        show splitAux s ss [] (join (s :: ss) (p :: ps)) = p :: ps
        rw [join_cons _ _ hps, List.append_assoc, splitAux_clear (hp.lengthen _),
          splitAux_separator, List.append_nil, List.reverse_reverse]
        exact congrArg (p :: ·) (ih hrow)

end ArgumentSchema.Text
