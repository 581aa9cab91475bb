import ArgumentSchema.Proofs.Arrangement

/-!
# A mapping and its settled keys

Settling the keys of a mapping changes each of them in its place, adds what was not there at the end
and takes away what is dropped. But for the order of entries this is all that happens, if no name
stands twice in the mapping:

> `Entries.put_perm_erase`: a change of one name leaves all other entries and what comes to stand
> under the name.
> `Descent.entries_perm_cells`: settling the keys leaves the entries under no name and what is left
> under each of the names.
> `Value.Rearranged.of_perm_match`: mappings with related contents, each in an order of its own.
-/

namespace ArgumentSchema

namespace Entries

variable {α : Type} {s : String}

theorem Once.put {es : Entries α} (h : Once s es) (t : String) (cell : Option α) :
    Once s (put t cell es) := by
  cases cell with
  | some v => exact h.insert t v
  | none => exact h.erase t

theorem filter_sameKey_of_once {es : Entries α} (h : Once s es) :
    es.filter (fun e => (Value.str s).sameKey e.1) =
      ((find? (.str s) es).map (Prod.mk (.str s))).toList := by
  induction es with
  | nil => rfl
  | cons e es ih =>
    obtain ⟨k, v⟩ := e
    obtain ⟨hother, honce⟩ := List.pairwise_cons.mp h
    by_cases hk : k = .str s
    · subst hk
      have hnone := find?_eq_none_of_key_ne fun e he => hother e he rfl
      rw [List.filter_cons_of_pos (by simp [Value.sameKey_str]), ih honce, hnone, find?_cons_self]
      rfl
    · rw [List.filter_cons_of_neg (by simpa [Value.sameKey_str] using hk), ih honce, find?_cons_ne hk]

theorem erase_put_self (cell : Option α) (es : Entries α) :
    erase (.str s) (put s cell es) = erase (.str s) es := by
  cases cell with
  | some v => exact erase_insert_self s v es
  | none => exact erase_of_find?_eq_none (find?_erase_self s es)

/-- A change of a name that occurs once: all other entries, and what comes to stand under it. -/
theorem put_perm_erase {es : Entries α} (h : Once s es) (cell : Option α) :
    (put s cell es).Perm (erase (.str s) es ++ (cell.map (Prod.mk (.str s))).toList) := by
  have hparts := (List.filter_append_perm (fun e : Value × α => (Value.str s).sameKey e.1)
    (put s cell es)).symm.trans List.perm_append_comm
  rw [filter_sameKey_of_once (h.put s cell), find?_put_self] at hparts
  rw [← erase_put_self cell es]
  exact hparts

/-- Entries under none of the given names. -/
def others (names : List String) (es : Entries α) : Entries α :=
  es.filter fun e => !names.any fun s => (Value.str s).sameKey e.1

theorem others_append (names : List String) (es es' : Entries α) :
    others names (es ++ es') = others names es ++ others names es' := List.filter_append ..

theorem others_erase (names : List String) (es : Entries α) :
    others names (erase (.str s) es) = others (s :: names) es := by
  rw [others, others, erase, List.filter_filter]
  refine List.filter_congr fun e _ => ?_
  rw [List.any_cons, Bool.not_or, Bool.and_comm]

/-- A change of a name that occurs once, among the entries under none of other names. -/
theorem others_put_perm {names : List String} (hs : s ∉ names) {es : Entries α} (h : Once s es)
    (cell : Option α) : (others names (put s cell es)).Perm
      (others (s :: names) es ++ (cell.map (Prod.mk (.str s))).toList) := by
  have hkept : others names (cell.map (Prod.mk (Value.str s))).toList =
      (cell.map (Prod.mk (Value.str s))).toList := by
    refine List.filter_eq_self.mpr fun e he => ?_
    obtain ⟨v, -, rfl⟩ := Option.map_eq_some_iff.mp (Option.mem_toList.mp he)
    simp only [Bool.not_eq_true', List.any_eq_false, Value.sameKey_str, Value.str.injEq]
    rintro t ht rfl
    exact hs ht
  have hput : (others names (put s cell es)).Perm
      (others names (erase (.str s) es ++ (cell.map (Prod.mk (.str s))).toList)) :=
    (put_perm_erase h cell).filter _
  rw [others_append, hkept, others_erase] at hput
  exact hput

end Entries

/-- Entries in any order that have the same keys and related values are one rearranged mapping. -/
theorem Value.Rearranged.of_perm_match {es mid mid' es' : Entries Value} (h : es.Perm mid)
    (hmatch : Entries.Match Value.Rearranged mid mid') (h' : mid'.Perm es') (ordered : Bool) :
    (Value.dict ordered es).Rearranged (.dict ordered es') := by
  obtain ⟨between, hbetween, hperm⟩ := List.perm_comp_forall₂ h hmatch
  exact .dict (Entries.Match.keys hbetween) (Entries.Match.values hbetween) (hperm.trans h')

namespace Descent

/-- What is left under each of the given names. -/
def cells (f : String → Option Value → Option Value × List Visit) (names : List String)
    (es : Entries Value) : Entries Value :=
  names.filterMap fun s => (f s (Entries.find? (.str s) es)).1.map (Prod.mk (.str s))

section Cells

variable {f : String → Option Value → Option Value × List Visit} {names : List String} {s : String}

theorem cells_cons (es : Entries Value) :
    cells f (s :: names) es =
      ((f s (Entries.find? (.str s) es)).1.map (Prod.mk (.str s))).toList ++ cells f names es := by
  rw [cells, List.filterMap_cons]
  cases (f s (Entries.find? (.str s) es)).1 <;> rfl

theorem cells_put (hs : s ∉ names) (cell : Option Value) (es : Entries Value) :
    cells f names (Entries.put s cell es) = cells f names es := by
  refine List.filterMap_congr fun t ht => ?_
  have hne : s ≠ t := by
    rintro rfl
    exact hs ht
  rw [Entries.find?_put_ne hne]

/-- What a mapping holds once its keys are settled: the entries under no name, and what is left under
each of the names. -/
theorem entries_perm_cells : names.Nodup → ∀ es, (∀ s ∈ names, Entries.Once s es) →
    (entries f names es).1.Perm (Entries.others names es ++ cells f names es) := by
  induction names with
  | nil =>
    intro _ es _
    simp [entries, Entries.others, cells]
  | cons s names ih =>
    intro hnd es honce
    obtain ⟨hs, hnd⟩ := List.nodup_cons.mp hnd
    obtain ⟨hself, hrest⟩ := List.forall_mem_cons.mp honce
    -- the other names are settled in what the first has left, and find there what they would have found
    let cell := (f s (Entries.find? (.str s) es)).1
    have hothers := Entries.others_put_perm hs hself cell
    have hstart := ih hnd (Entries.put s cell es) fun t ht => (hrest t ht).put s cell
    rw [cells_put hs] at hstart
    rw [entries, cells_cons, ← List.append_assoc]
    exact hstart.trans (hothers.append_right _)

end Cells

end Descent

end ArgumentSchema
