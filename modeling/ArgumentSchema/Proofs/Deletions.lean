import ArgumentSchema.Proofs.Faces
import ArgumentSchema.Proofs.Finalize

/-!
# The removal of recorded positions

A position is recorded with the handle of its list, and is only looked for when the run ends. By then
it must be there: the list must still be held by the tree, and it must not have become shorter than
the position. A list is held as long as its handle occurs in the document or in what was kept aside,
and removing elements of other lists only moves containers from the one to the other. From a list
itself the positions go one after the other, the last first, so that those still to come stay in range:

> `WorkingTree.deleteEach_eq`: positions in range are all removed one after the other, and what is
> left is what is left when they are removed together.
> `WorkingTree.Siftable.run`: one list after the other loses its elements, and no list loses others.
> `WorkingTree.Siftable.inRange_each`: whenever the turn of a list comes, the list is held by the tree,
> and its positions are removed one after the other.
-/

namespace ArgumentSchema

open Marks Node

/-! ## One list -/

namespace WorkingTree

/-- Removes elements one after the other. A position that does not exist stops the removal. -/
def deleteEach : List Nat → List Node → Except Raised (List Node)
  | [], xs => .ok xs
  | i :: is, xs => if i < xs.length then deleteEach is (xs.eraseIdx i) else .error badPosition

/-- Positions from the last to the first, each once. -/
def fromLast (indexes : List Nat) : List Nat :=
  indexes.eraseDups.mergeSort fun i j => decide (j ≤ i)

theorem mem_fromLast {indexes : List Nat} {i : Nat} : i ∈ fromLast indexes ↔ i ∈ indexes :=
  (List.mergeSort_perm _ _).mem_iff.trans List.mem_eraseDups

theorem pairwise_fromLast (indexes : List Nat) : (fromLast indexes).Pairwise fun i j => j < i := by
  have hsorted : (fromLast indexes).Pairwise fun i j => decide (j ≤ i) = true :=
    List.pairwise_mergeSort (fun i j k hij hjk => by simp only [decide_eq_true_eq] at *; omega)
      (fun i j => by simp only [Bool.or_eq_true, decide_eq_true_eq]; omega) _
  have hnd : (fromLast indexes).Nodup :=
    (List.mergeSort_perm _ _).nodup_iff.mpr (nodup_eraseDups indexes)
  refine (hsorted.and hnd).imp fun {i j} h => ?_
  have hle : j ≤ i := of_decide_eq_true h.1
  have hne := h.2
  omega

/-- The elements at the positions that are kept, counted from a given one on. -/
def keptFrom (keep : Nat → Bool) (n : Nat) (xs : List Node) : List Node :=
  ((xs.zipIdx n).filter fun x => keep x.2).map (·.1)

theorem keptFrom_append (keep : Nat → Bool) (n : Nat) (xs ys : List Node) :
    keptFrom keep n (xs ++ ys) = keptFrom keep n xs ++ keptFrom keep (n + xs.length) ys := by
  simp [keptFrom, List.zipIdx_append]

theorem keptFrom_congr {keep keep' : Nat → Bool} (xs : List Node) :
    ∀ n, (∀ i, n ≤ i → i < n + xs.length → keep i = keep' i) →
      keptFrom keep n xs = keptFrom keep' n xs := by
  intro n h
  unfold keptFrom
  congr 1
  refine List.filter_congr fun x hx => ?_
  obtain ⟨hge, hlt, -⟩ := List.mem_zipIdx hx
  exact h x.2 hge hlt

theorem keptFrom_all {keep : Nat → Bool} (xs : List Node) :
    ∀ n, (∀ i, n ≤ i → keep i = true) → keptFrom keep n xs = xs := by
  intro n h
  unfold keptFrom
  rw [List.filter_eq_self.mpr, List.zipIdx_map_fst]
  intro x hx
  exact h x.2 (List.mem_zipIdx hx).1

theorem keptFrom_cons_of_not {keep : Nat → Bool} {n : Nat} (hn : keep n = false) (x : Node)
    (xs : List Node) : keptFrom keep n (x :: xs) = keptFrom keep (n + 1) xs := by
  simp [keptFrom, List.zipIdx_cons, hn]

theorem map_keptFrom (f : Node → Node) (keep : Nat → Bool) (n : Nat) (xs : List Node) :
    (keptFrom keep n xs).map f = keptFrom keep n (xs.map f) := by
  rw [keptFrom, keptFrom, List.zipIdx_map, List.filter_map, List.map_map, List.map_map]
  rfl

/-- Removing the last element that is not kept, before the others are. -/
theorem keptFrom_eraseIdx {keep keep' : Nat → Bool} {i : Nat} {xs : List Node} (hi : i < xs.length)
    (hbefore : ∀ j, j < i → keep j = keep' j) (hat : keep' i = false)
    (hafter : ∀ j, i ≤ j → keep j = true) (hafter' : ∀ j, i < j → keep' j = true) :
    keptFrom keep 0 (xs.eraseIdx i) = keptFrom keep' 0 xs := by
  have htake : (xs.take i).length = i := List.length_take_of_le (Nat.le_of_lt hi)
  calc keptFrom keep 0 (xs.eraseIdx i)
      = keptFrom keep 0 (xs.take i) ++ keptFrom keep i (xs.drop (i + 1)) := by
        rw [List.eraseIdx_eq_take_drop_succ, keptFrom_append, htake, Nat.zero_add]
    _ = keptFrom keep' 0 (xs.take i) ++ keptFrom keep' (i + 1) (xs.drop (i + 1)) := by
        rw [keptFrom_all _ i hafter, keptFrom_all _ (i + 1) hafter',
          keptFrom_congr _ 0 fun j _ hj => hbefore j (by omega)]
    _ = keptFrom keep' 0 (xs.take i) ++ keptFrom keep' i (xs.drop i) := by
        rw [List.drop_eq_getElem_cons hi, keptFrom_cons_of_not hat]
    _ = keptFrom keep' 0 xs := by
        conv_rhs => rw [← List.take_append_drop i xs, keptFrom_append, htake, Nat.zero_add]

/-- Positions in range, the last first, are all removed, and what is left is what is left when they
are removed together. -/
theorem deleteEach_eq {indexes : List Nat} (hdesc : indexes.Pairwise fun i j => j < i) :
    ∀ xs : List Node, (∀ i ∈ indexes, i < xs.length) →
      deleteEach indexes xs = .ok (keptFrom (fun i => !indexes.contains i) 0 xs) := by
  induction indexes with
  | nil =>
    intro xs _
    rw [deleteEach, keptFrom_all]
    simp
  | cons i is ih =>
    intro xs hlt
    obtain ⟨hbelow, hdesc⟩ := List.pairwise_cons.mp hdesc
    have hi := hlt i (List.mem_cons_self ..)
    have hlength : (xs.eraseIdx i).length = xs.length - 1 := List.length_eraseIdx_of_lt hi
    have hlt' : ∀ j ∈ is, j < (xs.eraseIdx i).length := by
      intro j hj
      have := hbelow j hj
      omega
    -- the positions still to come are before this one, so that they mean the same elements as ever
    have hnot : ∀ j, i ≤ j → j ∉ is := by
      intro j hj hmem
      have := hbelow j hmem
      omega
    rw [deleteEach, if_pos hi, ih hdesc _ hlt', keptFrom_eraseIdx hi]
    · intro j hj
      simp [Nat.ne_of_lt hj]
    · simp
    · intro j hj
      simp [hnot j hj]
    · intro j hj
      simp [Nat.ne_of_gt hj, hnot j (Nat.le_of_lt hj)]

theorem dropIndexes_eq (indexes : List Nat) (h : Nat) (xs : List Node) :
    Node.dropIndexes indexes (.list h xs) =
      .list h (keptFrom (fun i => !(fromLast indexes).contains i) 0 xs) := by
  have hcontains : ∀ i, indexes.contains i = (fromLast indexes).contains i := by
    intro i
    rw [Bool.eq_iff_iff, List.contains_iff_mem, List.contains_iff_mem, mem_fromLast]
  simp only [Node.dropIndexes, keptFrom, hcontains]

end WorkingTree

/-! ## One list among others -/

namespace WorkingTree

variable {m : Marks} {t : WorkingTree} {h k : Nat} {indexes : List Nat}
  {groups : List (Nat × List Nat)} {c : Node} {xs : List Node}

/-- What is left of a tree when elements of a list are removed. -/
def without (t : WorkingTree) (h : Nat) (indexes : List Nat) (n : Node) : WorkingTree :=
  (t.modify h (Node.dropIndexes indexes)).detach (n.itemsAt indexes)

/-- Removing elements of a list loses no container. -/
theorem held_without {n : Node} (hnd : t.held.Nodup) (hn : t.container? h = some n) :
    (t.without h indexes n).held.Perm t.held :=
  held_exchange (exchanges_dropIndexes indexes n) hnd hn

/-- A container without the positions that are gone, if it is a list. -/
def sifted (gone : Nat → Nat → Bool) : Node → Node
  | .list h xs => .list h (keptFrom (fun i => !gone h i) 0 xs)
  | n => n

@[simp] theorem handle?_sifted (gone : Nat → Nat → Bool) (c : Node) :
    (sifted gone c).handle? = c.handle? := by
  cases c <;> rfl

theorem fronted_sifted {gone : Nat → Nat → Bool} (hc : c.Fronted) : (sifted gone c).Fronted := by
  cases c with
  | leaf v => exact trivial
  | dict k es => exact hc
  | list k xs => exact trivial

/-- Where nothing is gone, nothing is missing. -/
theorem sifted_of_none {gone : Nat → Nat → Bool} (hc : ∀ k, c.handle? = some k → ∀ i, gone k i = false) :
    sifted gone c = c := by
  cases c with
  | leaf v => rfl
  | dict k es => rfl
  | list k xs =>
    rw [sifted, keptFrom_all]
    intro i _
    rw [hc k rfl i]
    rfl

theorem sifted_congr {gone gone' : Nat → Nat → Bool}
    (hc : ∀ k, c.handle? = some k → ∀ i, gone k i = gone' k i) : sifted gone c = sifted gone' c := by
  cases c with
  | leaf v => rfl
  | dict k es => rfl
  | list k xs =>
    have hgone : (fun i => !gone k i) = fun i => !gone' k i := by
      funext i
      rw [hc k rfl i]
    rw [sifted, sifted, hgone]

/-- The positions of one list. -/
def goneOf (h : Nat) (indexes : List Nat) : Nat → Nat → Bool := fun k i => k == h && indexes.contains i

theorem goneOf_self (h : Nat) (indexes : List Nat) (i : Nat) :
    goneOf h indexes h i = indexes.contains i := by
  rw [goneOf, beq_self_eq_true, Bool.true_and]

theorem goneOf_ne (hne : k ≠ h) (indexes : List Nat) (i : Nat) : goneOf h indexes k i = false := by
  rw [goneOf, beq_eq_false_iff_ne.mpr hne, Bool.false_and]

/-- A container other than the list. -/
theorem sifted_of_ne (hc : c.handle? ≠ some h) (indexes : List Nat) :
    sifted (goneOf h indexes) c = c := by
  refine sifted_of_none fun k hk i => goneOf_ne (fun heq => hc ?_) indexes i
  rw [hk, heq]

/-- The face of a list that has lost elements is that of the list, without them. -/
theorem face_dropIndexes (h : Nat) (indexes : List Nat) (xs : List Node) :
    (dropIndexes indexes (.list h xs)).face = sifted (goneOf h indexes) (face (.list h xs)) := by
  simp only [face, sifted, goneOf_self]
  rw [← map_keptFrom]
  rfl

/-- A list that loses elements leaves all others alone. -/
theorem faces_without (hnd : t.held.Nodup) (hc : t.container? h = some (.list h xs)) :
    (t.without h indexes (.list h xs)).faces.Perm (t.faces.map (sifted (goneOf h indexes))) := by
  obtain ⟨rest, hbefore, hafter⟩ := faces_change (exchanges_dropIndexes indexes _) hnd hc
  rw [held_eq, (hbefore.filterMap handle?).nodup_iff] at hnd
  have hout : h ∉ rest.filterMap handle? := (List.nodup_cons.mp hnd).1
  have hrest : rest.map (sifted (goneOf h indexes)) = rest := by
    refine (List.map_congr_left fun d hd => sifted_of_ne (fun hdh => ?_) indexes).trans
      (List.map_id rest)
    exact hout (List.mem_filterMap.mpr ⟨d, hd, hdh⟩)
  refine hafter.trans (List.Perm.trans (.of_eq ?_) (hbefore.map _).symm)
  rw [List.map_cons, hrest, face_dropIndexes]
  rfl

/-! ## All lists -/

/-- The positions of some lists. -/
def goneIn (groups : List (Nat × List Nat)) : Nat → Nat → Bool := fun k i =>
  groups.any fun g => goneOf g.1 g.2 k i

/-- The positions of the given lists can be removed: the lists are different ones, and the tree holds
them, with elements at the positions. -/
structure Siftable (t : WorkingTree) (groups : List (Nat × List Nat)) : Prop where
  nodup : t.held.Nodup
  apart : (groups.map (·.1)).Nodup
  inRange : ∀ g ∈ groups, ∃ xs, t.container? g.1 = some (.list g.1 xs) ∧ ∀ i ∈ g.2, i < xs.length

namespace Siftable

/-- After the first list has lost its elements, the others can lose theirs. -/
theorem tail (hs : Siftable t ((h, indexes) :: groups)) (hc : t.container? h = some (.list h xs)) :
    Siftable (t.without h indexes (.list h xs)) groups := by
  obtain ⟨hh, hapart⟩ := List.nodup_cons.mp hs.apart
  have hnd : (t.without h indexes (.list h xs)).held.Nodup :=
    (held_without hs.nodup hc).nodup_iff.mpr hs.nodup
  refine ⟨hnd, hapart, fun g hg => ?_⟩
  obtain ⟨zs, hlist, hlt⟩ := hs.inRange g (List.mem_cons_of_mem _ hg)
  have hne : g.1 ≠ h := by
    intro heq
    exact hh (List.mem_map.mpr ⟨g, hg, heq⟩)
  -- the list has its face still, being another one
  have hother : sifted (goneOf h indexes) (face (.list g.1 zs)) = face (.list g.1 zs) := by
    refine sifted_of_ne (fun heq => hne ?_) indexes
    exact Option.some.inj heq
  have hface : face (.list g.1 zs) ∈ (t.without h indexes (.list h xs)).faces := by
    rw [(faces_without hs.nodup hc).mem_iff, ← hother]
    exact List.mem_map_of_mem (face_mem hlist)
  obtain ⟨d, hd, hdface⟩ := container?_of_face hnd hface rfl
  obtain ⟨ys, rfl, hys⟩ := exists_of_face_eq_list hdface
  refine ⟨ys, hd, fun i hi => ?_⟩
  have hlength : ys.length = zs.length := by
    rw [← List.length_map shell, hys, List.length_map]
  have := hlt i hi
  omega

theorem sifted_cons (hh : h ∉ groups.map (·.1)) (c : Node) :
    sifted (goneIn groups) (sifted (goneOf h indexes) c) =
      sifted (goneIn ((h, indexes) :: groups)) c := by
  by_cases hc : c.handle? = some h
  · -- the list itself loses nothing any more
    have hgone : ∀ i, goneIn groups h i = false := by
      intro i
      refine List.any_eq_false.mpr fun g hg => ?_
      rw [goneOf_ne fun heq => hh (List.mem_map.mpr ⟨g, hg, heq.symm⟩)]
      exact Bool.false_ne_true
    rw [sifted_of_none]
    · refine sifted_congr fun k hk i => ?_
      obtain rfl : h = k := Option.some.inj (hc.symm.trans hk)
      show _ = (goneOf h indexes h i || goneIn groups h i)
      rw [hgone i, Bool.or_false]
    · intro k hk
      rw [handle?_sifted, hc] at hk
      obtain rfl := Option.some.inj hk
      exact hgone
  · rw [sifted_of_ne hc]
    refine sifted_congr fun k hk i => ?_
    show _ = (goneOf h indexes k i || goneIn groups k i)
    rw [goneOf_ne fun heq => hc (hk.trans (congrArg some heq)), Bool.false_or]

/-- One list after the other loses its elements, and no list loses others. -/
theorem run {later : List (Nat × List Nat)} (earlier : List (Nat × List Nat)) :
    ∀ t, Siftable t (earlier ++ later) →
      ∃ t', compact t earlier = (t', none) ∧ Siftable t' later ∧
        t'.faces.Perm (t.faces.map (sifted (goneIn earlier))) := by
  induction earlier with
  | nil =>
    intro t hs
    refine ⟨t, rfl, hs, .of_eq ?_⟩
    refine ((List.map_congr_left fun c _ => ?_).trans (List.map_id _)).symm
    exact sifted_of_none fun k _ i => rfl
  | cons g earlier ih =>
    obtain ⟨h, indexes⟩ := g
    intro t hs
    obtain ⟨xs, hc, hlt⟩ := hs.inRange _ (List.mem_cons_self ..)
    obtain ⟨t', hcompact, hs', hfaces⟩ := ih _ (hs.tail hc)
    refine ⟨t', ?_, hs', ?_⟩
    · have hall : indexes.all (· < (Node.list h xs).size) = true :=
        List.all_eq_true.mpr fun i hi => decide_eq_true (hlt i hi)
      rw [compact, hc]
      dsimp only
      rw [if_pos hall]
      exact hcompact
    · have hh : h ∉ earlier.map (·.1) := by
        intro hmem
        obtain ⟨g, hg, heq⟩ := List.mem_map.mp hmem
        exact (List.nodup_cons.mp hs.apart).1
          (List.mem_map.mpr ⟨g, List.mem_append_left _ hg, heq⟩)
      calc t'.faces.Perm
            ((t.without h indexes (.list h xs)).faces.map (sifted (goneIn earlier))) := hfaces
        List.Perm _ ((t.faces.map (sifted (goneOf h indexes))).map (sifted (goneIn earlier))) :=
            (faces_without hs.nodup hc).map _
        List.Perm _ (t.faces.map (sifted (goneIn ((h, indexes) :: earlier)))) := by
            rw [List.map_map]
            exact .of_eq (List.map_congr_left fun c _ => sifted_cons hh c)

end Siftable

/-- When the turn of a list comes in the end, the tree still holds the list, and its positions are
removed one after the other, the last first: each is in range when it is removed. -/
def RemovesInRange (t : WorkingTree) : Prop :=
  ∀ earlier h indexes later, removalGroups t.removals = earlier ++ (h, indexes) :: later →
    ∃ t' xs ys, compact t earlier = (t', none) ∧ t'.container? h = some (.list h xs) ∧
      deleteEach (fromLast indexes) xs = .ok ys ∧
      (Node.list h xs).dropIndexes indexes = .list h ys

/-- When the turn of a list comes, each of its positions is in range when it is removed. -/
theorem Siftable.inRange_each (hs : Siftable t (removalGroups t.removals)) : t.RemovesInRange := by
  intro earlier h indexes later hgroups
  rw [hgroups] at hs
  obtain ⟨t', hcompact, hs', -⟩ := Siftable.run earlier t hs
  obtain ⟨xs, hlist, hlt⟩ := hs'.inRange _ (List.mem_cons_self ..)
  refine ⟨t', xs, _, hcompact, hlist, ?_, dropIndexes_eq indexes h xs⟩
  exact deleteEach_eq (pairwise_fromLast indexes) xs fun i hi => hlt i (mem_fromLast.mp hi)

/-! ## The lists of a run -/

/-- Tree and records are as they must be for the positions of the given lists to be removed: the
records are those of the lists, and the tree holds the lists. -/
structure Compactable (m : Marks) (t : WorkingTree) (groups : List (Nat × List Nat)) : Prop where
  root : Sound m t.root
  detached : ∀ n ∈ t.detached, Sound m n
  gone : ∀ k i, (k, i) ∈ m.gone ↔ ∃ g ∈ groups, g.1 = k ∧ i ∈ g.2
  apart : (groups.map (·.1)).Nodup
  filled : ∀ g ∈ groups, g.2 ≠ []
  nodup : t.held.Nodup
  held : ∀ g ∈ groups, g.1 ∈ t.held

/-- What is recorded is in range: a position is only recorded for a list, which has it. -/
theorem Compactable.siftable (hc : Compactable m t groups) : Siftable t groups := by
  refine ⟨hc.nodup, hc.apart, fun g hg => ?_⟩
  obtain ⟨n, hn⟩ := container?_of_held (hc.held g hg)
  obtain ⟨hsound, hhandle⟩ := sound_container? hc.root hc.detached hn
  have hown : ∀ i ∈ g.2, (g.1, i) ∈ m.gone := fun i hi => (hc.gone g.1 i).mpr ⟨g, hg, rfl, hi⟩
  cases hsound with
  | leaf v => cases hhandle
  | dict gone named placed below =>
    obtain rfl := Option.some.inj hhandle
    obtain ⟨i, hi⟩ := List.exists_mem_of_ne_nil _ (hc.filled g hg)
    exact absurd (hown i hi) (gone i)
  | list made gone unmade below =>
    obtain rfl := Option.some.inj hhandle
    exact ⟨_, hn, fun i hi => gone i (hown i hi)⟩

theorem Compactable.inRange (hc : Compactable m t (removalGroups t.removals)) : t.RemovesInRange :=
  hc.siftable.inRange_each

theorem removalGroups_filled {removals : List (Nat × Nat)} :
    ∀ g ∈ removalGroups removals, g.2 ≠ [] ∧ ∃ e ∈ removals, e.1 = g.1 := by
  intro g hg
  obtain ⟨h, hh, rfl⟩ := List.mem_map.mp hg
  obtain ⟨e, he, rfl⟩ := List.mem_map.mp (List.mem_eraseDups.mp hh)
  refine ⟨List.ne_nil_of_mem (List.mem_map_of_mem (List.mem_filter.mpr ⟨he, by simp⟩)), e, he, rfl⟩

/-- A tree that stands for a draft can lose all positions that are recorded, if the containers that
they are recorded for are in the document. -/
theorem Stands.compactable {done : List Rule} {k : Nat} {shut : List (Nat × Nat)} {d : Draft}
    (hstands : Stands done k t shut d) (hrecorded : ∀ e ∈ t.removals, e.1 ∈ t.root.handles) :
    Compactable (t.marks shut) t (removalGroups t.removals) := by
  have hheld : t.held = t.root.handles := by
    rw [WorkingTree.held, hstands.detached, handlesOfItems, List.append_nil]
  refine ⟨hstands.fits.sound, by simp [hstands.detached], fun k i => mem_removalGroups,
    nodup_removalGroups _, fun g hg => (removalGroups_filled g hg).1, ?_, fun g hg => ?_⟩
  · rw [hheld]
    exact hstands.ready.nodup
  · obtain ⟨e, he, heq⟩ := (removalGroups_filled g hg).2
    rw [hheld, ← heq]
    exact hrecorded e he

end WorkingTree

end ArgumentSchema
