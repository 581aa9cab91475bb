import ArgumentSchema.Proofs.Deletions
import ArgumentSchema.Proofs.Vacancy
import ArgumentSchema.Proofs.Worked

/-!
# Lists lose what was recorded for them

The elements of a list are discarded by recording their positions, and go only in the end, list by list
and position by position, the last position of a list first. What is left of each list is what a filter
would leave: the elements of which the position was not recorded, in their order. It does not matter in
which order the positions were recorded, how often each was, or whether a list stands in another that
loses elements, too, or looks like it: a list is told from others by its handle, and the end of one
list moves others at most out of the document.

> `WorkingTree.finalize_sifts`: the removal of recorded positions never fails, and leaves in each list
> what was not recorded for it.
-/

namespace ArgumentSchema

open Node

namespace WorkingTree

variable {t t' : WorkingTree} {h k : Nat} {indexes : List Nat} {groups : List (Nat × List Nat)}
  {c : Node} {xs : List Node}

/-- The recorded positions, gathered by list. -/
theorem goneIn_removalGroups (removals : List (Nat × Nat)) (k i : Nat) :
    goneIn (removalGroups removals) k i = removals.contains (k, i) := by
  rw [Bool.eq_iff_iff, List.contains_iff_mem, mem_removalGroups, goneIn, List.any_eq_true]
  refine exists_congr fun g => and_congr_right fun _ => ?_
  rw [goneOf, Bool.and_eq_true, beq_iff_eq, List.contains_iff_mem]
  exact and_congr_left fun _ => eq_comm

theorem Deferring.siftable (ht : t.Deferring) : Siftable t (removalGroups t.removals) := by
  refine ⟨ht.intact.nodup, nodup_removalGroups _, fun g hg => ?_⟩
  obtain ⟨hfilled, -⟩ := removalGroups_filled g hg
  obtain ⟨i, hi⟩ := List.exists_mem_of_ne_nil _ hfilled
  have hrange : ∀ i ∈ g.2, t.HasElement g.1 i := fun i hi =>
    ht.recorded (g.1, i) (mem_removalGroups.mpr ⟨g, hg, rfl, hi⟩)
  obtain ⟨xs, hlist, -⟩ := hrange i hi
  refine ⟨xs, hlist, fun j hj => ?_⟩
  obtain ⟨ys, hlist', hj⟩ := hrange j hj
  obtain ⟨-, rfl⟩ := Node.list.inj (Option.some.inj (hlist.symm.trans hlist'))
  exact hj

/-! ## The end of a run -/

/-- A tree in which mappings have lost entries, and all lists are as they were. -/
structure Spares (t t' : WorkingTree) : Prop where
  nodup : t'.held.Nodup
  fronted : ∀ c ∈ t'.faces, c.Fronted
  lists : ∀ h xs, .list h xs ∈ t'.faces ↔ .list h xs ∈ t.faces

namespace Spares

theorem trans {t'' : WorkingTree} (h₁ : Spares t t') (h₂ : Spares t' t'') : Spares t t'' :=
  ⟨h₂.nodup, h₂.fronted, fun h xs => (h₂.lists h xs).trans (h₁.lists h xs)⟩

/-- One mapping has lost entries, with what was in them kept aside. -/
theorem of_dict {es es' : List (Value × Node)} {rest : List Node} (hnd : t.held.Nodup)
    (hfront : ∀ c ∈ t.faces, c.Fronted) (hsub : es'.Sublist es)
    (hbefore : t.faces.Perm (face (.dict k es) :: rest))
    (hafter : t'.faces.Perm (face (.dict k es') :: rest)) : Spares t t' := by
  have hlists : ∀ (ds : List (Value × Node)) h xs,
      .list h xs ∈ face (.dict k ds) :: rest ↔ .list h xs ∈ rest := by
    intro ds h xs
    refine List.mem_cons.trans (or_iff_right fun heq => ?_)
    cases heq
  refine ⟨?_, fun c hc => ?_, fun h xs => ?_⟩
  · rw [held_eq, (hbefore.filterMap handle?).nodup_iff] at hnd
    rw [held_eq, (hafter.filterMap handle?).nodup_iff]
    exact hnd
  · rcases List.mem_cons.mp (hafter.mem_iff.mp hc) with rfl | hc
    · have hes := hfront _ (hbefore.mem_iff.mpr (List.mem_cons_self ..))
      exact fronted_face.mpr (List.Pairwise.sublist hsub (fronted_face.mp hes))
    · exact hfront c (hbefore.mem_iff.mpr (List.mem_cons_of_mem _ hc))
  · rw [hafter.mem_iff, hbefore.mem_iff, hlists, hlists]

theorem refl (hnd : t.held.Nodup) (hfront : ∀ c ∈ t.faces, c.Fronted) : Spares t t :=
  ⟨hnd, hfront, fun _ _ => Iff.rfl⟩

theorem pruneOne (hnd : t.held.Nodup) (hfront : ∀ c ∈ t.faces, c.Fronted) (made : Created) :
    Spares t (t.pruneOne made) := by
  unfold WorkingTree.pruneOne
  split
  · next h hmade =>
    split
    · obtain ⟨c, hc, hchild⟩ := Option.bind_eq_some_iff.mp hmade
      have hexchanges := exchanges_eraseKey (fronted_face.mp (hfront _ (face_mem hc))) made.key
      rw [hchild] at hexchanges
      obtain ⟨rest, hbefore, hafter⟩ := faces_change hexchanges hnd hc
      cases c with
      | leaf v => cases hchild
      | list k xs => cases hchild
      | dict k es => exact of_dict hnd hfront List.filter_sublist hbefore hafter
    · exact refl hnd hfront
  · exact refl hnd hfront

theorem prune (hnd : t.held.Nodup) (hfront : ∀ c ∈ t.faces, c.Fronted) : Spares t t.prune := by
  unfold WorkingTree.prune
  generalize t.created.reverse = made
  induction made generalizing t with
  | nil => exact refl hnd hfront
  | cons c made ih =>
    have hone := pruneOne hnd hfront c
    exact hone.trans (ih hone.nodup hone.fronted)

theorem keepRoots (hnd : t.held.Nodup) (hfront : ∀ c ∈ t.faces, c.Fronted) (roots : List String) :
    Spares t (t.keepRoots roots) := by
  unfold WorkingTree.keepRoots
  split
  · next h es hroot =>
    -- the entries that stay and those that go make up the root
    have hparts := ((List.filter_append_perm (declares roots) es).map Prod.snd).symm
    rw [List.map_append] at hparts
    have hcontents := facesOfItems_perm hparts
    rw [facesOfItems_append] at hcontents
    have hbefore : t.faces =
        face (.dict h es) :: (facesOfItems (es.map Prod.snd) ++ facesOfItems t.detached) := by
      rw [WorkingTree.faces, hroot, facesOfItems, Node.faces, facesOfEntries_eq]
      rfl
    have hkept : (es.filter (declares roots)).Sublist es := List.filter_sublist
    refine of_dict hnd hfront hkept (.of_eq hbefore) ?_
    rw [faces_detach]
    show (face (.dict h (es.filter (declares roots))) :: facesOfEntries (es.filter (declares roots)) ++
      facesOfItems t.detached ++ _).Perm _
    rw [facesOfEntries_eq, List.cons_append, List.cons_append]
    refine List.Perm.cons _ ?_
    rw [List.append_assoc]
    refine (List.perm_append_comm.append_left _).trans ?_
    rw [← List.append_assoc]
    exact (hcontents.symm).append_right _
  · exact refl hnd hfront

end Spares

/-- What the end of a run makes of the lists of a tree, in the document and outside of it: each has the
elements left of which the position was not recorded for it, in their order, and there are no other
lists. -/
structure Sifts (t t' : WorkingTree) : Prop where
  lists : ∀ h xs, t.container? h = some (.list h xs) → ∃ ys, t'.container? h = some (.list h ys) ∧
    ys.map shell = (xs.zipIdx.filter fun x => !t.removals.contains (h, x.2)).map fun x => x.1.shell
  only : ∀ h ys, t'.container? h = some (.list h ys) → ∃ xs, t.container? h = some (.list h xs)

/-- Lists whose faces are sifted are sifted. -/
theorem Sifts.of_faces (hnd : t.held.Nodup) (hnd' : t'.held.Nodup)
    (hfaces : ∀ h xs, .list h xs ∈ t'.faces ↔
      .list h xs ∈ t.faces.map (sifted (goneIn (removalGroups t.removals)))) : Sifts t t' := by
  refine ⟨fun h xs hlist => ?_, fun h ys hlist => ?_⟩
  · have hface := (hfaces h _).mpr (List.mem_map_of_mem (face_mem hlist))
    obtain ⟨d, hd, hdface⟩ := container?_of_face hnd' hface rfl
    obtain ⟨ys, rfl, hys⟩ := exists_of_face_eq_list hdface
    refine ⟨ys, hd, ?_⟩
    simp only [goneIn_removalGroups] at hys
    rw [hys, ← map_keptFrom, keptFrom, List.map_map]
    rfl
  · obtain ⟨d, hd, hsifted⟩ := List.mem_map.mp ((hfaces h _).mp (face_mem hlist))
    cases d with
    | leaf v => cases hsifted
    | dict k es => cases hsifted
    | list k zs =>
      obtain ⟨rfl, -⟩ := Node.list.inj hsifted
      obtain ⟨c, hc, hcface⟩ := container?_of_face hnd hd rfl
      obtain ⟨xs, rfl, -⟩ := exists_of_face_eq_list hcface
      exact ⟨xs, hc⟩

/-- However a tree was worked on, the removal of the recorded positions raises no error, and leaves in
each list exactly the elements that were not recorded for it. -/
theorem finalize_sifts (ht : Worked t) (roots : List String) :
    t.RemovesInRange ∧ ∃ t', t.finalize roots = (t', .ok t'.toValue) ∧ Sifts t t' := by
  have hdeferring := ht.deferring
  have hs := hdeferring.siftable
  refine ⟨hs.inRange_each, ?_⟩
  rw [← List.append_nil (removalGroups t.removals)] at hs
  obtain ⟨t₁, hcompact, hdone, hfaces⟩ := Siftable.run _ t hs
  have hfront : ∀ c ∈ t₁.faces, c.Fronted := by
    intro c hc
    obtain ⟨d, hd, rfl⟩ := List.mem_map.mp (hfaces.mem_iff.mp hc)
    exact fronted_sifted (hdeferring.intact.faces d hd)
  -- afterwards only mappings lose entries
  have hprune := Spares.prune hdone.nodup hfront
  have hspares := hprune.trans (.keepRoots hprune.nodup hprune.fronted roots)
  refine ⟨t₁.prune.keepRoots roots, by rw [finalize, hcompact], ?_⟩
  refine .of_faces hdeferring.intact.nodup hspares.nodup fun h xs => ?_
  rw [hspares.lists, hfaces.mem_iff]

/-- Two lists of equal content in a list that loses elements, too, among them one of the two. The
positions come in no order, and one comes twice. -/
theorem finalize_sifts_nested :
    let row : Value := .list [.int 1, .int 2, .int 3]
    let items : List Node := [.leaf (.int 1), .leaf (.int 2), .leaf (.int 3)]
    ∃ t t', Worked t ∧ t.toValue = .dict false [(.str "rows", .list [row, row, .int 4, .int 5])] ∧
      t.container? 2 = some (.list 2 items) ∧ t.container? 3 = some (.list 3 items) ∧
      t.removals = [(1, 3), (2, 2), (3, 1), (2, 0), (1, 1), (2, 2)] ∧ t.RemovesInRange ∧
      t.finalize ["rows"] = (t', .ok t'.toValue) ∧
      t'.toValue = .dict false [(.str "rows", .list [.list [.int 2], .int 4])] ∧ Sifts t t' := by
  intro row items
  let rule : Rule := ⟨Contract.any, [.name "rows", .wildcard, .wildcard]⟩
  let table : RuleTable := ⟨.default, [("rows.$.$", rule)]⟩
  let given : Entries Value := [(.str "rows", .list [row, row, .int 4, .int 5])]
  let opened : WorkingTree := ⟨.dict 0 [(.str "rows", .list 1 [.list 2 items, .list 3 items,
    .leaf (.int 4), .leaf (.int 5)])], 4, [], [], [], []⟩
  have hopened : Worked opened := (Worked.start (.ofEntries given) rfl).resolve table rule
  let element (h i : Nat) : Task := ⟨rule, h, .index i, [], .absent, ""⟩
  have hrange : ∀ h i, HasElement opened h i → ∀ removals,
      CanDiscard { opened with removals } (element h i) := by
    intro h i hhas removals j hj
    obtain rfl := Step.index.inj hj
    exact hhas
  have hrows : ∀ i, i < 4 → HasElement opened 1 i := fun i hi => ⟨_, rfl, hi⟩
  have hfirst : ∀ i, i < 3 → HasElement opened 2 i := fun i hi => ⟨_, rfl, hi⟩
  have hsecond : ∀ i, i < 3 → HasElement opened 3 i := fun i hi => ⟨_, rfl, hi⟩
  let recorded : List (Nat × Nat) := [(1, 3), (2, 2), (3, 1), (2, 0), (1, 1), (2, 2)]
  have hworked : Worked { opened with removals := recorded } :=
    (((((hopened.discard (hrange 1 3 (hrows 3 (by decide)) _)).discard
      (hrange 2 2 (hfirst 2 (by decide)) _)).discard (hrange 3 1 (hsecond 1 (by decide)) _)).discard
      (hrange 2 0 (hfirst 0 (by decide)) _)).discard (hrange 1 1 (hrows 1 (by decide)) _)).discard
      (hrange 2 2 (hfirst 2 (by decide)) _)
  obtain ⟨hin, t', hend, hsifts⟩ := finalize_sifts hworked ["rows"]
  refine ⟨_, t', hworked, rfl, rfl, rfl, rfl, hin, hend, ?_, hsifts⟩
  exact (Except.ok.inj (congrArg Prod.snd hend)).symm

end WorkingTree

end ArgumentSchema
