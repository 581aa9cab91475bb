import ArgumentSchema.Proofs.Remains
import ArgumentSchema.Proofs.Rounds

/-!
# How a run ends

In the end the recorded positions are removed, list by list, then the mappings that were made and
stayed empty, the youngest first, and then the undeclared keys. Each pass keeps what remains of the
document (`Marks.remains`), and no recorded position is ever missing:

> `WorkingTree.finalize_stands`: a tree that stands for a draft ends as what is final of the draft,
> less its undeclared keys.
-/

namespace ArgumentSchema

open Marks Node

namespace WorkingTree

variable {m : Marks} {t : WorkingTree} {h : Nat} {indexes : List Nat}

/-- The document of a tree is sound, and its root was not made. -/
structure Tidy (m : Marks) (n : Node) : Prop where
  sound : Sound m n
  nodup : n.handles.Nodup
  opened : n.isOpened = true
  unmade : ∀ h, n.handle? = some h → m.made h = false

theorem Tidy.modify {m' : Marks} {f : Node → Node} {n : Node} (htidy : Tidy m n) (hf : Trims f)
    (hsound : Sound m' (n.modify h f)) (hmade : ∀ h, m.made h = false → m'.made h = false) :
    Tidy m' (n.modify h f) :=
  ⟨hsound, htidy.nodup.sublist (hf.handles_modify_sublist n),
    (hf.reshapes.isOpened_modify n).trans htidy.opened,
    fun k hk => hmade k (htidy.unmade k ((hf.reshapes.handle?_modify n).symm.trans hk))⟩

/-! ## Recorded positions -/

theorem mem_removalGroups {removals : List (Nat × Nat)} {i : Nat} :
    (h, i) ∈ removals ↔ ∃ g ∈ removalGroups removals, g.1 = h ∧ i ∈ g.2 := by
  constructor
  · intro hi
    refine ⟨(h, (removals.filter fun r => r.1 == h).map Prod.snd), ?_, rfl, ?_⟩
    · exact List.mem_map_of_mem (List.mem_eraseDups.mpr (List.mem_map_of_mem hi))
    · exact List.mem_map.mpr ⟨(h, i), List.mem_filter.mpr ⟨hi, by simp⟩, rfl⟩
  · rintro ⟨g, hg, rfl, hi⟩
    obtain ⟨k, -, rfl⟩ := List.mem_map.mp hg
    obtain ⟨⟨k', i'⟩, hmem, rfl⟩ := List.mem_map.mp hi
    obtain ⟨hremoval, hk⟩ := List.mem_filter.mp hmem
    obtain rfl : k' = k := by simpa using hk
    exact hremoval

theorem nodup_removalGroups (removals : List (Nat × Nat)) :
    ((removalGroups removals).map (·.1)).Nodup := by
  rw [removalGroups, List.map_map]
  exact (List.map_id _).symm ▸ nodup_eraseDups (removals.map Prod.fst)

section Groups

variable {groups : List (Nat × List Nat)}

/-- If no other group has the handle of the first, its marks are those of this list alone. -/
theorem mem_gone_head
    (hgone : ∀ k i, (k, i) ∈ m.gone ↔ ∃ g ∈ (h, indexes) :: groups, g.1 = k ∧ i ∈ g.2)
    (hh : h ∉ groups.map (·.1)) (i : Nat) : (h, i) ∈ m.gone ↔ i ∈ indexes := by
  rw [hgone]
  constructor
  · rintro ⟨g, hg, hgh, hi⟩
    rcases List.mem_cons.mp hg with rfl | hg
    · exact hi
    · exact absurd (List.mem_map.mpr ⟨g, hg, hgh⟩) hh
  · exact fun hi => ⟨_, List.mem_cons_self .., rfl, hi⟩

/-- Without the marks of the first list, those of the other groups are left. -/
theorem mem_gone_tail
    (hgone : ∀ k i, (k, i) ∈ m.gone ↔ ∃ g ∈ (h, indexes) :: groups, g.1 = k ∧ i ∈ g.2)
    (hh : h ∉ groups.map (·.1)) (k i : Nat) :
    (k, i) ∈ (m.struck h).gone ↔ ∃ g ∈ groups, g.1 = k ∧ i ∈ g.2 := by
  rw [mem_struck_gone, hgone]
  constructor
  · rintro ⟨⟨g, hg, hgk, hi⟩, hne⟩
    rcases List.mem_cons.mp hg with rfl | hg
    · exact absurd hgk.symm hne
    · exact ⟨g, hg, hgk, hi⟩
  · rintro ⟨g, hg, rfl, hi⟩
    refine ⟨⟨g, List.mem_cons_of_mem _ hg, rfl, hi⟩, ?_⟩
    rintro rfl
    exact hh (List.mem_map.mpr ⟨g, hg, rfl⟩)

end Groups

theorem sound_container? (hroot : Sound m t.root) (hdetached : ∀ n ∈ t.detached, Sound m n)
    {n : Node} (hn : t.container? h = some n) : Sound m n ∧ n.handle? = some h := by
  rw [container?, Option.or_eq_some_iff] at hn
  rcases hn with hn | ⟨-, hn⟩
  · exact ⟨hroot.of_find? hn, handle?_of_find? hn⟩
  · obtain ⟨x, hx, hfind⟩ := exists_of_findInItems hn
    exact ⟨(hdetached x hx).of_find? hfind, handle?_of_find? hfind⟩

/-- Recorded positions exist. -/
theorem indexes_lt {n : Node} (hsound : Sound m n) (hhandle : n.handle? = some h)
    (hgone : ∀ i, (h, i) ∈ m.gone ↔ i ∈ indexes) : indexes.all (· < n.size) = true := by
  rw [List.all_eq_true]
  intro i hi
  have hi := (hgone i).mpr hi
  cases hsound with
  | leaf v => cases hhandle
  | dict gone named placed below =>
    obtain rfl := Option.some.inj hhandle
    exact absurd hi (gone i)
  | list made gone unmade below =>
    obtain rfl := Option.some.inj hhandle
    exact decide_eq_true (gone i hi)

theorem sound_itemsAt {n : Node} (hsound : Sound m n) :
    ∀ x ∈ n.itemsAt indexes, Sound (m.struck h) x := by
  intro x hx
  cases hsound with
  | leaf v => cases hx
  | dict gone named placed below => cases hx
  | list made gone unmade below =>
    obtain ⟨y, hy, rfl⟩ := List.mem_map.mp hx
    have hmem := List.mem_map_of_mem (f := (·.1)) (List.mem_of_mem_filter hy)
    rw [List.zipIdx_map_fst] at hmem
    exact (below _ hmem).struck

/-- With nothing more recorded, only the mappings that were made are of interest. -/
theorem sound_ofCreated {n : Node} (hsound : Sound m n) :
    Sound (ofCreated m.created) n :=
  hsound.anti (ofCreated m.created) (by simp [ofCreated]) (fun _ hc => hc) fun _ hc _ => hc

theorem remains_ofCreated (hgone : m.gone = []) (n : Node) :
    remains (ofCreated m.created) n = remains m n :=
  remains_congr (fun _ _ _ => by rw [hgone]; exact Iff.rfl) fun _ _ => rfl

/-- All recorded positions are removed, and what remains stays the same. -/
theorem compact_eq (groups : List (Nat × List Nat)) :
    ∀ (t : WorkingTree) (m : Marks), Tidy m t.root → (∀ n ∈ t.detached, Sound m n) →
      (∀ h i, (h, i) ∈ m.gone ↔ ∃ g ∈ groups, g.1 = h ∧ i ∈ g.2) → (groups.map (·.1)).Nodup →
      ∃ t', compact t groups = (t', none) ∧ t'.created = t.created ∧
        Tidy (ofCreated m.created) t'.root ∧
        remains (ofCreated m.created) t'.root = remains m t.root := by
  induction groups with
  | nil =>
    intro t m htidy _ hgone _
    have hnone : m.gone = [] := by
      refine List.eq_nil_iff_forall_not_mem.mpr fun e he => ?_
      obtain ⟨g, hg, -⟩ := (hgone e.1 e.2).mp he
      cases hg
    refine ⟨t, rfl, rfl, ⟨sound_ofCreated htidy.sound, htidy.nodup, htidy.opened,
      htidy.unmade⟩, remains_ofCreated hnone _⟩
  | cons g groups ih =>
    obtain ⟨h, indexes⟩ := g
    intro t m htidy hdetached hgone hnd
    obtain ⟨hh, hnd⟩ := List.nodup_cons.mp hnd
    have hown := mem_gone_head hgone hh
    have hrest := mem_gone_tail hgone hh
    have htrims := trims_dropIndexes indexes
    have hdrop := remains_dropIndexes hown htidy.nodup htidy.sound
    rw [compact]
    cases hc : t.container? h with
    | none =>
      -- the list is no longer in the tree, so nothing changes when its marks are struck
      have hout : h ∉ t.root.handles := by
        intro hmem
        obtain ⟨c, hfind⟩ := Option.isSome_iff_exists.mp (find?_isSome_of_mem hmem)
        rw [container?_eq hfind] at hc
        cases hc
      have htidy' : Tidy (m.struck h) t.root :=
        ⟨htidy.sound.struck, htidy.nodup, htidy.opened, htidy.unmade⟩
      obtain ⟨t', hcompact, hcreated, htidy', hremains⟩ := ih t (m.struck h) htidy'
        (fun n hn => (hdetached n hn).struck) hrest hnd
      rw [modify_of_not_mem hout] at hdrop
      exact ⟨t', hcompact, hcreated, htidy', hremains.trans hdrop⟩
    | some n =>
      obtain ⟨hsound, hhandle⟩ := sound_container? htidy.sound hdetached hc
      dsimp only
      rw [if_pos (indexes_lt hsound hhandle hown)]
      let t₁ := (t.modify h (Node.dropIndexes indexes)).detach (n.itemsAt indexes)
      have hdetached₁ : ∀ x ∈ t₁.detached, Sound (m.struck h) x := by
        intro x hx
        rcases List.mem_append.mp hx with hx | hx
        · rw [modify, modifyItems_eq] at hx
          obtain ⟨y, hy, rfl⟩ := List.mem_map.mp hx
          exact (hdetached y hy).dropIndexes indexes
        · exact sound_itemsAt hsound x (List.mem_of_mem_filter hx)
      obtain ⟨t', hcompact, hcreated, htidy', hremains⟩ := ih t₁ (m.struck h)
        (htidy.modify htrims (htidy.sound.dropIndexes indexes) fun _ hk => hk) hdetached₁ hrest hnd
      exact ⟨t', hcompact, hcreated, htidy', hremains.trans hdrop⟩

/-! ## Mappings that stayed empty -/

/-- The youngest mapping that was made is removed if it is still empty, and what remains stays the
same. -/
theorem pruneOne_eq {older : List Created} {c : Created}
    (hsorted : (older ++ [c]).Pairwise fun a b => a.child < b.child)
    (hyounger : ∀ b ∈ older ++ [c], b.parent < b.child)
    (htidy : Tidy (ofCreated (older ++ [c])) t.root) :
    Tidy (ofCreated older) (t.pruneOne c).root ∧
      remains (ofCreated older) (t.pruneOne c).root =
        remains (ofCreated (older ++ [c])) t.root := by
  have hne : t.root.handle? ≠ some c.child := by
    intro hhandle
    have := htidy.unmade c.child hhandle
    rw [made_child] at this
    cases this
  have hmade : ∀ h, (ofCreated (older ++ [c])).made h = false → (ofCreated older).made h = false := by
    intro h hh
    rw [made, List.any_eq_false] at hh ⊢
    exact fun b hb => hh b (List.mem_append_left _ hb)
  have hsame : Tidy (ofCreated older) t.root :=
    ⟨htidy.sound.of_concat hsorted, htidy.nodup, htidy.opened, fun h hh => hmade h (htidy.unmade h hh)⟩
  -- a mapping that is in the tree still stands under its key; one that is not is left alone
  by_cases hin : c.child ∈ t.root.handles
  · obtain ⟨ces, hparent, hfind⟩ := find?_parent hsorted htidy.nodup htidy.sound hne hin
    obtain ⟨p, hp, hchild⟩ := Option.bind_eq_some_iff.mp hparent
    have hlook : (t.container? c.parent).bind (·.child? (.key c.key)) = some (.dict c.child ces) := by
      rw [container?_eq hp]
      exact hchild
    unfold pruneOne
    rw [hlook]
    cases ces with
    | nil =>
      dsimp only
      rw [if_pos rfl]
      refine ⟨htidy.modify (trims_eraseKey c.key) (hsame.sound.eraseKey c.key) hmade, ?_⟩
      refine remains_eraseKey hsorted htidy.nodup htidy.sound hne fun q hq => ?_
      obtain rfl := Option.some.inj (hp.symm.trans hq)
      exact hchild
    | cons e ces =>
      refine ⟨hsame, (remains_keep hsorted hyounger htidy.nodup htidy.sound ?_).symm⟩
      rw [hfind]
      simp
  · have hroot : (t.pruneOne c).root = t.root := by
      unfold pruneOne
      split
      · next h hlook =>
        split
        · next hh =>
          subst hh
          refine modify_of_not_mem fun hparent => hin ?_
          obtain ⟨p, hp⟩ := Option.isSome_iff_exists.mp (find?_isSome_of_mem hparent)
          rw [container?_eq hp] at hlook
          exact handles_subset_of_find? hp _ (mem_handles_of_child? hlook _ (List.mem_cons_self ..))
        · rfl
      · rfl
    rw [hroot]
    exact ⟨hsame, (remains_of_not_mem hin).symm⟩

/-- All mappings that stayed empty are removed, and what remains stays the same. -/
theorem prune_eq (created : List Created) :
    ∀ t : WorkingTree, (created.Pairwise fun a b => a.child < b.child) →
      (∀ c ∈ created, c.parent < c.child) → Tidy (ofCreated created) t.root →
      let t' := created.reverse.foldl pruneOne t
      t'.root.isOpened = true ∧ remains (ofCreated created) t.root = some t'.root := by
  induction created using List.reverseRecOn with
  | nil =>
    intro t _ _ htidy
    exact ⟨htidy.opened, remains_bare t.root⟩
  | append_singleton older c ih =>
    intro t hsorted hyounger htidy
    obtain ⟨htidy', hremains⟩ := pruneOne_eq hsorted hyounger htidy
    obtain ⟨hopen, hleft⟩ := ih (t.pruneOne c) (List.pairwise_append.mp hsorted).1
      (fun b hb => hyounger b (List.mem_append_left _ hb)) htidy'
    rw [List.reverse_append]
    exact ⟨hopen, hremains.symm.trans hleft⟩

/-! ## The end -/

/-- The undeclared keys of the document are dropped. -/
theorem toValue_keepRoots (hopen : t.root.isOpened = true) (table : RuleTable) :
    (t.keepRoots table.roots).toValue = Descent.restricted table t.root.toValue := by
  unfold keepRoots
  cases hroot : t.root with
  | leaf v =>
    rw [hroot] at hopen
    cases hopen
  | list h xs =>
    dsimp only
    rw [WorkingTree.toValue, hroot, Node.toValue]
    rfl
  | dict h es =>
    have hes : ∀ es : List (Value × Node),
        entriesToValues (es.filter fun e => table.roots.any fun s => (Value.str s).sameKey e.1) =
          Descent.declared table (entriesToValues es) := by
      intro es
      induction es with
      | nil => rfl
      | cons e es ih =>
        rw [entriesToValues, Descent.declared, List.filter_cons, List.filter_cons, ← Descent.declared,
          ← ih]
        dsimp only
        split <;> rfl
    exact congrArg (Value.dict false) (hes es)

/-- The records of a tree are those of a document and of what was kept aside, and mappings that were
made are recorded in the order of their making, each after the one that it stands in. -/
structure Orderly (m : Marks) (t : WorkingTree) : Prop where
  root : Tidy m t.root
  detached : ∀ n ∈ t.detached, Sound m n
  gone : ∀ h i, (h, i) ∈ m.gone ↔ (h, i) ∈ t.removals
  created : m.created = t.created
  sorted : t.created.Pairwise fun a b => a.child < b.child
  younger : ∀ c ∈ t.created, c.parent < c.child

/-- In the end the document is what remains of it, less its undeclared keys. -/
theorem Orderly.finalize_eq (ht : Orderly m t) (roots : List String) :
    ∃ t' : WorkingTree, remains m t.root = some t'.root ∧ t'.root.isOpened = true ∧
      t.finalize roots = (t'.keepRoots roots, .ok (t'.keepRoots roots).toValue) := by
  obtain ⟨t', hcompact, hcreated, htidy, hremains⟩ := compact_eq (removalGroups t.removals) t m
    ht.root ht.detached (fun h i => (ht.gone h i).trans mem_removalGroups) (nodup_removalGroups _)
  rw [ht.created] at htidy hremains
  obtain ⟨hopen, hleft⟩ := prune_eq t.created t' ht.sorted ht.younger htidy
  refine ⟨t'.prune, ?_, ?_, ?_⟩
  · rw [← hremains, hleft, prune, hcreated]
  · rw [prune, hcreated]
    exact hopen
  · rw [finalize, hcompact]

/-- A tree that stands for a draft ends as what is final of the draft. -/
theorem finalize_stands {table : RuleTable} {done : List Rule} {k : Nat}
    {shut : List (Nat × Nat)} {d : Draft} {v : Value} (hstands : Stands done k t shut d)
    (hfinal : d.final? = some v) :
    (t.finalize table.roots).2 = .ok (Descent.restricted table v) := by
  have htidy : Tidy (t.marks shut) t.root := by
    refine ⟨hstands.fits.sound, hstands.ready.nodup, hstands.opened, fun h hh => ?_⟩
    have hmade := hstands.unmade
    rw [← hstands.view] at hmade
    cases hroot : t.root with
    | leaf v =>
      rw [hroot] at hh
      cases hh
    | dict k es =>
      rw [hroot] at hh hmade
      obtain rfl := Option.some.inj hh
      rw [view_dict] at hmade
      exact hmade
    | list k xs =>
      have hsound := hstands.fits.sound
      rw [hroot] at hh hsound
      obtain rfl := Option.some.inj hh
      cases hsound with
      | list made gone unmade below => exact made
  have horderly : Orderly (t.marks shut) t :=
    ⟨htidy, by simp [hstands.detached], fun _ _ => Iff.rfl, rfl, hstands.sorted, hstands.younger⟩
  obtain ⟨t', hremains, hopen, hend⟩ := horderly.finalize_eq table.roots
  have hvalue : t'.root.toValue = v := by
    have hview := final?_view (m := t.marks shut) hstands.gone t.root
    rw [hstands.view, hfinal, hremains] at hview
    exact (Option.some.inj hview).symm
  rw [hend, toValue_keepRoots hopen, hvalue]

end WorkingTree

end ArgumentSchema
