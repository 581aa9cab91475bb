import ArgumentSchema.Proofs.InUse
import ArgumentSchema.Proofs.Soundness
import ArgumentSchema.Proofs.Unfolding

/-!
# Trees at work

A tree can be worked on in any order: rules are resolved in it, containers are entered and made by
hand, results are written, fields are discarded, places are blocked. `WorkingTree.Worked` says that a
tree has come about so, and that a position was recorded for a list only while it was in range. It
stays in range, since no list loses elements before the end: what comes later opens containers, makes
mappings and puts values in the place of others, and a list that leaves the document is kept aside.

> `WorkingTree.worked_iff`: a tree has been worked on just if its containers can be told apart and the
> recorded positions are in range.
> `WorkingTree.InUse.worked`: so has every tree in use, whichever of its tasks are discarded.
-/

namespace ArgumentSchema

open Node

namespace Node

variable {c : Node}

theorem stays_setChild (step : Step) (m : Node) (c : Node) : Stays c.face (setChild step m c).face := by
  cases c with
  | leaf v => exact .refl _
  | dict k es => cases step <;> exact stays_dict ..
  | list k xs =>
    cases step with
    | key s => exact .refl _
    | index i => exact stays_list List.length_set

theorem fronted_setChild (step : Step) (m : Node) (hc : c.Fronted) : (setChild step m c).Fronted := by
  cases c with
  | leaf v => exact trivial
  | dict k es =>
    cases step with
    | key s => exact fronted_setName hc s m
    | index i => exact hc
  | list k xs => cases step <;> exact trivial

theorem stays_eraseKey (s : String) (c : Node) : Stays c.face (eraseKey s c).face := by
  cases c with
  | leaf v => exact .refl _
  | dict k es => exact stays_dict ..
  | list k xs => exact .refl _

theorem fronted_eraseKey (s : String) (hc : c.Fronted) : (eraseKey s c).Fronted := by
  cases c with
  | leaf v => exact trivial
  | dict k es => exact List.Pairwise.filter _ hc
  | list k xs => exact trivial

end Node

namespace WorkingTree

variable {t t' : WorkingTree} {h : Nat} {c : Node}

/-! ## Intact trees -/

/-- A tree holds a list with an element at a position, in the document or kept aside. -/
def HasElement (t : WorkingTree) (h i : Nat) : Prop :=
  ∃ xs, t.container? h = some (.list h xs) ∧ i < xs.length

/-- The containers of a tree can be told apart: each has a handle of its own, which has been given, and
each is where it is found, not behind another entry of its key. -/
structure Intact (t : WorkingTree) : Prop where
  nodup : t.held.Nodup
  lt : ∀ h ∈ t.held, h < t.next
  fronted : ∀ h c, t.container? h = some c → c.Fronted

theorem hasElement_iff (hnd : t.held.Nodup) {i : Nat} :
    t.HasElement h i ↔ ∃ xs, .list h xs ∈ t.faces ∧ i < xs.length := by
  constructor
  · intro hhas
    obtain ⟨xs, hlist, hi⟩ := hhas
    exact ⟨xs.map shell, face_mem hlist, by rw [List.length_map]; exact hi⟩
  · intro hface
    obtain ⟨xs, hface, hi⟩ := hface
    obtain ⟨c, hc, hcface⟩ := container?_of_face hnd hface rfl
    obtain ⟨ys, rfl, rfl⟩ := exists_of_face_eq_list hcface
    exact ⟨ys, hc, by rw [List.length_map] at hi; exact hi⟩

/-- A tree is intact if its faces tell so. -/
theorem Intact.of_faces (hnd : t.held.Nodup) (hlt : ∀ h ∈ t.held, h < t.next)
    (hfront : ∀ c ∈ t.faces, c.Fronted) : t.Intact :=
  ⟨hnd, hlt, fun _ c hc => fronted_face.mp (hfront c.face (face_mem hc))⟩

theorem Intact.faces (ht : t.Intact) : ∀ c ∈ t.faces, c.Fronted := by
  intro c hc
  have hmem : c ∈ (t.root :: t.detached).flatMap Node.faces := by
    rw [← facesOfItems_eq]
    exact hc
  obtain ⟨x, -, hcx⟩ := List.mem_flatMap.mp hmem
  obtain ⟨h, hh⟩ := exists_handle?_of_mem_faces hcx
  obtain ⟨d, hd, rfl⟩ := container?_of_face ht.nodup hc hh
  exact fronted_face.mpr (ht.fronted h d hd)

theorem Intact.ofEntries (es : Entries Value) : Intact (.ofEntries es) := by
  have hfaces : (WorkingTree.ofEntries es).faces = [face (dict 0 (closedEntries es))] := by
    show (dict 0 (closedEntries es)).faces ++ [] = _
    rw [List.append_nil, faces_closedEntries]
  have hheld : (WorkingTree.ofEntries es).held = [0] := by
    rw [held_eq, hfaces]
    rfl
  refine .of_faces (hheld ▸ List.nodup_singleton 0) ?_ ?_
  · rw [hheld]
    simp [WorkingTree.ofEntries]
  · rw [hfaces]
    intro c hc
    obtain rfl := List.mem_singleton.mp hc
    exact fronted_face.mpr (fronted_closed 0 es)

/-- A task can be discarded in a tree: if it is one for an element, the tree holds the element. -/
def CanDiscard (t : WorkingTree) (task : Task) : Prop :=
  ∀ i, task.step = .index i → t.HasElement task.container i

/-- One tree has become another: it is intact, the elements of lists are still held, and each position
that was recorded in between is in range. -/
structure Carries (t t' : WorkingTree) : Prop where
  intact : t'.Intact
  holds : ∀ h i, t.HasElement h i → t'.HasElement h i
  removals : ∀ e ∈ t'.removals, e ∈ t.removals ∨ t'.HasElement e.1 e.2

namespace Carries

theorem refl (ht : t.Intact) : Carries t t := ⟨ht, fun _ _ hhas => hhas, fun _ he => .inl he⟩

theorem trans {t'' : WorkingTree} (h₁ : Carries t t') (h₂ : Carries t' t'') : Carries t t'' := by
  refine ⟨h₂.intact, fun h i hhas => h₂.holds h i (h₁.holds h i hhas), fun e he => ?_⟩
  rcases h₂.removals e he with he | hhas
  · exact (h₁.removals e he).imp_right (h₂.holds e.1 e.2)
  · exact .inr hhas

/-- A task that could be discarded still can. -/
theorem canDiscard (hcarries : Carries t t') {task : Task} (hrange : t.CanDiscard task) :
    t'.CanDiscard task := fun i hi => hcarries.holds _ i (hrange i hi)

end Carries

namespace Intact

/-- Containers that stay carry on. -/
theorem carries (ht : t.Intact) (hnd : t'.held.Nodup) (hlt : ∀ h ∈ t'.held, h < t'.next)
    (hfaces : Unfolds t.faces t'.faces) (hremovals : t'.removals = t.removals) : Carries t t' := by
  refine ⟨.of_faces hnd hlt (hfaces.fronted ht.faces), fun h i hhas => ?_,
    fun e he => .inl (hremovals ▸ he)⟩
  obtain ⟨xs, hface, hi⟩ := (hasElement_iff ht.nodup).mp hhas
  obtain ⟨d, hd, hstays⟩ := hfaces.stays _ hface
  obtain ⟨ys, rfl, hlength⟩ := hstays.list h xs rfl
  exact (hasElement_iff hnd).mpr ⟨ys, hd, by omega⟩

/-- A walk through the document. -/
theorem walked (ht : t.Intact) {root : Node} {st : WalkState}
    (hgrows : Grows t.root.handles ⟨t.next, t.created⟩ root.handles st)
    (hfaces : Unfolds t.root.faces root.faces) :
    Carries t { t with root, next := st.next, created := st.created } := by
  obtain ⟨-, hdetached, hdisj⟩ := List.nodup_append.mp ht.nodup
  have hltroot : ∀ h ∈ t.root.handles, h < t.next := fun h hh => ht.lt h (List.mem_append_left _ hh)
  have hltdetached : ∀ h ∈ handlesOfItems t.detached, h < t.next := fun h hh =>
    ht.lt h (List.mem_append_right _ hh)
  have hheld := hgrows.append hltdetached (fun h hh hh' => hdisj h hh h hh' rfl) hltroot
    (.refl hdetached st)
  exact ht.carries hheld.nodup (hheld.lt ht.lt) (hfaces.append (.refl _)) rfl

/-- A change of one container that leaves the elements of a list in number, and may bring new
containers. -/
theorem change (ht : t.Intact) {f : Node → Node} {taken added : List Node} {next : Nat}
    (hf : Exchanges f c taken added) (hc : t.container? h = some c)
    (hstays : Stays c.face (f c).face) (hfront : c.Fronted → (f c).Fronted)
    (hadded : ∀ d ∈ facesOfItems added, d.Fronted) (hnew : (handlesOfItems added).Nodup)
    (hnext : ∀ k ∈ handlesOfItems added, t.next ≤ k ∧ k < next) (hle : t.next ≤ next)
    (created : List Created) :
    Carries t { (t.modify h f).detach taken with next, created } := by
  obtain ⟨rest, hbefore, hafter⟩ := faces_change hf ht.nodup hc
  have hheld := held_exchange hf ht.nodup hc
  refine ht.carries ?_ ?_ ?_ rfl
  -- handles that are added have not been given before
  · refine hheld.nodup_iff.mpr (List.nodup_append.mpr ⟨hnew, ht.nodup, fun k hk j hj heq => ?_⟩)
    have hle := (hnext k hk).1
    have hlt := ht.lt j hj
    omega
  · intro k hk
    rcases List.mem_append.mp (hheld.mem_iff.mp hk) with hk | hk
    · exact (hnext k hk).2
    · exact Nat.lt_of_lt_of_le (ht.lt k hk) hle
  · refine Unfolds.of_perm (.cons hstays (fun hc => ?_) ?_) hbefore hafter
    · exact fronted_face.mpr (hfront (fronted_face.mp hc))
    · exact Unfolds.append (F := []) ⟨by simp, fun _ => hadded⟩ (.refl rest)

/-- A change of one container that brings no new ones. -/
theorem trade (ht : t.Intact) {f : Node → Node} {taken : List Node}
    (hf : Exchanges f c taken []) (hc : t.container? h = some c)
    (hstays : Stays c.face (f c).face) (hfront : c.Fronted → (f c).Fronted) :
    Carries t ((t.modify h f).detach taken) :=
  ht.change hf hc hstays hfront (by simp [facesOfItems]) .nil (by simp [handlesOfItems])
    (Nat.le_refl _) t.created

theorem resolve (ht : t.Intact) (table : RuleTable) (r : Rule) :
    Carries t (t.resolve table r).1 := by
  unfold WorkingTree.resolve
  cases r.path.getLast? with
  | none => exact .refl ht
  | some last =>
    have hroot : t.root.handles.Nodup := (List.nodup_append.mp ht.nodup).1
    have hlt : ∀ h ∈ t.root.handles, h < t.next := fun h hh => ht.lt h (List.mem_append_left _ hh)
    exact ht.walked (Walk.follow_grows _ _ _ _ _ _ hroot hlt) (Walk.follow_unfolds ..)

theorem descend (ht : t.Intact) (keys : List Value) : Carries t (t.descend keys).1 := by
  have hroot : t.root.handles.Nodup := (List.nodup_append.mp ht.nodup).1
  have hlt : ∀ h ∈ t.root.handles, h < t.next := fun h hh => ht.lt h (List.mem_append_left _ hh)
  exact ht.walked (descendFrom_grows t.created keys t.next t.root hroot hlt)
    (descendFrom_unfolds keys t.next t.root)

/-- A mapping is made under a key of what is reached. -/
theorem create (ht : t.Intact) (keys : List Value) (name : String) :
    Carries t (t.create keys name).1 := by
  have hdown := ht.descend keys
  have hfound : ∀ h c, (t.descend keys).2 = .ok c → c.handle? = some h →
      (t.descend keys).1.container? h = some c := fun h c => descend_found hdown.intact.nodup
  unfold WorkingTree.create
  split
  · next t₁ e heq =>
    rw [heq] at hdown
    exact hdown
  · next t₁ h es heq =>
    rw [heq] at hdown hfound
    refine hdown.trans (hdown.intact.change (exchanges_setName h es name (.dict t₁.next []))
      (hfound h _ rfl rfl) (stays_setChild ..) (fronted_setChild _ _) ?_ ?_ ?_ (Nat.le_succ _) _)
    · intro d hd
      obtain rfl := List.mem_singleton.mp hd
      exact .nil
    · exact List.nodup_singleton _
    · intro k hk
      obtain rfl := List.mem_singleton.mp hk
      exact ⟨Nat.le_refl _, Nat.lt_succ_self _⟩
  · next t₁ h xs heq =>
    rw [heq] at hdown
    exact hdown
  · next t₁ v heq =>
    rw [heq] at hdown
    exact hdown

theorem store (ht : t.Intact) {step : Step} {v : Value} (hstore : t.store h step v = .ok t') :
    Carries t t' := by
  rcases eq_of_store hstore with rfl | ⟨n, hn, rfl⟩
  · exact .refl ht
  · exact ht.trade (exchanges_setChild step v n) hn (stays_setChild ..) (fronted_setChild _ _)

/-- A name is taken from a container, if the tree holds it. -/
theorem erase (ht : t.Intact) (h : Nat) (s : String) :
    Carries t ((t.modify h (eraseKey s)).detach
      ((t.container? h).bind (·.child? (.key s))).toList) := by
  cases hc : t.container? h with
  | none =>
    rw [modify_of_container?_none hc, Option.bind_none, Option.toList_none, detach_nil]
    exact .refl ht
  | some c =>
    exact ht.trade (exchanges_eraseKey (ht.fronted h c hc) s) hc (stays_eraseKey s c)
      (fronted_eraseKey s)

theorem discard (ht : t.Intact) {task : Task} (hrange : t.CanDiscard task) :
    Carries t (t.discard task) := by
  unfold WorkingTree.discard
  split
  · next i hstep =>
    refine ⟨⟨ht.nodup, ht.lt, ht.fronted⟩, fun _ _ hhas => hhas, fun e he => ?_⟩
    rcases List.mem_append.mp he with he | he
    · exact .inl he
    · rw [List.mem_singleton.mp he]
      exact .inr (hrange i hstep)
  · next s hstep =>
    dsimp only
    rw [hstep]
    exact ht.erase task.container s

theorem write (ht : t.Intact) {task : Task} {v : Value}
    (hrange : v.isAbsent = true → t.CanDiscard task) (hwrite : t.write task v = .ok t') :
    Carries t t' := by
  unfold WorkingTree.write at hwrite
  split at hwrite
  · next habsent =>
    obtain rfl := Except.ok.inj hwrite
    exact ht.discard (hrange habsent)
  · exact ht.store hwrite

theorem block (ht : t.Intact) (place : Place) : Carries t (t.block place) :=
  ⟨⟨ht.nodup, ht.lt, ht.fronted⟩, fun _ _ hhas => hhas, fun _ he => .inl he⟩

/-- The tasks that are found in a tree can be discarded in it. -/
theorem canDiscard_resolve (ht : t.Intact) (table : RuleTable) (r : Rule) :
    ∀ task ∈ (t.resolve table r).2, (t.resolve table r).1.CanDiscard task := by
  have hnd := (ht.resolve table r).intact.nodup
  unfold WorkingTree.resolve at hnd ⊢
  cases hlast : r.path.getLast? with
  | none => simp
  | some last =>
    rw [hlast] at hnd
    intro task htask i hi
    obtain ⟨x, hx, rfl⟩ := List.mem_map.mp htask
    obtain ⟨way, c, hleads, hc, hindex⟩ := Walk.follow_holds _ _ _ _ _ _ x hx
    obtain ⟨xs, rfl, hlt⟩ := hindex i hi
    have hfind := hleads.find? (List.nodup_append.mp hnd).1 hc
    exact ⟨xs, by rw [container?, hfind]; rfl, hlt⟩

end Intact

/-! ## Trees at work -/

/-- A tree that has been worked on since nothing was recorded in it. A position is recorded only while
it is in range. -/
inductive Worked : WorkingTree → Prop
  | start {t : WorkingTree} (intact : t.Intact) (clear : t.removals = []) : Worked t
  | resolve {t : WorkingTree} (h : Worked t) (table : RuleTable) (r : Rule) :
      Worked (t.resolve table r).1
  | descend {t : WorkingTree} (h : Worked t) (keys : List Value) : Worked (t.descend keys).1
  | create {t : WorkingTree} (h : Worked t) (keys : List Value) (name : String) :
      Worked (t.create keys name).1
  | write {t t' : WorkingTree} {task : Task} {v : Value} (h : Worked t)
      (inRange : v.isAbsent = true → t.CanDiscard task) (written : t.write task v = .ok t') :
      Worked t'
  | discard {t : WorkingTree} {task : Task} (h : Worked t) (inRange : t.CanDiscard task) :
      Worked (t.discard task)
  | block {t : WorkingTree} (h : Worked t) (place : Place) : Worked (t.block place)

/-- A tree puts removals off: its containers can be told apart, and it holds the elements that are
recorded. -/
structure Deferring (t : WorkingTree) : Prop where
  intact : t.Intact
  recorded : ∀ e ∈ t.removals, t.HasElement e.1 e.2

theorem Deferring.carried (ht : t.Deferring) (hcarries : Carries t t') : t'.Deferring := by
  refine ⟨hcarries.intact, fun e he => ?_⟩
  rcases hcarries.removals e he with he | hhas
  · exact hcarries.holds e.1 e.2 (ht.recorded e he)
  · exact hhas

/-- However a tree is worked on, the positions that are recorded stay in range. -/
theorem Worked.deferring (h : Worked t) : t.Deferring := by
  induction h with
  | start hintact hclear => exact ⟨hintact, by simp [hclear]⟩
  | resolve _ table r ih => exact ih.carried (ih.intact.resolve table r)
  | descend _ keys ih => exact ih.carried (ih.intact.descend keys)
  | create _ keys name ih => exact ih.carried (ih.intact.create keys name)
  | write _ hrange hwritten ih => exact ih.carried (ih.intact.write hrange hwritten)
  | discard _ hrange ih => exact ih.carried (ih.intact.discard hrange)
  | block _ place ih => exact ih.carried (ih.intact.block place)

/-- A tree has been worked on just if its containers can be told apart and the positions that are
recorded are in range, in whatever order they are. -/
theorem worked_iff : Worked t ↔ t.Deferring := by
  refine ⟨Worked.deferring, fun ht => ?_⟩
  -- record by record, each for a task of its own
  have hrecords : ∀ removals : List (Nat × Nat), (∀ e ∈ removals, t.HasElement e.1 e.2) →
      Worked { t with removals } := by
    intro removals
    induction removals using List.reverseRecOn with
    | nil =>
      intro _
      exact .start ⟨ht.intact.nodup, ht.intact.lt, ht.intact.fronted⟩ rfl
    | append_singleton removals e ih =>
      intro hall
      obtain ⟨h, i⟩ := e
      let task : Task := ⟨⟨Contract.any, []⟩, h, .index i, [], .absent, ""⟩
      have hworked := ih fun e he => hall e (List.mem_append_left _ he)
      have hrange : CanDiscard { t with removals } task := by
        intro j hj
        obtain rfl := Step.index.inj hj
        exact hall (h, i) (List.mem_append_right _ (List.mem_singleton_self _))
      exact hworked.discard hrange
  exact hrecords t.removals ht.recorded

/-- A tree in use has been worked on, and each task that was found in it can be discarded in it. -/
theorem InUse.worked {table : RuleTable} {tasks : List Task} (h : InUse table t tasks) :
    Worked t ∧ ∀ task ∈ tasks, t.CanDiscard task := by
  induction h with
  | start es => exact ⟨.start (.ofEntries es) rfl, by simp⟩
  | resolve _ r ih =>
    obtain ⟨hworked, htasks⟩ := ih
    have hintact := hworked.deferring.intact
    refine ⟨hworked.resolve table r, fun task htask => ?_⟩
    rcases List.mem_append.mp htask with htask | htask
    · exact (hintact.resolve table r).canDiscard (htasks task htask)
    · exact hintact.canDiscard_resolve table r task htask
  | @write t t' tasks task v _ found written ih =>
    obtain ⟨hworked, htasks⟩ := ih
    have hcan := fun _ : v.isAbsent = true => htasks task found
    refine ⟨hworked.write hcan written, fun other hother => ?_⟩
    exact (hworked.deferring.intact.write hcan written).canDiscard (htasks other hother)
  | discard _ found ih =>
    obtain ⟨hworked, htasks⟩ := ih
    have hcan := htasks _ found
    refine ⟨hworked.discard hcan, fun other hother => ?_⟩
    exact (hworked.deferring.intact.discard hcan).canDiscard (htasks other hother)
  | block _ place ih =>
    obtain ⟨hworked, htasks⟩ := ih
    refine ⟨hworked.block place, fun other hother => ?_⟩
    exact (hworked.deferring.intact.block place).canDiscard (htasks other hother)

end WorkingTree

end ArgumentSchema
