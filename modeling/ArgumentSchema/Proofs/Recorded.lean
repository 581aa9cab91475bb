import ArgumentSchema.Proofs.Finalize
import ArgumentSchema.Proofs.InUse
import ArgumentSchema.Proofs.Soundness

/-!
# The records of a tree in use

In whatever order a tree is used, its records tell of it what they tell in a run: recorded positions
exist, mappings that were made stand where they are recorded, and everything that has left the
document is kept aside. For a task that is written late, or again, the position of its element has to
exist from the time it was found, so the records are taken with the elements of all tasks:

> `WorkingTree.InUse.recorded`: what the records of a tree in use tell of it.
> `WorkingTree.InUse.numbered`: its root is an opened container, and each container in the document has a
> handle of its own.
-/

namespace ArgumentSchema

open Marks Node

/-! ## Changes of a container -/

namespace Node

theorem reshapes_setChild (step : Step) (n : Node) : Reshapes (setChild step n) := by
  constructor
  · intro h es
    cases step with
    | key s => exact ⟨_, rfl⟩
    | index i => exact ⟨es, rfl⟩
  · intro h xs
    cases step with
    | key s => exact ⟨xs, rfl⟩
    | index i => exact ⟨_, rfl⟩

end Node

namespace Marks

variable {m : Marks} {n c : Node}

/-- In a mapping that is in order every opened container is found under its key. -/
theorem Sound.fronted (hsound : Sound m n) : n.Fronted := by
  cases hsound with
  | leaf v => exact trivial
  | dict gone named placed below => exact named.first
  | list made gone unmade below => exact trivial

theorem Sound.setChild (hsound : Sound m n) (step : Step) (v : Value) :
    Sound m (Node.setChild step (.leaf v) n) := by
  cases hsound with
  | leaf w => exact .leaf w
  | dict gone named placed below =>
    cases step with
    | index i => exact .dict gone named placed below
    | key s =>
      refine .dict gone (named.insert _) (fun t c hc => ?_) fun e he => ?_
      · by_cases hst : s = t
        · subst hst
          rw [Entries.find?_insert_self] at hc
          obtain rfl := Option.some.inj hc
          trivial
        · rw [Entries.find?_insert_ne hst] at hc
          have hplaced := placed t c hc
          cases c with
          | leaf w => trivial
          | list k xs => trivial
          | dict k ces => exact fun hk => ⟨(hplaced hk).1, (hplaced hk).2.insert s _⟩
      · rcases Entries.mem_insert he with rfl | he
        · exact .leaf v
        · exact below e he
  | list made gone unmade below =>
    cases step with
    | key s => exact .list made gone unmade below
    | index i =>
      refine .list made (fun j hj => ?_) (fun c ces hc => ?_) fun x hx => ?_
      · rw [List.length_set]
        exact gone j hj
      · rcases List.mem_or_eq_of_mem_set hc with hc | hc
        · exact unmade c ces hc
        · cases hc
      · rcases List.mem_or_eq_of_mem_set hx with hx | rfl
        · exact below x hx
        · exact .leaf v

theorem Sound.child? (hsound : Sound m n) {step : Step} (hc : n.child? step = some c) :
    Sound m c := by
  cases hsound with
  | leaf v => cases step <;> cases hc
  | dict gone named placed below =>
    cases step with
    | index i => cases hc
    | key s => exact below _ (Entries.mem_of_find? hc)
  | list made gone unmade below =>
    cases step with
    | key s => cases hc
    | index i => exact below _ (List.mem_of_getElem? hc)

end Marks

namespace WorkingTree

variable {t : WorkingTree} {tasks : List Task} {table : RuleTable}

/-! ## Elements of tasks -/

/-- The positions of the elements that tasks are for, each with the handle of its list. -/
def elements (tasks : List Task) : List (Nat × Nat) :=
  tasks.filterMap fun task =>
    match task.step with
    | .index i => some (task.container, i)
    | .key _ => none

theorem mem_elements {h i : Nat} :
    (h, i) ∈ elements tasks ↔ ∃ task ∈ tasks, task.container = h ∧ task.step = .index i := by
  rw [elements, List.mem_filterMap]
  constructor
  · intro hmem
    obtain ⟨task, htask, heq⟩ := hmem
    refine ⟨task, htask, ?_⟩
    cases hstep : task.step with
    | key s =>
      rw [hstep] at heq
      cases heq
    | index j =>
      rw [hstep] at heq
      cases heq
      exact ⟨rfl, rfl⟩
  · intro hmem
    obtain ⟨task, htask, rfl, hstep⟩ := hmem
    exact ⟨task, htask, by rw [hstep]⟩

/-- The records of a tree, with the elements of all tasks that have been found in it. -/
def records (t : WorkingTree) (tasks : List Task) : Marks := ⟨[], elements tasks, [], t.created⟩

/-- The records of a tree tell where things are: in the document and in what was kept aside, where
all containers have different handles. -/
structure Recorded (t : WorkingTree) (tasks : List Task) : Prop where
  handle : t.root.handle? = some 0
  root : Sound (t.records tasks) t.root
  detached : ∀ n ∈ t.detached, Sound (t.records tasks) n
  ready : Ready (t.records tasks) t.held ⟨t.next, t.created⟩
  removals : ∀ e ∈ t.removals, e ∈ elements tasks
  sorted : t.created.Pairwise fun a b => a.child < b.child
  younger : ∀ c ∈ t.created, c.parent < c.child

namespace Recorded

theorem ofEntries (es : Entries Value) : Recorded (.ofEntries es) [] := by
  have hheld : (WorkingTree.ofEntries es).held = [0] := by
    rw [held, handles_ofEntries]
    rfl
  refine ⟨rfl, .closedEntries (by simp [records, elements]) es, by simp [WorkingTree.ofEntries],
    ?_, by simp [WorkingTree.ofEntries], .nil, by simp [WorkingTree.ofEntries]⟩
  rw [hheld]
  exact ⟨by simp, by simp [WorkingTree.ofEntries], by simp [records, elements], by simp [records],
    rfl, by simp [records, WorkingTree.ofEntries]⟩

theorem container? (ht : Recorded t tasks) {h : Nat} {n : Node} (hn : t.container? h = some n) :
    Sound (t.records tasks) n ∧ n.handle? = some h :=
  sound_container? ht.root ht.detached hn

/-- A change of a container, from which it takes what it removes aside. -/
theorem change (ht : Recorded t tasks) {h : Nat} {f : Node → Node} (hf : Reshapes f)
    (hsound : ∀ c, Sound (t.records tasks) c → Sound (t.records tasks) (f c)) {n : Node}
    (hn : t.container? h = some n) {ns : List Node} (hns : ∀ x ∈ ns, Sound (t.records tasks) x)
    (hexchanges : Exchanges f n ns []) : Recorded ((t.modify h f).detach ns) tasks := by
  have hheld : ((t.modify h f).detach ns).held.Perm t.held :=
    held_exchange hexchanges ht.ready.nodup hn
  refine ⟨(hf.handle?_modify t.root).trans ht.handle, ?_, fun x hx => ?_, ?_, ht.removals,
    ht.sorted, ht.younger⟩
  · exact ht.root.modify hf fun c _ hc => hsound c hc
  · rcases List.mem_append.mp hx with hx | hx
    · rw [WorkingTree.modify, modifyItems_eq] at hx
      obtain ⟨y, hy, rfl⟩ := List.mem_map.mp hx
      exact (ht.detached y hy).modify hf fun c _ hc => hsound c hc
    · exact hns x (List.mem_of_mem_filter hx)
  · exact ht.ready.of_subset (hheld.nodup_iff.mpr ht.ready.nodup) fun k hk => hheld.mem_iff.mp hk

theorem store (ht : Recorded t tasks) {h : Nat} {step : Step} {v : Value} {t' : WorkingTree}
    (hstore : t.store h step v = .ok t') : Recorded t' tasks := by
  rcases eq_of_store hstore with rfl | ⟨n, hn, rfl⟩
  · exact ht
  · refine ht.change (reshapes_setChild step _) (fun c hc => hc.setChild step v) hn (fun x hx => ?_)
      (exchanges_setChild step v n)
    exact (ht.container? hn).1.child? (Option.mem_toList.mp hx)

theorem discard (ht : Recorded t tasks) {task : Task} (found : task ∈ tasks) :
    Recorded (t.discard task) tasks := by
  unfold WorkingTree.discard
  split
  · next i hstep =>
    refine ⟨ht.handle, ht.root, ht.detached, ht.ready, fun e he => ?_, ht.sorted, ht.younger⟩
    rcases List.mem_append.mp he with he | he
    · exact ht.removals e he
    · rw [List.mem_singleton.mp he]
      exact mem_elements.mpr ⟨task, found, rfl, hstep⟩
  · next s hstep =>
    dsimp only
    rw [hstep]
    cases hn : t.container? task.container with
    | none =>
      rw [modify_of_container?_none hn, Option.bind_none, Option.toList_none, detach_nil]
      exact ht
    | some n =>
      have hsound := (ht.container? hn).1
      refine ht.change (trims_eraseKey s).reshapes (fun c hc => hc.erased s) hn (fun x hx => ?_)
        (exchanges_eraseKey hsound.fronted s)
      exact hsound.child? (Option.mem_toList.mp hx)

theorem write (ht : Recorded t tasks) {task : Task} (found : task ∈ tasks) {v : Value}
    {t' : WorkingTree} (hwrite : t.write task v = .ok t') : Recorded t' tasks := by
  unfold WorkingTree.write at hwrite
  split at hwrite
  · cases hwrite
    exact ht.discard found
  · exact ht.store hwrite

theorem block (ht : Recorded t tasks) (place : Place) : Recorded (t.block place) tasks :=
  ⟨ht.handle, ht.root, ht.detached, ht.ready, ht.removals, ht.sorted, ht.younger⟩

/-- The elements that tasks are for are found with the targets that the tasks come from. -/
theorem holds_of_mem_elements {found : List Task} {n : Node}
    (hholds : ∀ task ∈ found, ∃ x, Walk.Holds n x ∧ x.container = task.container ∧
      x.step = task.step) (p : Nat × Nat) (hp : p ∈ elements found) :
    ∃ x, Walk.Holds n x ∧ x.container = p.1 ∧ x.step = .index p.2 := by
  obtain ⟨task, htask, hcontainer, hstep⟩ := mem_elements.mp hp
  obtain ⟨x, hx, hxc, hxs⟩ := hholds task htask
  exact ⟨x, hx, hxc.trans hcontainer, hxs.trans hstep⟩

/-- A sound node stays sound when elements that its lists have are added to the records. -/
theorem sound_found {created : List Created} {found : List Task} {n : Node}
    (hsound : Sound ((t.records tasks).recording created) n) (hnd : n.handles.Nodup)
    (hnew : ∀ p ∈ elements found, ∀ c, n.find? p.1 = some c →
      ∃ xs, c = .list p.1 xs ∧ p.2 < xs.length) :
    Sound ⟨[], elements (tasks ++ found), [], created⟩ n := by
  rw [show elements (tasks ++ found) = elements tasks ++ elements found from List.filterMap_append]
  exact hsound.found hnd hnew

/-- A tree after a walk through its document, with tasks for what the walk has found. -/
theorem walked (ht : Recorded t tasks) {w : Walked} {found : List Task}
    (hgrows : Grows t.root.handles ⟨t.next, t.created⟩ w.node.handles w.state)
    (hsound : Sound ((t.records tasks).recording w.state.created) w.node)
    (hhandle : w.node.handle? = t.root.handle?)
    (hholds : ∀ task ∈ found, ∃ x, Walk.Holds w.node x ∧ x.container = task.container ∧
      x.step = task.step) :
    Recorded { t with root := w.node, next := w.state.next, created := w.state.created }
      (tasks ++ found) := by
  obtain ⟨hroot, hdetached, hdisj⟩ := List.nodup_append.mp ht.ready.nodup
  have hltroot : ∀ h ∈ t.root.handles, h < t.next := fun h hh =>
    ht.ready.lt h (List.mem_append_left _ hh)
  have hltdetached : ∀ h ∈ handlesOfItems t.detached, h < t.next := fun h hh =>
    ht.ready.lt h (List.mem_append_right _ hh)
  have hheld : Grows t.held ⟨t.next, t.created⟩ (w.node.handles ++ handlesOfItems t.detached) w.state :=
    Grows.append hltdetached (fun h hh hh' => hdisj h hh h hh' rfl) hltroot hgrows
      (Grows.refl hdetached w.state)
  have hready := ht.ready.grow hheld
  have hnew := holds_of_mem_elements hholds
  have hmem : ∀ p ∈ elements found, p.1 ∈ w.node.handles := by
    intro p hp
    obtain ⟨x, ⟨way, c, hleads, hc, -⟩, hcontainer, -⟩ := hnew p hp
    exact hcontainer ▸ mem_of_find?_eq_some (hleads.find? hgrows.nodup hc)
  have hsplit : elements (tasks ++ found) = elements tasks ++ elements found :=
    List.filterMap_append
  refine ⟨hhandle.trans ht.handle, ?_, fun n hn => ?_, ⟨hready.nodup, hready.lt, ?_, by simp [records],
    rfl, hready.child_lt⟩, fun e he => ?_, hgrows.sorted ht.sorted ht.ready.child_lt,
    hgrows.younger ht.younger⟩
  · refine sound_found hsound hgrows.nodup fun p hp c hc => ?_
    obtain ⟨x, hx, hcontainer, hstep⟩ := hnew p hp
    rw [← hcontainer] at hc ⊢
    exact hx.element hgrows.nodup hstep hc
  · have hin : ∀ h ∈ n.handles, h ∈ handlesOfItems t.detached := fun h hh =>
      mem_handlesOfItems.mpr ⟨n, hn, hh⟩
    have hkept := (ht.detached n hn).elsewhere ht.ready (fun h hh => hltdetached h (hin h hh)) hgrows
    refine sound_found hkept (nodup_of_mem_items hdetached hn) fun p hp c hc => ?_
    -- what was found is in the document, and not in what was kept aside
    have hout := (List.nodup_append.mp hready.nodup).2.2
    exact absurd rfl (hout p.1 (hmem p hp) p.1 (hin _ (mem_of_find?_eq_some hc)))
  · intro e he
    rw [records, hsplit] at he
    rcases List.mem_append.mp he with he | he
    · exact hready.gone_lt e he
    · exact hgrows.lt hltroot _ (hmem e he)
  · rw [hsplit]
    exact List.mem_append_left _ (ht.removals e he)

theorem resolve (ht : Recorded t tasks) (table : RuleTable) (r : Rule) :
    Recorded (t.resolve table r).1 (tasks ++ (t.resolve table r).2) := by
  unfold WorkingTree.resolve
  cases r.path.getLast? with
  | none =>
    rw [List.append_nil]
    exact ht
  | some last =>
    have hready : Ready (t.records tasks) t.root.handles ⟨t.next, t.created⟩ :=
      ht.ready.of_subset (List.nodup_append.mp ht.ready.nodup).1 fun h hh =>
        List.mem_append_left _ hh
    refine ht.walked (Walk.follow_grows _ _ _ _ _ _ hready.nodup hready.lt)
      (Walk.follow_sound hready ht.root) (Walk.handle?_follow ..) fun task htask => ?_
    obtain ⟨x, hx, rfl⟩ := List.mem_map.mp htask
    exact ⟨x, Walk.follow_holds _ _ _ _ _ _ x hx, rfl, rfl⟩

/-- The records of positions to remove are in order, and so is everything else. -/
theorem orderly (ht : Recorded t tasks) : Orderly ⟨[], t.removals, [], t.created⟩ t := by
  have hfewer : ∀ n, Sound (t.records tasks) n → Sound ⟨[], t.removals, [], t.created⟩ n :=
    fun n hn => hn.anti _ ht.removals (fun _ hc => hc) fun _ hc _ => hc
  refine ⟨⟨hfewer _ ht.root, (List.nodup_append.mp ht.ready.nodup).1,
    isOpened_of_handle? ht.handle, fun h hh => ?_⟩, fun n hn => hfewer n (ht.detached n hn),
    fun _ _ => Iff.rfl, rfl, ht.sorted, ht.younger⟩
  -- the root has the first handle, and nothing that was made has it
  obtain rfl : 0 = h := Option.some.inj (ht.handle.symm.trans hh)
  rw [made, List.any_eq_false]
  intro c hc heq
  have hlt : c.parent < c.child := ht.younger c hc
  have hzero : c.child = 0 := beq_iff_eq.mp heq
  omega

end Recorded

/-- What the records of a tree in use tell of it. -/
theorem InUse.recorded (h : InUse table t tasks) : Recorded t tasks := by
  induction h with
  | start es => exact .ofEntries es
  | resolve _ r ih => exact ih.resolve table r
  | write _ found hwritten ih => exact ih.write found hwritten
  | discard _ found ih => exact ih.discard found
  | block _ place ih => exact ih.block place

/-- However a tree is used, its containers have handles of their own. -/
theorem InUse.numbered (h : InUse table t tasks) : t.Numbered := by
  have hrecorded := h.recorded
  exact ⟨isOpened_of_handle? hrecorded.handle, (List.nodup_append.mp hrecorded.ready.nodup).1,
    fun k hk => hrecorded.ready.lt k (List.mem_append_left _ hk)⟩

end WorkingTree

end ArgumentSchema
