import ArgumentSchema.Proofs.Faces
import ArgumentSchema.Proofs.Stages

/-!
# The ways to containers

A task keeps its place and the handle of the container there, and its value is written long after
the walk that has come to it. In the meantime the tree has changed under it: other fields of the rule
have been stored or discarded. What was opened stays where it is, so that the steps of the place lead
to the container from the root all the while (`Node.Leads`).

> `Walk.follow_points`: a walk comes to each of its targets by the steps of its place, and finds its
> value there.
> `Node.Leads.modify`: a change of one container keeps the ways to all others, if the container keeps
> what has been opened in it.
> `Run.Reaches.anchored`: at every stage of a run, the places of the tasks lead to their containers,
> and every position that was recorded is one of a container in the tree.
-/

namespace ArgumentSchema

/-- A step as a subscript. -/
def Step.subscript : Step → Value
  | key s => .str s
  | index i => .int i

namespace Node

variable {h : Nat} {f : Node → Node} {step : Step} {way : Place} {m n c : Node}

/-- Steps lead from a node to another, through opened containers. -/
inductive Leads : Place → Node → Node → Prop
  | here (n : Node) : Leads [] n n
  | step {step : Step} {way : Place} {n m c : Node} (child : n.child? step = some m)
      (opened : m.isOpened = true) (rest : Leads way m c) : Leads (step :: way) n c

/-- Steps lead from a node to the container with a handle. -/
def LeadsTo (way : Place) (n : Node) (h : Nat) : Prop :=
  ∃ c, Leads way n c ∧ c.handle? = some h

/-! ## What stands at a step -/

/-- A change of another container goes on into what stands at a step. -/
theorem child?_modify (hn : n.handle? ≠ some h) (hchild : n.child? step = some m) :
    (modify h f n).child? step = some (modify h f m) := by
  cases n with
  | leaf v => cases step <;> cases hchild
  | dict k es =>
    have hk : k ≠ h := fun heq => hn (congrArg some heq)
    cases step with
    | index i => cases hchild
    | key s =>
      rw [modify, if_neg hk, modifyEntries_eq, child?, Entries.find?_mapValues]
      exact congrArg (Option.map (modify h f)) hchild
  | list k xs =>
    have hk : k ≠ h := fun heq => hn (congrArg some heq)
    cases step with
    | key s => cases hchild
    | index i =>
      rw [modify, if_neg hk, modifyItems_eq, child?, List.getElem?_map]
      exact congrArg (Option.map (modify h f)) hchild

theorem mem_contents_of_child? (hchild : n.child? step = some m) : m ∈ n.contents := by
  cases n with
  | leaf v => cases step <;> cases hchild
  | dict k es =>
    cases step with
    | index i => cases hchild
    | key s => exact List.mem_map_of_mem (Entries.mem_of_find? hchild)
  | list k xs =>
    cases step with
    | key s => cases hchild
    | index i => exact List.mem_of_getElem? hchild

/-- No handle occurs twice in what stands at a step, and one that occurs there is found there. -/
theorem at_child? (hnd : n.handles.Nodup) (hchild : n.child? step = some m) :
    m.handles.Nodup ∧ ∀ h ∈ m.handles, find? h n = find? h m := by
  have hm := mem_contents_of_child? hchild
  exact ⟨nodup_of_mem_items (nodup_contents hnd) hm, fun h hh => find?_of_mem_contents hnd hm hh⟩

theorem lookUp_subscript (hchild : n.child? step = some m) :
    WorkingTree.lookUp n step.subscript = .ok m := by
  cases n with
  | leaf v => cases step <;> cases hchild
  | dict k es =>
    cases step with
    | index i => cases hchild
    | key s =>
      have hfind : Entries.find? (.str s) es = some m := hchild
      simp only [WorkingTree.lookUp, Step.subscript, hfind]
  | list k xs =>
    cases step with
    | key s => cases hchild
    | index i =>
      have hget : xs[i]? = some m := hchild
      have hpos : ¬ (i : Int) < 0 := by omega
      have hnonneg : ¬ (i : Int) + xs.length < 0 := by omega
      simp only [WorkingTree.lookUp, Step.subscript, hpos, if_false, Int.toNat_natCast, hget,
        hnonneg]

theorem putBack_subscript (hchild : n.child? step = some m) :
    WorkingTree.putBack step.subscript m n = n := by
  cases n with
  | leaf v => cases step <;> cases hchild
  | dict k es =>
    cases step with
    | index i => cases hchild
    | key s =>
      rw [WorkingTree.putBack, Step.subscript, Entries.insert_of_find?_eq_some hchild]
  | list k xs =>
    cases step with
    | key s => cases hchild
    | index i =>
      obtain ⟨hlt, rfl⟩ := List.getElem?_eq_some_iff.mp hchild
      have hpos : ¬ (i : Int) < 0 := by omega
      simp only [WorkingTree.putBack, Step.subscript, hpos, if_false, Int.toNat_natCast,
        List.set_getElem_self]

/-! ## Ways -/

namespace Leads

theorem isOpened (hleads : Leads way n c) (hc : c.isOpened = true) : n.isOpened = true := by
  cases hleads with
  | here => exact hc
  | @step step way n m c child opened rest =>
    cases n with
    | leaf v => cases step <;> cases child
    | dict k es => rfl
    | list k xs => rfl

/-- What a way leads to is found by its handle. -/
theorem find? (hleads : Leads way n c) (hnd : n.handles.Nodup) (hc : c.handle? = some h) :
    Node.find? h n = some c := by
  induction hleads with
  | here n => exact find?_self hc
  | step child opened rest ih =>
    obtain ⟨hm, hfind⟩ := at_child? hnd child
    have hcm := ih hm hc
    rw [hfind h (mem_of_find?_eq_some hcm), hcm]

/-- Going down a way reaches its end and changes nothing, since everything on it has been opened. -/
theorem descendFrom (hleads : Leads way n c) (next : Nat) :
    WorkingTree.descendFrom (way.map Step.subscript) next n = (n, next, .ok c) := by
  induction hleads with
  | here n => rfl
  | @step step way n m c child opened rest ih =>
    have hopened : m.opened next = (m, next) := by
      cases m with
      | leaf v => cases opened
      | dict k es => rfl
      | list k xs => rfl
    rw [List.map_cons, WorkingTree.descendFrom, lookUp_subscript child]
    simp only [hopened, ih, putBack_subscript child]

end Leads

/-- A container has become another, which has its handle and what was opened in it. -/
structure Keeps (c d : Node) : Prop where
  handle : d.handle? = c.handle?
  child : ∀ step m, c.child? step = some m → m.isOpened = true → d.child? step = some m

theorem handle?_modify (hf : ∀ c, find? h n = some c → (f c).handle? = c.handle?) :
    (modify h f n).handle? = n.handle? := by
  by_cases hn : n.handle? = some h
  · rw [modify_self hn]
    exact hf n (find?_self hn)
  · cases n with
    | leaf v => rfl
    | dict k es => rw [modify, if_neg fun heq => hn (congrArg some heq)]; rfl
    | list k xs => rw [modify, if_neg fun heq => hn (congrArg some heq)]; rfl

/-- A change of one container keeps the ways to all containers, if it keeps what has been opened in
this one. -/
theorem Leads.modify (hleads : Leads way n c) (hnd : n.handles.Nodup)
    (hf : ∀ d, Node.find? h n = some d → Keeps d (f d)) :
    ∃ c', Leads way (n.modify h f) c' ∧ c'.handle? = c.handle? := by
  induction hleads with
  | here n => exact ⟨_, .here _, handle?_modify fun d hd => (hf d hd).handle⟩
  | @step step way n m c child opened rest ih =>
    by_cases hn : n.handle? = some h
    · -- the way goes through the container itself, and then nothing changes any more
      rw [modify_self hn]
      exact ⟨c, .step ((hf n (find?_self hn)).child _ m child opened) opened rest, rfl⟩
    · have hchild := child?_modify (f := f) hn child
      obtain ⟨hm, hfind⟩ := at_child? hnd child
      -- the container is below the step, or beside it
      by_cases hmem : h ∈ m.handles
      · have hfm : ∀ d, Node.find? h m = some d → Keeps d (f d) := fun d hd =>
          hf d ((hfind h hmem).trans hd)
        obtain ⟨c', hrest, hhandle⟩ := ih hm hfm
        have hopened := isOpened_congr (handle?_modify fun d hd => (hfm d hd).handle) opened
        exact ⟨c', .step hchild hopened hrest, hhandle⟩
      · rw [modify_of_not_mem hmem] at hchild
        exact ⟨c, .step hchild opened rest, rfl⟩

theorem LeadsTo.modify (hleads : LeadsTo way n h) (hnd : n.handles.Nodup) {k : Nat}
    (hf : ∀ d, Node.find? k n = some d → Keeps d (f d)) : LeadsTo way (n.modify k f) h := by
  obtain ⟨c, hleads, hc⟩ := hleads
  obtain ⟨c', hleads', hc'⟩ := hleads.modify hnd hf
  exact ⟨c', hleads', hc'.trans hc⟩

end Node

/-! ## Walks -/

namespace Walk

open Node

/-- A target points into a node at a place: the steps of its own place lead to its container, and its
value is what the container holds at its last step. -/
def Points (place : Place) (n : Node) (x : Target) : Prop :=
  ∃ way c, x.place = place ++ way ++ [x.step] ∧ Leads way n c ∧ c.handle? = some x.container ∧
    x.value = ((c.child? x.step).map toValue).getD .absent

theorem Points.up {place : Place} {step : Step} {n m : Node} {x : Target}
    (h : Points (place ++ [step]) m x)
    (hchild : n.child? step = some m) : Points place n x := by
  obtain ⟨way, c, hplace, hleads, hc, hvalue⟩ := h
  refine ⟨step :: way, c, by rw [hplace]; simp, ?_, hc, hvalue⟩
  exact .step hchild (hleads.isOpened (isOpened_of_handle? hc)) hleads

theorem targets_points (last : Segment) (place : Place) (n : Node) :
    ∀ x ∈ targets last place n, Points place n x := by
  intro x hx
  cases n with
  | leaf v => cases hx
  | dict h es =>
    cases last with
    | wildcard => cases hx
    | name s =>
      obtain rfl := List.mem_singleton.mp hx
      refine ⟨[], _, by simp, .here _, rfl, ?_⟩
      show _ = ((Entries.find? (.str s) es).map toValue).getD .absent
      cases Entries.find? (.str s) es <;> rfl
  | list h xs =>
    cases last with
    | name s => cases hx
    | wildcard =>
      obtain ⟨⟨m, i⟩, hm, rfl⟩ := List.mem_map.mp hx
      have hget : xs[i]? = some m := List.mem_zipIdx_iff_getElem?.mp hm
      refine ⟨[], _, by simp, .here _, rfl, ?_⟩
      show _ = ((xs[i]?).map toValue).getD .absent
      rw [hget]
      rfl

/-- The targets of a walk point into what it has made of the node. -/
theorem follow_points (blocked : Place → Bool) (last : Segment) (steps : List (Segment × Bool))
    (place : Place) (n : Node) (st : WalkState) :
    ∀ x ∈ (follow blocked last steps place n st).targets,
      Points place (follow blocked last steps place n st).node x :=
  forall_targets blocked (p := fun _ => Points) (targets_points last)
    (fun _ _ _ _ _ _ hchild hx => hx.up hchild) steps place n st

/-- A deed keeps what has been opened in the container of its target. -/
theorem keeps_deed {judge : Judge} {r : Rule} {x : Target} {c : Node} (hmeets : Meets x.step c) :
    Keeps c (x.deed judge r c) := by
  refine ⟨handle?_eq_of_skeleton (skeleton_deed hmeets), fun step m hchild hopened => ?_⟩
  -- at the step of the target nothing has been opened, so this is another step
  have hne : x.step ≠ step := by
    rintro rfl
    rw [isOpened_of_meets hmeets hchild] at hopened
    cases hopened
  -- where nothing is kept, an entry is erased, while an element stays and is recorded
  unfold Target.deed
  cases (x.visit judge r).outcome.kept? with
  | none =>
    cases hstep : x.step with
    | index i => exact hchild
    | key s =>
      rw [hstep] at hne
      cases c with
      | leaf v => exact hchild
      | list k xs => exact hchild
      | dict k es =>
        cases step with
        | index j => cases hchild
        | key s' =>
          exact (Entries.find?_erase_ne (fun heq => hne (congrArg Step.key heq)) es).trans hchild
  | some w =>
    cases c with
    | leaf v => exact hchild
    | dict k es =>
      cases step with
      | index j => cases hchild
      | key s' =>
        cases hstep : x.step with
        | index i => exact hchild
        | key s =>
          rw [hstep] at hne
          exact (Entries.find?_insert_ne (fun heq => hne (congrArg Step.key heq)) _ es).trans hchild
    | list k xs =>
      cases step with
      | key s' => cases hchild
      | index j =>
        cases hstep : x.step with
        | key s => exact hchild
        | index i =>
          rw [hstep] at hne
          exact (List.getElem?_set_ne fun heq => hne (congrArg Step.index heq)).trans hchild

end Walk

/-! ## Runs -/

/-- A task is anchored in a document: the steps of its place lead to its container. -/
def Task.Anchored (t : Task) (n : Node) : Prop :=
  ∃ way, t.place = way ++ [t.step] ∧ Node.LeadsTo way n t.container

namespace WorkingTree

open Node

variable {t : WorkingTree} {table : RuleTable} {r : Rule}

theorem resolve_anchored : ∀ task ∈ (t.resolve table r).2, task.Anchored (t.resolve table r).1.root := by
  unfold resolve
  cases r.path.getLast? with
  | none => simp
  | some last =>
    intro task htask
    obtain ⟨x, hx, rfl⟩ := List.mem_map.mp htask
    obtain ⟨way, c, hplace, hleads, hc, -⟩ := Walk.follow_points _ _ _ _ _ _ x hx
    exact ⟨way, hplace, c, hleads, hc⟩

theorem resolve_removals : (t.resolve table r).1.removals = t.removals := by
  unfold resolve
  cases r.path.getLast? <;> rfl

theorem handles_subset_resolve (hnd : t.root.handles.Nodup) (hlt : ∀ h ∈ t.root.handles, h < t.next) :
    ∀ h ∈ t.root.handles, h ∈ (t.resolve table r).1.root.handles := by
  unfold resolve
  cases r.path.getLast? with
  | none => exact fun h hh => hh
  | some last => exact (Walk.follow_grows _ _ _ _ _ _ hnd hlt).kept

end WorkingTree

namespace Run

open Node WorkingTree

variable {registry : Registry} {cb : Callbacks} {table : RuleTable} {es : Entries Value}
  {before : List Call}

/-- What a stage still has to do is anchored in the document: the tasks, and the positions that are
recorded for removal. -/
structure Anchored (stage : Stage) : Prop where
  tasks : ∀ t ∈ stage.tasks, t.Anchored stage.state.tree.root
  removals : ∀ e ∈ stage.state.tree.removals, e.1 ∈ stage.state.tree.root.handles

/-- Every stage that a run reaches is anchored. -/
theorem Reaches.anchored (ht : table.Compiled) {stage : Stage}
    (h : Reaches registry cb table es before stage) : Anchored stage := by
  induction h with
  | start => exact ⟨List.forall_mem_nil _, List.forall_mem_nil _⟩
  | @resolve s r rs calls hreaches ih =>
    obtain ⟨done, r', ts, seen, k, shut, hstanding⟩ := hreaches.standing ht
    obtain rfl : ts = [] := List.map_eq_nil_iff.mp hstanding.tasks.symm
    have hready := hstanding.stands.ready
    rw [acted_nil] at hready
    refine ⟨resolve_anchored, fun e he => ?_⟩
    exact handles_subset_resolve hready.nodup hready.lt _ (ih.removals e (resolve_removals ▸ he))
  | @evaluate s s' t tasks rs calls calls' hreaches hend ih =>
    obtain ⟨done, r, ts, seen, k, shut, hstanding⟩ := hreaches.standing ht
    cases ts with
    | nil => cases hstanding.tasks
    | cons x ts =>
      let judge := Field.judge registry cb.calm table
      obtain ⟨rfl, -⟩ := hstanding.of_task_ok hend
      have haim := hstanding.aims x (List.mem_cons_self ..)
      obtain ⟨c, hc, hmeets⟩ := id haim
      refine ⟨fun t' ht' => ?_, fun e he => ?_⟩
      · obtain ⟨way, hplace, hleads⟩ := ih.tasks t' (List.mem_cons_of_mem _ ht')
        refine ⟨way, hplace, hleads.modify hstanding.nodup fun d hd => ?_⟩
        obtain rfl : c = d := Option.some.inj (hc.symm.trans hd)
        exact Walk.keeps_deed hmeets
      · show e.1 ∈ (s.tree.acted judge r [x]).root.handles
        -- a new record is one for the container of the task, and writing keeps all handles
        rw [handles_acted hstanding.nodup haim]
        rcases List.mem_append.mp he with he | he
        · exact ih.removals e he
        · obtain ⟨y, hy, hcontainer, -⟩ := Marks.mem_positions.mp he
          obtain rfl := List.mem_singleton.mp hy
          rw [← hcontainer]
          exact mem_of_find?_eq_some hc

end Run

end ArgumentSchema
