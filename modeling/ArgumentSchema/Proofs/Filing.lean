import ArgumentSchema.Proofs.Deeds
import ArgumentSchema.Proofs.Outcome

/-!
# Filing the outcomes of a rule

The tasks of a rule are evaluated one after the other, and each outcome is filed: the tree is
written to or the field is discarded, and the report grows. No write of a run goes astray, since
each task aims at a value that no path has entered (`Aims`), and so nothing ever leaves the document
that a later task could refer to.

> `Run.tasks_answering`: where callbacks answer, the tasks of a rule come to an end, the tree is
> what the deeds at the targets make of it, and the report tells of the visits.
-/

namespace ArgumentSchema

/-- The task of a rule at a target. -/
def Target.task (table : RuleTable) (r : Rule) (x : Target) : Task :=
  ⟨r, x.container, x.step, x.place, x.value, x.place.write table.options⟩

namespace Node

variable {h : Nat} {step : Step} {c n : Node}

theorem modify_id (h : Nat) (n : Node) : n.modify h id = n := by
  induction n using induction with
  | leaf v => rfl
  | dict k es ih =>
    rw [modify, modifyEntries_eq, Entries.mapValues_eq_self ih]
    split <;> rfl
  | list k xs ih =>
    rw [modify, modifyItems_eq, (List.map_congr_left ih).trans (List.map_id xs)]
    split <;> rfl

theorem isOpened_of_meets (hmeets : Meets step c) {old : Node} (hold : c.child? step = some old) :
    old.isOpened = false := by
  cases c with
  | leaf v => cases step <;> cases hmeets
  | dict k es =>
    cases step with
    | key s => exact hmeets _ (Entries.mem_of_find? hold) rfl
    | index i => cases hmeets
  | list k xs =>
    cases step with
    | key s => cases hmeets
    | index i =>
      obtain ⟨x, hx, hclosed⟩ := hmeets
      obtain rfl : x = old := Option.some.inj (hx.symm.trans hold)
      exact hclosed

end Node

namespace WorkingTree

open Node

/-- The tree after the deeds at targets of a rule. -/
def acted (judge : Judge) (r : Rule) (ts : List Target) (t : WorkingTree) : WorkingTree :=
  { t with
    root := Walk.act judge r ts t.root
    blocked := ((ts.filter (Target.fails judge r)).map (·.place)).reverse ++ t.blocked
    removals := t.removals ++ Marks.positions (Target.drops judge r) ts }

variable {t : WorkingTree} {h : Nat} {step : Step}

theorem acted_nil (judge : Judge) (r : Rule) (t : WorkingTree) : acted judge r [] t = t := by
  cases t
  simp [acted, Walk.act, Marks.positions]

theorem acted_append (judge : Judge) (r : Rule) (ts ts' : List Target) (t : WorkingTree) :
    acted judge r (ts ++ ts') t = acted judge r ts' (acted judge r ts t) := by
  simp [acted, Walk.act, Marks.positions, List.foldl_append, List.filterMap_append]

theorem detach_eq {ns : List Node} (hclosed : ∀ n ∈ ns, n.isOpened = false) : t.detach ns = t := by
  have hnone : ns.filter isOpened = [] := by
    rw [List.filter_eq_nil_iff]
    intro n hn
    simp [hclosed n hn]
  rw [detach, hnone, List.append_nil]

theorem modify_eq (hdetached : t.detached = []) (f : Node → Node) :
    t.modify h f = { t with root := t.root.modify h f } := by
  rw [modify, hdetached]
  cases t
  cases hdetached
  rfl

theorem container?_eq {c : Node} (hc : t.root.find? h = some c) : t.container? h = some c := by
  rw [container?, hc]
  rfl

/-- A value goes where a target aims. -/
theorem store_eq (hdetached : t.detached = []) (haims : Aims h step t.root) (v : Value) :
    t.store h step v = .ok { t with root := t.root.modify h (setChild step (.leaf v)) } := by
  obtain ⟨c, hc, hmeets⟩ := haims
  have hold : ∀ old ∈ (c.child? step).toList, old.isOpened = false := by
    intro old hold
    exact isOpened_of_meets hmeets (Option.mem_toList.mp hold)
  rw [store, container?_eq hc]
  dsimp only
  split
  · obtain ⟨x, hx, -⟩ := hmeets
    next hnone => exact absurd (hx.symm.trans hnone) (by simp)
  · rw [modify_eq hdetached, detach_eq hold]

theorem discard_eq (hdetached : t.detached = []) (task : Task)
    (haims : Aims task.container task.step t.root) :
    t.discard task = { t with
      root := t.root.modify task.container
        (match task.step with
          | .key s => eraseKey s
          | .index _ => id)
      removals := t.removals ++
        (match task.step with
          | .key _ => []
          | .index i => [(task.container, i)]) } := by
  obtain ⟨c, hc, hmeets⟩ := haims
  unfold discard
  cases hstep : task.step with
  | index i =>
    dsimp only
    rw [modify_id]
  | key s =>
    have hold : ∀ old ∈ ((t.container? task.container).bind (·.child? (.key s))).toList,
        old.isOpened = false := by
      intro old hold
      rw [container?_eq hc] at hold
      rw [hstep] at hmeets
      exact isOpened_of_meets hmeets (Option.mem_toList.mp hold)
    dsimp only
    rw [modify_eq hdetached, detach_eq hold, List.append_nil]

section Acted

variable {judge : Judge} {r : Rule} {x : Target}

theorem acted_kept {w : Value} (hkept : (x.visit judge r).outcome.kept? = some w) :
    t.acted judge r [x] =
      { t with root := t.root.modify x.container (setChild x.step (.leaf w)) } := by
  have hfails : x.fails judge r = false := by
    rw [Target.fails, FieldOutcome.succeeded_of_kept? hkept]
    rfl
  have hdrops : x.drops judge r = false := by
    rw [Target.drops, hkept]
    rfl
  have hdeed : x.deed judge r = setChild x.step (.leaf w) := by
    rw [Target.deed, hkept]
  have hpositions : Marks.positions (Target.drops judge r) [x] = [] := by
    cases hstep : x.step <;> simp [Marks.positions, hstep, hdrops]
  simp only [acted, Walk.act, List.foldl_cons, List.foldl_nil, hdeed, hpositions, List.append_nil,
    List.filter_cons, hfails, Bool.false_eq_true, if_false, List.filter_nil, List.map_nil,
    List.reverse_nil, List.nil_append]

theorem acted_dropped (table : RuleTable) (hdetached : t.detached = [])
    (haims : Aims x.container x.step t.root) (hkept : (x.visit judge r).outcome.kept? = none) :
    t.acted judge r [x] =
      (if x.fails judge r then t.block x.place else t).discard (x.task table r) := by
  have hdrops : x.drops judge r = true := by
    rw [Target.drops, hkept]
    rfl
  have hblocked : ((([x].filter (Target.fails judge r)).map (·.place)).reverse ++ t.blocked) =
      if x.fails judge r then x.place :: t.blocked else t.blocked := by
    cases hfails : x.fails judge r <;> simp [hfails]
  have hdiscard : (if x.fails judge r then t.block x.place else t).discard (x.task table r) =
      { t with
        root := t.root.modify x.container
          (match x.step with
            | .key s => eraseKey s
            | .index _ => id)
        blocked := if x.fails judge r then x.place :: t.blocked else t.blocked
        removals := t.removals ++
          (match x.step with
            | .key _ => []
            | .index i => [(x.container, i)]) } := by
    cases hfails : x.fails judge r with
    | true => exact discard_eq (t := t.block x.place) hdetached (x.task table r) haims
    | false => exact discard_eq hdetached (x.task table r) haims
  rw [hdiscard, acted, hblocked, Walk.act, List.foldl_cons, List.foldl_nil]
  simp only [Target.deed, hkept]
  cases hstep : x.step <;> simp [Marks.positions, hstep, hdrops]

/-- A deed leaves the containers where they are. -/
theorem skeleton_acted (hnd : t.root.handles.Nodup) (haims : Aims x.container x.step t.root) :
    (t.acted judge r [x]).root.skeleton = t.root.skeleton := by
  refine Walk.skeleton_act hnd fun y hy => ?_
  obtain rfl := List.mem_singleton.mp hy
  exact haims

theorem handles_acted (hnd : t.root.handles.Nodup) (haims : Aims x.container x.step t.root) :
    (t.acted judge r [x]).root.handles = t.root.handles :=
  handles_eq_of_skeleton (skeleton_acted hnd haims)

theorem aims_acted (hnd : t.root.handles.Nodup) (haims : Aims x.container x.step t.root) :
    Aims h step (t.acted judge r [x]).root ↔ Aims h step t.root := by
  rw [← aims_skeleton, skeleton_acted hnd haims, aims_skeleton]

end Acted

end WorkingTree

namespace Run

open WorkingTree

/-- What a run has found so far tells of visits. -/
structure Tells (s : RunState) (vs : List Visit) : Prop where
  outcomes : s.outcomes = vs.map fun v => (v.place, v.outcome)
  passed : s.passed = Descent.passed vs
  failed : s.failed = Descent.failed vs
  errors : s.errors = vs.filterMap (·.outcome.failure?)

theorem Tells.tree {s : RunState} {vs : List Visit} (h : Tells s vs) (t : WorkingTree) :
    Tells { s with tree := t } vs := ⟨h.outcomes, h.passed, h.failed, h.errors⟩

variable {table : RuleTable} {judge : Judge} {r : Rule} {s : RunState} {vs : List Visit}

/-- The state after the outcome of a visit was filed. -/
def filed (s : RunState) (t : WorkingTree) (v : Visit) : RunState where
  tree := t
  outcomes := s.outcomes ++ [(v.place, v.outcome)]
  passed := match v.outcome.kept? with
    | some w => Report.store v.outcome.key w s.passed
    | none => s.passed
  failed := match v.outcome.failure? with
    | some _ => Report.store v.outcome.key v.outcome.value s.failed
    | none => s.failed
  errors := s.errors ++ v.outcome.failure?.toList

theorem tells_filed (htells : Tells s vs) (t : WorkingTree) (v : Visit) :
    Tells (filed s t v) (vs ++ [v]) := by
  refine ⟨?_, ?_, ?_, ?_⟩
  · rw [List.map_append, ← htells.outcomes]
    rfl
  · rw [Descent.passed, List.foldl_append, ← Descent.passed, ← htells.passed]
    rfl
  · rw [Descent.failed, List.foldl_append, ← Descent.failed, ← htells.failed]
    rfl
  · rw [List.filterMap_append, ← htells.errors, List.filterMap_cons, List.filterMap_nil, filed]
    cases v.outcome.failure? <;> rfl

/-- Filing what a rule makes of a target does the deed and tells of the visit. -/
theorem file_target {x : Target} (hdetached : s.tree.detached = [])
    (haims : Node.Aims x.container x.step s.tree.root) :
    file s (x.task table r) (judge r x.place x.value) =
      .ok (filed s (s.tree.acted judge r [x]) (x.visit judge r)) := by
  obtain ⟨o, ho⟩ : ∃ o, judge r x.place x.value = o := ⟨_, rfl⟩
  have hvisit : (x.visit judge r).outcome = o := ho
  rw [ho]
  cases hs : o.state.succeeded with
  | true =>
    have hfailure : o.failure? = none := by rw [FieldOutcome.failure?, hs, if_pos rfl]
    -- a field that succeeded writes its value, and one without a value drops its place
    cases hv : o.value.isAbsent with
    | false =>
      have hkept : o.kept? = some o.value := by rw [FieldOutcome.kept?, hs, hv]; rfl
      have hkept' : (x.visit judge r).outcome.kept? = some o.value := by rw [hvisit, hkept]
      have hwrite : s.tree.write (x.task table r) o.value = .ok (s.tree.acted judge r [x]) := by
        rw [write, hv, if_neg Bool.false_ne_true, acted_kept hkept']
        exact store_eq hdetached haims o.value
      simp only [file, filed, hvisit, hs, hv, hkept, hfailure, if_true, Bool.false_eq_true, if_false,
        Option.toList_none, List.append_nil]
      rw [hwrite]
      rfl
    | true =>
      have hkept : o.kept? = none := by rw [FieldOutcome.kept?, hs, hv]; rfl
      have hfails : x.fails judge r = false := by rw [Target.fails, hvisit, hs]; rfl
      have hwrite : s.tree.write (x.task table r) o.value = .ok (s.tree.acted judge r [x]) := by
        rw [write, hv, if_pos rfl, acted_dropped table hdetached haims (hvisit ▸ hkept), hfails,
          if_neg Bool.false_ne_true]
      simp only [file, filed, hvisit, hs, hv, hkept, hfailure, if_true, Option.toList_none,
        List.append_nil]
      rw [hwrite]
      rfl
  | false =>
    have hfailure : o.failure? = o.error := by rw [FieldOutcome.failure?, hs, if_neg (by simp)]
    have hkept : o.kept? = none := by rw [FieldOutcome.kept?, hs]; rfl
    have hfails : x.fails judge r = true := by rw [Target.fails, hvisit, hs]; rfl
    have hdiscard : (s.tree.block x.place).discard (x.task table r) = s.tree.acted judge r [x] := by
      rw [acted_dropped table hdetached haims (hvisit ▸ hkept), hfails, if_pos rfl]
    simp only [file, filed, hvisit, hs, hkept, hfailure, Bool.false_eq_true, if_false]
    rw [show (x.task table r).place = x.place from rfl, hdiscard]
    cases o.error with
    | some e => rfl
    | none => simp [Target.visit]

/-- The tasks of a rule come to an end where callbacks answer. -/
theorem tasks_answering (registry : Registry) (answer : Call → Value) (ts : List Target) :
    ∀ (s : RunState) (vs : List Visit), s.tree.detached = [] → s.tree.root.handles.Nodup →
      (∀ x ∈ ts, Node.Aims x.container x.step s.tree.root) → Tells s vs →
      let judge := Field.judge registry answer table
      let visits := ts.map (Target.visit judge r)
      ∃ s', Traced.Adds ((ts.map (Target.task table r)).foldlM
          (task registry (.answering answer)) s) s'
          (visits.flatMap (Field.callsAt registry answer table)) ∧
        s'.tree = s.tree.acted judge r ts ∧ Tells s' (vs ++ visits) := by
  induction ts with
  | nil =>
    intro s vs _ _ _ htells
    exact ⟨s, Traced.Adds.pure s, (acted_nil _ r s.tree).symm, by simpa using htells⟩
  | cons x ts ih =>
    intro s vs hdetached hnd haims htells judge visits
    have haim := haims x (List.mem_cons_self ..)
    -- the state after the first task, from which the others go on
    let s₁ := filed s (s.tree.acted judge r [x]) (x.visit judge r)
    have htask : Traced.Adds (task registry (.answering answer) s (x.task table r)) s₁
        (Field.callsAt registry answer table (x.visit judge r)) := by
      have hevaluate := Field.evaluate_answering registry answer r.toContract
        (x.place.write table.options) x.value
      have hlift : Traced.Adds (lift (file s (x.task table r) (judge r x.place x.value))) s₁ [] := by
        rw [file_target hdetached haim]
        exact Traced.Adds.pure s₁
      have := Traced.Adds.bind (f := fun o => lift (file s (x.task table r) o)) hevaluate hlift
      rwa [List.append_nil] at this
    obtain ⟨s', hrest, htree, htells'⟩ := ih s₁ (vs ++ [x.visit judge r]) hdetached
      (by rw [show s₁.tree = s.tree.acted judge r [x] from rfl, handles_acted hnd haim]; exact hnd)
      (fun y hy => (aims_acted hnd haim).mpr (haims y (List.mem_cons_of_mem _ hy)))
      (tells_filed htells _ _)
    refine ⟨s', ?_, ?_, ?_⟩
    · rw [List.map_cons, List.foldlM_cons]
      exact htask.bind hrest
    · rw [htree, show x :: ts = [x] ++ ts from rfl, acted_append]
      rfl
    · rw [List.append_assoc] at htells'
      exact htells'

end Run

end ArgumentSchema
