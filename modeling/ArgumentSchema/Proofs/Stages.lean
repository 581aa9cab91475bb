import ArgumentSchema.Proofs.Rounds
import ArgumentSchema.Proofs.Settle

/-!
# The stages of a run

A `Stage` is a point of a run: its state, the tasks of the current rule that are still to be
evaluated, the rules that come after it, and the calls made. A run goes from stage to stage
(`Reaches`), by resolving a rule when no task is left and by evaluating a task otherwise, until
nothing is left to do or a callback raises (`execute_reaches`). Callbacks may do here what they
like.

> `Reaches.visits`: at every stage, what has been evaluated and the tasks that are to be evaluated
> next are the first of the visits that settle the document under the answers of the callbacks.
-/

namespace ArgumentSchema

namespace Run

open WorkingTree

/-- A point of a run. -/
structure Stage where
  state : RunState
  tasks : List Task
  rules : List Rule
  calls : List Call

/-- The stages that a run reaches. -/
inductive Reaches (registry : Registry) (cb : Callbacks) (table : RuleTable) (es : Entries Value)
    (before : List Call) : Stage → Prop where
  | start : Reaches registry cb table es before ⟨start es, [], table.byDepth, before⟩
  | resolve {s : RunState} {r : Rule} {rs : List Rule} {calls : List Call} :
      Reaches registry cb table es before ⟨s, [], r :: rs, calls⟩ →
      Reaches registry cb table es before
        ⟨{ s with tree := (s.tree.resolve table r).1 }, (s.tree.resolve table r).2, rs, calls⟩
  | evaluate {s s' : RunState} {t : Task} {ts : List Task} {rs : List Rule}
      {calls calls' : List Call} :
      Reaches registry cb table es before ⟨s, t :: ts, rs, calls⟩ →
      task registry cb s t calls = (.ok s', calls') →
      Reaches registry cb table es before ⟨s', ts, rs, calls'⟩

/-- A run comes to a task: at some stage the task is still to be evaluated. -/
def Yields (registry : Registry) (cb : Callbacks) (table : RuleTable) (es : Entries Value)
    (t : Task) : Prop :=
  ∃ before stage, Reaches registry cb table es before stage ∧ t ∈ stage.tasks

/-- A task ends with an outcome: that is how its value is evaluated. -/
def Ends (registry : Registry) (cb : Callbacks) (t : Task) (o : FieldOutcome) : Prop :=
  ∃ calls calls', Field.evaluate registry cb t.rule.toContract t.dotted t.value calls =
    (.ok o, calls')

variable {registry : Registry} {cb : Callbacks} {table : RuleTable} {es : Entries Value}
  {before : List Call}

/-! ## Executions go through stages -/

/-- Where a run has got to: it has reached the stage after the given work, or a callback has raised
at a stage on the way. -/
def Gets (registry : Registry) (cb : Callbacks) (table : RuleTable) (es : Entries Value)
    (before : List Call) (rs : List Rule) (end? : Except Raised RunState × List Call) : Prop :=
  (∃ s calls, end? = (.ok s, calls) ∧ Reaches registry cb table es before ⟨s, [], rs, calls⟩) ∨
    ∃ s t ts rs calls calls' e, Reaches registry cb table es before ⟨s, t :: ts, rs, calls⟩ ∧
      task registry cb s t calls = (.error e, calls') ∧ end? = (.error e, calls')

theorem tasks_gets {rs : List Rule} (ts : List Task) :
    ∀ (s : RunState) (calls : List Call), Reaches registry cb table es before ⟨s, ts, rs, calls⟩ →
      Gets registry cb table es before rs (ts.foldlM (task registry cb) s calls) := by
  induction ts with
  | nil =>
    intro s calls hreaches
    exact Or.inl ⟨s, calls, rfl, hreaches⟩
  | cons t ts ih =>
    intro s calls hreaches
    rw [List.foldlM_cons]
    obtain ⟨s' | e, calls', hend⟩ : ∃ end? calls', task registry cb s t calls = (end?, calls') :=
      ⟨_, _, rfl⟩
    · rw [Traced.bind_error hend]
      exact Or.inr ⟨s, t, ts, rs, calls, calls', _, hreaches, hend, rfl⟩
    · rw [Traced.bind_ok hend]
      exact ih _ calls' (hreaches.evaluate hend)

theorem rules_gets (rs : List Rule) :
    ∀ (s : RunState) (calls : List Call), Reaches registry cb table es before ⟨s, [], rs, calls⟩ →
      Gets registry cb table es before [] (rules registry cb table s rs calls) := by
  induction rs with
  | nil =>
    intro s calls hreaches
    exact Or.inl ⟨s, calls, rfl, hreaches⟩
  | cons r rs ih =>
    intro s calls hreaches
    rw [rules, List.foldlM_cons]
    rcases tasks_gets _ _ _ hreaches.resolve with ⟨s', calls', hend, hreaches'⟩ | hraised
    · rw [Traced.bind_ok (t := rule registry cb table s r) hend]
      exact ih s' calls' hreaches'
    · obtain ⟨s', t, ts, rs', calls₁, calls₂, e, hreaches', hraises, hend⟩ := hraised
      rw [Traced.bind_error (t := rule registry cb table s r) hend]
      exact Or.inr ⟨s', t, ts, rs', calls₁, calls₂, e, hreaches', hraises, rfl⟩

/-- A run ends at the stage at which nothing is left to do, or at one whose next task raises. -/
theorem execute_reaches (registry : Registry) (cb : Callbacks) (table : RuleTable)
    (es : Entries Value) (before : List Call) :
    (∃ s calls, Reaches registry cb table es before ⟨s, [], [], calls⟩ ∧
      execute registry cb table es before = (finish table s, calls)) ∨
    ∃ s t ts rs calls calls' e, Reaches registry cb table es before ⟨s, t :: ts, rs, calls⟩ ∧
      task registry cb s t calls = (.error e, calls') ∧
      execute registry cb table es before = (.error e, calls') := by
  rcases rules_gets table.byDepth _ _ .start with ⟨s, calls, hend, hreaches⟩ | hraised
  · refine Or.inl ⟨s, calls, hreaches, ?_⟩
    rw [execute, Traced.bind_ok hend]
    cases finish table s <;> rfl
  · obtain ⟨s, t, ts, rs, calls, calls', e, hreaches, hraises, hend⟩ := hraised
    refine Or.inr ⟨s, t, ts, rs, calls, calls', e, hreaches, hraises, ?_⟩
    rw [execute, Traced.bind_error hend]

/-- What a run ends with, if it does, is what its last state has found, and the value that the tree
is finalized to. -/
theorem finish_eq_ok {s : RunState} {finished : Finished} (h : finish table s = .ok finished) :
    (s.tree.finalize table.roots).2 = .ok finished.report.value ∧
      finished.outcomes = s.outcomes ∧ finished.report.passed = s.passed ∧
      finished.report.failed = s.failed ∧ finished.report.errors = s.errors := by
  unfold finish at h
  split at h
  · next value hvalue =>
    cases h
    exact ⟨by rw [hvalue], rfl, rfl, rfl, rfl⟩
  · cases h

/-- A run that comes to an end finishes its last stage. -/
theorem exists_reaches_of_execute {calls : List Call} {finished : Finished}
    (h : execute registry cb table es before = (.ok finished, calls)) :
    ∃ s, Reaches registry cb table es before ⟨s, [], [], calls⟩ ∧ finish table s = .ok finished := by
  rcases execute_reaches registry cb table es before with ⟨s, calls', hreaches, hend⟩ | hraised
  · rw [h] at hend
    obtain ⟨hfinish, rfl⟩ := Prod.mk.inj hend
    exact ⟨s, hreaches, hfinish.symm⟩
  · obtain ⟨s, t, ts, rs, calls₁, calls₂, e, -, -, hend⟩ := hraised
    rw [h] at hend
    cases hend

/-! ## What holds at every stage -/

/-- The draft that rules have made of a document, and the visits on the way. -/
def drafted (table : RuleTable) (judge : Judge) (es : Entries Value) (done : List Rule) :
    Draft × List Visit :=
  chain (done.map fun r => Draft.visit table judge r r.path [])
    (.dict false (Entries.mapValues .leaf es))

theorem drafted_concat (judge : Judge) (done : List Rule) (r : Rule) :
    drafted table judge es (done ++ [r]) =
      ((Draft.visit table judge r r.path [] (drafted table judge es done).1).1,
        (drafted table judge es done).2 ++
          (Draft.visit table judge r r.path [] (drafted table judge es done).1).2) := by
  unfold drafted
  rw [List.map_append, List.map_singleton, chain_concat]

/-- What is known at a stage: its tasks are those of a rule at targets of the tree, and after their
deeds the tree stands for the draft of the rules so far. -/
structure Standing (registry : Registry) (answer : Call → Value) (table : RuleTable)
    (es : Entries Value) (before : List Call) (done : List Rule) (r : Rule) (ts : List Target)
    (seen : List Visit) (k : Nat) (shut : List (Nat × Nat)) (stage : Stage) : Prop where
  order : done ++ stage.rules = table.byDepth
  short : ∀ r' ∈ stage.rules, k ≤ r'.path.length
  tasks : stage.tasks = ts.map (Target.task table r)
  detached : stage.state.tree.detached = []
  nodup : stage.state.tree.root.handles.Nodup
  aims : ∀ x ∈ ts, Node.Aims x.container x.step stage.state.tree.root
  tells : Tells stage.state seen
  calls : stage.calls = before ++ seen.flatMap (Field.callsAt registry answer table)
  visits : seen ++ ts.map (Target.visit (Field.judge registry answer table) r) =
    (drafted table (Field.judge registry answer table) es done).2
  stands : Stands done k (stage.state.tree.acted (Field.judge registry answer table) r ts) shut
    (drafted table (Field.judge registry answer table) es done).1

section Standing

variable {answer : Call → Value} {done : List Rule} {r : Rule} {seen : List Visit} {k : Nat}
  {shut : List (Nat × Nat)} {s : RunState} {rs : List Rule} {calls : List Call}

/-- At the start nothing is done, and the tree stands for the document. -/
theorem start_standing (ht : table.Compiled) (registry : Registry) (answer : Call → Value)
    (es : Entries Value) (before : List Call) :
    Standing registry answer table es before [] ⟨.any, []⟩ [] [] 1 []
      ⟨start es, [], table.byDepth, before⟩ := by
  have hstands := ofEntries_stands es
  refine ⟨rfl, ?_, rfl, rfl, hstands.ready.nodup, by simp, ⟨rfl, rfl, rfl, rfl⟩, ?_, rfl, ?_⟩
  · intro r hr
    obtain ⟨name, rest, hpath⟩ := ht.rooted r (RuleTable.mem_byDepth.mp hr)
    simp [hpath]
  · rw [List.flatMap_nil, List.append_nil]
  · rw [acted_nil]
    exact hstands

/-- A rule is resolved when no task is left: its tasks are the visits of its round. -/
theorem Standing.resolve (ht : table.Compiled) {r' : Rule}
    (h : Standing registry answer table es before done r [] seen k shut ⟨s, [], r' :: rs, calls⟩) :
    ∃ ts shut', Standing registry answer table es before (done ++ [r']) r' ts seen r'.path.length shut'
      ⟨{ s with tree := (s.tree.resolve table r').1 }, (s.tree.resolve table r').2, rs, calls⟩ := by
  have horder : done ++ r' :: rs = table.byDepth := h.order
  have hmem : r' ∈ table.ruleList := by
    rw [← RuleTable.mem_byDepth, ← horder]
    exact List.mem_append_right _ (List.mem_cons_self ..)
  have hdone : ∀ r'' ∈ done, r'' ∈ table.ruleList ∧ r''.path ≠ r'.path := by
    intro r'' hr''
    have hnd := ht.distinct_byDepth
    rw [← horder, List.map_append, List.nodup_append] at hnd
    refine ⟨?_, hnd.2.2 _ (List.mem_map_of_mem hr'') _ (List.mem_cons_self ..)⟩
    rw [← RuleTable.mem_byDepth, ← horder]
    exact List.mem_append_left _ hr''
  have hpath : r'.path ≠ [] := by
    obtain ⟨name, rest, hpath⟩ := ht.rooted r' hmem
    simp [hpath]
  have hstands := h.stands
  rw [acted_nil] at hstands
  obtain ⟨t', ts, hresolve, hdetached, hnd, haims, hvisits, shut', hstands'⟩ :=
    resolve_stands (Field.judge registry answer table) hstands hdone
      (h.short r' (List.mem_cons_self ..)) hpath
  -- no task is left, so all visits so far have been evaluated
  have hseen : seen = (drafted table (Field.judge registry answer table) es done).2 := by
    have hvisits := h.visits
    rwa [List.map_nil, List.append_nil] at hvisits
  refine ⟨ts, shut', ?_⟩
  rw [hresolve]
  refine ⟨?_, ?_, rfl, hdetached, hnd, haims, h.tells.tree t', h.calls, ?_, ?_⟩
  · rw [List.append_assoc]
    exact horder
  · intro r'' hr''
    have hsorted := table.pairwise_byDepth
    rw [← horder, List.pairwise_append] at hsorted
    exact (List.pairwise_cons.mp hsorted.2.1).1 r'' hr''
  · rw [drafted_concat, hvisits, hseen]
  · rw [drafted_concat]
    exact hstands'

/-- Filing what a task ended with goes well: it does the deed at the target. -/
theorem Standing.task_eq {x : Target} {ts : List Target} {t : Task} {tasks : List Task}
    (h : Standing registry cb.calm table es before done r (x :: ts) seen k shut
      ⟨s, t :: tasks, rs, calls⟩)
    {o : FieldOutcome} {calls' : List Call}
    (hevaluate : Field.evaluate registry cb t.rule.toContract t.dotted t.value calls =
      (.ok o, calls')) :
    let judge := Field.judge registry cb.calm table
    task registry cb s t calls =
      (.ok (filed s (s.tree.acted judge r [x]) (x.visit judge r)), calls') := by
  intro judge
  obtain ⟨rfl, -⟩ := List.cons.inj h.tasks
  obtain ⟨ho, -⟩ := Field.evaluate_of_ok registry cb _ _ hevaluate
  have hfiled : file s (x.task table r) o =
      .ok (filed s (s.tree.acted judge r [x]) (x.visit judge r)) := by
    rw [ho]
    exact @file_target table judge r s x h.detached (h.aims x (List.mem_cons_self ..))
  rw [task, Traced.bind_ok hevaluate, hfiled]
  rfl

/-- A task that came to its end has done the deed at its target, after the calls of its visit. -/
theorem Standing.of_task_ok {x : Target} {ts : List Target} {s' : RunState} {t : Task}
    {tasks : List Task} {calls' : List Call}
    (h : Standing registry cb.calm table es before done r (x :: ts) seen k shut
      ⟨s, t :: tasks, rs, calls⟩)
    (hend : task registry cb s t calls = (.ok s', calls')) :
    let judge := Field.judge registry cb.calm table
    s' = filed s (s.tree.acted judge r [x]) (x.visit judge r) ∧
      calls' = calls ++ Field.callsAt registry cb.calm table (x.visit judge r) := by
  intro judge
  obtain ⟨o, calls₁, hevaluate, -⟩ := Traced.of_bind_ok hend
  rw [h.task_eq hevaluate] at hend
  obtain ⟨hs', rfl⟩ := Prod.mk.inj hend
  obtain ⟨rfl, -⟩ := List.cons.inj h.tasks
  exact ⟨(Except.ok.inj hs').symm, (Field.evaluate_of_ok registry cb _ _ hevaluate).2⟩

/-- Evaluating a task does the deed at its target and tells of its visit. -/
theorem Standing.evaluate {x : Target} {ts : List Target} {s' : RunState} {t : Task} {tasks : List Task}
    {calls' : List Call}
    (h : Standing registry cb.calm table es before done r (x :: ts) seen k shut
      ⟨s, t :: tasks, rs, calls⟩)
    (hend : task registry cb s t calls = (.ok s', calls')) :
    Standing registry cb.calm table es before done r ts
      (seen ++ [x.visit (Field.judge registry cb.calm table) r]) k shut ⟨s', tasks, rs, calls'⟩ := by
  let judge := Field.judge registry cb.calm table
  obtain ⟨rfl, hcalls'⟩ := h.of_task_ok hend
  obtain ⟨-, htasks⟩ := List.cons.inj h.tasks
  have haim := h.aims x (List.mem_cons_self ..)
  refine ⟨h.order, h.short, htasks, h.detached, ?_, ?_, tells_filed h.tells _ _, ?_, ?_, ?_⟩
  · show (s.tree.acted judge r [x]).root.handles.Nodup
    rw [handles_acted h.nodup haim]
    exact h.nodup
  · intro y hy
    exact (aims_acted h.nodup haim).mpr (h.aims y (List.mem_cons_of_mem _ hy))
  · rw [List.flatMap_append, List.flatMap_singleton, ← List.append_assoc, ← h.calls]
    exact hcalls'
  · rw [← h.visits, List.append_assoc]
    rfl
  · have hstands := h.stands
    rw [show x :: ts = [x] ++ ts from rfl, acted_append] at hstands
    exact hstands

end Standing

/-- Every stage that a run reaches stands. -/
theorem Reaches.standing (ht : table.Compiled) {stage : Stage}
    (h : Reaches registry cb table es before stage) :
    ∃ done r ts seen k shut,
      Standing registry cb.calm table es before done r ts seen k shut stage := by
  induction h with
  | start => exact ⟨_, _, _, _, _, _, start_standing ht registry cb.calm es before⟩
  | resolve _ ih =>
    obtain ⟨done, r, ts, seen, k, shut, hstanding⟩ := ih
    obtain rfl : ts = [] := List.map_eq_nil_iff.mp hstanding.tasks.symm
    obtain ⟨ts', shut', hstanding'⟩ := hstanding.resolve ht
    exact ⟨_, _, _, _, _, _, hstanding'⟩
  | evaluate _ hend ih =>
    obtain ⟨done, r, ts, seen, k, shut, hstanding⟩ := ih
    cases ts with
    | nil => cases hstanding.tasks
    | cons x ts => exact ⟨_, _, _, _, _, _, hstanding.evaluate hend⟩

/-- At every stage, what has been evaluated and the tasks that come next are the first of the visits
that settle the document. -/
theorem Reaches.visits (ht : table.Compiled) {stage : Stage}
    (h : Reaches registry cb table es before stage) :
    ∃ seen pending later,
      Descent.visits table (Field.judge registry cb.calm table) true es = seen ++ pending ++ later ∧
      Tells stage.state seen ∧
      stage.tasks.map (fun t => (t.rule, t.place, t.value, t.dotted)) =
        pending.map (fun v => (v.rule, v.place, v.given, v.place.write table.options)) ∧
      (stage.rules = [] → later = []) := by
  obtain ⟨done, r, ts, seen, k, shut, hstanding⟩ := h.standing ht
  let judge := Field.judge registry cb.calm table
  let w := chain (stage.rules.map fun r => Draft.visit table judge r r.path [])
    (drafted table judge es done).1
  refine ⟨seen, ts.map (Target.visit judge r), w.2, ?_, hstanding.tells, ?_, ?_⟩
  · have hwhole := (@Draft.settles table judge ht es).2
    rw [← hstanding.order, List.map_append, chain_append] at hwhole
    rw [Descent.visits, ← hwhole, hstanding.visits]
    rfl
  · rw [hstanding.tasks, List.map_map, List.map_map]
    rfl
  · intro hrules
    simp only [w, hrules, List.map_nil, chain]

/-- A task that a run comes to is one of the visits that settle the document. -/
theorem Yields.visit (ht : table.Compiled) {t : Task} (h : Yields registry cb table es t) :
    ∃ w ∈ Descent.visits table (Field.judge registry cb.calm table) true es,
      w.rule = t.rule ∧ w.place = t.place ∧ w.given = t.value ∧
        w.place.write table.options = t.dotted := by
  obtain ⟨before, stage, hreaches, ht'⟩ := h
  obtain ⟨seen, pending, later, hvisits, -, htasks, -⟩ := hreaches.visits ht
  have hmem := List.mem_map_of_mem (f := fun t : Task => (t.rule, t.place, t.value, t.dotted)) ht'
  rw [htasks] at hmem
  obtain ⟨w, hw, heq⟩ := List.mem_map.mp hmem
  simp only [Prod.mk.injEq] at heq
  refine ⟨w, ?_, heq⟩
  rw [hvisits]
  exact List.mem_append_left _ (List.mem_append_right _ hw)

/-- A run that comes to an end leaves the outcomes of the visits that settle the document. -/
theorem outcomes_of_execute (ht : table.Compiled) {calls : List Call} {finished : Finished}
    (h : execute registry cb table es before = (.ok finished, calls)) :
    finished.outcomes = (Descent.visits table (Field.judge registry cb.calm table) true es).map
      fun w => (w.place, w.outcome) := by
  obtain ⟨s, hreaches, hfinish⟩ := exists_reaches_of_execute h
  obtain ⟨-, houtcomes, -⟩ := finish_eq_ok hfinish
  obtain ⟨seen, pending, later, hvisits, htells, htasks, hlater⟩ := hreaches.visits ht
  obtain rfl : pending = [] := List.map_eq_nil_iff.mp htasks.symm
  rw [hvisits, hlater rfl, List.append_nil, List.append_nil, houtcomes, htells.outcomes]

end Run

/-- A validator that comes to an end has run over the entries of its input. -/
theorem Validator.exists_execute_of_run {v : Validator} {cb : Callbacks} {data : Value}
    {keywords : Entries Value} {calls calls' : List Call} {finished : Run.Finished}
    (h : v.run cb data keywords calls = (.ok finished, calls')) :
    ∃ es, Input.entries v.table.topLevelKeys data keywords = .ok es ∧
      Run.execute v.registry cb v.table es calls = (.ok finished, calls') := by
  unfold run at h
  cases hes : Input.entries v.table.topLevelKeys data keywords with
  | error e =>
    rw [hes] at h
    cases h
  | ok es =>
    rw [hes] at h
    dsimp only [Traced.outcome] at h
    split at h
    · next finished' calls₁ hrun =>
      cases h
      exact ⟨es, rfl, hrun⟩
    · cases h

/-- A validator that comes to an end finishes the last stage of a run over the entries of its
input. -/
theorem Validator.exists_finish_of_run {v : Validator} {cb : Callbacks} {data : Value}
    {keywords : Entries Value} {calls calls' : List Call} {finished : Run.Finished}
    (h : v.run cb data keywords calls = (.ok finished, calls')) :
    ∃ es s, Input.entries v.table.topLevelKeys data keywords = .ok es ∧
      Run.Reaches v.registry cb v.table es calls ⟨s, [], [], calls'⟩ ∧
      Run.finish v.table s = .ok finished := by
  obtain ⟨es, hes, hrun⟩ := exists_execute_of_run h
  obtain ⟨s, hreaches, hfinish⟩ := Run.exists_reaches_of_execute hrun
  exact ⟨es, s, hes, hreaches, hfinish⟩

/-- What a validator leaves of an input was left by the last stage of a run over its entries. -/
theorem Validator.exists_reaches_of_run {v : Validator} {cb : Callbacks} {data : Value}
    {keywords : Entries Value} {calls calls' : List Call} {finished : Run.Finished}
    (h : v.run cb data keywords calls = (.ok finished, calls')) :
    ∃ es s, Input.entries v.table.topLevelKeys data keywords = .ok es ∧
      Run.Reaches v.registry cb v.table es calls ⟨s, [], [], calls'⟩ ∧
      finished.outcomes = s.outcomes ∧ finished.report.errors = s.errors := by
  obtain ⟨es, s, hes, hreaches, hfinish⟩ := exists_finish_of_run h
  obtain ⟨-, houtcomes, -, -, herrors⟩ := Run.finish_eq_ok hfinish
  exact ⟨es, s, hes, hreaches, houtcomes, herrors⟩

end ArgumentSchema
