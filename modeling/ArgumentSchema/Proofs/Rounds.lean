import ArgumentSchema.Proofs.Filing
import ArgumentSchema.Proofs.Simulation

/-!
# A run, round by round

In each round of a run one rule is resolved, and its tasks are evaluated and filed. `Stands` says
that a working tree stands for a draft between two rounds. A round takes the rule to the draft:

> `WorkingTree.resolve_stands`: a rule is resolved to the targets that it visits in the draft, and
> after their deeds the tree stands for the visited draft.
> `Run.rules_answering`: where callbacks answer, all rounds come to an end, and the tree stands for
> the draft that the rules have been taken to, one after the other.
-/

namespace ArgumentSchema

open Marks Node

namespace WorkingTree

/-- The records of a working tree, with the positions of the elements that are blocked. -/
def marks (t : WorkingTree) (shut : List (Nat × Nat)) : Marks :=
  ⟨t.blocked, t.removals, shut, t.created⟩

/-- Between two rounds a tree stands for a draft: the given rules are done, and no container is
opened at the given depth or below. -/
structure Stands (done : List Rule) (k : Nat) (t : WorkingTree) (shut : List (Nat × Nat))
    (d : Draft) : Prop where
  detached : t.detached = []
  opened : t.root.isOpened = true
  ready : Ready (t.marks shut) t.root.handles ⟨t.next, t.created⟩
  fits : Fits (t.marks shut) k [] t.root
  view : Marks.view (t.marks shut) t.root = d
  unmade : d.isMade = false
  gone : ∀ e ∈ shut, e ∈ t.removals
  sorted : t.created.Pairwise fun a b => a.child < b.child
  younger : ∀ c ∈ t.created, c.parent < c.child
  barred : ∀ q ∈ t.blocked, ∃ r ∈ done, q.path = r.path

theorem handles_ofEntries (es : Entries Value) : (ofEntries es).root.handles = [0] := by
  rw [ofEntries, handles, Walk.handlesOfEntries_closed]

/-- The tree over an input stands for the draft that is the input. -/
theorem ofEntries_stands (es : Entries Value) :
    Stands [] 1 (ofEntries es) [] (.dict false (Entries.mapValues .leaf es)) := by
  refine ⟨rfl, rfl, ?_, ?_, ?_, rfl, by simp, .nil, by simp [ofEntries], by simp [ofEntries]⟩
  · rw [handles_ofEntries]
    exact ⟨by simp, by simp [ofEntries], by simp [marks, ofEntries], by simp [marks], rfl,
      by simp [marks, ofEntries]⟩
  · exact Walk.fits_fresh_dict (by simp [Clear, marks, ofEntries]) (by simp [marks, ofEntries]) es
  · rw [ofEntries, view_dict, viewEntries_closed]
    rfl

variable {table : RuleTable} {judge : Judge} {r : Rule} {done : List Rule} {k : Nat}
  {t : WorkingTree} {shut : List (Nat × Nat)} {d : Draft}

theorem positions_fails_subset (ts : List Target) :
    ∀ e ∈ positions (Target.fails judge r) ts, e ∈ positions (Target.drops judge r) ts := by
  rintro ⟨h, i⟩ he
  obtain ⟨x, hx, hh, hstep, hfails⟩ := mem_positions.mp he
  refine mem_positions.mpr ⟨x, hx, hh, hstep, ?_⟩
  have hs : (x.visit judge r).outcome.state.succeeded = false := by
    simpa [Target.fails] using hfails
  rw [Target.drops, FieldOutcome.kept?, hs]
  rfl

/-- A rule is resolved by a walk along its path. -/
theorem resolve_eq (t : WorkingTree) (table : RuleTable) {r : Rule} {rest : List Segment}
    {last : Segment} (hpath : r.path = rest ++ [last]) :
    t.resolve table r =
      let w := Walk.follow t.blocked.contains last (Walk.stepsFrom table.hasPath (Place.path []) rest) []
        t.root ⟨t.next, t.created⟩
      ({ t with root := w.node, next := w.state.next, created := w.state.created },
        w.targets.map (Target.task table r)) := by
  have hlast : r.path.getLast? = some last := by rw [hpath, List.getLast?_concat]
  have hsteps : Walk.steps table.hasPath r.path = Walk.stepsFrom table.hasPath (Place.path []) rest := by
    rw [Walk.steps_eq, hpath, List.dropLast_concat]
    rfl
  rw [resolve, hlast, hsteps]
  rfl

/-- No rule that is done has the path of the next one, so that nothing is barred where it ends. -/
theorem Stands.bars (hstands : Stands done k t shut d)
    (hdone : ∀ r' ∈ done, r' ∈ table.ruleList ∧ r'.path ≠ r.path) :
    Walk.Bars table t.blocked.contains r.path [] (t.marks shut) := by
  refine ⟨fun q _ => List.contains_iff_mem, fun q hq _ => ?_, fun q hq _ => ?_⟩
  · obtain ⟨r', hr', hq⟩ := hstands.barred q hq
    exact RuleTable.hasPath_iff.mpr ⟨r', (hdone r' hr').1, hq.symm⟩
  · obtain ⟨r', hr', hq⟩ := hstands.barred q hq
    rw [hq]
    exact (hdone r' hr').2

/-- After a walk along the path of a rule and the deeds at its targets the tree stands for the
visited draft. The places of the targets that fail are shut from here on. -/
theorem Stands.acted {k' : Nat} {w : Walked} {d' : Draft × List Visit}
    (hstands : Stands done k t shut d)
    (hgrows : Grows t.root.handles ⟨t.next, t.created⟩ w.node.handles w.state)
    (hwithin : ∀ x ∈ w.targets, Walk.Within r.path [] w.node.handles x)
    (hshows : Shows judge r (t.marks shut) k' [] w d') (hopen : d'.1.isOpened = true)
    (hunmade : d'.1.isMade = false) :
    let t' : WorkingTree := { t with root := w.node, next := w.state.next, created := w.state.created }
    Stands (done ++ [r]) k' (t'.acted judge r w.targets)
      (shut ++ positions (Target.fails judge r) w.targets) d'.1 := by
  intro t'
  have hmarks : (t'.acted judge r w.targets).marks
      (shut ++ positions (Target.fails judge r) w.targets) =
        (t.marks shut).after judge r w.targets w.state.created := rfl
  -- the parts of `Stands` in their order; the walk has only added to what was created
  refine ⟨hstands.detached, ?_, ?_, ?_, ?_, hunmade, ?_,
    hgrows.sorted hstands.sorted hstands.ready.child_lt, hgrows.younger hstands.younger, ?_⟩
  · rw [← isOpened_view ((t.marks shut).after judge r w.targets w.state.created)]
    rw [show (t'.acted judge r w.targets).root = Walk.act judge r w.targets w.node from rfl,
      hshows.view, hopen]
  · rw [hmarks]
    show Ready _ (Walk.act judge r w.targets w.node).handles w.state
    rw [Walk.handles_act hgrows.nodup hshows.aims]
    exact hstands.ready.after hgrows fun x hx => (hwithin x hx).1
  · rw [hmarks]
    exact hshows.fits
  · rw [hmarks]
    exact hshows.view
  · intro e he
    rcases List.mem_append.mp he with he | he
    · exact List.mem_append_left _ (hstands.gone e he)
    · exact List.mem_append_right _ (positions_fails_subset _ e he)
  · intro q hq
    rcases mem_after_blocked.mp (show q ∈ ((t.marks shut).after judge r w.targets
      w.state.created).blocked from hq) with hq | ⟨x, hx, rfl, -⟩
    · obtain ⟨r', hr', hq⟩ := hstands.barred q hq
      exact ⟨r', List.mem_append_left _ hr', hq⟩
    · obtain ⟨-, way, hplace, hway⟩ := hwithin x hx
      refine ⟨r, List.mem_append_right _ (List.mem_singleton_self r), ?_⟩
      rw [hplace, List.nil_append, hway]

/-- A rule is resolved to what it visits, and the deeds there make the visited draft. -/
theorem resolve_stands (judge : Judge) (hstands : Stands done k t shut d)
    (hdone : ∀ r' ∈ done, r' ∈ table.ruleList ∧ r'.path ≠ r.path) (hk : k ≤ r.path.length)
    (hr : r.path ≠ []) :
    ∃ t' ts, t.resolve table r = (t', ts.map (Target.task table r)) ∧ t'.detached = [] ∧
      t'.root.handles.Nodup ∧ (∀ x ∈ ts, Aims x.container x.step t'.root) ∧
      ts.map (Target.visit judge r) = (Draft.visit table judge r r.path [] d).2 ∧
      ∃ shut', Stands (done ++ [r]) r.path.length (t'.acted judge r ts) shut'
        (Draft.visit table judge r r.path [] d).1 := by
  obtain ⟨rest, last, hpath⟩ : ∃ rest last, r.path = rest ++ [last] :=
    ⟨_, _, (List.dropLast_append_getLast hr).symm⟩
  have hlength : r.path.length = rest.length + 1 := by rw [hpath, List.length_append]; rfl
  let w := Walk.follow t.blocked.contains last (Walk.stepsFrom table.hasPath (Place.path []) rest) []
    t.root ⟨t.next, t.created⟩
  have hbars : Walk.Bars table t.blocked.contains (rest ++ [last]) [] (t.marks shut) :=
    hpath ▸ hstands.bars hdone
  have hgrows : Grows t.root.handles ⟨t.next, t.created⟩ w.node.handles w.state :=
    Walk.follow_grows _ _ _ _ _ _ hstands.ready.nodup hstands.ready.lt
  have hshows : Shows judge r (t.marks shut) (rest.length + 1) [] w
      (Draft.visit table judge r (rest ++ [last]) [] (Marks.view (t.marks shut) t.root)) :=
    Walk.follow_shows last rest [] t.root _ _ hstands.opened hstands.ready
      (hstands.fits.mono (by omega)) hbars
  have hwithin : ∀ x ∈ w.targets, Walk.Within (rest ++ [last]) [] w.node.handles x :=
    Walk.follow_within [] _ _
  rw [hstands.view, ← hpath, ← hlength] at hshows
  rw [← hpath] at hwithin
  have hopen : (Draft.visit table judge r r.path [] d).1.isOpened = true := by
    refine Draft.isOpened_visit _ _ _ _ _ ?_
    rw [← hstands.view, isOpened_view, hstands.opened]
  have hunmade : (Draft.visit table judge r r.path [] d).1.isMade = false := by
    rw [Draft.isMade_visit]
    exact hstands.unmade
  exact ⟨_, w.targets, resolve_eq t table hpath, hstands.detached, hgrows.nodup, hshows.aims,
    hshows.log, _, hstands.acted hgrows hwithin hshows hopen hunmade⟩

end WorkingTree

namespace Run

open WorkingTree

variable {table : RuleTable} {registry : Registry} {answer : Call → Value}

/-- One round: a rule is taken to the draft. -/
theorem rule_answering (registry : Registry) (answer : Call → Value) {s : RunState}
    {vs : List Visit} {done : List Rule} {k : Nat}
    {shut : List (Nat × Nat)} {d : Draft} {r : Rule} (hstands : Stands done k s.tree shut d)
    (htells : Tells s vs) (hdone : ∀ r' ∈ done, r' ∈ table.ruleList ∧ r'.path ≠ r.path)
    (hk : k ≤ r.path.length) (hr : r.path ≠ []) :
    let w := Draft.visit table (Field.judge registry answer table) r r.path [] d
    ∃ s', Traced.Adds (rule registry (.answering answer) table s r) s'
        (w.2.flatMap (Field.callsAt registry answer table)) ∧
      (∃ shut', Stands (done ++ [r]) r.path.length s'.tree shut' w.1) ∧ Tells s' (vs ++ w.2) := by
  intro w
  obtain ⟨t', ts, hresolve, hdetached, hnd, haims, hvisits, shut', hstands'⟩ :=
    resolve_stands (Field.judge registry answer table) hstands hdone hk hr
  obtain ⟨s', hadds, htree, htells'⟩ := tasks_answering registry answer (r := r) ts
    { s with tree := t' } vs hdetached hnd haims (htells.tree t')
  rw [hvisits] at hadds htells'
  refine ⟨s', ?_, ⟨shut', ?_⟩, htells'⟩
  · rw [rule, hresolve]
    exact hadds
  · rw [htree]
    exact hstands'

/-- All rounds: the rules are taken to the draft, one after the other. -/
theorem rules_answering (rs : List Rule) :
    ∀ (s : RunState) (vs : List Visit) (done : List Rule) (k : Nat) (shut : List (Nat × Nat))
      (d : Draft), Stands done k s.tree shut d → Tells s vs →
      (∀ r ∈ done ++ rs, r ∈ table.ruleList ∧ r.path ≠ []) →
      ((done ++ rs).map (·.path)).Nodup →
      (∀ r ∈ rs, k ≤ r.path.length) →
      (rs.Pairwise fun a b => a.path.length ≤ b.path.length) →
      let judge := Field.judge registry answer table
      let w := chain (rs.map fun r => Draft.visit table judge r r.path []) d
      ∃ s', Traced.Adds (rules registry (.answering answer) table s rs) s'
          (w.2.flatMap (Field.callsAt registry answer table)) ∧
        (∃ k' shut', Stands (done ++ rs) k' s'.tree shut' w.1) ∧ Tells s' (vs ++ w.2) := by
  induction rs with
  | nil =>
    intro s vs done k shut d hstands htells _ _ _ _
    refine ⟨s, Traced.Adds.pure s, ⟨k, shut, ?_⟩, by simpa [chain] using htells⟩
    rw [List.append_nil]
    exact hstands
  | cons r rs ih =>
    intro s vs done k shut d hstands htells hmem hnd hk hsorted judge w
    have hconcat : done ++ r :: rs = (done ++ [r]) ++ rs := by simp
    have hdone : ∀ r' ∈ done, r' ∈ table.ruleList ∧ r'.path ≠ r.path := by
      intro r' hr'
      refine ⟨(hmem r' (List.mem_append_left _ hr')).1, ?_⟩
      rw [List.map_append, List.nodup_append] at hnd
      exact hnd.2.2 _ (List.mem_map_of_mem hr') _ (List.mem_map_of_mem (List.mem_cons_self ..))
    obtain ⟨s₁, hadds, ⟨shut₁, hstands₁⟩, htells₁⟩ := rule_answering registry answer
      hstands htells hdone (hk r (List.mem_cons_self ..))
      (hmem r (List.mem_append_right _ (List.mem_cons_self ..))).2
    obtain ⟨hhead, htail⟩ := List.pairwise_cons.mp hsorted
    rw [hconcat] at hmem hnd
    obtain ⟨s', hadds', hstands', htells'⟩ :=
      ih s₁ _ (done ++ [r]) r.path.length shut₁ _ hstands₁ htells₁ hmem hnd hhead htail
    rw [← hconcat] at hstands'
    refine ⟨s', ?_, hstands', ?_⟩
    · rw [rules, List.foldlM_cons]
      have := Traced.Adds.bind (f := fun s => rules registry (.answering answer) table s rs)
        hadds hadds'
      rw [← List.flatMap_append] at this
      exact this
    · rw [List.append_assoc] at htells'
      exact htells'

end Run

end ArgumentSchema
