import ArgumentSchema.Proofs.Endings
import ArgumentSchema.Proofs.Fragments
import ArgumentSchema.Proofs.Silent

/-!
# Rules that become optional

A field that may be left out is omitted where it would have failed. The place is blocked and
discarded either way, so that all that follows finds the same tree: a rule that becomes optional
silences its own errors and does nothing else.

> `Field.evaluate_excusing`: a field that may be left out ends as before, but it is excused from
> failing.
> `Run.execute_beside`: two runs side by side, one of them with an optional rule.
> `Validator.run_optional`: the same value, the same fields that passed, and the errors of all
> other rules.
-/

namespace ArgumentSchema

/-- An outcome that is excused from failing: it is omitted, and there is no error. -/
def FieldOutcome.excused (o : FieldOutcome) : FieldOutcome :=
  if o.state.succeeded then o else { o with state := .omitted, error := none }

namespace FieldOutcome

variable {o : FieldOutcome}

theorem excused_of_succeeded (h : o.state.succeeded = true) : o.excused = o := if_pos h

theorem excused_of_not_succeeded (h : o.state.succeeded = false) :
    o.excused = { o with state := .omitted, error := none } := by
  rw [excused, h, if_neg Bool.false_ne_true]

theorem failure?_excused : o.excused.failure? = none := by
  cases h : o.state.succeeded with
  | true => rw [excused_of_succeeded h, failure?, if_pos h]
  | false =>
    rw [excused_of_not_succeeded h]
    rfl

end FieldOutcome

/-- A contract for a field that may be left out. -/
def Contract.excusing (c : Contract) : Contract := { c with optional := true }

namespace Traced

variable {α β γ δ : Type}

/-- Two computations that have ended side by side: alike, and after the same calls. -/
def Beside (R : α → β → Prop) (x : Except Raised α × List Call) (y : Except Raised β × List Call) :
    Prop := LikeEnd R x.1 y.1 ∧ x.2 = y.2

theorem Beside.bind {R : α → β → Prop} {S : γ → δ → Prop} {t : Traced α} {t' : Traced β}
    {f : α → Traced γ} {f' : β → Traced δ} {calls : List Call}
    (h : Beside R (t calls) (t' calls))
    (hf : ∀ a b, R a b → ∀ calls, Beside S (f a calls) (f' b calls)) :
    Beside S ((t >>= f) calls) ((t' >>= f') calls) := by
  rw [bind_apply, bind_apply]
  obtain ⟨hend, hcalls⟩ := h
  generalize t calls = x, t' calls = y at hend hcalls
  obtain ⟨x, after⟩ := x
  obtain ⟨y, after'⟩ := y
  dsimp only at hend hcalls
  subst hcalls
  cases hend with
  | ok hrel => exact hf _ _ hrel _
  | error e => exact ⟨.error e, rfl⟩

theorem beside_map (g : α → β) (t : Traced α) (calls : List Call) :
    Beside (fun a b => b = g a) (t calls) ((g <$> t) calls) := by
  rw [map_eq_pure_bind, bind_apply]
  generalize t calls = x
  obtain ⟨a | a, after⟩ := x
  · exact ⟨.error a, rfl⟩
  · exact ⟨.ok rfl, rfl⟩

theorem outcome_beside {R : α → β → Prop} {t : Traced α} {t' : Traced β} {calls : List Call}
    (h : Beside R (t calls) (t' calls)) :
    (∀ a after, t.outcome calls = (.ok a, after) →
      ∃ b, t'.outcome calls = (.ok b, after) ∧ R a b) ∧
    ∀ e after, t.outcome calls = (.error e, after) → t'.outcome calls = (.error e, after) := by
  unfold outcome
  obtain ⟨hend, hcalls⟩ := h
  generalize t calls = x, t' calls = y at hend hcalls
  obtain ⟨x, made⟩ := x
  obtain ⟨y, made'⟩ := y
  dsimp only at hend hcalls
  subst hcalls
  cases hend with
  | ok hrel =>
    refine ⟨fun a after ha => ?_, fun e after he => ?_⟩
    · cases ha
      exact ⟨_, rfl, hrel⟩
    · cases he
  | error raised =>
    refine ⟨fun a after ha => ?_, fun e after he => ?_⟩
    · cases ha
    · cases he
      rfl

theorem beside_refl (t : Traced α) (calls : List Call) :
    Beside (fun a b => b = a) (t calls) (t calls) := by
  generalize t calls = x
  obtain ⟨a | a, after⟩ := x
  · exact ⟨.error a, rfl⟩
  · exact ⟨.ok rfl, rfl⟩

/-- Steps that end side by side, over elements that are related. -/
theorem foldlM_beside {σ σ' : Type} {R : σ → σ' → Prop} {S : α → β → Prop} {f : σ → α → Traced σ}
    {f' : σ' → β → Traced σ'}
    (hstep : ∀ s s' a b, R s s' → S a b → ∀ calls, Beside R (f s a calls) (f' s' b calls))
    {as : List α} {bs : List β} (h : List.Forall₂ S as bs) :
    ∀ s s', R s s' → ∀ calls, Beside R (as.foldlM f s calls) (bs.foldlM f' s' calls) := by
  induction h with
  | nil => exact fun s s' hs calls => ⟨.ok hs, rfl⟩
  | cons hab _ ih =>
    intro s s' hs calls
    rw [List.foldlM_cons, List.foldlM_cons]
    exact (hstep s s' _ _ hs hab calls).bind fun s₁ s₁' hs₁ calls₁ => ih s₁ s₁' hs₁ calls₁

end Traced

namespace Field

variable (registry : Registry) (cb : Callbacks) (c : Contract) (key : String)

theorem fail_excusing (v : Value) :
    fail registry c.excusing key v = (fail registry c key v).excused := by
  rw [fail, if_pos (show c.excusing.optional = true from rfl), fail]
  split <;> rfl

theorem succeed_excusing {state : FieldState} (hstate : state.succeeded = true) (v : Value)
    (type : String) :
    succeed cb c.excusing key state v type =
      FieldOutcome.excused <$> succeed cb c key state v type := by
  have hkeeps : ∀ w, (⟨key, state, w, some type, none⟩ : FieldOutcome).excused =
      ⟨key, state, w, some type, none⟩ := fun w => FieldOutcome.excused_of_succeeded hstate
  unfold succeed Contract.excusing
  cases c.transform with
  | none => simp only [map_pure, hkeeps]
  | some f => simp only [map_bind, map_pure, hkeeps]

theorem recover_excusing (v : Value) (rejected : Option String) :
    recover registry cb c.excusing key v rejected =
      FieldOutcome.excused <$> recover registry cb c key v rejected := by
  unfold recover
  rw [show c.excusing.default = c.default from rfl, show c.excusing.catch? = c.catch? from rfl]
  cases c.default with
  | some d => exact succeed_excusing cb c key rfl d _
  | none =>
    cases c.catch? with
    | none => rw [map_pure, fail_excusing]
    | some f =>
      dsimp only
      rw [map_bind]
      refine congrArg _ (funext fun answer => ?_)
      split
      · rw [map_pure, fail_excusing]
      · exact succeed_excusing cb c key rfl answer _

/-- A field that may be left out ends as it would otherwise, after the same calls, but it is excused
from failing. -/
theorem evaluate_excusing (v : Value) :
    evaluate registry cb c.excusing key v =
      FieldOutcome.excused <$> evaluate registry cb c key v := by
  unfold evaluate
  rw [show matchType registry c.excusing v = matchType registry c v from rfl]
  cases matchType registry c v with
  | none => exact recover_excusing registry cb c key v none
  | some type =>
    dsimp only
    rw [map_bind, show accepts cb c.excusing v type = accepts cb c v type from rfl]
    refine congrArg _ (funext fun passes => ?_)
    cases passes with
    | true => exact succeed_excusing cb c key rfl v type
    | false => exact recover_excusing registry cb c key v (some type)

end Field

/-! ## Tables -/

/-- A rule, which may be left out if it is that of a path. -/
def Rule.excusedAt (path : List Segment) (r : Rule) : Rule :=
  if r.path = path then { r with toContract := r.excusing } else r

theorem Rule.path_excusedAt (path : List Segment) (r : Rule) : (r.excusedAt path).path = r.path := by
  unfold excusedAt
  split <;> rfl

namespace RuleTable

variable (t : RuleTable) (path : List Segment)

/-- A table in which the rule of a path may be left out. -/
def excusedAt : RuleTable := { t with rules := t.rules.map fun e => (e.1, e.2.excusedAt path) }

theorem ruleList_excusedAt : (t.excusedAt path).ruleList = t.ruleList.map (Rule.excusedAt path) := by
  rw [ruleList, ruleList, excusedAt, List.map_map, List.map_map]
  rfl

theorem byDepth_excusedAt : (t.excusedAt path).byDepth = t.byDepth.map (Rule.excusedAt path) := by
  rw [byDepth, byDepth, ruleList_excusedAt]
  refine (List.map_mergeSort fun a _ b _ => ?_).symm
  rw [Rule.depth, Rule.depth, Rule.depth, Rule.depth, Rule.path_excusedAt, Rule.path_excusedAt]

/-- An excuse leaves the paths as they are. -/
theorem excusedAt_laidOutAs : (t.excusedAt path).LaidOutAs t := by
  refine laidOutAs_of_paths ?_ ?_
  · rw [keys, excusedAt, List.map_map]
    rfl
  · rw [ruleList_excusedAt, List.map_map]
    exact List.map_congr_left fun r _ => Rule.path_excusedAt path r

theorem topLevelKeys_excusedAt : (t.excusedAt path).topLevelKeys = t.topLevelKeys :=
  (t.excusedAt_laidOutAs path).topLevelKeys

end RuleTable

/-! ## Two runs side by side -/

namespace Run

open Traced

variable {registry : Registry} {cb : Callbacks} {table : RuleTable} (path : List Segment)

/-- The outcome of a place, which is excused if the place is one of a path. -/
def excusedAt (e : Place × FieldOutcome) : Place × FieldOutcome :=
  if e.1.path = path then (e.1, e.2.excused) else e

/-- The errors of outcomes. -/
def failures (outcomes : List (Place × FieldOutcome)) : List FieldError :=
  outcomes.filterMap fun e => e.2.failure?

/-- Excused outcomes leave the errors of all others. -/
theorem failures_map_excusedAt (outcomes : List (Place × FieldOutcome)) :
    failures (outcomes.map (excusedAt path)) =
      failures (outcomes.filter fun e => e.1.path ≠ path) := by
  unfold failures
  rw [List.filterMap_map, List.filterMap_filter]
  refine List.filterMap_congr fun e _ => ?_
  by_cases hpath : e.1.path = path
  · simp [excusedAt, hpath, FieldOutcome.failure?_excused]
  · simp [excusedAt, hpath]

/-- The states of two runs over one input, where the second excuses the outcomes at the places of a
path: the tree is the same, and so are the fields that passed. -/
structure Excuses (s s' : RunState) : Prop where
  tree : s'.tree = s.tree
  passed : s'.passed = s.passed
  outcomes : s'.outcomes = s.outcomes.map (excusedAt path)
  errors : s.errors = failures s.outcomes
  errors' : s'.errors = failures s'.outcomes

/-- A task, with an excuse in its rule if it is that of the path. -/
def taskAt (t : Task) : Task := { t with rule := t.rule.excusedAt path }

variable {path}

/-- Filing an outcome that has not succeeded blocks and discards its place, and tells of its error. -/
theorem file_of_not_succeeded {s : RunState} {t : Task} {o : FieldOutcome}
    (h : o.state.succeeded = false) : ∃ failed, file s t o = .ok
      ⟨(s.tree.block t.place).discard t, s.outcomes ++ [(t.place, o)], s.passed, failed,
        s.errors ++ o.failure?.toList⟩ := by
  have hfailure : o.failure? = o.error := by rw [FieldOutcome.failure?, h, if_neg Bool.false_ne_true]
  unfold file
  dsimp only
  rw [h, if_neg Bool.false_ne_true, hfailure]
  cases o.error with
  | some e => exact ⟨_, rfl⟩
  | none => exact ⟨s.failed, by rw [Option.toList_none, List.append_nil]⟩

theorem failures_concat (outcomes : List (Place × FieldOutcome)) (e : Place × FieldOutcome) :
    failures (outcomes ++ [e]) = failures outcomes ++ e.2.failure?.toList := by
  unfold failures
  rw [List.filterMap_append]
  cases h : e.2.failure? <;> simp [h]

theorem file_beside {s s' : RunState} (h : Excuses path s s') {t : Task}
    (hplace : t.place.path = t.rule.path) {o o' : FieldOutcome}
    (ho : o' = if t.rule.path = path then o.excused else o) :
    LikeEnd (Excuses path) (file s t o) (file s' (taskAt path t) o') := by
  have hexcused : (t.place, o') = excusedAt path (t.place, o) := by
    rw [ho, excusedAt, ← hplace]
    split <;> rfl
  have houtcomes : s'.outcomes ++ [(t.place, o')] =
      (s.outcomes ++ [(t.place, o)]).map (excusedAt path) := by
    rw [List.map_append, h.outcomes, List.map_singleton, hexcused]
  cases hs : o.state.succeeded with
  | true =>
    -- a good outcome is the same in both runs
    obtain rfl : o' = o := by
      rw [ho, FieldOutcome.excused_of_succeeded hs, ite_self]
    have hfailure : o'.failure? = none := by rw [FieldOutcome.failure?, if_pos hs]
    unfold file
    dsimp only
    rw [hs, if_pos rfl, if_pos rfl, h.tree, h.passed]
    show LikeEnd _ (Except.map _ (s.tree.write t o'.value)) (Except.map _ (s.tree.write t o'.value))
    cases s.tree.write t o'.value with
    | error e => exact .error e
    | ok tree =>
      refine .ok ⟨rfl, rfl, houtcomes, ?_, ?_⟩
      · rw [failures_concat, hfailure, ← h.errors]
        exact (List.append_nil _).symm
      · rw [failures_concat, hfailure, ← h.errors']
        exact (List.append_nil _).symm
  | false =>
    have hs' : o'.state.succeeded = false := by
      rw [ho]
      split
      · rw [FieldOutcome.excused_of_not_succeeded hs]
        rfl
      · exact hs
    obtain ⟨failed, hfile⟩ := file_of_not_succeeded (s := s) (t := t) hs
    obtain ⟨failed', hfile'⟩ := file_of_not_succeeded (s := s') (t := taskAt path t) hs'
    rw [hfile, hfile']
    refine .ok ⟨?_, h.passed, houtcomes, ?_, ?_⟩
    · show (s'.tree.block t.place).discard _ = _
      rw [h.tree]
      rfl
    · rw [failures_concat, ← h.errors]
    · show _ = failures (s'.outcomes ++ [(t.place, o')])
      rw [failures_concat, ← h.errors']

theorem lift_beside {α β : Type} {R : α → β → Prop} {x : Except Raised α} {y : Except Raised β}
    (h : LikeEnd R x y) (calls : List Call) : Beside R (lift x calls) (lift y calls) := by
  cases h with
  | ok h => exact ⟨.ok h, rfl⟩
  | error e => exact ⟨.error e, rfl⟩

theorem task_beside {s s' : RunState} (h : Excuses path s s') {t : Task}
    (hplace : t.place.path = t.rule.path) (calls : List Call) :
    Beside (Excuses path) (task registry cb s t calls) (task registry cb s' (taskAt path t) calls) := by
  unfold task
  refine Beside.bind (R := fun o o' => o' = if t.rule.path = path then o.excused else o) ?_ ?_
  · show Beside _ (Field.evaluate registry cb t.rule.toContract t.dotted t.value calls)
      (Field.evaluate registry cb (t.rule.excusedAt path).toContract t.dotted t.value calls)
    by_cases hpath : t.rule.path = path
    · rw [Rule.excusedAt, if_pos hpath, Field.evaluate_excusing]
      simp only [if_pos hpath]
      exact beside_map _ _ calls
    · rw [Rule.excusedAt, if_neg hpath]
      simp only [if_neg hpath]
      exact beside_refl _ calls
  · exact fun o o' ho calls => lift_beside (file_beside h hplace ho) calls

/-- The places at which a rule applies have its path. -/
theorem resolve_place {tree : WorkingTree} {r : Rule} :
    ∀ t ∈ (tree.resolve table r).2, t.place.path = t.rule.path := by
  intro t ht
  unfold WorkingTree.resolve at ht
  split at ht
  · cases ht
  · next last hlast =>
    obtain ⟨x, hx, rfl⟩ := List.mem_map.mp ht
    obtain ⟨-, way, hplace, hpath⟩ := Walk.follow_targets _ _ _ _ _ _ x hx
    show x.place.path = r.path
    rw [hplace, List.nil_append, hpath, Walk.steps_eq, Walk.map_fst_stepsFrom]
    exact List.dropLast_append_getLast? last hlast

/-- The rule of the path finds the same places as before. -/
theorem resolve_excusedAt (tree : WorkingTree) (r : Rule) :
    tree.resolve (table.excusedAt path) (r.excusedAt path) =
      ((tree.resolve table r).1, (tree.resolve table r).2.map (taskAt path)) := by
  unfold WorkingTree.resolve
  rw [Rule.path_excusedAt, (table.excusedAt_laidOutAs path).hasPath]
  cases r.path.getLast? with
  | none => rfl
  | some last =>
    dsimp only
    rw [List.map_map]
    rfl

theorem rule_beside {s s' : RunState} (h : Excuses path s s') (r : Rule) (calls : List Call) :
    Beside (Excuses path) (rule registry cb table s r calls)
      (rule registry cb (table.excusedAt path) s' (r.excusedAt path) calls) := by
  unfold rule
  rw [h.tree, resolve_excusedAt]
  dsimp only
  refine foldlM_beside (S := fun t t' => t' = taskAt path t ∧ t.place.path = t.rule.path) ?_ ?_ _ _
    ⟨rfl, h.passed, h.outcomes, h.errors, h.errors'⟩ calls
  · rintro s₁ s₁' t _ hs ⟨rfl, hplace⟩ calls₁
    exact task_beside hs hplace calls₁
  · exact List.forall₂_map_right_iff.mpr (List.forall₂_same.mpr fun t ht => ⟨rfl, resolve_place t ht⟩)

/-- What two runs leave, where the second excuses the outcomes at the places of a path. -/
structure Finished.Excuses (path : List Segment) (f f' : Finished) : Prop where
  value : f'.report.value = f.report.value
  passed : f'.report.passed = f.report.passed
  outcomes : f'.outcomes = f.outcomes.map (excusedAt path)
  errors : f.report.errors = failures f.outcomes
  errors' : f'.report.errors = failures (f.outcomes.filter fun e => e.1.path ≠ path)

/-- Two runs side by side: the second excuses the places of a path from failing. -/
theorem execute_beside (es : Entries Value) (calls : List Call) :
    Beside (Finished.Excuses path) (execute registry cb table es calls)
      (execute registry cb (table.excusedAt path) es calls) := by
  unfold execute rules
  rw [RuleTable.byDepth_excusedAt]
  refine Beside.bind (R := Run.Excuses path) ?_ fun s s' h calls => lift_beside ?_ calls
  · refine foldlM_beside (S := fun r r' => r' = r.excusedAt path) ?_ ?_ _ _
      ⟨rfl, rfl, rfl, rfl, rfl⟩ calls
    · rintro s s' r _ hs rfl calls₁
      exact rule_beside hs r calls₁
    · exact List.forall₂_map_right_iff.mpr (List.forall₂_same.mpr fun _ _ => rfl)
  · unfold finish
    rw [(table.excusedAt_laidOutAs path).roots, h.tree]
    split
    · exact .ok ⟨rfl, h.passed, h.outcomes, h.errors, by
        rw [← failures_map_excusedAt, ← h.outcomes]
        exact h.errors'⟩
    · exact .error _

end Run

/-! ## Schemas -/

namespace Pattern

variable {registry : Registry}

/-- A pattern in longhand whose field may be left out. -/
def optionally : Value → Value
  | .dict ordered es => .dict ordered (Entries.insert (.str "optional") (.bool true) es)
  | spec => .dict false [(.str "type", spec), (.str "optional", .bool true)]

theorem unknownKeys_optional (v : Value) (es : Entries Value) :
    unknownKeys (Entries.insert (.str "optional") v es) = unknownKeys es := by
  have hknown : isLonghandKey (.str "optional") = true := by decide
  have hfilter : (Entries.insert (.str "optional") v es).filter (fun e => !isLonghandKey e.1) =
      es.filter fun e => !isLonghandKey e.1 := by
    induction es with
    | nil => simp [Entries.insert, hknown]
    | cons e es ih =>
      obtain ⟨k, w⟩ := e
      by_cases hk : k = .str "optional"
      · subst hk
        rw [Entries.insert_cons_self, List.filter_cons, List.filter_cons, hknown]
        rfl
      · rw [Entries.insert_cons_ne hk, List.filter_cons, List.filter_cons, ih]
  rw [unknownKeys, unknownKeys, hfilter]

theorem field?_optional {name : String} (h : "optional" ≠ name) (v : Value) (es : Entries Value) :
    Value.field? name (Entries.insert (.str "optional") v es) = Value.field? name es :=
  Entries.find?_insert_ne h v es

/-- The option of the longhand that a field may be left out takes the place of what was said about
this before, and no other option is read differently. -/
theorem longhand_optional (es : Entries Value) :
    longhand registry (Entries.insert (.str "optional") (.bool true) es) =
      (longhand registry es).map Contract.excusing := by
  have hfield := fun {name} (h : "optional" ≠ name) => field?_optional h (.bool true) es
  have hbase : longhandBase registry (Entries.insert (.str "optional") (.bool true) es) =
      longhandBase registry es := by
    rw [longhandBase, hfield (by decide), longhandBase]
  have hcheck : check? (Entries.insert (.str "optional") (.bool true) es) = check? es := by
    rw [check?, hfield (by decide), check?]
  have hcallable : ∀ {name : String}, "optional" ≠ name →
      callable? (Entries.insert (.str "optional") (.bool true) es) name = callable? es name := by
    intro name h
    rw [callable?, hfield h, callable?]
  have hoptional : Value.field? "optional" (Entries.insert (.str "optional") (.bool true) es) =
      some (.bool true) := Entries.find?_insert_self ..
  unfold longhand
  rw [unknownKeys_optional, hbase, hcheck, hcallable (by decide), hcallable (by decide),
    hfield (by decide), hoptional]
  dsimp only
  cases (unknownKeys es).isEmpty with
  | false => rfl
  | true =>
    cases longhandBase registry es with
    | error e => rfl
    | ok base =>
      cases check? es with
      | error e => rfl
      | ok validate =>
        cases callable? es "catch" with
        | error e => rfl
        | ok recovery =>
          cases callable? es "transform" with
          | error e => rfl
          | ok transform => rfl

/-- Only a pattern in longhand asks for a recovery or a transformation. -/
theorem simple_plain {spec : Value} {c : Contract} (h : simple registry spec = .ok c) :
    c.catch? = none ∧ c.transform = none := by
  unfold simple at h
  split at h
  · cases h
    exact ⟨rfl, rfl⟩
  · have hsilent := Shorthand.read_silent h
    exact ⟨hsilent.catch?, hsilent.transform⟩
  · cases h
    exact ⟨rfl, rfl⟩
  · cases h
    exact ⟨rfl, rfl⟩
  · split at h
    · cases h
      exact ⟨rfl, rfl⟩
    · cases h
  · split at h
    · cases h
      exact ⟨rfl, rfl⟩
    · cases h
  · cases h

/-- A pattern that is the type of a longhand without other options is read as it is. -/
theorem longhand_type {spec : Value} {c : Contract} (hspec : spec.entries? = none)
    (h : simple registry spec = .ok c) : longhand registry [(.str "type", spec)] = .ok c := by
  have hbase : longhandBase registry [(.str "type", spec)] = .ok c := by
    rw [longhandBase, Value.field?, Entries.find?_cons_self]
    cases spec <;> first | exact h | cases hspec
  obtain ⟨hcatch, htransform⟩ := simple_plain h
  have hunknown : unknownKeys [(.str "type", spec)] = [] := by
    simp [unknownKeys, show isLonghandKey (.str "type") = true by decide]
  have hfield : ∀ {name : String}, "type" ≠ name →
      Value.field? name [(.str "type", spec)] = none := by
    intro name hname
    rw [Value.field?, Entries.find?_cons_ne (by simpa using hname), Entries.find?]
  have hcheck : check? [(.str "type", spec)] = .ok none := by rw [check?, hfield (by decide)]
  have hcallable : ∀ {name : String}, "type" ≠ name →
      callable? [(.str "type", spec)] name = .ok none := fun h => by rw [callable?, hfield h]
  obtain ⟨types, validate, default, optional, recovery, transform⟩ := c
  obtain rfl : recovery = none := hcatch
  obtain rfl : transform = none := htransform
  rw [longhand_eq_ok (by rw [hunknown]; rfl) hbase hcheck (hcallable (by decide))
    (hcallable (by decide)), hfield (by decide), hfield (by decide)]
  rfl

/-- A pattern whose field may be left out asks for the same as before. -/
theorem read_optionally {spec : Value} {c : Contract} (h : read registry spec = .ok c) :
    read registry (optionally spec) = .ok c.excusing := by
  have hsimple : spec.entries? = none → simple registry spec = .ok c →
      longhand registry [(.str "type", spec), (.str "optional", .bool true)] = .ok c.excusing := by
    intro hspec h
    have hinsert : Entries.insert (.str "optional") (.bool true) [(.str "type", spec)] =
        [(.str "type", spec), (.str "optional", .bool true)] :=
      Entries.insert_cons_ne (by simp) _ _ _
    rw [← hinsert, longhand_optional, longhand_type hspec h]
    rfl
  cases spec with
  | dict ordered es =>
    show longhand registry _ = _
    rw [longhand_optional, show longhand registry es = .ok c from h]
    rfl
  | _ => exact hsimple rfl h

end Pattern

namespace RuleTable

variable {registry : Registry} {o : PathOptions}

/-- A schema in which the fields of one written path may be left out. -/
def schemaOptional (key : String) (schema : Value) : Value :=
  onFragments (fun es => es.map fun e =>
    if (Value.str key).sameKey e.1 then (e.1, Pattern.optionally e.2) else e) schema

/-- A schema with an optional entry compiles to the table with an optional rule. -/
theorem compile_optional {schema : Value} {t : RuleTable}
    (h : compile registry o schema = .ok t) {key : String} {path : List Segment}
    (hkey : Path.split? o key = .ok path) :
    compile registry o (schemaOptional key schema) = .ok (t.excusedAt path) := by
  obtain ⟨fs, read, hfs, hread, rfl⟩ := compile_eq_ok_iff.mp h
  refine compile_eq_ok_iff.mpr
    ⟨_, read.map fun e => (e.1, e.2.excusedAt path), fragments_onFragments _ hfs, ?_, ?_⟩
  · rw [← List.map_flatten, List.forall₂_map_left_iff, List.forall₂_map_right_iff]
    refine hread.imp fun e read hreads => ?_
    by_cases hsame : e.1 = .str key
    · obtain rfl : read.1 = key := Value.str.inj (hreads.key.symm.trans hsame)
      obtain rfl : read.2.path = path := Except.ok.inj (hreads.path.symm.trans hkey)
      rw [if_pos ((Value.sameKey_str _ _).mpr hsame)]
      exact ⟨hreads.key, by rw [Rule.path_excusedAt]; exact hreads.path, by
        rw [Rule.excusedAt, if_pos rfl]
        exact Pattern.read_optionally hreads.contract⟩
    · have hpath : read.2.path ≠ path := by
        -- a path is written in one way
        rintro rfl
        refine hsame (hreads.key.trans (congrArg Value.str ?_))
        rw [← Path.write_of_split? hreads.path, Path.write_of_split? hkey]
      rw [if_neg fun hk => hsame ((Value.sameKey_str _ _).mp hk), Rule.excusedAt, if_neg hpath]
      exact hreads
  · rw [gathered_map]
    rfl

end RuleTable

namespace Validator

/-- Making a rule optional only silences its own errors: on every input, a run under the changed
schema makes the same calls and leaves the same value and the same fields that passed, with the
errors of all outcomes but those at the places of the rule, in the same order; and what ends one of
the runs before its time ends the other. -/
theorem run_optional {registry : Registry} {o : PathOptions} {schema : Value} {v : Validator}
    (hv : compile registry o schema = .ok v) {key : String} {r : Rule}
    (hr : (key, r) ∈ v.table.rules) :
    let v' : Validator := ⟨v.table.excusedAt r.path, v.registry⟩
    compile registry o (RuleTable.schemaOptional key schema) = .ok v' ∧
      ∀ cb data keywords calls,
        (∀ finished after, v.run cb data keywords calls = (.ok finished, after) →
          ∃ finished', v'.run cb data keywords calls = (.ok finished', after) ∧
            finished'.report.value = finished.report.value ∧
            finished'.report.passed = finished.report.passed ∧
            finished.report.errors = finished.outcomes.filterMap (fun e => e.2.failure?) ∧
            finished'.report.errors = (finished.outcomes.filter fun e => e.1.path ≠ r.path).filterMap
              fun e => e.2.failure?) ∧
        ∀ failure after, v.run cb data keywords calls = (.error failure, after) →
          v'.run cb data keywords calls = (.error failure, after) := by
  intro v'
  obtain ⟨-, hregistry⟩ := compile_compiled hv
  obtain ⟨-, hsplit⟩ := RuleTable.forall_of_compile (compile_table hv)
    (p := fun e => Path.split? o e.1 = .ok e.2.path)
    fun raw spec e hread => (RuleTable.readEntry_eq_ok_iff.mp hread).path
  refine ⟨?_, fun cb data keywords calls => ?_⟩
  · have hcompile := compile_of_table (RuleTable.compile_optional (compile_table hv) (hsplit _ hr))
    rw [hcompile]
    exact congrArg Except.ok (congrArg (Validator.mk _) hregistry.symm)
  · have hkeys : v'.table.topLevelKeys = v.table.topLevelKeys :=
      v.table.topLevelKeys_excusedAt r.path
    unfold run
    rw [hkeys]
    cases Input.entries v.table.topLevelKeys data keywords with
    | error e =>
      refine ⟨fun finished after h => ?_, fun failure after h => h⟩
      cases h
    | ok es =>
      obtain ⟨hok, herror⟩ := Traced.outcome_beside
        (@Run.execute_beside v.registry cb v.table r.path es calls)
      refine ⟨fun finished after h => ?_, herror⟩
      obtain ⟨finished', h', hexcuses⟩ := hok finished after h
      exact ⟨finished', h', hexcuses.value, hexcuses.passed, hexcuses.errors, hexcuses.errors'⟩

/-- A list of which an element fails, beside another field that fails. -/
theorem run_optional_element :
    let schema : Value := .dict false [(.str "a.$", .str "number"), (.str "b", .str "string")]
    let data : Value := .dict false [(.str "a", .list [.int 1, .str "x"]), (.str "b", .int 5)]
    let r : Rule := ⟨.ofTypes ["number"], [.name "a", .wildcard]⟩
    let cb : Callbacks := fun _ => .error (.ofText .runtimeError "called")
    ∃ v v' finished finished', compile Registry.default .default schema = .ok v ∧
      ("a.$", r) ∈ v.table.rules ∧
      compile Registry.default .default (.dict false [
        (.str "a.$", .dict false [(.str "type", .str "number"), (.str "optional", .bool true)]),
        (.str "b", .str "string")]) = .ok v' ∧
      v.run cb data [] [] = (.ok finished, []) ∧
      finished.report.errors.map (·.key) = ["b", "a.1"] ∧
      v'.run cb data [] [] = (.ok finished', []) ∧
      finished'.report.value = finished.report.value ∧
      finished'.report.errors.map (·.key) = ["b"] := by
  intro schema data r cb
  let r' : Rule := ⟨.ofTypes ["string"], [.name "b"]⟩
  let v : Validator := ⟨⟨.default, [("a.$", r), ("b", r')]⟩, Registry.default⟩
  let e : FieldError := ⟨"b", .int 5, "number", ["string"]⟩
  let e' : FieldError := ⟨"a.1", .str "x", "string", ["number"]⟩
  let finished : Run.Finished :=
    ⟨⟨.dict false [(.str "a", .list [.int 1])], [("a.0", .int 1)],
      [("b", .int 5), ("a.1", .str "x")], [e, e']⟩,
    [([.key "b"], ⟨"b", .failed, .int 5, none, some e⟩),
      ([.key "a", .index 0], ⟨"a.0", .matched, .int 1, some "number", none⟩),
      ([.key "a", .index 1], ⟨"a.1", .failed, .str "x", none, some e'⟩)]⟩
  have hv : compile Registry.default .default schema = .ok v := by cbv
  have hr : ("a.$", r) ∈ v.table.rules := List.mem_cons_self ..
  have hrun : v.run cb data [] [] = (.ok finished, []) := by cbv
  have hschema : RuleTable.schemaOptional "a.$" schema = .dict false [
      (.str "a.$", .dict false [(.str "type", .str "number"), (.str "optional", .bool true)]),
      (.str "b", .str "string")] := by cbv
  obtain ⟨hv', hboth⟩ := run_optional hv hr
  rw [hschema] at hv'
  obtain ⟨finished', hrun', hvalue, -, -, herrors⟩ := (hboth cb data [] []).1 _ _ hrun
  have hleft : (finished.outcomes.filter fun e => e.1.path ≠ r.path).filterMap
      (fun e => e.2.failure?) = [e] := by cbv
  refine ⟨v, _, finished, finished', hv, hr, hv', hrun, rfl, hrun', hvalue, ?_⟩
  rw [herrors, hleft]
  rfl

end Validator

end ArgumentSchema
