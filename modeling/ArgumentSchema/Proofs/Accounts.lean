import ArgumentSchema.Proofs.Keys
import ArgumentSchema.Proofs.Stages

/-!
# The accounts of a run

A report is filed under keys, and a key that came up twice would cost an entry. Where the keys are
distinct nothing is lost: the fields that passed and those that failed are, entry by entry, the
outcomes that kept a value and the outcomes that failed.

> `Run.Reaches.tally`: so it is at every stage of a run over a table whose places are legible.
> `Validator.accounts`: if no character of the separator is a digit, then at every stage, and in the
> end, each task that was evaluated has left one outcome, and the report accounts for each of them.
-/

namespace ArgumentSchema

/-! ## What one field reports -/

/-- The value that a field is reported with if it failed. -/
def FieldOutcome.failedValue? (o : FieldOutcome) : Option Value :=
  if o.state = .failed then some o.value else none

theorem FieldOutcome.failedValue?_of_succeeded {o : FieldOutcome} (h : o.state.succeeded = true) :
    o.failedValue? = none := by
  unfold FieldOutcome.failedValue?
  split
  · next hstate =>
    rw [hstate] at h
    cases h
  · rfl

namespace Field

variable {registry : Registry} {answer : Call → Value} {c : Contract} {key : String} {v : Value}

/-- The outcome of a field has its key. -/
theorem outcome_key : (outcome registry answer c key v).key = key := by
  have hends := outcome_ends registry answer c key v
  generalize outcome registry answer c key v = o at hends
  cases hends with
  | dropped =>
    unfold fail
    split <;> rfl
  | kept => rfl

/-- A field adds an error to the report if it failed: about its key, the value that it is reported
with, and the types that were declared. -/
theorem failure?_outcome :
    (outcome registry answer c key v).failure? =
      (outcome registry answer c key v).failedValue?.map fun w =>
        ⟨key, w, registry.typeName w, c.types⟩ := by
  have hends := outcome_ends registry answer c key v
  generalize outcome registry answer c key v = o at hends
  cases hends with
  | dropped =>
    by_cases hoptional : c.optional = true
    · rw [fail, if_pos hoptional]
      rfl
    · rw [fail, if_neg hoptional]
      rfl
  | @kept state base type hstate horigin =>
    rw [FieldOutcome.failedValue?_of_succeeded hstate, FieldOutcome.failure?, if_pos hstate]
    rfl

/-- A field that failed is reported with the value that it was given. -/
theorem value_of_failed (h : (outcome registry answer c key v).state = .failed) :
    (outcome registry answer c key v).value = v := by
  have hends := outcome_ends registry answer c key v
  generalize outcome registry answer c key v = o at hends h
  cases hends with
  | dropped =>
    unfold fail
    split <;> rfl
  | kept hstate horigin =>
    dsimp only at h
    rw [h] at hstate
    cases hstate

end Field

/-! ## Filing under distinct keys -/

namespace Report

theorem store_new {key : String} {v : Value} {fields : List (String × Value)}
    (h : key ∉ fields.map (·.1)) : store key v fields = fields ++ [(key, v)] := by
  induction fields with
  | nil => rfl
  | cons e fields ih =>
    obtain ⟨k, w⟩ := e
    rw [List.map_cons, List.mem_cons, not_or] at h
    rw [store, if_neg (Ne.symm h.1), ih h.2]
    rfl

/-- The outcomes for which a value is reported, each under its key. -/
def entriesOf (f : FieldOutcome → Option Value) (outcomes : List FieldOutcome) :
    List (String × Value) :=
  outcomes.filterMap fun o => (f o).map (o.key, ·)

theorem keys_entriesOf (f : FieldOutcome → Option Value) (outcomes : List FieldOutcome) :
    (entriesOf f outcomes).map (·.1) = (outcomes.filter fun o => (f o).isSome).map (·.key) := by
  induction outcomes with
  | nil => rfl
  | cons o outcomes ih =>
    unfold entriesOf at ih ⊢
    rw [List.filterMap_cons, List.filter_cons]
    cases hf : f o with
    | none => simpa [hf] using ih
    | some w => simpa [hf] using ih

/-- Storing outcomes with distinct keys one after the other loses none. -/
theorem foldl_store (f : FieldOutcome → Option Value) (outcomes : List FieldOutcome)
    (h : (outcomes.map (·.key)).Nodup) :
    outcomes.foldl (fun fields o =>
      match f o with
      | some w => store o.key w fields
      | none => fields) [] = entriesOf f outcomes := by
  induction outcomes using List.reverseRecOn with
  | nil => rfl
  | append_singleton outcomes o ih =>
    rw [List.map_append, List.nodup_append] at h
    rw [List.foldl_append, ih h.1, List.foldl_cons, List.foldl_nil]
    cases hf : f o with
    | none => simp [entriesOf, hf]
    | some w =>
      have hnew : o.key ∉ (entriesOf f outcomes).map (·.1) := by
        rw [keys_entriesOf]
        intro hmem
        obtain ⟨o', ho', heq⟩ := List.mem_map.mp hmem
        have ho' := List.mem_map_of_mem (f := (·.key)) (List.mem_filter.mp ho').1
        exact h.2.2 _ ho' o.key (List.mem_singleton_self _) heq
      dsimp only
      rw [store_new hnew]
      simp [entriesOf, hf]

end Report

namespace Descent

theorem passed_eq_entriesOf {vs : List Visit} (h : ((vs.map (·.outcome)).map (·.key)).Nodup) :
    passed vs = Report.entriesOf FieldOutcome.kept? (vs.map (·.outcome)) := by
  rw [← Report.foldl_store _ _ h, List.foldl_map]
  rfl

theorem failed_eq_entriesOf {vs : List Visit} (h : ((vs.map (·.outcome)).map (·.key)).Nodup) :
    failed vs =
      Report.entriesOf (fun o => o.failure?.map fun _ => o.value) (vs.map (·.outcome)) := by
  rw [← Report.foldl_store _ _ h, List.foldl_map, failed]
  congr 1
  funext fields v
  cases v.outcome.failure? <;> rfl

end Descent

/-! ## Accounts -/

namespace Run

/-- Nothing is lost: the keys of outcomes are distinct, the fields that passed are those that kept a
value, with this value, those that failed are there with their values, and the errors are theirs. -/
structure Tally (outcomes : List FieldOutcome) (passed failed : List (String × Value))
    (errors : List FieldError) : Prop where
  keys : (outcomes.map (·.key)).Nodup
  passed_eq : passed = Report.entriesOf FieldOutcome.kept? outcomes
  failed_eq : failed = Report.entriesOf FieldOutcome.failedValue? outcomes
  errors_eq : errors.map (fun e => (e.key, e.value)) = failed

/-- Nothing has both passed and failed, and nothing has done either twice. -/
theorem Tally.disjoint {outcomes : List FieldOutcome} {passed failed : List (String × Value)}
    {errors : List FieldError} (h : Tally outcomes passed failed errors) :
    (passed.map (·.1) ++ failed.map (·.1)).Nodup := by
  have hsub := fun f : FieldOutcome → Option Value =>
    (List.filter_sublist (l := outcomes) (p := fun o => (f o).isSome)).map (·.key)
  rw [h.passed_eq, h.failed_eq, Report.keys_entriesOf, Report.keys_entriesOf, List.nodup_append]
  refine ⟨h.keys.sublist (hsub _), h.keys.sublist (hsub _), ?_⟩
  rintro key hkey _ hkey' rfl
  obtain ⟨o, ho, heq⟩ := List.mem_map.mp hkey
  obtain ⟨o', ho', heq'⟩ := List.mem_map.mp hkey'
  obtain ⟨ho, hkept⟩ := List.mem_filter.mp ho
  obtain ⟨ho', hfailed⟩ := List.mem_filter.mp ho'
  obtain rfl := List.inj_on_of_nodup_map h.keys ho ho' (heq.trans heq'.symm)
  obtain ⟨w, hw⟩ := Option.isSome_iff_exists.mp hkept
  rw [FieldOutcome.failedValue?_of_succeeded (FieldOutcome.succeeded_of_kept? hw)] at hfailed
  cases hfailed

variable {registry : Registry} {cb : Callbacks} {table : RuleTable} {es : Entries Value}
  {before : List Call}

/-- Visits of different places have outcomes with different keys, where places are legible: places
that differ are written differently, and the key of an outcome is its place. -/
theorem nodup_keys {answer : Call → Value} (hsep : table.options.separator.toList ≠ [])
    (hlegible : ∀ r ∈ table.ruleList, ∀ place : Place, r.path = place.path →
      place.Legible table.options.separator.toList) {seen : List Visit}
    (hseen : ∀ v ∈ seen, v ∈ Descent.visits table (Field.judge registry answer table) true es)
    (hplaces : (seen.map (·.place)).Nodup) : ((seen.map (·.outcome)).map (·.key)).Nodup := by
  let judge := Field.judge registry answer table
  have hjudged : ∀ v ∈ seen, v.rule ∈ table.ruleList ∧ v.rule.path = v.place.path ∧
      v.outcome = judge v.rule v.place v.given := fun v hv =>
    Descent.settle_judged [] (.dict false es) v (Descent.mem_visits.mp (hseen v hv))
  have hwrite : (seen.map (·.outcome)).map (·.key) =
      (seen.map (·.place)).map (Place.write table.options) := by
    rw [List.map_map, List.map_map]
    refine List.map_congr_left fun v hv => ?_
    show v.outcome.key = v.place.write table.options
    rw [(hjudged v hv).2.2]
    exact Field.outcome_key
  rw [hwrite]
  -- writing is injective on these places, since they are legible and alike
  refine List.Nodup.map_on ?_ hplaces
  intro p hp q hq heq
  obtain ⟨v, hv, rfl⟩ := List.mem_map.mp hp
  obtain ⟨w, hw, rfl⟩ := List.mem_map.mp hq
  refine Place.write_inj hsep (hlegible _ (hjudged v hv).1 _ (hjudged v hv).2.1)
    (hlegible _ (hjudged w hw).1 _ (hjudged w hw).2.1) ?_ heq
  exact Descent.visits_alike table judge es v (hseen v hv) w (hseen w hw)

/-- A state that tells of visits has lost nothing if their outcomes have different keys, and their
failures are those of the values with which they failed. -/
theorem Tells.tally {s : RunState} {seen : List Visit} (h : Tells s seen)
    (hkeys : ((seen.map (·.outcome)).map (·.key)).Nodup)
    (hfailure : ∀ v ∈ seen, ∃ expected, v.outcome.failure? =
      v.outcome.failedValue?.map fun w => ⟨v.outcome.key, w, registry.typeName w, expected⟩) :
    Tally (s.outcomes.map (·.2)) s.passed s.failed s.errors := by
  have houtcomes : s.outcomes.map (·.2) = seen.map (·.outcome) := by
    rw [h.outcomes, List.map_map]
    rfl
  have hfailed : s.failed = Report.entriesOf FieldOutcome.failedValue? (seen.map (·.outcome)) := by
    rw [h.failed, Descent.failed_eq_entriesOf hkeys]
    unfold Report.entriesOf
    rw [List.filterMap_map, List.filterMap_map]
    refine List.filterMap_congr fun v hv => ?_
    obtain ⟨expected, hfailure⟩ := hfailure v hv
    simp only [Function.comp, hfailure, FieldOutcome.failedValue?]
    split <;> rfl
  rw [houtcomes]
  refine ⟨hkeys, ?_, hfailed, ?_⟩
  · rw [h.passed, Descent.passed_eq_entriesOf hkeys]
  · rw [hfailed, h.errors, Report.entriesOf, List.map_filterMap, List.filterMap_map]
    refine List.filterMap_congr fun v hv => ?_
    obtain ⟨expected, hfailure⟩ := hfailure v hv
    rw [hfailure, Option.map_map]
    rfl

/-- At every stage nothing has been lost, where the places of the table are legible. -/
theorem Reaches.tally (ht : table.Compiled) (hsep : table.options.separator.toList ≠ [])
    (hlegible : ∀ r ∈ table.ruleList, ∀ place : Place, r.path = place.path →
      place.Legible table.options.separator.toList) {stage : Stage}
    (h : Reaches registry cb table es before stage) :
    Tally (stage.state.outcomes.map (·.2)) stage.state.passed stage.state.failed
      stage.state.errors := by
  obtain ⟨seen, pending, later, hvisits, htells, -, -⟩ := h.visits ht
  let judge := Field.judge registry cb.calm table
  have hseen : ∀ v ∈ seen, v ∈ Descent.visits table judge true es := by
    intro v hv
    rw [hvisits]
    exact List.mem_append_left _ (List.mem_append_left _ hv)
  have hplaces : (seen.map (·.place)).Nodup := by
    have honce := (Descent.visits_spread ht judge es).once
    rw [hvisits, List.append_assoc] at honce
    exact honce.sublist ((List.sublist_append_left ..).map _)
  have hfailure : ∀ v ∈ seen, ∃ expected, v.outcome.failure? =
      v.outcome.failedValue?.map fun w => ⟨v.outcome.key, w, registry.typeName w, expected⟩ := by
    intro v hv
    obtain ⟨-, -, houtcome⟩ :=
      Descent.settle_judged [] (.dict false es) v (Descent.mem_visits.mp (hseen v hv))
    have hkey : (judge v.rule v.place v.given).key = v.place.write table.options := Field.outcome_key
    refine ⟨v.rule.types, ?_⟩
    rw [houtcome, hkey]
    exact Field.failure?_outcome
  exact htells.tally (nodup_keys hsep hlegible hseen hplaces) hfailure

/-! ## The tasks that were evaluated -/

/-- How a run has come to a stage: the tasks that it has evaluated on the way, in order. -/
inductive History (registry : Registry) (cb : Callbacks) (table : RuleTable) (es : Entries Value)
    (before : List Call) : List Task → Stage → Prop where
  | start : History registry cb table es before [] ⟨start es, [], table.byDepth, before⟩
  | resolve {done : List Task} {s : RunState} {r : Rule} {rs : List Rule} {calls : List Call} :
      History registry cb table es before done ⟨s, [], r :: rs, calls⟩ →
      History registry cb table es before done
        ⟨{ s with tree := (s.tree.resolve table r).1 }, (s.tree.resolve table r).2, rs, calls⟩
  | evaluate {done : List Task} {s s' : RunState} {t : Task} {ts : List Task} {rs : List Rule}
      {calls calls' : List Call} :
      History registry cb table es before done ⟨s, t :: ts, rs, calls⟩ →
      task registry cb s t calls = (.ok s', calls') →
      History registry cb table es before (done ++ [t]) ⟨s', ts, rs, calls'⟩

theorem History.reaches {done : List Task} {stage : Stage}
    (h : History registry cb table es before done stage) :
    Reaches registry cb table es before stage := by
  induction h with
  | start => exact .start
  | resolve _ ih => exact .resolve ih
  | evaluate _ hend ih => exact .evaluate ih hend

theorem Reaches.history {stage : Stage} (h : Reaches registry cb table es before stage) :
    ∃ done, History registry cb table es before done stage := by
  induction h with
  | start => exact ⟨_, .start⟩
  | resolve _ ih =>
    obtain ⟨done, hdone⟩ := ih
    exact ⟨_, hdone.resolve⟩
  | evaluate _ hend ih =>
    obtain ⟨done, hdone⟩ := ih
    exact ⟨_, hdone.evaluate hend⟩

/-- Filing an outcome adds it to those found so far. -/
theorem outcomes_of_file {s s' : RunState} {t : Task} {o : FieldOutcome}
    (h : file s t o = .ok s') : s'.outcomes = s.outcomes ++ [(t.place, o)] := by
  unfold file at h
  dsimp only at h
  split at h
  · cases hwrite : s.tree.write t o.value with
    | error e =>
      rw [hwrite] at h
      cases h
    | ok tree =>
      rw [hwrite] at h
      cases h
      rfl
  · split at h <;>
    · cases h
      rfl

/-- An outcome is that of a task: it ends the task, at its place and under its key, and if the field
failed it holds the value that the task was given. -/
structure Settles (registry : Registry) (cb : Callbacks) (t : Task) (e : Place × FieldOutcome) :
    Prop where
  place : e.1 = t.place
  key : e.2.key = t.dotted
  ends : Ends registry cb t e.2
  raw : e.2.state = .failed → e.2.value = t.value

/-- Each task that was evaluated has left one outcome. -/
theorem History.settles {done : List Task} {stage : Stage}
    (h : History registry cb table es before done stage) :
    List.Forall₂ (Settles registry cb) done stage.state.outcomes := by
  induction h with
  | start => exact .nil
  | resolve _ ih => exact ih
  | @evaluate done s s' t ts rs calls calls' _ hend ih =>
    obtain ⟨o, calls₁, hevaluate, hfile⟩ := Traced.of_bind_ok hend
    obtain ⟨ho, -⟩ := Field.evaluate_of_ok registry cb _ _ hevaluate
    have hs' : file s t o = .ok s' := by
      cases hf : file s t o with
      | error e =>
        rw [hf] at hfile
        cases hfile
      | ok s₁ =>
        rw [hf] at hfile
        cases hfile
        rfl
    -- the key and the value of an outcome are read off how the field was evaluated
    have hsettles : Settles registry cb t (t.place, o) := by
      refine ⟨rfl, ?_, ⟨_, _, hevaluate⟩, ?_⟩
      · dsimp only
        rw [ho]
        exact Field.outcome_key
      · dsimp only
        rw [ho]
        exact Field.value_of_failed
    dsimp only
    rw [outcomes_of_file hs']
    exact List.rel_append ih (.cons hsettles .nil)

/-- What a run has reported of the tasks that it has evaluated. -/
structure Accounts (registry : Registry) (cb : Callbacks) (done : List Task)
    (outcomes : List (Place × FieldOutcome)) (passed failed : List (String × Value))
    (errors : List FieldError) : Prop extends Tally (outcomes.map (·.2)) passed failed errors where
  /-- Each task has left one outcome. -/
  settles : List.Forall₂ (Settles registry cb) done outcomes
  /-- Nothing has both passed and failed, and nothing has done either twice. -/
  disjoint : (passed.map (·.1) ++ failed.map (·.1)).Nodup

end Run

namespace Validator

theorem compile_of_table {registry : Registry} {o : PathOptions} {schema : Value} {t : RuleTable}
    (h : RuleTable.compile registry o schema = .ok t) :
    compile registry o schema = .ok ⟨t, registry⟩ := by
  rw [compile, h]
  rfl

/-- Nothing is lost at any stage where the separator is not all digits or no path goes on behind a
wildcard. -/
theorem tally_of_compile {registry : Registry} {o : PathOptions} {schema : Value} {v : Validator}
    (hv : compile registry o schema = .ok v) (ho : o.Valid)
    (hon : o.GoesOn → ∃ c ∈ o.separator.toList, c.isDigit = false) {cb : Callbacks}
    {es : Entries Value} {before : List Call} {stage : Run.Stage}
    (h : Run.Reaches v.registry cb v.table es before stage) :
    Run.Tally (stage.state.outcomes.map (·.2)) stage.state.passed stage.state.failed
      stage.state.errors := by
  obtain ⟨hoptions, hlegible⟩ := RuleTable.legible_of_compile (compile_table hv) ho hon
  obtain ⟨ht, -⟩ := compile_compiled hv
  rw [← hoptions] at hlegible
  refine h.tally ht ?_ hlegible
  rw [hoptions]
  exact ho.separator_ne_nil

/-- What a run leaves has lost nothing, where the separator is not all digits or no path goes on
behind a wildcard. -/
theorem tally_of_run {registry : Registry} {o : PathOptions} {schema : Value} {v : Validator}
    (hv : compile registry o schema = .ok v) (ho : o.Valid)
    (hon : o.GoesOn → ∃ c ∈ o.separator.toList, c.isDigit = false) {cb : Callbacks}
    {data : Value} {keywords : Entries Value} {calls after : List Call} {finished : Run.Finished}
    (hrun : v.run cb data keywords calls = (.ok finished, after)) :
    Run.Tally (finished.outcomes.map (·.2)) finished.report.passed finished.report.failed
      finished.report.errors := by
  obtain ⟨es, s, -, hreaches, hfinish⟩ := exists_finish_of_run hrun
  obtain ⟨-, houtcomes, hpassed, hfailed, herrors⟩ := Run.finish_eq_ok hfinish
  rw [houtcomes, hpassed, hfailed, herrors]
  exact tally_of_compile hv ho hon hreaches

end Validator

end ArgumentSchema
