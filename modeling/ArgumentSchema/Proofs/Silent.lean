import ArgumentSchema.Proofs.Places
import ArgumentSchema.Proofs.Refinement

/-!
# Rules that ask nobody

A rule without a check, a recovery and a transformation asks no callback. How its fields end is a
function of the rule and the value alone, and a run of such rules calls nothing and always comes to an
end:

> `Field.evaluate_silent`: without callbacks, an evaluation is its end.
> `Run.execute_congr`: a run does not depend on callbacks on which no evaluation depends.
> `Validator.check_silent`: checking an input against silent rules is the plain descent, calls nothing
> and does not fail.
-/

namespace ArgumentSchema

/-- A contract without callbacks. -/
structure Contract.Silent (c : Contract) : Prop where
  validate : c.validate = none
  catch? : c.catch? = none
  transform : c.transform = none

/-- A pattern in shorthand asks no callback. -/
theorem Shorthand.read_silent {text : String} {c : Contract} (h : Shorthand.read text = .ok c) :
    c.Silent := by
  obtain ⟨types, default, optional, rfl, -, -⟩ := exists_of_read h
  exact ⟨rfl, rfl, rfl⟩

/-! ## Silent fields -/

namespace Field

/-- How a field ends under a contract without callbacks. -/
def ended (registry : Registry) (c : Contract) (key : String) (v : Value) : FieldOutcome :=
  match matchType registry c v with
  | some type => ⟨key, .matched, v, some type, none⟩
  | none =>
    match c.default with
    | some d => ⟨key, .defaulted, d, some (registry.typeName d), none⟩
    | none => fail registry c key v

section Ended

variable {registry : Registry} {c : Contract} {key : String} {v : Value}

/-- Without callbacks, an evaluation is its end. -/
theorem evaluate_silent (hc : c.Silent) (cb : Callbacks) :
    evaluate registry cb c key v = pure (ended registry c key v) := by
  have hsucceed : ∀ state v type,
      succeed cb c key state v type = pure ⟨key, state, v, some type, none⟩ := by
    intro state v type
    rw [succeed, hc.transform]
  unfold evaluate ended
  cases matchType registry c v with
  | some type =>
    dsimp only
    rw [accepts, hc.validate, hsucceed]
    rfl
  | none =>
    dsimp only
    unfold recover
    cases c.default with
    | some d => exact hsucceed _ _ _
    | none =>
      rw [hc.catch?]

theorem outcome_silent (hc : c.Silent) (answer : Call → Value) :
    outcome registry answer c key v = ended registry c key v := by
  rw [outcome, evaluate_silent hc]
  rfl

theorem calls_silent (hc : c.Silent) (answer : Call → Value) : calls registry answer c key v = [] := by
  rw [calls, evaluate_silent hc]
  rfl

/-- A value that matches is kept, if it is there, and the default stands for any other. -/
theorem kept?_ended (hc : c.Present) :
    (ended registry c key v).kept? =
      if (matchType registry c v).isSome then if v.isAbsent then none else some v
      else c.default := by
  unfold ended
  cases matchType registry c v with
  | some type =>
    dsimp only
    rw [FieldOutcome.kept?]
    cases v.isAbsent <;> rfl
  | none =>
    cases hd : c.default with
    | some d =>
      have hpresent : d.isAbsent = false := by
        rw [Bool.eq_false_iff, ne_eq, Value.isAbsent_iff]
        rintro rfl
        exact hc hd
      dsimp only
      rw [FieldOutcome.kept?, hpresent]
      rfl
    | none =>
      dsimp only
      rw [FieldOutcome.kept?, fail_not_succeeded]
      rfl

/-- A field fails if its value does not match, no default stands for it and it may not be left out. -/
theorem failure?_ended :
    (ended registry c key v).failure? = none ↔
      (matchType registry c v).isSome = true ∨ c.default.isSome = true ∨ c.optional = true := by
  unfold ended
  cases matchType registry c v with
  | some type => exact ⟨fun _ => Or.inl rfl, fun _ => rfl⟩
  | none =>
    cases c.default with
    | some d => exact ⟨fun _ => Or.inr (Or.inl rfl), fun _ => rfl⟩
    | none =>
      dsimp only
      rw [FieldOutcome.failure?, fail_not_succeeded]
      unfold fail
      cases c.optional <;> simp

end Ended

end Field

/-! ## Runs of silent rules -/

/-- A mapping has entries, and so has a row of positional values. -/
theorem Input.exists_entries (keys : List String) {data : Value}
    (hdata : data.entries?.isSome = true ∨ data.items?.isSome = true) (keywords : Entries Value) :
    ∃ es, entries keys data keywords = .ok es := by
  rcases hdata with hdata | hdata
  · obtain ⟨es, hes⟩ := Option.isSome_iff_exists.mp hdata
    obtain ⟨ordered, rfl⟩ := Value.eq_dict_of_entries? hes
    exact ⟨_, rfl⟩
  · cases data <;> cases hdata <;> exact ⟨_, rfl⟩

namespace Run

variable {registry : Registry} {cb cb' : Callbacks} {table : RuleTable}

theorem resolve_rule {t : WorkingTree} {r : Rule} : ∀ task ∈ (t.resolve table r).2, task.rule = r := by
  unfold WorkingTree.resolve
  split
  · exact fun task htask => by cases htask
  · intro task htask
    obtain ⟨x, -, rfl⟩ := List.mem_map.mp htask
    rfl

theorem tasks_congr {r : Rule} (h : ∀ key v, Field.evaluate registry cb r.toContract key v =
    Field.evaluate registry cb' r.toContract key v) (ts : List Task) (hts : ∀ t ∈ ts, t.rule = r) :
    ∀ s, ts.foldlM (task registry cb) s = ts.foldlM (task registry cb') s := by
  induction ts with
  | nil => exact fun s => rfl
  | cons t ts ih =>
    intro s
    have ht : task registry cb s t = task registry cb' s t := by
      unfold task
      rw [hts t (List.mem_cons_self ..), h]
    rw [List.foldlM_cons, List.foldlM_cons, ht]
    exact congrArg _ (funext fun s' => ih (fun u hu => hts u (List.mem_cons_of_mem _ hu)) s')

/-- A run does not depend on callbacks on which no evaluation depends. -/
theorem execute_congr (h : ∀ r ∈ table.ruleList, ∀ key v,
    Field.evaluate registry cb r.toContract key v =
      Field.evaluate registry cb' r.toContract key v) (es : Entries Value) :
    execute registry cb table es = execute registry cb' table es := by
  have hrules : ∀ rs : List Rule, (∀ r ∈ rs, r ∈ table.ruleList) → ∀ s,
      rules registry cb table s rs = rules registry cb' table s rs := by
    intro rs
    induction rs with
    | nil => exact fun _ s => rfl
    | cons r rs ih =>
      intro hrs s
      have hr : rule registry cb table s r = rule registry cb' table s r :=
        tasks_congr (h r (hrs r (List.mem_cons_self ..))) _ resolve_rule _
      rw [rules, rules, List.foldlM_cons, List.foldlM_cons, hr]
      exact congrArg _ (funext fun s' => ih (fun r' hr' => hrs r' (List.mem_cons_of_mem _ hr')) s')
  rw [execute, execute, hrules _ (fun r hr => RuleTable.mem_byDepth.mp hr)]

end Run

namespace Validator

/-- A run of silent rules ends with the report of the plain descent, calls nothing and does not
fail. -/
theorem run_silent {v : Validator} (ht : v.table.Compiled)
    (hsilent : ∀ r ∈ v.table.ruleList, r.Silent) (cb : Callbacks) {data : Value}
    {keywords es : Entries Value}
    (hes : Input.entries v.table.topLevelKeys data keywords = .ok es) (calls : List Call) :
    ∃ outcomes, v.run cb data keywords calls = (.ok
      ⟨Descent.report v.table (Field.judge v.registry cb.calm v.table) false es, outcomes⟩, calls) := by
  let judge := Field.judge v.registry cb.calm v.table
  have hpresent : ∀ r ∈ v.table.ruleList, ∀ place given,
      (judge r place given).kept? = none → (judge r place given).state.succeeded = true →
        given = .absent := by
    intro r hr place given hkept hs
    exact Field.absent_of_kept?_eq_none (ht.present r hr)
      (fun hsome => absurd (hsilent r hr).transform hsome) hkept hs
  have hcalls : ∀ w ∈ Descent.visits v.table judge false es,
      Field.callsAt v.registry cb.calm v.table w = [] := by
    intro w hw
    have hr := (Descent.settle_judged [] (.dict false es) w (Descent.mem_visits.mp hw)).1
    exact Field.calls_silent (hsilent w.rule hr) cb.calm
  have hrun := Run.execute_answering ht v.registry cb.calm es calls
  rw [Descent.report_lingering hpresent, Descent.visits_lingering hpresent,
    List.flatMap_eq_nil_iff.mpr hcalls, List.append_nil] at hrun
  rw [← Run.execute_congr (fun r hr key w => ?_) es] at hrun
  · exact ⟨_, run_of_execute hes hrun⟩
  · rw [Field.evaluate_silent (hsilent r hr) cb, Field.evaluate_silent (hsilent r hr)]

/-- Checking an input against silent rules is the plain descent, calls nothing and does not fail. -/
theorem check_silent {v : Validator} (ht : v.table.Compiled)
    (hsilent : ∀ r ∈ v.table.ruleList, r.Silent) (cb : Callbacks) {data : Value}
    {keywords es : Entries Value}
    (hes : Input.entries v.table.topLevelKeys data keywords = .ok es) (calls : List Call) :
    v.check cb data keywords calls =
      (.ok (Descent.report v.table (Field.judge v.registry cb.calm v.table) false es), calls) := by
  obtain ⟨outcomes, hrun⟩ := run_silent ht hsilent cb hes calls
  rw [check, Outcome.bind_ok hrun]
  rfl

end Validator

end ArgumentSchema
