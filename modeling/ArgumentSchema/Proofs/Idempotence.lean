import ArgumentSchema.Proofs.Silent
import ArgumentSchema.Proofs.Steady

/-!
# Checking an output

Rules without callbacks, with types that every schema knows, judge steadily: what they let through
keeps the type that it was let through for when it is settled, since settling only turns mappings into
plain ones and rows into lists, and to the types both are the same. So an output is its own output:

> `Field.judge_steady`: plain rules make a steady judgement.
> `Validator.check_idempotent`: checking the output of a check gives the same output, and if the first
> check found no failed field, neither does the second.
-/

namespace ArgumentSchema

/-- A contract without callbacks that asks for types which every schema knows. -/
structure Contract.Plain (c : Contract) : Prop where
  silent : c.Silent
  known : ∀ name ∈ c.types, Registry.default.knows name = true

/-! ## Types and shapes -/

namespace Value.Alike

variable {v w : Value}

/-- Values of one shape are equal, or both are mappings, or both are rows of elements. -/
theorem cases_dict (h : v.Alike w) :
    v = w ∨ (∃ o es o' es', v = .dict o es ∧ w = .dict o' es') ∨
      (v.items?.isSome = true ∧ w.items?.isSome = true) := by
  rcases h with h | ⟨hv, hw⟩ | h
  · exact Or.inl h
  · obtain ⟨es, hes⟩ := Option.isSome_iff_exists.mp hv
    obtain ⟨es', hes'⟩ := Option.isSome_iff_exists.mp hw
    obtain ⟨o, hv⟩ := Value.eq_dict_of_entries? hes
    obtain ⟨o', hw⟩ := Value.eq_dict_of_entries? hes'
    exact Or.inr (Or.inl ⟨o, es, o', es', hv, hw⟩)
  · exact Or.inr (Or.inr h)

theorem isAbsent_eq (h : v.Alike w) : v.isAbsent = w.isAbsent := by
  rcases h.cases_dict with rfl | ⟨o, es, o', es', rfl, rfl⟩ | ⟨hv, hw⟩
  · rfl
  · rfl
  · cases v <;> cases hv <;> cases w <;> cases hw <;> rfl

/-- The types that every schema knows do not tell values of one shape apart. -/
theorem accepts_eq (h : v.Alike w) :
    ∀ p ∈ Registry.basePredicates, p.accepts v = p.accepts w := by
  -- a class tells a type, and the types put both classes of mappings, and both of rows, together
  have htypes : ∀ t ∈ Registry.classTypes, t.2 v.classOf = t.2 w.classOf := by
    rcases h.cases_dict with rfl | ⟨o, es, o', es', rfl, rfl⟩ | ⟨hv, hw⟩
    · exact fun t _ => rfl
    · cases o <;> cases o' <;> simp only [classOf] <;> decide
    · cases v <;> cases hv <;> cases w <;> cases hw <;> simp only [classOf] <;> decide
  refine List.forall_mem_cons.mpr ⟨isAbsent_eq h, fun p hp => ?_⟩
  obtain ⟨t, ht, rfl⟩ := List.mem_map.mp hp
  exact htypes t ht

theorem isOfType_eq (h : v.Alike w) {name : String}
    (hknown : Registry.default.knows name = true) :
    Registry.default.isOfType v name = Registry.default.isOfType w name := by
  obtain ⟨p, hp⟩ := Option.isSome_iff_exists.mp
    (show (Registry.default.predicate? name).isSome = true by
      rw [Registry.predicate?, List.find?_isSome]
      exact List.any_eq_true.mp hknown)
  rw [Registry.isOfType, Registry.isOfType, hp]
  exact accepts_eq h p (List.mem_of_find?_eq_some hp)

/-- Values of one shape match a contract together. -/
theorem matchType_eq (h : v.Alike w) {c : Contract} (hc : c.Plain) :
    (Field.matchType Registry.default c v).isSome = (Field.matchType Registry.default c w).isSome := by
  unfold Field.matchType
  by_cases htypes : c.types.isEmpty = true
  · rw [if_pos htypes, if_pos htypes, isAbsent_eq h]
    cases w.isAbsent <;> rfl
  · rw [if_neg htypes, if_neg htypes, Bool.eq_iff_iff, List.find?_isSome, List.find?_isSome]
    refine exists_congr fun name => and_congr_right fun hname => ?_
    rw [isOfType_eq h (hc.known name hname)]

end Value.Alike

/-! ## Plain fields -/

namespace Field

/-- Plain rules make a steady judgement. -/
theorem judge_steady {table : RuleTable} (ht : table.Compiled)
    (hplain : ∀ r ∈ table.ruleList, r.Plain) (answer : Call → Value) :
    Steady table (judge Registry.default answer table) := by
  have hjudge : ∀ r ∈ table.ruleList, ∀ p v, judge Registry.default answer table r p v =
      ended Registry.default r.toContract (p.write table.options) v :=
    fun r hr p v => outcome_silent (hplain r hr).silent answer
  refine ⟨?_, ?_, ?_, ?_⟩
  · intro r hr p p' v
    rw [hjudge r hr, hjudge r hr, kept?_ended (ht.present r hr), kept?_ended (ht.present r hr)]
  · intro r hr p p' v
    rw [hjudge r hr, hjudge r hr, failure?_ended, failure?_ended]
    exact id
  · intro r hr p v w hkept w' halike
    have hw := FieldOutcome.present_of_kept? hkept
    rw [hjudge r hr, kept?_ended (ht.present r hr)] at hkept
    rw [hjudge r hr, kept?_ended (ht.present r hr), ← halike.matchType_eq (hplain r hr),
      ← halike.isAbsent_eq]
    by_cases hmatch : (matchType Registry.default r.toContract w).isSome = true
    · rw [if_pos hmatch, hw]
      exact Or.inl rfl
    · -- what does not match was let through as the default, which stands for any such value
      rw [if_neg hmatch]
      split at hkept
      · next hv =>
        split at hkept
        · cases hkept
        · obtain rfl := Option.some.inj hkept
          exact absurd hv hmatch
      · exact Or.inr hkept
  · intro r hr p v hkept
    rw [hjudge r hr, kept?_ended (ht.present r hr)] at hkept
    rw [hjudge r hr, hjudge r hr, kept?_ended (ht.present r hr), failure?_ended, failure?_ended]
    split at hkept
    · next hmatch =>
      -- only a value that is missing matches and is dropped
      obtain rfl : v = .absent := by
        split at hkept
        · next hv => exact Value.isAbsent_iff.mp hv
        · cases hkept
      rw [if_pos hmatch]
      exact ⟨rfl, id⟩
    · next hmatch =>
      rw [hkept]
      refine ⟨by split <;> rfl, fun h => ?_⟩
      exact Or.inr (h.resolve_left hmatch)

end Field

namespace Validator

/-- Checking the output of a check gives the same output again, for rules without callbacks that ask
for types which every schema knows; and if the first check found no failed field, neither does the
second. -/
theorem check_idempotent {o : PathOptions} {schema : Value} {v : Validator}
    (hv : compile Registry.default o schema = .ok v)
    (hplain : ∀ r ∈ v.table.ruleList, r.validate = none ∧ r.catch? = none ∧ r.transform = none ∧
      ∀ name ∈ r.types, Registry.default.knows name = true)
    (cb : Callbacks) {data : Value}
    (hdata : data.entries?.isSome = true ∨ data.items?.isSome = true) (calls : List Call) :
    ∃ r₁ r₂ : Report, v.check cb data [] calls = (.ok r₁, calls) ∧
      v.check cb r₁.value [] calls = (.ok r₂, calls) ∧
      r₂.value = r₁.value ∧ (r₁.ok = true → r₂.ok = true) := by
  obtain ⟨ht, hregistry⟩ := compile_compiled hv
  have hplain : ∀ r ∈ v.table.ruleList, r.Plain := by
    intro r hr
    obtain ⟨hvalidate, hcatch, htransform, hknown⟩ := hplain r hr
    exact ⟨⟨hvalidate, hcatch, htransform⟩, hknown⟩
  have hsilent : ∀ r ∈ v.table.ruleList, r.Silent := fun r hr => (hplain r hr).silent
  obtain ⟨es, hes⟩ := Input.exists_entries v.table.topLevelKeys hdata []
  obtain ⟨es', houtput, hagain, hok⟩ :=
    Descent.report_settled (Field.judge_steady ht hplain cb.calm) es
  have hcheck := check_silent ht hsilent cb hes calls
  have hcheck' := check_silent ht hsilent cb
    (show Input.entries v.table.topLevelKeys (.dict false es') [] = .ok es' from rfl) calls
  rw [hregistry] at hcheck hcheck'
  rw [← houtput] at hcheck'
  exact ⟨_, _, hcheck, hcheck', hagain.trans houtput.symm, hok⟩

/-- A default of another type than its own, below a mapping that is made for it, and a tuple that loses
an element. -/
theorem check_idempotent_default :
    let schema : Value := .dict false [
      (.str "a.b", .dict false [(.str "type", .str "string"), (.str "default", .int 5)]),
      (.str "c.$", .str "number?")]
    let data : Value := .dict true [(.str "c", .tuple [.int 1, .str "x", .int 2]), (.str "d", .null)]
    let output : Value := .dict false [(.str "c", .list [.int 1, .int 2]),
      (.str "a", .dict false [(.str "b", .int 5)])]
    let cb : Callbacks := fun _ => .error (.ofText .runtimeError "called")
    ∃ v r₁ r₂, compile Registry.default .default schema = .ok v ∧
      (∀ r ∈ v.table.ruleList, r.validate = none ∧ r.catch? = none ∧ r.transform = none ∧
        ∀ name ∈ r.types, Registry.default.knows name = true) ∧
      (data.entries?.isSome = true ∨ data.items?.isSome = true) ∧
      v.check cb data [] [] = (.ok r₁, []) ∧ v.check cb r₁.value [] [] = (.ok r₂, []) ∧
      r₂.value = r₁.value ∧ (r₁.ok = true → r₂.ok = true) ∧ r₁.value = output ∧ r₁.ok = true := by
  intro schema data output cb
  let r : Rule := ⟨{ Contract.ofTypes ["string"] with default := some (.int 5) },
    [.name "a", .name "b"]⟩
  let r' : Rule := ⟨{ Contract.ofTypes ["number"] with optional := true }, [.name "c", .wildcard]⟩
  let v : Validator := ⟨⟨.default, [("a.b", r), ("c.$", r')]⟩, Registry.default⟩
  have hv : compile Registry.default .default schema = .ok v := by cbv
  have hplain : ∀ r ∈ v.table.ruleList, r.validate = none ∧ r.catch? = none ∧ r.transform = none ∧
      ∀ name ∈ r.types, Registry.default.knows name = true := by
    intro x hx
    rcases List.mem_pair.mp (show x ∈ [r, r'] from hx) with rfl | rfl
    · exact ⟨rfl, rfl, rfl, by decide⟩
    · exact ⟨rfl, rfl, rfl, by decide⟩
  obtain ⟨r₁, r₂, hcheck, hcheck', hvalue, hok⟩ := check_idempotent hv hplain cb
    (show data.entries?.isSome = true ∨ data.items?.isSome = true from Or.inl rfl) []
  have hfirst : v.check cb data [] [] =
      (.ok ⟨output, [("a.b", .int 5), ("c.0", .int 1), ("c.2", .int 2)], [], []⟩, []) := by cbv
  obtain rfl := Except.ok.inj (congrArg Prod.fst (hfirst.symm.trans hcheck))
  exact ⟨v, _, r₂, hv, hplain, Or.inl rfl, hcheck, hcheck', hvalue, hok, rfl, rfl⟩

end Validator

end ArgumentSchema
