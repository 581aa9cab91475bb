import ArgumentSchema.Service

/-!
# What the operations answer

An operation compiles its schema and goes by what comes of this and, if it checks an input, of the
run. Both operations answer alike to a schema that does not compile:

> `Service.check_of_error`, `Service.explain_of_error`: the answer to a schema that does not compile.
> `Service.explain_of_compiled`, `Service.exists_of_explain`: the answer about one that does.
> `Service.check_of_finished`, `Service.check_of_failure`: the answer to an input, by what comes of its
> run.
-/

namespace ArgumentSchema.Service

variable {registry : Registry} {o : PathOptions} {schema : Value}

theorem check_of_error {e : CompileError} (h : RuleTable.compile registry o schema = .error e)
    (cb : Callbacks) (data : Value) :
    (check registry cb o schema data).2 = compileFailure "check" e := by
  unfold check
  rw [RuleTable.compile] at h
  simp only [h]

theorem explain_of_error {e : CompileError} (h : RuleTable.compile registry o schema = .error e) :
    (explain registry o schema).2 = compileFailure "explain" e := by
  unfold explain
  rw [RuleTable.compile] at h
  simp only [h]

/-- The explanation of a table. -/
def explanation (t : RuleTable) : ServiceResult :=
  .success "explain" [("count", .int t.rules.length), ("positional", .texts t.topLevelKeys),
    ("rules", .list (t.rules.map fun r => ruleRow r.1 r.2))] []

theorem explain_of_compiled {t : RuleTable} (h : RuleTable.compile registry o schema = .ok t) :
    (explain registry o schema).2 = .ok (explanation t) := by
  unfold explain
  rw [RuleTable.compile] at h
  simp only [h]
  rfl

/-- A schema that compiles can be explained. -/
theorem explain_of_ok {t : RuleTable} (h : RuleTable.compile registry o schema = .ok t) :
    ∃ result, (explain registry o schema).2 = .ok result ∧ result.error = none :=
  ⟨_, explain_of_compiled h, rfl⟩

/-- An explanation is that of a table. -/
theorem exists_of_explain {result : ServiceResult} (h : (explain registry o schema).2 = .ok result)
    (hok : result.ok = true) :
    ∃ t, RuleTable.compile registry o schema = .ok t ∧ result = explanation t := by
  cases hcompile : RuleTable.compile registry o schema with
  | ok t => exact ⟨t, rfl, Except.ok.inj (h.symm.trans (explain_of_compiled hcompile))⟩
  | error e =>
    rw [explain_of_error hcompile] at h
    cases e with
    | schema e =>
      cases h
      cases hok
    | literal e => cases h

/-- A result is never that of a malformed schema if it is that of a report. -/
theorem code_reportResult (op : String) (roots : List String) (data : Value) (r : Report) :
    (reportResult op roots data r).error.map (·.code) ≠ some "SCHEMA_ERROR" := by
  unfold reportResult
  split
  · exact nofun
  · simp [ServiceResult.failure]

section Runs

variable {t : RuleTable} {cb : Callbacks} {data : Value}

/-- The answer to an input whose run has come to its end. -/
theorem check_of_finished (h : RuleTable.compile registry o schema = .ok t) {finished : Run.Finished}
    (hrun : ((Validator.mk t registry).run cb data [] []).1 = .ok finished) :
    (check registry cb o schema data).2 =
      .ok (reportResult "check" t.roots data finished.report) := by
  unfold check
  rw [RuleTable.compile] at h
  simp only [h]
  rw [hrun]

/-- The answer to an input whose run has failed: failures about types are taken for an input of the
wrong kind, and all others end the operation. -/
theorem check_of_failure (h : RuleTable.compile registry o schema = .ok t) {f : Failure}
    (hrun : ((Validator.mk t registry).run cb data [] []).1 = .error f) :
    (check registry cb o schema data).2 =
      if isTypeFailure f then .ok (.failure "check" "BAD_INPUT" f.message []) else .error f := by
  unfold check
  rw [RuleTable.compile] at h
  simp only [h]
  rw [hrun]
  dsimp only
  split <;> rfl

end Runs

end ArgumentSchema.Service
