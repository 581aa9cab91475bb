import ArgumentSchema.Proofs.Accounts
import ArgumentSchema.Proofs.Endings
import ArgumentSchema.Proofs.Operations
import ArgumentSchema.Proofs.Overlong
import ArgumentSchema.Proofs.Silent

/-!
# How the schema of a document can be turned down

A document has nothing to call. A schema that is made of its values gives silent rules, so that the
operations answer whatever its input is, or it is turned down. An error that names what is malformed
is an answer of the operations too; a literal that is too long to be read ends them instead:

> `RuleTable.compile_silent`: the rules of a document ask no callback.
> `Service.check_of_silent`: such rules give an answer for every input, and none about the schema.
> `Service.rejects_json_iff`: a document compiles, or is turned down with an error that names what is
> malformed, exactly if nothing in it is too long; both operations then answer, and with the error of
> the schema exactly if there is one.
-/

namespace ArgumentSchema

/-! ## Schemas of documents -/

/-- The values that a document in JSON is made of. -/
inductive Value.Json : Value → Prop where
  | null : Json .null
  | bool (b : Bool) : Json (.bool b)
  | int (i : Int) : Json (.int i)
  | float (x : Binary64) : Json (.float x)
  | str (s : String) : Json (.str s)
  | list {items : List Value} : (∀ v ∈ items, Json v) → Json (.list items)
  | object {es : Entries Value} : (∀ e ∈ es, ∃ s, e.1 = .str s) → (∀ e ∈ es, Json e.2) →
      Json (.dict false es)

namespace Value.Json

theorem isCallable {v : Value} (h : v.Json) : v.isCallable = false := by
  cases h <;> rfl

theorem of_entries? {v : Value} {es : Entries Value} (h : v.Json) (hes : v.entries? = some es) :
    ∀ e ∈ es, e.2.Json := by
  cases h with
  | object hkeys hvalues =>
    cases hes
    exact hvalues
  | _ => cases hes

end Value.Json

namespace Pattern

variable {registry : Registry} {es : Entries Value} {c : Contract}

theorem simple_silent {spec : Value} (hspec : spec.Json) (h : simple registry spec = .ok c) :
    c.Silent := by
  cases hspec with
  | null =>
    cases h
    exact ⟨rfl, rfl, rfl⟩
  | str s => exact Shorthand.read_silent h
  | list hitems =>
    unfold simple at h
    dsimp only at h
    split at h
    · cases h
      exact ⟨rfl, rfl, rfl⟩
    · cases h
  | _ => cases h

/-- A document has nothing to call, so that an option that has to be called is not given. -/
theorem callable?_json (hes : ∀ e ∈ es, e.2.Json) {key : String} {f : Option Value}
    (h : callable? es key = .ok f) : f = none := by
  unfold callable? at h
  split at h
  · exact (Except.ok.inj h).symm
  · exact (Except.ok.inj h).symm
  · next g hg =>
    rw [if_neg (Bool.eq_false_iff.mp (hes _ (Entries.mem_of_find? hg)).isCallable)] at h
    cases h

theorem check?_json (hes : ∀ e ∈ es, e.2.Json) {validate : Option Check}
    (h : check? es = .ok validate) : validate = none := by
  unfold check? at h
  split at h
  · exact (Except.ok.inj h).symm
  · exact (Except.ok.inj h).symm
  · next hg => cases hes _ (Entries.mem_of_find? hg)
  · next g hg =>
    rw [if_neg (Bool.eq_false_iff.mp (hes _ (Entries.mem_of_find? hg)).isCallable)] at h
    cases h

theorem longhandBase_silent (hes : ∀ e ∈ es, e.2.Json) (h : longhandBase registry es = .ok c) :
    c.Silent := by
  unfold longhandBase at h
  split at h
  · exact simple_silent .null h
  · cases h
  · next t _ ht => exact simple_silent (hes _ (Entries.mem_of_find? ht)) h

theorem longhand_silent (hes : ∀ e ∈ es, e.2.Json) (h : longhand registry es = .ok c) :
    c.Silent := by
  obtain ⟨base, validate, recovery, transform, hbase, hcheck, hcatch, htransform, rfl⟩ :=
    exists_of_longhand h
  obtain rfl := check?_json hes hcheck
  obtain rfl := callable?_json hes hcatch
  obtain rfl := callable?_json hes htransform
  exact ⟨(longhandBase_silent hes hbase).validate, rfl, rfl⟩

/-- The patterns of a document ask no callback. -/
theorem read_silent {spec : Value} (hspec : spec.Json) (h : read registry spec = .ok c) :
    c.Silent := by
  unfold read at h
  split at h
  · exact longhand_silent (hspec.of_entries? rfl) h
  · exact simple_silent hspec h

end Pattern

namespace RuleTable

variable {registry : Registry} {o : PathOptions}

theorem fragments_json {schema : Value} (hschema : schema.Json) {fs : List (Entries Value)}
    (h : fragments schema = .ok fs) : ∀ e ∈ fs.flatten, e.2.Json := by
  rw [fragments_eq_ok_iff] at h
  cases h with
  | one =>
    cases hschema with
    | object hkeys hvalues => simpa using hvalues
  | list h =>
    cases hschema with
    | list hitems =>
      intro e he
      obtain ⟨es, hes, he⟩ := List.mem_flatten.mp he
      obtain ⟨v, hv, hentries⟩ := exists_of_mem_forall₂ h hes
      exact (hitems v hv).of_entries? hentries e he
  | tuple => cases hschema

/-- The rules of a document ask no callback. -/
theorem compile_silent {schema : Value} (hschema : schema.Json) {t : RuleTable}
    (h : compile registry o schema = .ok t) : ∀ r ∈ t.ruleList, r.Silent := by
  obtain ⟨fs, read, hfs, hread, rfl⟩ := compile_eq_ok_iff.mp h
  intro r hr
  obtain ⟨e, he, rfl⟩ := List.mem_map.mp hr
  obtain ⟨x, hx, hreads⟩ := exists_of_mem_forall₂ hread (mem_of_mem_gathered he)
  exact Pattern.read_silent (fragments_json hschema hfs x hx) hreads.contract

end RuleTable

namespace Service

variable {registry : Registry} {o : PathOptions} {schema : Value}

/-- Rules that ask no callback give an answer for every input, and none about the schema. -/
theorem check_of_silent {t : RuleTable} (h : RuleTable.compile registry o schema = .ok t)
    (hsilent : ∀ r ∈ t.ruleList, r.Silent) (cb : Callbacks) (data : Value) :
    ∃ result, (check registry cb o schema data).2 = .ok result ∧
      result.error.map (·.code) ≠ some "SCHEMA_ERROR" := by
  obtain ⟨ht, -⟩ := Validator.compile_compiled (Validator.compile_of_table h)
  cases hes : Input.entries t.topLevelKeys data [] with
  | error wrong =>
    have hrun : (Validator.mk t registry).run cb data [] [] = (.error (.input wrong), []) := by
      unfold Validator.run
      rw [hes]
      rfl
    rw [check_of_failure h (congrArg Prod.fst hrun)]
    exact ⟨_, rfl, by simp [ServiceResult.failure]⟩
  | ok es =>
    obtain ⟨outcomes, hrun⟩ := Validator.run_silent ht hsilent cb hes []
    rw [check_of_finished h (congrArg Prod.fst hrun)]
    exact ⟨_, rfl, code_reportResult _ _ _ _⟩

/-- A schema that is made of the values of a document compiles, or is turned down with an error that
names what is malformed, exactly if no literal is too long to be read in the first entry that is not
good. Both operations then answer whatever the input is, and with the message and the path of the
error exactly if there is one. A literal that is too long ends the compilation and both operations. -/
theorem rejects_json_iff {schema : Value} (hschema : schema.Json) (registry : Registry)
    (o : PathOptions) :
    (((∃ t, RuleTable.compile registry o schema = .ok t) ∨
        ∃ e, RuleTable.compile registry o schema = .error (.schema e)) ↔
      ∀ n, ¬ RuleTable.Overlong registry o n schema) ∧
    (∀ t, RuleTable.compile registry o schema = .ok t →
      (∃ result, (explain registry o schema).2 = .ok result ∧ result.error = none) ∧
      ∀ cb data, ∃ result, (check registry cb o schema data).2 = .ok result ∧
        result.error.map (·.code) ≠ some "SCHEMA_ERROR") ∧
    (∀ e, RuleTable.compile registry o schema = .error (.schema e) →
      (explain registry o schema).2 = .ok (schemaFailure "explain" e) ∧
      ∀ cb data, (check registry cb o schema data).2 = .ok (schemaFailure "check" e)) ∧
    ∀ n, RuleTable.Overlong registry o n schema →
      RuleTable.compile registry o schema = .error (.literal ⟨n⟩) ∧
      (explain registry o schema).2 = .error (.literal ⟨n⟩) ∧
      ∀ cb data, (check registry cb o schema data).2 = .error (.literal ⟨n⟩) := by
  refine ⟨?_, fun t ht => ⟨explain_of_ok ht, fun cb data => ?_⟩, fun e he => ⟨explain_of_error he,
    fun cb data => check_of_error he cb data⟩, fun n hlong => ?_⟩
  · constructor
    · rintro (⟨t, ht⟩ | ⟨e, he⟩) n hlong
      · rw [RuleTable.compile_eq_literal_iff.mpr hlong] at ht
        cases ht
      · rw [RuleTable.compile_eq_literal_iff.mpr hlong] at he
        cases he
    · intro hshort
      cases hcompile : RuleTable.compile registry o schema with
      | ok t => exact Or.inl ⟨t, rfl⟩
      | error e =>
        cases e with
        | schema e => exact Or.inr ⟨e, rfl⟩
        | literal e => exact absurd (RuleTable.compile_eq_literal_iff.mp hcompile) (hshort e.count)
  · exact check_of_silent ht (RuleTable.compile_silent hschema ht) cb data
  · have hcompile := RuleTable.compile_eq_literal_iff.mpr hlong
    exact ⟨hcompile, explain_of_error hcompile, fun cb data => check_of_error hcompile cb data⟩

/-- An integer of one digit more than can be read, as the default of a field that is declared in a
longhand behind a good one. -/
theorem rejects_json_iff_ones :
    let ones := List.replicate 4301 '1'
    let schema : Value := .dict false [(.str "a", .str "string?"),
      (.str "b.c", .dict false [(.str "type", .str (String.ofList ("number=".toList ++ ones)))])]
    schema.Json ∧ RuleTable.compile Registry.default .default schema = .error (.literal ⟨4301⟩) ∧
      (explain Registry.default .default schema).2 = .error (.literal ⟨4301⟩) ∧
      (∀ cb data, (check Registry.default cb .default schema data).2 = .error (.literal ⟨4301⟩)) ∧
      ¬ ((∃ t, RuleTable.compile Registry.default .default schema = .ok t) ∨
        ∃ e, RuleTable.compile Registry.default .default schema = .error (.schema e)) := by
  intro ones schema
  have hjson : schema.Json := by
    refine .object ?_ ?_
    · simp
    · simp only [List.forall_mem_cons]
      refine ⟨.str _, .object ?_ ?_, fun e he => by cases he⟩
      · simp
      · simp only [List.forall_mem_cons]
        exact ⟨.str _, fun e he => by cases he⟩
  have hones : ∀ c ∈ ones, c = '1' := fun c hc => List.eq_of_mem_replicate hc
  have hlong : Shorthand.Overlong 4301 (String.ofList ("number=".toList ++ ones)) := by
    refine ⟨"number".toList, ones, String.toList_ofList, by decide, by decide, [], ones, ?_,
      by simp, ?_, List.length_replicate, by decide⟩
    · rw [List.nil_append]
      exact Text.trim_of_not_blank fun c hc => by rw [hones c hc]; rfl
    · intro d hd
      rw [hones d hd]
      rfl
  have hoverlong : RuleTable.Overlong Registry.default .default 4301 schema := by
    refine ⟨_, [(.str "a", .str "string?")], "b.c", [.name "b", .name "c"], _, [], rfl, rfl, ?_, by cbv,
      .longhand (by decide) rfl hlong⟩
    intro e he
    obtain rfl := List.mem_singleton.mp he
    exact ⟨("a", ⟨{ Contract.ofTypes ["string"] with optional := true }, [.name "a"]⟩), rfl, by cbv,
      by cbv⟩
  obtain ⟨hiff, -, -, hend⟩ := rejects_json_iff hjson Registry.default .default
  obtain ⟨hcompile, hexplain, hcheck⟩ := hend 4301 hoverlong
  exact ⟨hjson, hcompile, hexplain, hcheck, fun h => hiff.mp h 4301 hoverlong⟩

end Service

end ArgumentSchema
