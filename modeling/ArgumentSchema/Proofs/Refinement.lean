import ArgumentSchema.Proofs.Finalize
import ArgumentSchema.Proofs.Settle

/-!
# A run is one descent

Rules are evaluated breadth first over a tree that is written to as the run goes on, and what leaves
a list leaves it in the end. The report is nevertheless that of one recursion over the document:

> `Run.execute_answering`: where callbacks answer, a run ends with the report of the descent in
> which dropped elements linger, and its outcomes are those of the visits.
> `Validator.check_eq_descent`: if moreover no transformation answers with the marker for a missing
> value, nothing lingers, and checking an input is the plain descent.
-/

namespace ArgumentSchema

namespace Run

open WorkingTree

variable {table : RuleTable}

/-- A run that comes to its end through visits ends with their report. -/
theorem finish_eq {s : RunState} {vs : List Visit} {value : Value} (htells : Tells s vs)
    (hfinal : (s.tree.finalize table.roots).2 = .ok value) :
    finish table s = .ok ⟨⟨value, Descent.passed vs, Descent.failed vs,
      vs.filterMap (·.outcome.failure?)⟩, vs.map fun v => (v.place, v.outcome)⟩ := by
  unfold finish
  split
  · next value' hvalue =>
    rw [hvalue] at hfinal
    obtain rfl := Except.ok.inj hfinal
    rw [htells.passed, htells.failed, htells.errors, htells.outcomes]
  · next e herror =>
    rw [herror] at hfinal
    cases hfinal

/-- Where callbacks answer, a run comes to an end, and its end is the report of the descent. -/
theorem execute_answering (ht : table.Compiled) (registry : Registry) (answer : Call → Value)
    (es : Entries Value) :
    let judge := Field.judge registry answer table
    let visits := Descent.visits table judge true es
    Traced.Adds (execute registry (.answering answer) table es)
      ⟨Descent.report table judge true es, visits.map fun v => (v.place, v.outcome)⟩
      (visits.flatMap (Field.callsAt registry answer table)) := by
  intro judge visits
  have hrules : ∀ r ∈ table.byDepth, r ∈ table.ruleList ∧ r.path ≠ [] := by
    intro r hr
    have hmem := RuleTable.mem_byDepth.mp hr
    obtain ⟨s, rest, hpath⟩ := ht.rooted r hmem
    exact ⟨hmem, by simp [hpath]⟩
  have hlong : ∀ r ∈ table.byDepth, 1 ≤ r.path.length := fun r hr =>
    List.length_pos_iff.mpr (hrules r hr).2
  obtain ⟨s, hadds, ⟨k, shut, hstands⟩, htells⟩ := @rules_answering table registry answer
    table.byDepth (start es) [] [] 1 [] _ (ofEntries_stands es) ⟨rfl, rfl, rfl, rfl⟩ hrules
    ht.distinct_byDepth hlong table.pairwise_byDepth
  obtain ⟨hfinal, hvisits⟩ := @Draft.settles table judge ht es
  rw [List.nil_append, hvisits] at htells
  rw [hvisits] at hadds
  have houtput : (s.tree.finalize table.roots).2 = .ok (Descent.output table judge true es) :=
    finalize_stands hstands hfinal
  have hfinish := finish_eq htells houtput
  have hend : Traced.Adds (lift (finish table s))
      ⟨Descent.report table judge true es, visits.map fun v => (v.place, v.outcome)⟩ [] := by
    rw [hfinish]
    exact Traced.Adds.pure _
  have hwhole := Traced.Adds.bind (f := fun s => lift (finish table s)) hadds hend
  rwa [List.append_nil] at hwhole

end Run

namespace Descent

variable {table : RuleTable} {judge : Judge}

theorem judged_lingers {settle : Value → Value × List Visit} {r : Rule} {place : Place}
    {given : Value} (hnil : (judge r place given).kept? = none →
      (judge r place given).state.succeeded = true → (settle given).2 = []) :
    judged judge settle r place given true = judged judge settle r place given false := by
  cases hkept : (judge r place given).kept? with
  | some v => rw [judged_kept hkept, judged_kept hkept]
  | none =>
    have hplain : judged judge settle r place given false =
        (none, [⟨r, place, given, judge r place given⟩]) := judged_dropped hkept rfl
    rw [hplain]
    cases hs : (judge r place given).state.succeeded with
    | false => rw [judged_dropped hkept (by rw [hs]; rfl)]
    | true => rw [judged_lingering hkept hs, hnil hkept hs]

/-- Nothing lingers where only missing values end as missing values. -/
theorem settle_lingering
    (hpresent : ∀ r ∈ table.ruleList, ∀ place given, (judge r place given).kept? = none →
      (judge r place given).state.succeeded = true → given = .absent) :
    ∀ place v, settle table judge true place v = settle table judge false place v := by
  refine place_induction table ?_ ?_
  · intro place hbelow v
    rw [settle_nil hbelow, settle_nil hbelow]
  · intro place hbelow ih v
    have hkey : settleKey table judge true place = settleKey table judge false place := by
      funext s cell
      unfold settleKey
      rw [funext (ih (.key s))]
    have hitem : settleItem table judge true place = settleItem table judge false place := by
      funext i v
      unfold settleItem item
      rw [funext (ih (.index i))]
      split
      · next r hr =>
        refine judged_lingers fun hkept hs => ?_
        obtain ⟨hmem, -⟩ := RuleTable.ruleAt_eq_some hr
        obtain rfl := hpresent r hmem _ v hkept hs
        rw [settle_scalar rfl rfl]
      · rfl
    cases hentries : v.entries? with
    | some es =>
      obtain ⟨ordered, rfl⟩ := Value.eq_dict_of_entries? hentries
      rw [settle_dict hbelow, settle_dict hbelow, hkey]
    | none =>
      cases hitems : v.items? with
      | some xs => rw [settle_items hbelow hitems, settle_items hbelow hitems, hitem]
      | none => rw [settle_scalar hentries hitems, settle_scalar hentries hitems]

theorem visits_lingering
    (hpresent : ∀ r ∈ table.ruleList, ∀ place given, (judge r place given).kept? = none →
      (judge r place given).state.succeeded = true → given = .absent) (es : Entries Value) :
    visits table judge true es = visits table judge false es := by
  unfold visits
  rw [settle_lingering hpresent]

theorem report_lingering
    (hpresent : ∀ r ∈ table.ruleList, ∀ place given, (judge r place given).kept? = none →
      (judge r place given).state.succeeded = true → given = .absent) (es : Entries Value) :
    report table judge true es = report table judge false es := by
  unfold report output
  rw [settle_lingering hpresent, visits_lingering hpresent]

end Descent

namespace Outcome

variable {α β : Type} {t : Outcome α} {f : α → Outcome β} {calls calls' : List Call}

theorem bind_ok {a : α} (h : t calls = (.ok a, calls')) : (t >>= f) calls = f a calls' := by
  show (ExceptT.bind t f : ExceptT _ _ _) calls = _
  simp only [ExceptT.bind, ExceptT.mk]
  show (StateT.bind t _ : StateM _ _) calls = _
  simp only [StateT.bind, h]
  rfl

theorem bind_error {e : Failure} (h : t calls = (.error e, calls')) :
    (t >>= f) calls = (.error e, calls') := by
  show (ExceptT.bind t f : ExceptT _ _ _) calls = _
  simp only [ExceptT.bind, ExceptT.mk]
  show (StateT.bind t _ : StateM _ _) calls = _
  simp only [StateT.bind, h]
  rfl

end Outcome

namespace Validator

/-- What a validator leaves of an input, once its entries are known. -/
theorem run_of_execute {v : Validator} {cb : Callbacks} {data : Value} {keywords es : Entries Value}
    {calls calls' : List Call} {finished : Run.Finished}
    (hes : Input.entries v.table.topLevelKeys data keywords = .ok es)
    (hrun : Run.execute v.registry cb v.table es calls = (.ok finished, calls')) :
    v.run cb data keywords calls = (.ok finished, calls') := by
  unfold run Traced.outcome
  rw [hes]
  dsimp only
  rw [hrun]

/-- What checking an input comes to, once its entries are known. -/
theorem check_of_execute {v : Validator} {cb : Callbacks} {data : Value} {keywords es : Entries Value}
    {calls calls' : List Call} {finished : Run.Finished}
    (hes : Input.entries v.table.topLevelKeys data keywords = .ok es)
    (hrun : Run.execute v.registry cb v.table es calls = (.ok finished, calls')) :
    v.check cb data keywords calls = (.ok finished.report, calls') := by
  rw [check, Outcome.bind_ok (run_of_execute hes hrun)]
  rfl

/-- What a validator ends in if a callback raises, once the entries of its input are known. -/
theorem run_of_raised {v : Validator} {cb : Callbacks} {data : Value} {keywords es : Entries Value}
    {calls calls' : List Call} {e : Raised}
    (hes : Input.entries v.table.topLevelKeys data keywords = .ok es)
    (hrun : Run.execute v.registry cb v.table es calls = (.error e, calls')) :
    v.run cb data keywords calls = (.error (.raised e), calls') := by
  unfold run Traced.outcome
  rw [hes]
  dsimp only
  rw [hrun]

/-- What checking an input comes to if a callback raises, once its entries are known. -/
theorem check_of_raised {v : Validator} {cb : Callbacks} {data : Value} {keywords es : Entries Value}
    {calls calls' : List Call} {e : Raised}
    (hes : Input.entries v.table.topLevelKeys data keywords = .ok es)
    (hrun : Run.execute v.registry cb v.table es calls = (.error e, calls')) :
    v.check cb data keywords calls = (.error (.raised e), calls') := by
  rw [check, Outcome.bind_error (run_of_raised hes hrun)]

/-- Checking an input is the plain descent: if no transformation answers with the marker for a
missing value, so that a field with a transformation has a value where it succeeds, the report is that
of one recursion over the document, and the calls are those of its visits. -/
theorem check_eq_descent {registry : Registry} {o : PathOptions} {schema : Value} {v : Validator}
    (hv : compile registry o schema = .ok v) (answer : Call → Value)
    (htransforms : ∀ r ∈ v.table.ruleList, r.transform ≠ none → ∀ place given,
      (Field.judge v.registry answer v.table r place given).state.succeeded = true →
        (Field.judge v.registry answer v.table r place given).value.isAbsent = false)
    {data : Value} {keywords es : Entries Value}
    (hes : Input.entries v.table.topLevelKeys data keywords = .ok es) (calls : List Call) :
    let judge := Field.judge v.registry answer v.table
    v.check (.answering answer) data keywords calls =
      (.ok (Descent.report v.table judge false es),
        calls ++ (Descent.visits v.table judge false es).flatMap
          (Field.callsAt v.registry answer v.table)) := by
  intro judge
  obtain ⟨ht, -⟩ := compile_compiled hv
  -- What lingers in the descent of the run is a missing value, and there is nothing below it.
  have hpresent : ∀ r ∈ v.table.ruleList, ∀ place given,
      (judge r place given).kept? = none → (judge r place given).state.succeeded = true →
        given = .absent := by
    intro r hr place given hkept hs
    exact Field.absent_of_kept?_eq_none (ht.present r hr)
      (fun hsome given => htransforms r hr hsome place given) hkept hs
  have hrun := Run.execute_answering ht v.registry answer es calls
  rw [Descent.report_lingering hpresent, Descent.visits_lingering hpresent] at hrun
  exact check_of_execute hes hrun

/-- A transformation below a rule of its own, and a tuple of which one element fails. -/
theorem check_eq_descent_nested :
    let schema : Value := .dict false [(.str "a", .str "object"),
      (.str "a.b", .dict false [(.str "type", .str "number"),
        (.str "transform", .callback "seven" [])]),
      (.str "c.$", .str "string")]
    let answer : Call → Value := fun _ => .int 7
    let es : Entries Value := [(.str "c", .tuple [.str "x", .int 5]),
      (.str "a", .dict true [(.str "b", .int 2), (.str "d", .null)])]
    ∃ v, compile Registry.default .default schema = .ok v ∧
      (∀ r ∈ v.table.ruleList, r.transform ≠ none → ∀ place given,
        (Field.judge v.registry answer v.table r place given).state.succeeded = true →
          (Field.judge v.registry answer v.table r place given).value.isAbsent = false) ∧
      Input.entries v.table.topLevelKeys (.dict false es) [] = .ok es ∧
      v.check (.answering answer) (.dict false es) [] [] =
        (.ok (Descent.report v.table (Field.judge v.registry answer v.table) false es),
          [] ++ (Descent.visits v.table (Field.judge v.registry answer v.table) false es).flatMap
            (Field.callsAt v.registry answer v.table)) := by
  intro schema answer es
  let v : Validator := ⟨⟨.default, [("a", ⟨.ofTypes ["object"], [.name "a"]⟩),
    ("a.b", ⟨{ Contract.ofTypes ["number"] with transform := some (.callback "seven" []) },
      [.name "a", .name "b"]⟩),
    ("c.$", ⟨.ofTypes ["string"], [.name "c", .wildcard]⟩)]⟩, Registry.default⟩
  have hv : compile Registry.default .default schema = .ok v := by cbv
  have htransforms : ∀ r ∈ v.table.ruleList, r.transform ≠ none → ∀ place given,
      (Field.judge v.registry answer v.table r place given).state.succeeded = true →
        (Field.judge v.registry answer v.table r place given).value.isAbsent = false := by
    intro r _ hsome place given hs
    obtain ⟨f, hf⟩ := Option.ne_none_iff_exists'.mp hsome
    obtain ⟨base, type, hvalue⟩ := Field.exists_value_eq_answer hf hs
    exact congrArg Value.isAbsent hvalue
  have hes : Input.entries v.table.topLevelKeys (.dict false es) [] = .ok es := rfl
  exact ⟨v, hv, htransforms, hes, check_eq_descent hv answer htransforms hes []⟩

end Validator

end ArgumentSchema
