import ArgumentSchema.Proofs.Places
import ArgumentSchema.Proofs.Stages

/-!
# What lingers below a missing value

A field that succeeds and ends as a missing value is dropped. Under a key, that is the end of what
is below it. An element of a list is only dropped when the run ends, and until then deeper rules find
the value that it was given: they are evaluated in it, with their callbacks, and what they find is
reported. This is the one exception to the rule that nothing is evaluated below a dropped place.

> `Descent.settle_ne_nil_iff`: something is visited below a place exactly if some rule leads on into
> the value there.
> `Validator.evaluates_below_absent_iff`: below a place that ended as a missing value something is
> evaluated exactly if the place is an element of a list and some rule leads on into the value that
> it was given.
-/

namespace ArgumentSchema

/-- Whether a path leads from a value to some place. A missing key counts as an empty mapping. -/
def Value.leadsOn : List Segment → Value → Bool
  | [], _ => true
  | .name s :: rest, .dict _ es =>
    leadsOn rest ((Entries.find? (.str s) es).getD (.dict false []))
  | .wildcard :: rest, .list xs | .wildcard :: rest, .tuple xs => xs.any (leadsOn rest)
  | _, _ => false

theorem Value.leadsOn_items {v : Value} {xs : List Value} (h : v.items? = some xs)
    (rest : List Segment) : leadsOn (.wildcard :: rest) v = xs.any (leadsOn rest) := by
  cases v <;> cases h <;> rw [leadsOn]

theorem Value.leadsOn_items_name {v : Value} {xs : List Value} (h : v.items? = some xs) (s : String)
    (rest : List Segment) : leadsOn (.name s :: rest) v = false := by
  cases v <;> cases h <;> rw [leadsOn] <;> simp

theorem Value.leadsOn_scalar {v : Value} (hentries : v.entries? = none) (hitems : v.items? = none)
    (segment : Segment) (rest : List Segment) : leadsOn (segment :: rest) v = false := by
  cases v <;> cases segment <;> cases hentries <;> cases hitems <;> rw [leadsOn] <;> simp

namespace RuleTable

variable {table : RuleTable} {path : List Segment} {v : Value}

/-- Some rule is for a place or leads on from it, into the value there. -/
def LeadsInto (table : RuleTable) (path : List Segment) (v : Value) : Prop :=
  ∃ r ∈ table.ruleList, ∃ rest, r.path = path ++ rest ∧ v.leadsOn rest = true

/-- Some rule leads on from a place, into the value there. -/
def LeadsBelow (table : RuleTable) (path : List Segment) (v : Value) : Prop :=
  ∃ r ∈ table.ruleList, ∃ segment rest, r.path = path ++ segment :: rest ∧
    v.leadsOn (segment :: rest) = true

theorem leadsInto_ruled {r : Rule} (h : table.ruleAt path = some r) (v : Value) :
    table.LeadsInto path v := by
  obtain ⟨hmem, hpath⟩ := ruleAt_eq_some h
  exact ⟨r, hmem, [], by rw [hpath, List.append_nil], by rw [Value.leadsOn]⟩

theorem leadsInto_free (h : table.ruleAt path = none) :
    table.LeadsInto path v ↔ table.LeadsBelow path v := by
  constructor
  · rintro ⟨r, hr, rest, hpath, hleads⟩
    cases rest with
    | nil =>
      rw [List.append_nil] at hpath
      have hnone := List.find?_eq_none.mp h r hr
      exact absurd hpath (by simpa using hnone)
    | cons segment rest => exact ⟨r, hr, segment, rest, hpath, hleads⟩
  · rintro ⟨r, hr, segment, rest, hpath, hleads⟩
    exact ⟨r, hr, segment :: rest, hpath, hleads⟩

theorem not_leadsBelow_of_nil (h : table.below path = []) : ¬ table.LeadsBelow path v := by
  rintro ⟨r, hr, segment, rest, hpath, -⟩
  have hmem : r ∈ table.below path :=
    mem_below.mpr ⟨hr, ⟨segment :: rest, hpath.symm⟩, by rw [hpath]; simp⟩
  rw [h] at hmem
  cases hmem

theorem leadsBelow_dict {ordered : Bool} {es : Entries Value} :
    table.LeadsBelow path (.dict ordered es) ↔ ∃ s ∈ table.namesBelow path, table.LeadsInto
      (path ++ [Segment.name s]) ((Entries.find? (.str s) es).getD (.dict false [])) := by
  constructor
  · rintro ⟨r, hr, segment, rest, hpath, hleads⟩
    cases segment with
    | wildcard => simp [Value.leadsOn] at hleads
    | name s =>
      rw [Value.leadsOn] at hleads
      have hlonger : r.path = (path ++ [Segment.name s]) ++ rest := by simp [hpath]
      exact ⟨s, mem_namesBelow.mpr ⟨r, hr, rest, hlonger.symm⟩, r, hr, rest, hlonger, hleads⟩
  · rintro ⟨s, -, r, hr, rest, hpath, hleads⟩
    refine ⟨r, hr, .name s, rest, by simp [hpath], ?_⟩
    rw [Value.leadsOn]
    exact hleads

theorem leadsBelow_items {xs : List Value} (h : v.items? = some xs) :
    table.LeadsBelow path v ↔ ∃ x ∈ xs, table.LeadsInto (path ++ [Segment.wildcard]) x := by
  constructor
  · rintro ⟨r, hr, segment, rest, hpath, hleads⟩
    cases segment with
    | name s =>
      rw [Value.leadsOn_items_name h] at hleads
      cases hleads
    | wildcard =>
      rw [Value.leadsOn_items h] at hleads
      obtain ⟨x, hx, hleads⟩ := List.any_eq_true.mp hleads
      exact ⟨x, hx, r, hr, rest, by simp [hpath], hleads⟩
  · rintro ⟨x, hx, r, hr, rest, hpath, hleads⟩
    refine ⟨r, hr, .wildcard, rest, by simp [hpath], ?_⟩
    rw [Value.leadsOn_items h]
    exact List.any_eq_true.mpr ⟨x, hx, hleads⟩

theorem itemsBelow_of_leadsInto (h : table.LeadsInto (path ++ [Segment.wildcard]) v) :
    table.itemsBelow path = true := by
  obtain ⟨r, hr, rest, hpath, -⟩ := h
  exact itemsBelow_iff.mpr ⟨r, hr, rest, hpath.symm⟩

end RuleTable

namespace Descent

variable {table : RuleTable} {judge : Judge} {lingering : Bool} {place : Place}

theorem judged_visits_ne_nil {settle : Value → Value × List Visit} {r : Rule} {given : Value}
    {lingers : Bool} : (judged judge settle r place given lingers).2 ≠ [] := by
  unfold judged
  dsimp only
  split
  · exact List.cons_ne_nil _ _
  · exact List.cons_ne_nil _ _

theorem items_visits_ne_nil {f : Nat → Value → Option Value × List Visit} {p : Value → Prop}
    (hf : ∀ i v, (f i v).2 ≠ [] ↔ p v) (xs : List Value) :
    ∀ n, (items f n xs).2 ≠ [] ↔ ∃ x ∈ xs, p x := by
  induction xs with
  | nil =>
    intro n
    simp [items]
  | cons v xs ih =>
    intro n
    have hhead := hf n v
    have hrest := ih (n + 1)
    rw [items, ne_eq, List.append_eq_nil_iff, not_and_or, ← ne_eq, ← ne_eq, hhead, hrest,
      List.exists_mem_cons_iff]

/-- A rule of a key is visited itself; without one the question goes on below the key. -/
theorem settleKey_ne_nil_iff {s : String} (hbelow : ∀ v,
    (settle table judge lingering (place ++ [Step.key s]) v).2 ≠ [] ↔
      table.LeadsBelow (Place.path (place ++ [Step.key s])) v) (cell : Option Value) :
    (settleKey table judge lingering place s cell).2 ≠ [] ↔
      table.LeadsInto (place.path ++ [Segment.name s]) (cell.getD (.dict false [])) := by
  rw [← Place.path_key]
  unfold settleKey
  cases hrule : table.ruleAt (Place.path (place ++ [Step.key s])) with
  | some r =>
    rw [entry_ruled hrule]
    exact ⟨fun _ => RuleTable.leadsInto_ruled hrule _, fun _ => judged_visits_ne_nil⟩
  | none =>
    rw [RuleTable.leadsInto_free hrule, ← hbelow]
    cases cell with
    | some v => rw [entry_free hrule, Option.getD_some]
    | none => rw [entry_missing hrule, Option.getD_none]

theorem settleItem_ne_nil_iff {i : Nat} (hbelow : ∀ v,
    (settle table judge lingering (place ++ [Step.index i]) v).2 ≠ [] ↔
      table.LeadsBelow (Place.path (place ++ [Step.index i])) v) (v : Value) :
    (settleItem table judge lingering place i v).2 ≠ [] ↔
      table.LeadsInto (place.path ++ [Segment.wildcard]) v := by
  rw [← Place.path_index place i]
  unfold settleItem
  cases hrule : table.ruleAt (Place.path (place ++ [Step.index i])) with
  | some r =>
    rw [item_ruled hrule]
    exact ⟨fun _ => RuleTable.leadsInto_ruled hrule _, fun _ => judged_visits_ne_nil⟩
  | none => rw [item_free hrule, RuleTable.leadsInto_free hrule, ← hbelow]

/-- Something is visited below a place exactly if some rule leads on into the value there. -/
theorem settle_ne_nil_iff :
    ∀ place v, (settle table judge lingering place v).2 ≠ [] ↔ table.LeadsBelow place.path v := by
  refine place_induction table ?_ ?_
  · intro place hbelow v
    rw [settle_nil hbelow]
    exact ⟨fun h => absurd rfl h, fun h => absurd h (RuleTable.not_leadsBelow_of_nil hbelow)⟩
  · intro place hbelow ih v
    cases hentries : v.entries? with
    | some es =>
      obtain ⟨ordered, rfl⟩ := Value.eq_dict_of_entries? hentries
      rw [settle_dict hbelow, RuleTable.leadsBelow_dict]
      dsimp only
      rw [entries_visits (table.nodup_namesBelow _), ne_eq, List.flatMap_eq_nil_iff]
      push Not
      exact exists_congr fun s => and_congr_right fun _ => settleKey_ne_nil_iff (ih (.key s)) _
    | none =>
      cases hitems : v.items? with
      | some xs =>
        rw [settle_items hbelow hitems, RuleTable.leadsBelow_items hitems]
        split
        · exact items_visits_ne_nil (fun i => settleItem_ne_nil_iff (ih (.index i))) xs 0
        · next hwild =>
          refine ⟨fun h => absurd rfl h, ?_⟩
          rintro ⟨x, -, hleads⟩
          exact absurd (RuleTable.itemsBelow_of_leadsInto hleads) hwild
      | none =>
        rw [settle_scalar hentries hitems]
        refine ⟨fun h => absurd rfl h, ?_⟩
        rintro ⟨r, -, segment, rest, -, hleads⟩
        rw [Value.leadsOn_scalar hentries hitems] at hleads
        cases hleads

/-- From a place that ended as a missing value, the descent goes on exactly if the place is an element
of a list and some rule leads on into the value that it was given. -/
theorem beneath_ne_nil_iff {v : Visit} (hs : v.outcome.state.succeeded = true)
    (habsent : v.outcome.value.isAbsent = true) :
    beneath table judge v ≠ [] ↔
      v.place.isItem = true ∧ table.LeadsBelow v.place.path v.given := by
  have hkept : v.outcome.kept? = none := by
    rw [FieldOutcome.kept?, hs, habsent]
    rfl
  unfold beneath
  rw [hkept, hs, Bool.and_true]
  dsimp only
  by_cases hitem : v.place.isItem = true
  · rw [if_pos hitem, settle_ne_nil_iff]
    exact ⟨fun h => ⟨hitem, h⟩, fun h => h.2⟩
  · rw [if_neg hitem]
    exact ⟨fun h => absurd rfl h, fun h => absurd h.1 hitem⟩

end Descent

namespace Validator

variable {registry : Registry} {o : PathOptions} {schema : Value} {v : Validator}

/-- Below a place that ended as a missing value, a run comes to a task only if the place is an element
of a list and some rule leads on into the value that it was given; and if the run comes to its end,
then exactly if so. -/
theorem evaluates_below_absent_iff (hv : compile registry o schema = .ok v) {cb : Callbacks}
    {es : Entries Value} {t : Task} {outcome : FieldOutcome}
    (hyields : Run.Yields v.registry cb v.table es t) (hends : Run.Ends v.registry cb t outcome)
    (hs : outcome.state.succeeded = true) (habsent : outcome.value.isAbsent = true) :
    (∀ t', Run.Yields v.registry cb v.table es t' → t'.place.Extends t.place →
      t.place.isItem = true ∧ v.table.LeadsBelow t.place.path t.value) ∧
    ∀ before calls finished, Run.execute v.registry cb v.table es before = (.ok finished, calls) →
      ((∃ e ∈ finished.outcomes, e.1.Extends t.place) ↔
        t.place.isItem = true ∧ v.table.LeadsBelow t.place.path t.value) := by
  obtain ⟨ht, -⟩ := compile_compiled hv
  let judge := Field.judge v.registry cb.calm v.table
  have hspread := Descent.visits_spread ht judge es
  obtain ⟨w, hw, hrule, hplace, hgiven, hdotted⟩ := hyields.visit ht
  have houtcome : w.outcome = outcome := by
    obtain ⟨calls, calls', hevaluate⟩ := hends
    obtain ⟨rfl, -⟩ := Field.evaluate_of_ok v.registry cb _ _ hevaluate
    rw [← hrule, ← hdotted, ← hgiven]
    exact (Descent.settle_judged [] (.dict false es) w (Descent.mem_visits.mp hw)).2.2
  have hbeneath := @Descent.beneath_ne_nil_iff v.table judge w (houtcome ▸ hs) (houtcome ▸ habsent)
  rw [← hspread.below w hw, hplace, hgiven] at hbeneath
  constructor
  · intro t' hyields' hext
    obtain ⟨w', hw', -, hplace', -⟩ := hyields'.visit ht
    exact hbeneath.mp ⟨w', hw', hplace'.symm ▸ hext⟩
  · intro before calls finished hexecute
    rw [← hbeneath, Run.outcomes_of_execute ht hexecute]
    constructor
    · rintro ⟨e, he, hext⟩
      obtain ⟨w', hw', rfl⟩ := List.mem_map.mp he
      exact ⟨w', hw', hext⟩
    · rintro ⟨w', hw', hext⟩
      exact ⟨_, List.mem_map_of_mem hw', hext⟩

/-- An element that a transformation drops: the rule below it fails on the value that the element was
given, although nothing is left of the element. -/
theorem evaluates_below_absent_element :
    let schema : Value := .dict false [
      (.str "items.$", .dict false [(.str "type", .str "object"),
        (.str "transform", .callback "absent" [])]),
      (.str "items.$.id", .str "number")]
    let element : Value := .dict false [(.str "id", .str "x")]
    let es : Entries Value := [(.str "items", .list [element])]
    let cb : Callbacks := .answering fun _ => .absent
    let outcome : FieldOutcome := ⟨"items.0", .matched, .absent, some "object", none⟩
    ∃ v t finished calls, compile Registry.default .default schema = .ok v ∧
      Run.Yields v.registry cb v.table es t ∧ Run.Ends v.registry cb t outcome ∧
      outcome.state.succeeded = true ∧ outcome.value.isAbsent = true ∧
      Run.execute v.registry cb v.table es [] = (.ok finished, calls) ∧
      ((∃ e ∈ finished.outcomes, e.1.Extends t.place) ↔
        t.place.isItem = true ∧ v.table.LeadsBelow t.place.path t.value) ∧
      t.place = [.key "items", .index 0] ∧
      finished.outcomes.map (·.1) =
        [[.key "items", .index 0], [.key "items", .index 0, .key "id"]] ∧
      finished.report.errors.map (·.key) = ["items.0.id"] := by
  intro schema element es cb outcome
  let r : Rule := ⟨{ Contract.ofTypes ["object"] with transform := some (.callback "absent" []) },
    [.name "items", .wildcard]⟩
  let r' : Rule := ⟨.ofTypes ["number"], [.name "items", .wildcard, .name "id"]⟩
  let v : Validator := ⟨⟨.default, [("items.$", r), ("items.$.id", r')]⟩, Registry.default⟩
  let t : Task := ⟨r, 1, .index 0, [.key "items", .index 0], element, "items.0"⟩
  let e : FieldError := ⟨"items.0.id", .str "x", "string", ["number"]⟩
  let finished : Run.Finished := ⟨⟨.dict false [(.str "items", .list [])], [],
      [("items.0.id", .str "x")], [e]⟩,
    [([.key "items", .index 0], outcome),
      ([.key "items", .index 0, .key "id"], ⟨"items.0.id", .failed, .str "x", none, some e⟩)]⟩
  let call : Call := ⟨.callback "absent" [], element, "object", none⟩
  have hv : compile Registry.default .default schema = .ok v := by cbv
  have horder : v.table.byDepth = [r, r'] := by cbv
  have htasks : ((Run.start es).tree.resolve v.table r).2 = [t] := by cbv
  have hstart : Run.Reaches v.registry cb v.table es [] ⟨Run.start es, [], [r, r'], []⟩ := by
    rw [← horder]
    exact .start
  have hyields : Run.Yields v.registry cb v.table es t := by
    refine ⟨[], _, hstart.resolve, ?_⟩
    rw [htasks]
    exact List.mem_cons_self ..
  have hends : Run.Ends v.registry cb t outcome := ⟨[], [call], by cbv⟩
  have hexecute : Run.execute v.registry cb v.table es [] = (.ok finished, [call]) := by cbv
  have hiff := (evaluates_below_absent_iff hv hyields hends rfl rfl).2 [] [call] finished hexecute
  exact ⟨v, t, finished, [call], hv, hyields, hends, rfl, rfl, hexecute, hiff, rfl, rfl, rfl⟩

end Validator

end ArgumentSchema
