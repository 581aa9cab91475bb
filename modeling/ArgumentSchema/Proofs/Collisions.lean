import ArgumentSchema.Proofs.Accounts
import ArgumentSchema.Proofs.Refinement
import Mathlib.Tactic.IntervalCases

/-!
# When keys collide

Two places of one run can have the same key, and then the later one takes the place of the earlier
one in the report. It takes a separator that is all digits and paths that go on behind a position:
with `1` between the segments, the positions `1, 10` and `11, 0` are both written `1110`, that is
`1` `1` `1` `0` with the separator at one place or the other.

> `Validator.keys_distinct_iff`: a way of writing paths keeps all outcomes of all runs apart, and so
> loses no entry of a report, exactly if some character of the separator is not a digit or no path
> goes on behind a wildcard.

One direction is that positions can be read back (`Validator.tally_of_compile`). For the other, a
list of lists is given to a path that goes through both, and two of its elements collide.
-/

namespace ArgumentSchema

/-! ## Positions with given digits -/

theorem exists_digitChar {c : Char} (h : c.isDigit = true) : ∃ k < 10, Nat.digitChar k = c := by
  have hrange : 48 ≤ c.toNat ∧ c.toNat ≤ 57 := by
    simpa [Char.isDigit, UInt32.le_iff_toNat_le] using h
  obtain ⟨n, hn⟩ : ∃ n, c.toNat = n := ⟨_, rfl⟩
  have hc : c = Char.ofNat n := by rw [← hn, Char.ofNat_toNat]
  rw [hn] at hrange
  subst hc
  refine ⟨n - 48, by omega, ?_⟩
  obtain ⟨lower, upper⟩ := hrange
  interval_cases n <;> rfl

/-- Digits after a one are those of a position. -/
theorem exists_toDigits (ds : List Char) (h : ∀ c ∈ ds, c.isDigit = true) :
    ∃ n, 0 < n ∧ Nat.toDigits 10 n = '1' :: ds := by
  induction ds using List.reverseRecOn with
  | nil => exact ⟨1, by omega, rfl⟩
  | append_singleton ds c ih =>
    obtain ⟨n, hpos, hn⟩ := ih fun d hd => h d (List.mem_append_left _ hd)
    obtain ⟨k, hk, hc⟩ := exists_digitChar (h c (by simp))
    refine ⟨10 * n + k, by omega, ?_⟩
    rw [← Nat.toDigits_append_toDigits (by omega) hpos hk, hn, Nat.toDigits_of_lt_base hk, hc]
    rfl

/-! ## A collision -/

namespace PathOptions

/-- A name that is neither the wildcard nor holds a digit. -/
def plainName (o : PathOptions) : String := if o.wildcard = "a" then "b" else "a"

/-- The path through a list of lists under a plain name. -/
def deepPath (o : PathOptions) : List Segment := [.name o.plainName, .wildcard, .wildcard]

/-- The text of this path. -/
def deepText (o : PathOptions) : String :=
  String.ofList (Text.join o.separator.toList
    [o.plainName.toList, o.wildcard.toList, o.wildcard.toList])

/-- The rule that accepts anything at this path. -/
def deepRule (o : PathOptions) : Rule := ⟨.any, o.deepPath⟩

/-- The table with this rule alone. -/
def deepTable (o : PathOptions) : RuleTable := ⟨o, [(Path.write o o.deepPath, o.deepRule)]⟩

theorem plainName_ne_wildcard (o : PathOptions) : o.plainName ≠ o.wildcard := by
  unfold plainName
  split
  · next h =>
    rw [h]
    decide
  · next h => exact fun heq => h heq.symm

theorem plainName_toList (o : PathOptions) :
    ∃ c : Char, c.isDigit = false ∧ o.plainName.toList = [c] := by
  unfold plainName
  split
  · exact ⟨'b', rfl, rfl⟩
  · exact ⟨'a', rfl, rfl⟩

variable {o : PathOptions}

/-- Where paths can go on behind a wildcard, the separator is not read too early there. -/
theorem GoesOn.clear (ho : o.Valid) (h : o.GoesOn) :
    Text.Clear o.separator.toList o.separator.toList o.wildcard.toList := by
  obtain ⟨raw, upper, segment, rest, hsplit⟩ := h
  have hrow := Text.row_splitOn ho.separator_ne_nil raw.toList
  have hpieces := Path.split?_eq_ok hsplit
  generalize Text.splitOn o.separator.toList raw.toList = pieces at hrow hpieces
  clear hsplit
  induction upper generalizing pieces with
  | nil =>
    cases pieces with
    | nil => cases hpieces
    | cons piece pieces =>
      obtain ⟨hpiece, hrest⟩ := List.cons.inj hpieces
      have hne : pieces ≠ [] := by
        rintro rfl
        cases hrest
      have hwildcard : piece = o.wildcard.toList := by
        unfold Path.readSegment at hpiece
        split at hpiece
        · assumption
        · cases hpiece
      rw [← hwildcard]
      exact ((Text.row_cons hne).mp hrow).1
  | cons x upper ih =>
    cases pieces with
    | nil => cases hpieces
    | cons piece pieces =>
      obtain ⟨-, hrest⟩ := List.cons.inj hpieces
      have hne : pieces ≠ [] := by
        rintro rfl
        simp at hrest
      exact ih _ ((Text.row_cons hne).mp hrow).2 hrest

theorem split?_deepText (ho : o.Valid) (hdigits : ∀ c ∈ o.separator.toList, c.isDigit = true)
    (hclear : Text.Clear o.separator.toList o.separator.toList o.wildcard.toList) :
    Path.split? o o.deepText = .ok o.deepPath := by
  obtain ⟨x, hx, hname⟩ := o.plainName_toList
  obtain ⟨c, hc⟩ := List.exists_mem_of_ne_nil _ ho.separator_ne_nil
  have hplain : Text.Clear o.separator.toList o.separator.toList o.plainName.toList := by
    refine Text.clear_of_foreign hc fun hmem => ?_
    rw [hname, List.mem_singleton] at hmem
    rw [← hmem, hdigits c hc] at hx
    cases hx
  have hsplit : Text.splitOn o.separator.toList o.deepText.toList =
      [o.plainName.toList, o.wildcard.toList, o.wildcard.toList] := by
    rw [deepText, String.toList_ofList]
    exact Text.splitOn_join ho.separator_ne_nil ⟨hplain, hclear, hclear.alone⟩
  have hne : o.plainName.toList ≠ o.wildcard.toList := fun h =>
    o.plainName_ne_wildcard (String.toList_injective h)
  have hsegment : Path.readSegment o o.plainName.toList = .name o.plainName := by
    rw [Path.readSegment, if_neg hne, String.ofList_toList]
  have hwildcard : Path.readSegment o o.wildcard.toList = .wildcard := by
    rw [Path.readSegment, if_pos rfl]
  have hempty : [o.plainName.toList, o.wildcard.toList, o.wildcard.toList].any (·.isEmpty) =
      false := by
    simp [hname, ho.wildcard_ne_nil]
  unfold Path.split?
  simp only [hsplit, hempty, List.map_cons, List.map_nil, hsegment, hwildcard]
  rfl

theorem compile_deepText (ho : o.Valid) (hdigits : ∀ c ∈ o.separator.toList, c.isDigit = true)
    (hclear : Text.Clear o.separator.toList o.separator.toList o.wildcard.toList)
    (registry : Registry) :
    Validator.compile registry o (.dict false [(.str o.deepText, .null)]) =
      .ok ⟨o.deepTable, registry⟩ := by
  have hread : RuleTable.readEntry registry o (.str o.deepText) .null =
      .ok (Path.write o o.deepPath, o.deepRule) := by
    simp only [RuleTable.readEntry, RuleTable.readPath, split?_deepText ho hdigits hclear]
    rfl
  unfold Validator.compile RuleTable.compile RuleTable.compilation
  simp only [RuleTable.fragments, List.flatten_cons, List.flatten_nil, List.append_nil,
    RuleTable.addEntries, hread]
  rfl

variable {registry : Registry} {answer : Call → Value}

/-- The rule at the deep path looks at each element of each list. -/
theorem exists_deep_visit (o : PathOptions) (judge : Judge) {xs : List (List Value)} {ys : List Value}
    {i j : Nat} (hi : xs[i]? = some ys) (hj : j < ys.length) :
    ∃ w ∈ Descent.visits o.deepTable judge true [(.str o.plainName, .list (xs.map .list))],
      w.place = [.key o.plainName, .index i, .index j] ∧
        w.outcome = judge o.deepRule w.place w.given := by
  have hrule : o.deepRule ∈ o.deepTable.ruleList := List.mem_singleton_self _
  have hnone : ∀ path : List Segment, path.length < 3 → o.deepTable.ruleAt path = none := by
    intro path hlength
    refine List.find?_eq_none.mpr fun r hr => ?_
    obtain rfl := List.mem_singleton.mp hr
    simp only [beq_iff_eq]
    rintro rfl
    exact Nat.lt_irrefl 3 hlength
  have hsome : o.deepTable.ruleAt o.deepPath = some o.deepRule := by
    simp [RuleTable.ruleAt, RuleTable.ruleList, deepTable, deepRule]
  let w : Visit := ⟨o.deepRule, [.key o.plainName, .index i, .index j], ys[j],
    judge o.deepRule [.key o.plainName, .index i, .index j] ys[j]⟩
  refine ⟨w, Descent.mem_visits.mpr ?_, rfl, rfl⟩
  refine Descent.mem_settle_key (s := o.plainName)
    (RuleTable.mem_namesBelow.mpr ⟨_, hrule, ⟨_, rfl⟩⟩) ?_
  have hfind : Entries.find? (.str o.plainName)
      [(Value.str o.plainName, Value.list (xs.map Value.list))] =
        some (.list (xs.map Value.list)) := by
    simp [Entries.find?, Value.sameKey_str]
  rw [hfind]
  unfold Descent.settleKey
  rw [Descent.entry_free (hnone _ (by simp))]
  refine Descent.mem_settle_item (i := i) (x := .list ys) rfl
    (RuleTable.itemsBelow_iff.mpr ⟨_, hrule, ⟨_, rfl⟩⟩) (by simp [hi]) ?_
  unfold Descent.settleItem
  rw [Descent.item_free (hnone _ (by simp))]
  refine Descent.mem_settle_item (i := j) (x := ys[j]) rfl
    (RuleTable.itemsBelow_iff.mpr ⟨_, hrule, ⟨_, rfl⟩⟩) (by simp [hj]) ?_
  unfold Descent.settleItem
  rw [Descent.item_ruled hsome]
  unfold Descent.judged
  dsimp only
  split
  · exact List.mem_cons_self ..
  · exact List.mem_cons_self ..

/-- Two positions, of which the digits of one come behind a one and the separator, and those of the
other before the separator and a zero, are written alike. -/
theorem write_collides (o : PathOptions) (name : String) {m n : Nat}
    (hm : Nat.toDigits 10 m = '1' :: (o.separator.toList ++ ['0']))
    (hn : Nat.toDigits 10 n = '1' :: (o.separator.toList ++ ['1'])) :
    Place.write o [.key name, .index 1, .index m] =
      Place.write o [.key name, .index n, .index 0] := by
  rw [Place.write_eq, Place.write_eq]
  refine congrArg String.ofList ?_
  rw [List.map_cons, List.map_cons, List.map_cons, List.map_nil, List.map_cons, List.map_cons,
    List.map_cons, List.map_nil]
  have hone : (Step.index 1).text = ['1'] := rfl
  have hzero : (Step.index 0).text = ['0'] := rfl
  rw [hone, hzero, show (Step.index m).text = _ from hm, show (Step.index n).text = _ from hn]
  simp [Text.join]

/-- Where digits alone separate the segments of paths that go on behind a wildcard, some run has
outcomes of two places under one key. -/
theorem exists_collision {o : PathOptions} (ho : o.Valid)
    (hdigits : ∀ c ∈ o.separator.toList, c.isDigit = true) (hon : o.GoesOn) :
    ∃ schema v cb data calls finished, Validator.compile Registry.default o schema = .ok v ∧
      v.run cb data [] [] = (.ok finished, calls) ∧
      ∃ e ∈ finished.outcomes, ∃ e' ∈ finished.outcomes, e.1 ≠ e'.1 ∧ e.2.key = e'.2.key := by
  obtain ⟨m, hm, hmdigits⟩ := exists_toDigits (o.separator.toList ++ ['0']) (by
    simpa [or_imp, forall_and] using hdigits)
  obtain ⟨n, hn, hndigits⟩ := exists_toDigits (o.separator.toList ++ ['1']) (by
    simpa [or_imp, forall_and] using hdigits)
  -- lists that are long enough for the elements at `1, m` and at `n, 0`
  let ys : List Value := List.replicate (m + 1) .null
  let xs : List (List Value) := List.replicate (n + 2) ys
  let es : Entries Value := [(.str o.plainName, .list (xs.map .list))]
  let answer : Call → Value := fun _ => .null
  let v : Validator := ⟨o.deepTable, Registry.default⟩
  let judge := Field.judge Registry.default answer o.deepTable
  have hv := compile_deepText ho hdigits (hon.clear ho) Registry.default
  obtain ⟨ht, -⟩ := Validator.compile_compiled hv
  have hrun : v.run (.answering answer) (.dict false es) [] [] = _ :=
    Validator.run_of_execute rfl (Run.execute_answering ht Registry.default answer es [])
  have hone : xs[1]? = some ys := by simp [xs]
  have hlast : xs[n]? = some ys := by simp [xs]
  obtain ⟨w, hw, hplace, houtcome⟩ := o.exists_deep_visit judge hone (j := m) (by simp [ys])
  obtain ⟨w', hw', hplace', houtcome'⟩ := o.exists_deep_visit judge hlast (j := 0) (by simp [ys])
  refine ⟨_, v, _, _, _, _, hv, hrun, _, List.mem_map_of_mem hw, _, List.mem_map_of_mem hw', ?_, ?_⟩
  · show w.place ≠ w'.place
    rw [hplace, hplace']
    simp only [ne_eq, List.cons.injEq, Step.index.injEq]
    omega
  · show w.outcome.key = w'.outcome.key
    rw [houtcome, houtcome', hplace, hplace']
    refine Field.outcome_key.trans (Eq.trans ?_ Field.outcome_key.symm)
    exact o.write_collides o.plainName hmdigits hndigits

end PathOptions

namespace Validator

/-- A way of writing paths keeps all outcomes of all runs apart, so that no entry of a report is
lost, exactly if some character of the separator is not a digit or no path goes on behind a
wildcard. -/
theorem keys_distinct_iff {o : PathOptions} (ho : o.Valid) :
    (∀ registry schema v, compile registry o schema = .ok v →
      ∀ cb data keywords calls calls' finished, v.run cb data keywords calls = (.ok finished, calls') →
        Run.Tally (finished.outcomes.map (·.2)) finished.report.passed finished.report.failed
          finished.report.errors) ↔
      (∃ c ∈ o.separator.toList, c.isDigit = false) ∨ ¬ o.GoesOn := by
  constructor
  · intro h
    by_contra hnot
    rw [not_or, not_not] at hnot
    obtain ⟨hdigits, hon⟩ := hnot
    have hdigits : ∀ c ∈ o.separator.toList, c.isDigit = true := by
      intro c hc
      rw [← Bool.not_eq_false]
      exact fun hdigit => hdigits ⟨c, hc, hdigit⟩
    obtain ⟨schema, v, cb, data, calls, finished, hv, hrun, e, he, e', he', hne, hkey⟩ :=
      PathOptions.exists_collision ho hdigits hon
    have hkeys := (h _ _ _ hv _ _ _ _ _ _ hrun).keys
    rw [List.map_map] at hkeys
    -- outcomes of different keys cannot be those of two places with one key
    exact hne (congrArg Prod.fst (List.inj_on_of_nodup_map hkeys he he' hkey))
  · intro hon registry schema v hv cb data keywords calls calls' finished hrun
    have hforeign : o.GoesOn → ∃ c ∈ o.separator.toList, c.isDigit = false :=
      fun hgoes => hon.resolve_right (not_not.mpr hgoes)
    obtain ⟨es, s, -, hreaches, hfinish⟩ := exists_finish_of_run hrun
    obtain ⟨-, houtcomes, hpassed, hfailed, herrors⟩ := Run.finish_eq_ok hfinish
    have htally := tally_of_compile hv ho hforeign hreaches
    dsimp only at htally
    rw [houtcomes, hpassed, hfailed, herrors]
    exact htally

/-- With a one between segments, which schemas may use, some report loses an entry. -/
theorem keys_distinct_iff_one :
    let o : PathOptions := ⟨"1", "$"⟩
    o.Valid ∧ ¬ ∀ registry schema v, compile registry o schema = .ok v →
      ∀ cb data keywords calls calls' finished, v.run cb data keywords calls = (.ok finished, calls') →
        Run.Tally (finished.outcomes.map (·.2)) finished.report.passed finished.report.failed
          finished.report.errors := by
  intro o
  have ho : o.Valid := by decide
  refine ⟨ho, fun h => ?_⟩
  rcases (keys_distinct_iff ho).mp h with ⟨c, hc, hdigit⟩ | hon
  · obtain rfl : c = '1' := by simpa [o] using hc
    cases hdigit
  · exact hon ⟨"a1$1$", [.name "a"], .wildcard, [], by cbv⟩

end Validator

end ArgumentSchema
