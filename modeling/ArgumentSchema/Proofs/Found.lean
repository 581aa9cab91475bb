import ArgumentSchema.Proofs.Keys
import ArgumentSchema.Proofs.Steady

/-!
# What a descent finds

What stands at a place when its rules look at it is decided by how the places above it have ended:
the value that the nearest evaluated place has kept, and in it what stands on the rest of the way.
`Value.found` says so in terms of the ends alone, without a tree. Where a key is missing that has no
rule of its own, the way goes on through an empty mapping.

In the output, what is found stands one step further to the front for each element before it that
was dropped from its list (`Place.compacted`).

> `Descent.settle_found`: what is found at a place, once settled, stands in the output at the
> compacted place.
> `Descent.found_of_mem`: a visit is given what stands where it looks, and what it keeps is found at
> its place.
-/

namespace ArgumentSchema

/-- What a path goes on into, one step from a value: what stands there or, where a key is missing,
an empty mapping. -/
def Value.beyond? (v : Value) : Step → Option Value
  | .key s => v.entries?.map fun es => (Entries.find? (.str s) es).getD (.dict false [])
  | .index i => v.items?.bind (·[i]?)

/-- What is found at a place below another, where the upper one holds a value and some places have
ended. -/
def Value.found (ends : Place → Option FieldOutcome) (upper : Place) (v : Value) :
    Place → Option Value
  | [] => some v
  | step :: rest =>
    (match ends (upper ++ [step]) with
      | some o => o.kept?
      | none => v.beyond? step).bind fun w => w.found ends (upper ++ [step]) rest

/-- Whether a place has ended without a value to keep. -/
def Place.dropped (ends : Place → Option FieldOutcome) (place : Place) : Bool :=
  (ends place).any (·.kept?.isNone)

/-- A step into the output: before an element of a list, dropped elements are left out. -/
def Step.compacted (gone : Place → Bool) (upper : Place) : Step → Step
  | .key s => .key s
  | .index i => .index (i - (List.range i).countP fun j => gone (upper ++ [.index j]))

/-- A place in the output, below an upper one. -/
def Place.compacted (gone : Place → Bool) (upper : Place) : Place → Place
  | [] => []
  | step :: rest => step.compacted gone upper :: Place.compacted gone (upper ++ [step]) rest

/-- What has a place is alone there. -/
theorem Place.step_inj {upper place : Place} {step step' : Step} (h : upper ++ [step] <+: place)
    (h' : upper ++ [step'] <+: place) : step = step' := by
  by_contra hne
  exact Place.not_prefix_of_steps hne h h' (List.prefix_refl _)

namespace Descent

variable {table : RuleTable} {judge : Judge}

/-! ## What remains of a list -/

theorem items_values (f : Nat → Value → Option Value × List Visit) (xs : List Value) :
    (items f 0 xs).1 =
      (List.range xs.length).filterMap fun i => (f i (xs[i]?.getD .absent)).1 := by
  have hfrom : ∀ (xs : List Value) (n : Nat), (items f n xs).1 =
      (List.range xs.length).filterMap fun i => (f (n + i) (xs[i]?.getD .absent)).1 := by
    intro xs
    induction xs with
    | nil => exact fun n => rfl
    | cons x xs ih =>
      intro n
      rw [items, ih, List.length_cons, List.range_succ_eq_map, List.filterMap_cons, List.filterMap_map]
      have htail : (fun i => (f (n + i) ((x :: xs)[i]?.getD .absent)).1) ∘ Nat.succ =
          fun i => (f (n + 1 + i) (xs[i]?.getD .absent)).1 := by
        funext i
        simp only [Function.comp, List.getElem?_cons_succ, Nat.succ_eq_add_one,
          show n + (i + 1) = n + 1 + i by omega]
      rw [htail]
      simp only [Nat.add_zero, List.getElem?_cons_zero, Option.getD_some]
      cases (f n x).1 <;> rfl
  have hzero := hfrom xs 0
  simp only [Nat.zero_add] at hzero
  exact hzero

/-- Of what remains of a range, the place of an element is that in the range less the number of
those before it that do not remain. -/
theorem getElem?_filterMap_range {α : Type} (g : Nat → Option α) {i n : Nat} {a : α} (hi : i < n)
    (ha : g i = some a) :
    ((List.range n).filterMap g)[i - (List.range i).countP fun j => (g j).isNone]? = some a := by
  have hlength : ∀ m, ((List.range m).filterMap g).length =
      m - (List.range m).countP fun j => (g j).isNone := by
    intro m
    have hsplit := List.length_eq_countP_add_countP (fun j => (g j).isNone) (l := List.range m)
    rw [List.length_range] at hsplit
    have hkept : ((List.range m).filterMap g).length =
        (List.range m).countP fun j => decide ¬ (g j).isNone = true := by
      rw [List.length_filterMap_eq_countP]
      refine List.countP_congr fun j _ => ?_
      cases g j <;> simp
    omega
  have hsplit : List.range n = List.range i ++ i :: (List.range n).drop (i + 1) := by
    have htake : (List.range n).take i = List.range i := by
      rw [List.take_range, Nat.min_eq_left (Nat.le_of_lt hi)]
    have hget : i < (List.range n).length := by rwa [List.length_range]
    have hdrop := List.drop_eq_getElem_cons hget
    rw [List.getElem_range] at hdrop
    rw [← htake, ← hdrop, List.take_append_drop]
  -- what remains of the range before it has exactly the length of its position
  rw [hsplit, List.filterMap_append, List.filterMap_cons_some ha, ← hlength i,
    List.getElem?_append_right (Nat.le_refl _), Nat.sub_self]
  rfl

/-! ## One step of a descent -/

/-- How a descent lands at a place where a given value stands, or none, and into which it goes on
with another: what remains there, and the visits. -/
inductive Lands (table : RuleTable) (judge : Judge) (place : Place) (child : Option Value)
    (beyond : Value) : Option Value → List Visit → Prop where
  /-- The rule of the place keeps a value, and the descent goes on into it. -/
  | kept {r : Rule} {w : Value} (rule : table.ruleAt place.path = some r)
      (keeps : (judge r place (child.getD .absent)).kept? = some w) :
      Lands table judge place child beyond (some (settle table judge true place w).1)
        (⟨r, place, child.getD .absent, judge r place (child.getD .absent)⟩ ::
          (settle table judge true place w).2)
  /-- The rule of the place keeps no value. -/
  | dropped {r : Rule} {ws : List Visit} (rule : table.ruleAt place.path = some r)
      (drops : (judge r place (child.getD .absent)).kept? = none) :
      Lands table judge place child beyond none
        (⟨r, place, child.getD .absent, judge r place (child.getD .absent)⟩ :: ws)
  /-- There is no rule for the place itself. -/
  | free (unruled : table.ruleAt place.path = none) :
      Lands table judge place child beyond (some (settle table judge true place beyond).1)
        (settle table judge true place beyond).2
  /-- There is neither a rule for the place nor a value. -/
  | made (unruled : table.ruleAt place.path = none) (missing : child = none)
      (empty : beyond = .dict false []) :
      Lands table judge place child beyond (unlessEmpty (settle table judge true place beyond).1)
        (settle table judge true place beyond).2

theorem judged_lands {place : Place} {r : Rule} (hrule : table.ruleAt place.path = some r)
    (child : Option Value) (beyond : Value) (lingers : Bool) :
    let w := judged judge (settle table judge true place) r place (child.getD .absent) lingers
    Lands table judge place child beyond w.1 w.2 := by
  intro w
  cases hkept : (judge r place (child.getD .absent)).kept? with
  | some u =>
    have hw : w = _ := judged_kept hkept lingers
    rw [hw]
    exact .kept hrule hkept
  | none =>
    have hw : w = (none, ⟨r, place, child.getD .absent, judge r place (child.getD .absent)⟩ ::
        if lingers && (judge r place (child.getD .absent)).state.succeeded then
          (settle table judge true place (child.getD .absent)).2 else []) := by
      simp only [w, judged, hkept]
    rw [hw]
    exact .dropped hrule hkept

theorem settleKey_lands (place : Place) (s : String) (cell : Option Value) :
    Lands table judge (place ++ [Step.key s]) cell (cell.getD (.dict false []))
      (settleKey table judge true place s cell).1 (settleKey table judge true place s cell).2 := by
  unfold settleKey
  cases hrule : table.ruleAt (Place.path (place ++ [Step.key s])) with
  | some r =>
    rw [entry_ruled hrule]
    exact judged_lands hrule cell _ false
  | none =>
    cases cell with
    | some v =>
      rw [entry_free hrule]
      exact .free hrule
    | none =>
      rw [entry_missing hrule]
      exact .made hrule rfl rfl

theorem settleItem_lands (place : Place) (i : Nat) (v : Value) :
    Lands table judge (place ++ [Step.index i]) (some v) v
      (settleItem table judge true place i v).1 (settleItem table judge true place i v).2 := by
  unfold settleItem
  cases hrule : table.ruleAt (Place.path (place ++ [Step.index i])) with
  | some r =>
    rw [item_ruled hrule]
    exact judged_lands hrule (some v) v true
  | none =>
    rw [item_free hrule]
    exact .free hrule

/-- The ends of places below a place are those of visits. -/
def Told (ends : Place → Option FieldOutcome) (place : Place) (ws : List Visit) : Prop :=
  ∀ p o, p.Extends place → (ends p = some o ↔ ∃ w ∈ ws, w.place = p ∧ w.outcome = o)

section Told

variable {ends : Place → Option FieldOutcome} {place : Place} {v : Value}

/-- A place without a rule of its own does not end. -/
theorem Told.ends_eq_none (htold : Told ends place (settle table judge true place v).2) {step : Step}
    (hrule : table.ruleAt (Place.path (place ++ [step])) = none) : ends (place ++ [step]) = none := by
  cases hend : ends (place ++ [step]) with
  | none => rfl
  | some o =>
    obtain ⟨w, hw, hplace, -⟩ :=
      (htold _ o (Place.extends_of_step (List.prefix_refl _))).mp hend
    obtain ⟨hmem, hpath, -⟩ := settle_judged place v w hw
    have hruled := RuleTable.ruleAt_eq_none.mp hrule
    rw [← hplace, ← hpath, RuleTable.hasPath_iff.mpr ⟨w.rule, hmem, rfl⟩] at hruled
    cases hruled

/-- A visited place ends as it was judged. -/
theorem Told.ends_eq_some (htold : Told ends place (settle table judge true place v).2) {step : Step}
    {w : Visit} (hw : w ∈ (settle table judge true place v).2) (hplace : w.place = place ++ [step]) :
    ends (place ++ [step]) = some w.outcome :=
  (htold _ _ (Place.extends_of_step (List.prefix_refl _))).mpr ⟨w, hw, hplace, rfl⟩

/-- An element of a list is left out exactly if its place was dropped. -/
theorem isNone_settleItem (htold : Told ends place (settle table judge true place v).2)
    {xs : List Value} (hitems : v.items? = some xs) (hwild : table.itemsBelow place.path = true)
    {i : Nat} {x : Value} (hx : xs[i]? = some x) :
    (settleItem table judge true place i x).1.isNone =
      Place.dropped ends (place ++ [Step.index i]) := by
  have hlands := @settleItem_lands table judge place i x
  have hin := fun w => @mem_settle_item table judge place w i v x xs hitems hwild hx
  generalize (settleItem table judge true place i x).1 = cell at hlands
  generalize (settleItem table judge true place i x).2 = visits at hlands hin
  unfold Place.dropped
  cases hlands with
  | kept hrule hkeeps =>
    rw [htold.ends_eq_some (hin _ (List.mem_cons_self ..)) rfl, Option.any_some, hkeeps]
    rfl
  | dropped hrule hdrops =>
    rw [htold.ends_eq_some (hin _ (List.mem_cons_self ..)) rfl, Option.any_some, hdrops]
  | free hunruled =>
    rw [htold.ends_eq_none hunruled]
    rfl
  | made hunruled hmissing => cases hmissing

end Told

/-- How a descent goes on with a step from a value: either there is nothing to go on into, and
nothing is visited, or it lands one step further. -/
def GoesOn (table : RuleTable) (judge : Judge) (gone : Place → Bool) (place : Place) (v : Value)
    (step : Step) : Prop :=
  (v.beyond? step = none ∧
    ∀ w ∈ (settle table judge true place v).2, ¬ place ++ [step] <+: w.place) ∨
  ∃ raw cell ws, v.beyond? step = some raw ∧
    Lands table judge (place ++ [step]) (v.child? step) raw cell ws ∧
    (∀ w, w ∈ ws ↔ w ∈ (settle table judge true place v).2 ∧ place ++ [step] <+: w.place) ∧
    ∀ y, cell = some y →
      (settle table judge true place v).1.child? (step.compacted gone place) = some y

section GoesOn

variable {place : Place}

theorem settleKey_under (place : Place) (s : String) (cell : Option Value) :
    ∀ w ∈ (settleKey table judge true place s cell).2, place ++ [Step.key s] <+: w.place :=
  (settleKey_spreadAt (settle_spread table judge _) cell).2

theorem settleItem_under (place : Place) (i : Nat) (v : Value) :
    ∀ w ∈ (settleItem table judge true place i v).2, place ++ [Step.index i] <+: w.place :=
  (settleItem_spreadAt (settle_spread table judge _) v).2

theorem dict_goesOn (hbelow : table.below place.path ≠ []) (gone : Place → Bool) (ordered : Bool)
    (es : Entries Value) {step : Step}
    (hrule : ∃ r ∈ table.ruleList, Place.path (place ++ [step]) <+: r.path) :
    GoesOn table judge gone place (.dict ordered es) step := by
  have hvisits := @entries_visits (settleKey table judge true place) _
    (table.nodup_namesBelow place.path) es
  unfold GoesOn
  rw [settle_dict hbelow]
  dsimp only
  rw [hvisits]
  cases step with
  | index i =>
    refine Or.inl ⟨rfl, fun w hw hunder => ?_⟩
    obtain ⟨s, -, hw⟩ := List.mem_flatMap.mp hw
    cases Place.step_inj hunder (settleKey_under place s _ w hw)
  | key s =>
    have hs : s ∈ table.namesBelow place.path := by
      obtain ⟨r, hr, hpre⟩ := hrule
      rw [Place.path_key] at hpre
      exact RuleTable.mem_namesBelow.mpr ⟨r, hr, hpre⟩
    refine Or.inr ⟨_, _, _, rfl, settleKey_lands place s (Entries.find? (.str s) es), fun w => ?_, ?_⟩
    · constructor
      · intro hw
        exact ⟨List.mem_flatMap.mpr ⟨s, hs, hw⟩, settleKey_under place s _ w hw⟩
      · rintro ⟨hw, hunder⟩
        obtain ⟨s', -, hw⟩ := List.mem_flatMap.mp hw
        cases Place.step_inj hunder (settleKey_under place s' _ w hw)
        exact hw
    · intro y hy
      rw [← hy]
      exact find?_entries (table.nodup_namesBelow _) hs es

section Items

variable {ends : Place → Option FieldOutcome} {v : Value} {xs : List Value}

/-- What is visited below a list is visited at one of its elements. -/
theorem exists_item_of_mem (hitems : v.items? = some xs) (hbelow : table.below place.path ≠ [])
    {w : Visit} (hw : w ∈ (settle table judge true place v).2) :
    ∃ i x, xs[i]? = some x ∧ w ∈ (settleItem table judge true place i x).2 := by
  rw [settle_items hbelow hitems] at hw
  split at hw
  · dsimp only at hw
    rw [items_visits] at hw
    obtain ⟨e, he, hw⟩ := List.mem_flatMap.mp hw
    exact ⟨e.2, e.1, List.mem_zipIdx_iff_getElem?.mp he, hw⟩
  · cases hw

/-- What is left of a list: what remains of each element, in their order. -/
theorem settle_items_values (hitems : v.items? = some xs)
    (hwild : table.itemsBelow place.path = true) :
    (settle table judge true place v).1 = .list ((List.range xs.length).filterMap fun i =>
      (settleItem table judge true place i (xs[i]?.getD .absent)).1) := by
  obtain ⟨r, hr, hpre⟩ := RuleTable.itemsBelow_iff.mp hwild
  rw [settle_items (RuleTable.below_ne_nil hr hpre) hitems, if_pos hwild]
  dsimp only
  rw [items_values]

/-- What remains of an element stands at its compacted position. -/
theorem child?_settle_items (hitems : v.items? = some xs)
    (hwild : table.itemsBelow place.path = true)
    (htold : Told ends place (settle table judge true place v).2) {i : Nat} {x y : Value}
    (hx : xs[i]? = some x) (hy : (settleItem table judge true place i x).1 = some y) :
    (settle table judge true place v).1.child?
      ((Step.index i).compacted (Place.dropped ends) place) = some y := by
  let remains := fun j => (settleItem table judge true place j (xs[j]?.getD .absent)).1
  have hi : i < xs.length := (List.getElem?_eq_some_iff.mp hx).1
  have hremains : remains i = some y := by
    simp only [remains, hx, Option.getD_some]
    exact hy
  -- the elements before it that do not remain are those whose places were dropped
  have hcount : (List.range i).countP (fun j => (remains j).isNone) =
      (List.range i).countP fun j => Place.dropped ends (place ++ [Step.index j]) := by
    refine List.countP_congr fun j hj => ?_
    have hj : j < xs.length := Nat.lt_trans (List.mem_range.mp hj) hi
    have hget : xs[j]? = some xs[j] := List.getElem?_eq_getElem hj
    simp only [remains, hget, Option.getD_some]
    rw [isNone_settleItem htold hitems hwild hget]
  have hposition := getElem?_filterMap_range remains hi hremains
  rw [hcount] at hposition
  rw [settle_items_values hitems hwild]
  exact hposition

theorem items_goesOn (hitems : v.items? = some xs) (hbelow : table.below place.path ≠ [])
    (htold : Told ends place (settle table judge true place v).2) {step : Step}
    (hrule : ∃ r ∈ table.ruleList, Place.path (place ++ [step]) <+: r.path) :
    GoesOn table judge (Place.dropped ends) place v step := by
  cases step with
  | key s =>
    have hentries : v.entries? = none := by cases v <;> cases hitems <;> rfl
    refine Or.inl ⟨by rw [Value.beyond?, hentries]; rfl, fun w hw hunder => ?_⟩
    obtain ⟨i, x, -, hw⟩ := exists_item_of_mem hitems hbelow hw
    cases Place.step_inj hunder (settleItem_under place i x w hw)
  | index i =>
    have hwild : table.itemsBelow place.path = true := by
      obtain ⟨r, hr, hpre⟩ := hrule
      rw [Place.path_index] at hpre
      exact RuleTable.itemsBelow_iff.mpr ⟨r, hr, hpre⟩
    have hchild : v.child? (.index i) = xs[i]? := by rw [Value.child?, hitems]; rfl
    have hbeyond : v.beyond? (.index i) = xs[i]? := by rw [Value.beyond?, hitems]; rfl
    cases hx : xs[i]? with
    | none =>
      refine Or.inl ⟨hbeyond.trans hx, fun w hw hunder => ?_⟩
      obtain ⟨i', x, hx', hw⟩ := exists_item_of_mem hitems hbelow hw
      cases Place.step_inj hunder (settleItem_under place i' x w hw)
      rw [hx] at hx'
      cases hx'
    | some x =>
      rw [hx] at hchild
      refine Or.inr ⟨x, _, _, hbeyond.trans hx, hchild ▸ settleItem_lands place i x, fun w => ?_,
        fun y hy => child?_settle_items hitems hwild htold hx hy⟩
      constructor
      · intro hw
        exact ⟨mem_settle_item hitems hwild hx hw, settleItem_under place i x w hw⟩
      · rintro ⟨hw, hunder⟩
        obtain ⟨i', x', hx', hw⟩ := exists_item_of_mem hitems hbelow hw
        cases Place.step_inj hunder (settleItem_under place i' x' w hw)
        rw [hx] at hx'
        obtain rfl := Option.some.inj hx'
        exact hw

end Items

/-- How a descent goes on with a step that some rule goes on with. -/
theorem settle_goesOn {ends : Place → Option FieldOutcome} {v : Value}
    (htold : Told ends place (settle table judge true place v).2) {step : Step}
    (hrule : ∃ r ∈ table.ruleList, Place.path (place ++ [step]) <+: r.path) :
    GoesOn table judge (Place.dropped ends) place v step := by
  have hbelow : table.below place.path ≠ [] := by
    obtain ⟨r, hr, hpre⟩ := hrule
    rw [Place.path_append] at hpre
    exact RuleTable.below_ne_nil hr hpre
  cases hentries : v.entries? with
  | some es =>
    obtain ⟨ordered, rfl⟩ := Value.eq_dict_of_entries? hentries
    exact dict_goesOn hbelow _ ordered es hrule
  | none =>
    cases hitems : v.items? with
    | some xs => exact items_goesOn hitems hbelow htold hrule
    | none =>
      refine Or.inl ⟨?_, ?_⟩
      · cases step with
        | key s => rw [Value.beyond?, hentries]; rfl
        | index i => rw [Value.beyond?, hitems]; rfl
      · rw [settle_scalar hentries hitems]
        intro w hw
        cases hw

end GoesOn

/-! ## All the way -/

/-- Nothing is visited below a place that keeps no value. -/
def Barred (ws : List Visit) : Prop :=
  ∀ v ∈ ws, v.outcome.kept? = none → ∀ w ∈ ws, ¬ w.place.Extends v.place

section Way

variable {ends : Place → Option FieldOutcome} {place : Place} {ws ws' : List Visit} {step : Step}

/-- What is told below a place is told below a step from it, of the visits there. -/
theorem Told.onward (h : Told ends place ws)
    (hws' : ∀ w, w.place.Extends (place ++ [step]) → (w ∈ ws' ↔ w ∈ ws)) :
    Told ends (place ++ [step]) ws' := by
  intro p o hp
  have hlower : p.Extends place := Place.extends_of_step hp.1
  rw [h p o hlower]
  constructor
  · rintro ⟨w, hw, rfl, ho⟩
    exact ⟨w, (hws' w hp).mpr hw, rfl, ho⟩
  · rintro ⟨w, hw, rfl, ho⟩
    exact ⟨w, (hws' w hp).mp hw, rfl, ho⟩

theorem Barred.subset (h : Barred ws) (hws' : ∀ w ∈ ws', w ∈ ws) : Barred ws' :=
  fun v hv hkept w hw => h v (hws' v hv) hkept w (hws' w hw)

/-- What a step of a descent tells: where there is a rule, the place has ended as its judgement. -/
theorem Lands.ends_eq {v raw : Value} {cell : Option Value}
    (htold : Told ends place (settle table judge true place v).2)
    (hlands : Lands table judge (place ++ [step]) (v.child? step) raw cell ws)
    (hws : ∀ w, w ∈ ws ↔ w ∈ (settle table judge true place v).2 ∧ place ++ [step] <+: w.place) :
    ends (place ++ [step]) = (table.ruleAt (Place.path (place ++ [step]))).map fun r =>
      judge r (place ++ [step]) ((v.child? step).getD .absent) := by
  have hends : ∀ w ∈ ws, w.place = place ++ [step] → ends (place ++ [step]) = some w.outcome :=
    fun w hw hplace => htold.ends_eq_some ((hws w).mp hw).1 hplace
  cases hlands with
  | kept hrule hkeeps =>
    rw [hrule]
    exact hends _ (List.mem_cons_self ..) rfl
  | dropped hrule hdrops =>
    rw [hrule]
    exact hends _ (List.mem_cons_self ..) rfl
  | free hunruled =>
    rw [hunruled]
    exact htold.ends_eq_none hunruled
  | made hunruled hmissing hempty =>
    rw [hunruled]
    exact htold.ends_eq_none hunruled

/-- What a descent goes on with, one step from a value: what is found and visited on the way is found
and visited from there, and there it stands in the output, unless it was made and came to nothing. -/
structure Onward (table : RuleTable) (judge : Judge) (ends : Place → Option FieldOutcome)
    (place : Place) (v : Value) (step : Step) (w : Value) : Prop where
  found : ∀ rest, v.found ends place (step :: rest) = w.found ends (place ++ [step]) rest
  visits : ∀ u : Visit, u.place.Extends (place ++ [step]) →
    (u ∈ (settle table judge true (place ++ [step]) w).2 ↔ u ∈ (settle table judge true place v).2)
  stands :
    let settled := (settle table judge true (place ++ [step]) w).1
    (settle table judge true place v).1.child? (step.compacted (Place.dropped ends) place) =
        some settled ∨
      settled = .dict false [] ∧ ends (place ++ [step]) = none ∧ w = .dict false []

theorem Onward.told {v w : Value} (h : Onward table judge ends place v step w)
    (htold : Told ends place (settle table judge true place v).2) :
    Told ends (place ++ [step]) (settle table judge true (place ++ [step]) w).2 :=
  htold.onward h.visits

theorem Onward.barred {v w : Value} (h : Onward table judge ends place v step w)
    (hbarred : Barred (settle table judge true place v).2) :
    Barred (settle table judge true (place ++ [step]) w).2 :=
  hbarred.subset fun u hu => (h.visits u ((settle_spread table judge _ w).2 u hu)).mp hu

theorem mem_cons_of_extends {v u : Visit} {p : Place} (hplace : v.place = p)
    (hu : u.place.Extends p) : u ∈ v :: ws ↔ u ∈ ws := by
  rw [List.mem_cons]
  refine ⟨fun h => h.resolve_left ?_, Or.inr⟩
  rintro rfl
  exact hu.2 hplace.symm

/-- A descent either goes on with a step, or nothing is found there, and what is visited below lies
below a visit that kept no value. -/
theorem settle_onward {v : Value} (htold : Told ends place (settle table judge true place v).2)
    (hrule : ∃ r ∈ table.ruleList, Place.path (place ++ [step]) <+: r.path) :
    ((∀ rest, v.found ends place (step :: rest) = none) ∧
      ∀ u ∈ (settle table judge true place v).2, u.place.Extends (place ++ [step]) →
        ∃ d ∈ (settle table judge true place v).2, d.place = place ++ [step] ∧
          d.outcome.kept? = none) ∨
    ∃ w, Onward table judge ends place v step w := by
  rcases settle_goesOn htold hrule with ⟨hnone, hbare⟩ | ⟨raw, cell, ws, hraw, hlands, hws, hchild⟩
  · -- nothing to go on into: neither a value nor an end of the place
    refine Or.inl ⟨fun rest => ?_, fun u hu hext => absurd hext.1 (hbare u hu)⟩
    rw [Value.found]
    cases hends : ends (place ++ [step]) with
    | none => simp only [hnone, Option.bind_none]
    | some o =>
      obtain ⟨w, hw, hplace, -⟩ :=
        (htold _ o (Place.extends_of_step (List.prefix_refl _))).mp hends
      exact absurd (hplace ▸ List.prefix_refl _) (hbare w hw)
  · have hends := hlands.ends_eq htold hws
    have hvisits : ∀ u : Visit, u.place.Extends (place ++ [step]) →
        (u ∈ ws ↔ u ∈ (settle table judge true place v).2) := fun u hu => by
      rw [hws u]
      exact and_iff_left hu.1
    cases hlands with
    | @kept r w hruled hkeeps =>
      rw [hruled, Option.map_some] at hends
      refine Or.inr ⟨w, fun rest => ?_, fun u hu => ?_, Or.inl (hchild _ rfl)⟩
      · rw [Value.found, hends]
        simp only [hkeeps, Option.bind_some]
      · rw [← hvisits u hu, mem_cons_of_extends rfl hu]
    | dropped hruled hdrops =>
      rw [hruled, Option.map_some] at hends
      refine Or.inl ⟨fun rest => ?_, fun u _ _ => ?_⟩
      · rw [Value.found, hends]
        simp only [hdrops, Option.bind_none]
      · exact ⟨_, ((hws _).mp (List.mem_cons_self ..)).1, rfl, hdrops⟩
    | free hunruled =>
      rw [hunruled, Option.map_none] at hends
      refine Or.inr ⟨raw, fun rest => ?_, hvisits, Or.inl (hchild _ rfl)⟩
      rw [Value.found, hends]
      simp only [hraw, Option.bind_some]
    | made hunruled hmissing hempty =>
      rw [hunruled, Option.map_none] at hends
      refine Or.inr ⟨raw, fun rest => ?_, hvisits, ?_⟩
      · rw [Value.found, hends]
        simp only [hraw, Option.bind_some]
      · by_cases hbare : (settle table judge true (place ++ [step]) raw).1 = .dict false []
        · exact Or.inr ⟨hbare, hends, hempty⟩
        · exact Or.inl (hchild _ (unlessEmpty_of_ne hbare))

/-- A visit one step from a value is given what stands there, in a mapping or a list. -/
theorem given_of_mem {v : Value} (htold : Told ends place (settle table judge true place v).2)
    {u : Visit} (hu : u ∈ (settle table judge true place v).2) (hplace : u.place = place ++ [step]) :
    (v.beyond? step).isSome = true ∧ u.given = (v.child? step).getD .absent := by
  have hrule : ∃ r ∈ table.ruleList, Place.path (place ++ [step]) <+: r.path := by
    obtain ⟨hmem, hpath, -⟩ := settle_judged place v u hu
    exact ⟨u.rule, hmem, by rw [hpath, hplace]⟩
  have hunder : place ++ [step] <+: u.place := hplace ▸ List.prefix_refl _
  rcases settle_goesOn htold hrule with ⟨-, hbare⟩ | ⟨raw, cell, ws, hraw, hlands, hws, -⟩
  · exact absurd hunder (hbare u hu)
  · refine ⟨by rw [hraw]; rfl, ?_⟩
    have honce := (settle_spread table judge place v).1.once
    -- the visit is the only one of its place
    have halone : ∀ d ∈ ws, d.place = place ++ [step] → u = d := fun d hd hdplace =>
      List.inj_on_of_nodup_map honce hu ((hws d).mp hd).1 (hplace.trans hdplace.symm)
    have hbeyond : ∀ w, u ∉ (settle table judge true (place ++ [step]) w).2 := fun w hmem =>
      ((settle_spread table judge (place ++ [step]) w).2 u hmem).2 hplace.symm
    have hmem : u ∈ ws := (hws u).mpr ⟨hu, hunder⟩
    cases hlands with
    | kept hruled hkeeps => rw [halone _ (List.mem_cons_self ..) rfl]
    | dropped hruled hdrops => rw [halone _ (List.mem_cons_self ..) rfl]
    -- without a rule there is no visit of the place itself
    | free hunruled => exact absurd hmem (hbeyond _)
    | made hunruled hmissing hempty => exact absurd hmem (hbeyond _)

/-- What is found at a place, once settled, stands in the output at the compacted place; a mapping
that was made on the way is left out if nothing came to stand in it. -/
theorem settle_found (rest : Place) : ∀ (place : Place) (v x : Value),
    Told ends place (settle table judge true place v).2 → v.found ends place rest = some x →
    (∃ r ∈ table.ruleList, Place.path (place ++ rest) <+: r.path) →
    (rest = [] ∨ (ends (place ++ rest)).isSome = true ∨ x ≠ .dict false []) →
    (settle table judge true place v).1.at? (Place.compacted (Place.dropped ends) place rest) =
        some (settle table judge true (place ++ rest) x).1 ∧
      Told ends (place ++ rest) (settle table judge true (place ++ rest) x).2 := by
  induction rest with
  | nil =>
    intro place v x htold hfound _ _
    obtain rfl := Option.some.inj hfound
    rw [List.append_nil]
    exact ⟨rfl, htold⟩
  | cons step rest ih =>
    intro place v x htold hfound hrule hreal
    have hassoc : place ++ step :: rest = (place ++ [step]) ++ rest := by simp
    rw [hassoc] at hrule hreal ⊢
    have hstep : ∃ r ∈ table.ruleList, Place.path (place ++ [step]) <+: r.path := by
      obtain ⟨r, hr, hpre⟩ := hrule
      rw [Place.path_append] at hpre
      exact ⟨r, hr, (List.prefix_append ..).trans hpre⟩
    have hreal := hreal.resolve_left (List.cons_ne_nil _ _)
    rcases settle_onward htold hstep with ⟨hnone, -⟩ | ⟨w, honward⟩
    · rw [hnone] at hfound
      cases hfound
    · rw [honward.found] at hfound
      obtain ⟨hat, hbelow⟩ := ih _ w x (honward.told htold) hfound hrule (Or.inr hreal)
      refine ⟨?_, hbelow⟩
      rw [Place.compacted, Value.at?]
      rcases honward.stands with hchild | ⟨hbare, hends, hempty⟩
      · rw [hchild]
        exact hat
      · -- the way leads to or through a mapping that was made and came to nothing
        cases rest with
        | nil =>
          obtain rfl := Option.some.inj hfound
          rw [List.append_nil, hends] at hreal
          exact absurd hempty (hreal.resolve_left (by simp))
        | cons next rest =>
          rw [hbare, Place.compacted, Value.at?] at hat
          cases next <;> cases hat

/-- A visit is given what stands where it looks, in a mapping or a list that is found above it, and
what it keeps is found at its place. -/
theorem found_of_mem (rest : Place) : ∀ (place : Place) (v : Value),
    Told ends place (settle table judge true place v).2 →
    Barred (settle table judge true place v).2 →
    ∀ w ∈ (settle table judge true place v).2, w.place = place ++ rest →
      v.found ends place rest = w.outcome.kept? ∧
        ∃ upper step x, rest = upper ++ [step] ∧ v.found ends place upper = some x ∧
          (x.beyond? step).isSome = true ∧ w.given = (x.child? step).getD .absent := by
  induction rest with
  | nil =>
    intro place v _ _ w hw hplace
    rw [List.append_nil] at hplace
    exact absurd hplace.symm ((settle_spread table judge place v).2 w hw).2
  | cons step rest ih =>
    intro place v htold hbarred w hw hplace
    cases rest with
    | nil =>
      obtain ⟨hbeyond, hgiven⟩ := given_of_mem htold hw hplace
      refine ⟨?_, [], step, v, rfl, rfl, hbeyond, hgiven⟩
      rw [Value.found, htold.ends_eq_some hw hplace]
      exact Option.bind_fun_some _
    | cons next rest =>
      have hassoc : place ++ step :: next :: rest = (place ++ [step]) ++ next :: rest := by simp
      rw [hassoc] at hplace
      have hext : w.place.Extends (place ++ [step]) := by
        rw [hplace]
        exact ⟨List.prefix_append .., by simp⟩
      have hstep : ∃ r ∈ table.ruleList, Place.path (place ++ [step]) <+: r.path := by
        obtain ⟨hmem, hpath, -⟩ := settle_judged place v w hw
        refine ⟨w.rule, hmem, ?_⟩
        rw [hpath, hplace, (place ++ [step]).path_append]
        exact List.prefix_append ..
      rcases settle_onward htold hstep with ⟨-, hbelow⟩ | ⟨u, honward⟩
      · -- the visit would lie below one that keeps nothing
        obtain ⟨d, hd, hdplace, hkept⟩ := hbelow w hw hext
        exact absurd (hdplace ▸ hext) (hbarred d hd hkept w hw)
      · obtain ⟨hkept, upper, last, x, hrest, hx, hgiven⟩ := ih _ u (honward.told htold)
          (honward.barred hbarred) w ((honward.visits w hext).mpr hw) hplace
        refine ⟨(honward.found _).trans hkept, step :: upper, last, x, ?_, ?_, hgiven⟩
        · rw [hrest]
          rfl
        · exact (honward.found _).trans hx

end Way

end Descent

end ArgumentSchema
