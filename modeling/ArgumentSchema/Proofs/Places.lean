import ArgumentSchema.Proofs.Chain
import ArgumentSchema.Proofs.Compiled

/-!
# The places of a descent

A descent visits no place twice, and it visits a place below another only where it has gone on from
there: into the value that the upper place kept or, for an element of a list that ended as a missing
value, into the value that the element was given.

> `Descent.settle_spread`: the visits below a place are `Spread`, and their places extend it.
> `Descent.visits_spread`: so are the visits of a whole document, in the order of a run.
-/

namespace ArgumentSchema

/-- What stands one step into a value. -/
def Value.child? (v : Value) : Step → Option Value
  | .key s => v.entries?.bind (Entries.find? (.str s))
  | .index i => v.items?.bind (·[i]?)

/-- What stands at a place of a value. -/
def Value.at? (v : Value) : Place → Option Value
  | [] => some v
  | step :: rest => (v.child? step).bind (·.at? rest)

/-- A place strictly below another. -/
def Place.Extends (place upper : Place) : Prop := upper <+: place ∧ upper ≠ place

/-- Whether a place is an element of a list. -/
def Place.isItem (place : Place) : Bool :=
  match place.getLast? with
  | some (.index _) => true
  | _ => false

namespace Place

variable {place place' upper : Place}

theorem isItem_key (place : Place) (s : String) : Place.isItem (place ++ [Step.key s]) = false := by
  simp [isItem]

theorem isItem_index (place : Place) (i : Nat) : Place.isItem (place ++ [Step.index i]) = true := by
  simp [isItem]

theorem extends_of_step {step : Step} (h : upper ++ [step] <+: place) :
    Place.Extends place upper := by
  refine ⟨(List.prefix_append ..).trans h, fun heq => ?_⟩
  have := h.length_le
  rw [List.length_append, List.length_singleton, heq] at this
  omega

theorem length_lt_of_extends (h : Place.Extends place upper) : upper.length < place.length := by
  refine Nat.lt_of_le_of_ne h.1.length_le fun heq => h.2 ?_
  exact h.1.eq_of_length heq

/-- Places below different steps are apart. -/
theorem not_prefix_of_steps {step step' : Step} (hne : step ≠ step')
    (h : upper ++ [step] <+: place) (h' : upper ++ [step'] <+: place') : ¬ place <+: place' := by
  intro hunder
  have heq : upper ++ [step] = upper ++ [step'] := by
    refine List.IsPrefix.eq_of_length ?_ (by simp)
    exact List.prefix_of_prefix_length_le (h.trans hunder) h' (by simp)
  exact hne (List.singleton_inj.mp (List.append_cancel_left heq))

end Place

theorem RuleTable.nodup_namesBelow (table : RuleTable) (path : List Segment) :
    (table.namesBelow path).Nodup :=
  nodup_eraseDups _

theorem RuleTable.below_ne_nil {table : RuleTable} {path : List Segment} {segment : Segment} {r : Rule}
    (hr : r ∈ table.ruleList) (h : path ++ [segment] <+: r.path) : table.below path ≠ [] := by
  refine List.ne_nil_of_mem (mem_below.mpr ⟨hr, (List.prefix_append ..).trans h, ?_⟩)
  have hlength := h.length_le
  rw [List.length_append, List.length_singleton] at hlength
  omega

namespace Descent

variable (table : RuleTable) (judge : Judge)

/-- The visits with which a descent goes on from a visited place. -/
def beneath (v : Visit) : List Visit :=
  match v.outcome.kept? with
  | some w => (settle table judge true v.place w).2
  | none =>
    if v.place.isItem && v.outcome.state.succeeded then (settle table judge true v.place v.given).2
    else []

/-- Visits of different places, of which one lies below another only where the descent has gone on
from there. -/
structure Spread (ws : List Visit) : Prop where
  once : (ws.map (·.place)).Nodup
  below : ∀ v ∈ ws, (∃ w ∈ ws, w.place.Extends v.place) ↔ beneath table judge v ≠ []

variable {table judge}

theorem Spread.nil : Spread table judge [] := ⟨List.nodup_nil, by simp⟩

/-- Visits of places that are apart. -/
theorem Spread.append {ws ws' : List Visit} (h : Spread table judge ws) (h' : Spread table judge ws')
    (hapart : ∀ w ∈ ws, ∀ w' ∈ ws', ¬ w.place <+: w'.place ∧ ¬ w'.place <+: w.place) :
    Spread table judge (ws ++ ws') := by
  refine ⟨?_, fun v hv => ?_⟩
  · rw [List.map_append, List.nodup_append]
    refine ⟨h.once, h'.once, ?_⟩
    intro p hp p' hp' heq
    obtain ⟨w, hw, rfl⟩ := List.mem_map.mp hp
    obtain ⟨w', hw', rfl⟩ := List.mem_map.mp hp'
    exact (hapart w hw w' hw').1 (heq ▸ List.prefix_refl _)
  · rcases List.mem_append.mp hv with hv | hv
    · rw [← h.below v hv]
      refine exists_congr fun w => and_congr_left fun hw => ?_
      rw [List.mem_append]
      refine ⟨fun hmem => hmem.resolve_right fun hmem => ?_, Or.inl⟩
      exact (hapart v hv w hmem).1 hw.1
    · rw [← h'.below v hv]
      refine exists_congr fun w => and_congr_left fun hw => ?_
      rw [List.mem_append]
      refine ⟨fun hmem => hmem.resolve_left fun hmem => ?_, Or.inr⟩
      exact (hapart w hmem v hv).2 hw.1

/-- A visit and those with which the descent goes on from it. -/
theorem Spread.visited {v : Visit} (h : Spread table judge (beneath table judge v))
    (hbelow : ∀ w ∈ beneath table judge v, w.place.Extends v.place) :
    Spread table judge (v :: beneath table judge v) := by
  refine ⟨?_, fun u hu => ?_⟩
  · rw [List.map_cons, List.nodup_cons]
    refine ⟨fun hmem => ?_, h.once⟩
    obtain ⟨w, hw, heq⟩ := List.mem_map.mp hmem
    exact (hbelow w hw).2 heq.symm
  · rcases List.mem_cons.mp hu with rfl | hu
    · constructor
      · rintro ⟨w, hw, hext⟩ hnil
        rw [hnil] at hw
        obtain rfl := List.mem_singleton.mp hw
        exact hext.2 rfl
      · intro hne
        obtain ⟨w, hw⟩ := List.exists_mem_of_ne_nil _ hne
        exact ⟨w, List.mem_cons_of_mem _ hw, hbelow w hw⟩
    · rw [← h.below u hu]
      refine exists_congr fun w => and_congr_left fun hw => ?_
      rw [List.mem_cons]
      refine ⟨fun hmem => hmem.resolve_left ?_, Or.inr⟩
      rintro rfl
      have hlt := Place.length_lt_of_extends hw
      have hlt' := Place.length_lt_of_extends (hbelow u hu)
      omega

/-! ## One place -/

theorem judged_eq_beneath (r : Rule) (place : Place) (given : Value) :
    (judged judge (settle table judge true place) r place given place.isItem).2 =
      ⟨r, place, given, judge r place given⟩ ::
        beneath table judge ⟨r, place, given, judge r place given⟩ := by
  unfold judged beneath
  dsimp only
  cases (judge r place given).kept? <;> rfl

/-- What is known of the visits at a place and below it. -/
def SpreadAt (table : RuleTable) (judge : Judge) (place : Place) (ws : List Visit) : Prop :=
  Spread table judge ws ∧ ∀ w ∈ ws, place <+: w.place

section Cells

variable {place : Place} (hsettle : ∀ v, Spread table judge (settle table judge true place v).2 ∧
  ∀ w ∈ (settle table judge true place v).2, w.place.Extends place)

include hsettle

theorem settle_spreadAt (v : Value) :
    SpreadAt table judge place (settle table judge true place v).2 :=
  ⟨(hsettle v).1, fun w hw => ((hsettle v).2 w hw).1⟩

theorem judged_spreadAt (r : Rule) (given : Value) :
    SpreadAt table judge place
      (judged judge (settle table judge true place) r place given place.isItem).2 := by
  let v : Visit := ⟨r, place, given, judge r place given⟩
  have hbeneath : Spread table judge (beneath table judge v) ∧
      ∀ w ∈ beneath table judge v, w.place.Extends v.place := by
    unfold beneath
    split
    · exact hsettle _
    · split
      · exact hsettle _
      · exact ⟨Spread.nil, by simp⟩
  rw [judged_eq_beneath]
  refine ⟨hbeneath.1.visited hbeneath.2, fun w hw => ?_⟩
  rcases List.mem_cons.mp hw with rfl | hw
  · exact List.prefix_refl _
  · exact (hbeneath.2 w hw).1

end Cells

theorem settleKey_spreadAt {place : Place} {s : String}
    (hsettle : ∀ v, Spread table judge (settle table judge true (place ++ [Step.key s]) v).2 ∧
      ∀ w ∈ (settle table judge true (place ++ [Step.key s]) v).2,
        w.place.Extends (place ++ [Step.key s]))
    (cell : Option Value) :
    SpreadAt table judge (place ++ [Step.key s]) (settleKey table judge true place s cell).2 := by
  unfold settleKey
  cases hrule : table.ruleAt (Place.path (place ++ [Step.key s])) with
  | some r =>
    have h := judged_spreadAt hsettle r (cell.getD .absent)
    rw [Place.isItem_key] at h
    rw [entry_ruled hrule]
    exact h
  | none =>
    cases cell with
    | some v =>
      rw [entry_free hrule]
      exact settle_spreadAt hsettle v
    | none =>
      rw [entry_missing hrule]
      exact settle_spreadAt hsettle (.dict false [])

theorem settleItem_spreadAt {place : Place} {i : Nat}
    (hsettle : ∀ v, Spread table judge (settle table judge true (place ++ [Step.index i]) v).2 ∧
      ∀ w ∈ (settle table judge true (place ++ [Step.index i]) v).2,
        w.place.Extends (place ++ [Step.index i])) (v : Value) :
    SpreadAt table judge (place ++ [Step.index i]) (settleItem table judge true place i v).2 := by
  unfold settleItem
  cases hrule : table.ruleAt (Place.path (place ++ [Step.index i])) with
  | some r =>
    have h := judged_spreadAt hsettle r v
    rw [Place.isItem_index] at h
    rw [item_ruled hrule]
    exact h
  | none =>
    rw [item_free hrule]
    exact settle_spreadAt hsettle v

/-! ## All places -/

/-- What is known of the visits below a place, where the next steps are among the given ones. -/
def SpreadBelow (table : RuleTable) (judge : Judge) (place : Place) (steps : Step → Prop)
    (ws : List Visit) : Prop :=
  Spread table judge ws ∧ ∀ w ∈ ws, ∃ step, steps step ∧ place ++ [step] <+: w.place

theorem SpreadBelow.append {place : Place} {step : Step} {steps : Step → Prop} {ws ws' : List Visit}
    (h : SpreadAt table judge (place ++ [step]) ws) (h' : SpreadBelow table judge place steps ws')
    (hstep : ¬ steps step) :
    SpreadBelow table judge place (fun x => x = step ∨ steps x) (ws ++ ws') := by
  refine ⟨h.1.append h'.1 fun w hw w' hw' => ?_, fun w hw => ?_⟩
  · obtain ⟨step', hstep', hunder⟩ := h'.2 w' hw'
    have hne : step ≠ step' := by
      rintro rfl
      exact hstep hstep'
    exact ⟨Place.not_prefix_of_steps hne (h.2 w hw) hunder,
      Place.not_prefix_of_steps hne.symm hunder (h.2 w hw)⟩
  · rcases List.mem_append.mp hw with hw | hw
    · exact ⟨step, Or.inl rfl, h.2 w hw⟩
    · obtain ⟨step', hstep', hunder⟩ := h'.2 w hw
      exact ⟨step', Or.inr hstep', hunder⟩

theorem entries_spread {place : Place} {f : String → Option Value → Option Value × List Visit}
    (hf : ∀ s cell, SpreadAt table judge (place ++ [Step.key s]) (f s cell).2) (names : List String) :
    names.Nodup → ∀ es,
      SpreadBelow table judge place (fun x => ∃ s ∈ names, x = .key s) (entries f names es).2 := by
  induction names with
  | nil =>
    intro _ es
    exact ⟨Spread.nil, fun w hw => by cases hw⟩
  | cons s names ih =>
    intro hnd es
    obtain ⟨hs, hnd⟩ := List.nodup_cons.mp hnd
    have hrest := ih hnd (Entries.put s (f s (Entries.find? (.str s) es)).1 es)
    have hnot : ¬ ∃ s' ∈ names, Step.key s = .key s' := by
      rintro ⟨s', hs', heq⟩
      cases heq
      exact hs hs'
    obtain ⟨hspread, hsteps⟩ := SpreadBelow.append (hf s _) hrest hnot
    refine ⟨hspread, fun w hw => ?_⟩
    obtain ⟨step, rfl | ⟨s', hs', rfl⟩, hunder⟩ := hsteps w hw
    · exact ⟨_, ⟨s, List.mem_cons_self .., rfl⟩, hunder⟩
    · exact ⟨_, ⟨s', List.mem_cons_of_mem _ hs', rfl⟩, hunder⟩

theorem items_spread {place : Place} {f : Nat → Value → Option Value × List Visit}
    (hf : ∀ i v, SpreadAt table judge (place ++ [Step.index i]) (f i v).2) (xs : List Value) :
    ∀ n, SpreadBelow table judge place (fun x => ∃ i, n ≤ i ∧ x = .index i) (items f n xs).2 := by
  induction xs with
  | nil =>
    intro n
    exact ⟨Spread.nil, fun w hw => by cases hw⟩
  | cons v xs ih =>
    intro n
    have hnot : ¬ ∃ i, n + 1 ≤ i ∧ Step.index n = .index i := by
      rintro ⟨i, hi, heq⟩
      cases heq
      omega
    obtain ⟨hspread, hsteps⟩ := SpreadBelow.append (hf n v) (ih (n + 1)) hnot
    refine ⟨hspread, fun w hw => ?_⟩
    obtain ⟨step, rfl | ⟨i, hi, rfl⟩, hunder⟩ := hsteps w hw
    · exact ⟨_, ⟨n, Nat.le_refl n, rfl⟩, hunder⟩
    · exact ⟨_, ⟨i, by omega, rfl⟩, hunder⟩

/-- The visits below a place are spread, and their places extend it. -/
theorem settle_spread (table : RuleTable) (judge : Judge) : ∀ (place : Place) (v : Value),
    Spread table judge (settle table judge true place v).2 ∧
      ∀ w ∈ (settle table judge true place v).2, w.place.Extends place := by
  have hnone : ∀ place : Place, Spread table judge [] ∧
      ∀ w ∈ ([] : List Visit), w.place.Extends place := by
    intro place
    exact ⟨Spread.nil, fun w hw => by cases hw⟩
  have hsome : ∀ {place : Place} {steps : Step → Prop} {ws : List Visit},
      SpreadBelow table judge place steps ws →
        Spread table judge ws ∧ ∀ w ∈ ws, w.place.Extends place := by
    intro place steps ws h
    refine ⟨h.1, fun w hw => ?_⟩
    obtain ⟨step, -, hunder⟩ := h.2 w hw
    exact Place.extends_of_step hunder
  refine place_induction table ?_ ?_
  · intro place hbelow v
    rw [settle_nil hbelow]
    exact hnone place
  · intro place hbelow ih v
    cases hentries : v.entries? with
    | some es =>
      obtain ⟨ordered, rfl⟩ := Value.eq_dict_of_entries? hentries
      rw [settle_dict hbelow]
      exact hsome (entries_spread (fun s cell => settleKey_spreadAt (ih (.key s)) cell) _
        (table.nodup_namesBelow _) es)
    | none =>
      cases hitems : v.items? with
      | some xs =>
        rw [settle_items hbelow hitems]
        split
        · exact hsome (items_spread (fun i v => settleItem_spreadAt (ih (.index i)) v) xs 0)
        · exact hnone place
      | none =>
        rw [settle_scalar hentries hitems]
        exact hnone place

/-! ## Rules -/

section Rules

variable {lingering : Bool} {p : Visit → Prop}

theorem forall_judged {settle : Value → Value × List Visit} {r : Rule} {place : Place}
    {given : Value} {lingers : Bool} (hv : p ⟨r, place, given, judge r place given⟩)
    (hsettle : ∀ v, ∀ w ∈ (settle v).2, p w) :
    ∀ w ∈ (judged judge settle r place given lingers).2, p w := by
  unfold judged
  dsimp only
  split
  · exact List.forall_mem_cons.mpr ⟨hv, hsettle _⟩
  · refine List.forall_mem_cons.mpr ⟨hv, ?_⟩
    split
    · exact hsettle given
    · simp

theorem forall_entries {f : String → Option Value → Option Value × List Visit}
    (hf : ∀ s cell, ∀ w ∈ (f s cell).2, p w) (names : List String) :
    ∀ es, ∀ w ∈ (entries f names es).2, p w := by
  induction names with
  | nil =>
    intro es w hw
    cases hw
  | cons s names ih =>
    intro es w hw
    rcases List.mem_append.mp hw with hw | hw
    · exact hf s _ w hw
    · exact ih _ w hw

theorem forall_items {f : Nat → Value → Option Value × List Visit}
    (hf : ∀ i v, ∀ w ∈ (f i v).2, p w) (xs : List Value) :
    ∀ n, ∀ w ∈ (items f n xs).2, p w := by
  induction xs with
  | nil =>
    intro n w hw
    cases hw
  | cons v xs ih =>
    intro n w hw
    rcases List.mem_append.mp hw with hw | hw
    · exact hf n v w hw
    · exact ih _ w hw

/-- What holds of every place that a rule of the table judges holds of all visits. -/
theorem forall_settle
    (hp : ∀ r ∈ table.ruleList, ∀ place given, r.path = Place.path place →
      p ⟨r, place, given, judge r place given⟩) :
    ∀ place v, ∀ w ∈ (settle table judge lingering place v).2, p w := by
  refine place_induction table ?_ ?_
  · intro place hbelow v w hw
    rw [settle_nil hbelow] at hw
    cases hw
  · intro place hbelow ih v
    have hkey : ∀ s cell, ∀ w ∈ (settleKey table judge lingering place s cell).2, p w := by
      intro s cell
      unfold settleKey
      cases hrule : table.ruleAt (Place.path (place ++ [Step.key s])) with
      | some r =>
        obtain ⟨hmem, hpath⟩ := RuleTable.ruleAt_eq_some hrule
        rw [entry_ruled hrule]
        exact forall_judged (hp r hmem _ _ hpath) (ih (.key s))
      | none =>
        cases cell with
        | some v =>
          rw [entry_free hrule]
          exact ih (.key s) v
        | none =>
          rw [entry_missing hrule]
          exact ih (.key s) _
    have hitem : ∀ i v, ∀ w ∈ (settleItem table judge lingering place i v).2, p w := by
      intro i v
      unfold settleItem
      cases hrule : table.ruleAt (Place.path (place ++ [Step.index i])) with
      | some r =>
        obtain ⟨hmem, hpath⟩ := RuleTable.ruleAt_eq_some hrule
        rw [item_ruled hrule]
        exact forall_judged (hp r hmem _ _ hpath) (ih (.index i))
      | none =>
        rw [item_free hrule]
        exact ih (.index i) v
    cases hentries : v.entries? with
    | some es =>
      obtain ⟨ordered, rfl⟩ := Value.eq_dict_of_entries? hentries
      rw [settle_dict hbelow]
      exact forall_entries hkey _ es
    | none =>
      cases hitems : v.items? with
      | some xs =>
        rw [settle_items hbelow hitems]
        split
        · exact forall_items hitem xs 0
        · simp
      | none =>
        rw [settle_scalar hentries hitems]
        simp

/-- A visit is the judgement of the rule of its path on the value given there. -/
theorem settle_judged (place : Place) (v : Value) :
    ∀ w ∈ (settle table judge lingering place v).2, w.rule ∈ table.ruleList ∧
      w.rule.path = w.place.path ∧ w.outcome = judge w.rule w.place w.given := by
  refine forall_settle (fun r hr place given hpath => ?_) place v
  exact ⟨hr, hpath, rfl⟩

end Rules

/-! ## The order of a run -/

theorem mem_inOrder {ws : List Visit}
    (hws : ∀ w ∈ ws, w.rule ∈ table.ruleList ∧ w.rule.path = w.place.path) {w : Visit} :
    w ∈ inOrder table ws ↔ w ∈ ws := by
  simp only [inOrder, List.mem_flatMap, List.mem_filter, RuleTable.mem_byDepth, beq_iff_eq]
  constructor
  · rintro ⟨r, -, hw, -⟩
    exact hw
  · intro hw
    obtain ⟨hmem, hpath⟩ := hws w hw
    exact ⟨w.rule, hmem, hw, hpath.symm⟩

theorem nodup_inOrder (ht : table.Compiled) {ws : List Visit} (hws : (ws.map (·.place)).Nodup) :
    ((inOrder table ws).map (·.place)).Nodup := by
  rw [inOrder, List.map_flatMap, List.nodup_flatMap]
  refine ⟨fun r _ => List.Nodup.sublist (List.filter_sublist.map _) hws, ?_⟩
  have hpaths := List.pairwise_map.mp ht.distinct_byDepth
  refine hpaths.imp fun {r r'} hne => ?_
  -- a place in both rounds would have the paths of both rules
  intro place hplace hplace'
  obtain ⟨w, hw, rfl⟩ := List.mem_map.mp hplace
  obtain ⟨w', hw', heq⟩ := List.mem_map.mp hplace'
  have hr : w.place.path = r.path := by simpa using (List.mem_filter.mp hw).2
  have hr' : w'.place.path = r'.path := by simpa using (List.mem_filter.mp hw').2
  rw [heq] at hr'
  exact hne (hr.symm.trans hr')

/-- The visits of a whole document are those that settle it, in the order of a run. -/
theorem mem_visits {lingering : Bool} {es : Entries Value} {w : Visit} :
    w ∈ visits table judge lingering es ↔
      w ∈ (settle table judge lingering [] (.dict false es)).2 :=
  mem_inOrder fun w hw =>
    have h := settle_judged [] (.dict false es) w hw
    ⟨h.1, h.2.1⟩

/-- The visits of a whole document are spread. -/
theorem visits_spread (ht : table.Compiled) (judge : Judge) (es : Entries Value) :
    Spread table judge (visits table judge true es) := by
  have hspread := (settle_spread table judge [] (.dict false es)).1
  refine ⟨nodup_inOrder ht hspread.once, fun v hv => ?_⟩
  rw [← hspread.below v (mem_visits.mp hv)]
  exact exists_congr fun w => and_congr_left fun _ => mem_visits

end Descent

end ArgumentSchema
