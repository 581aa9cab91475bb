import ArgumentSchema.Proofs.Places

/-!
# Settling what is settled

A judgement is `Steady` if it depends on the value alone, stands by what it has let through, and does
not turn against what it has dropped. A descent under a steady judgement is over after one time:

> `Descent.settle_settled`: settling a settled value gives the value back, and where the first time
> went without failures, so does the second.

Defaults make this more than a check of types: a default that stands for a bad value need not be good
itself, and is then replaced by itself. Positions in a list may change in between, since what is
dropped from it lets the others move up.
-/

namespace ArgumentSchema

/-- Values of one shape: both mappings, both rows of elements, or equal. -/
def Value.Alike (v w : Value) : Prop :=
  v = w ∨ (v.entries?.isSome = true ∧ w.entries?.isSome = true) ∨
    (v.items?.isSome = true ∧ w.items?.isSome = true)

/-- A judgement that depends on the value alone, lets through again what is of the shape of what it
has let through, and does not turn against what it has dropped. -/
structure Steady (table : RuleTable) (judge : Judge) : Prop where
  kept_place : ∀ r ∈ table.ruleList, ∀ p p' v, (judge r p v).kept? = (judge r p' v).kept?
  failure_place : ∀ r ∈ table.ruleList, ∀ p p' v,
    (judge r p v).failure? = none → (judge r p' v).failure? = none
  again : ∀ r ∈ table.ruleList, ∀ p v w, (judge r p v).kept? = some w → ∀ w', w.Alike w' →
    (judge r p w').kept? = some w' ∨ (judge r p w').kept? = some w
  dropped : ∀ r ∈ table.ruleList, ∀ p v, (judge r p v).kept? = none →
    (judge r p .absent).kept? = none ∧
      ((judge r p v).failure? = none → (judge r p .absent).failure? = none)

/-- Visits without failures. -/
def Clean (ws : List Visit) : Prop := ∀ w ∈ ws, w.outcome.failure? = none

theorem Clean.nil : Clean [] := by
  intro w hw
  cases hw

theorem clean_cons {w : Visit} {ws : List Visit} :
    Clean (w :: ws) ↔ w.outcome.failure? = none ∧ Clean ws := List.forall_mem_cons

theorem clean_append {ws ws' : List Visit} : Clean (ws ++ ws') ↔ Clean ws ∧ Clean ws' :=
  List.forall_mem_append

theorem FieldOutcome.failure?_of_kept? {o : FieldOutcome} {v : Value} (h : o.kept? = some v) :
    o.failure? = none := by
  rw [FieldOutcome.failure?, FieldOutcome.succeeded_of_kept? h, if_pos rfl]

namespace Descent

variable {table : RuleTable} {judge : Judge}

/-! ## Shapes -/

/-- What is settled keeps its shape. -/
theorem settle_alike (lingering : Bool) (place : Place) (v : Value) :
    v.Alike (settle table judge lingering place v).1 := by
  by_cases hbelow : table.below place.path = []
  · rw [settle_nil hbelow]
    exact Or.inl rfl
  · cases hentries : v.entries? with
    | some es =>
      obtain ⟨ordered, rfl⟩ := Value.eq_dict_of_entries? hentries
      rw [settle_dict hbelow]
      exact Or.inr (Or.inl ⟨rfl, rfl⟩)
    | none =>
      cases hitems : v.items? with
      | some xs =>
        rw [settle_items hbelow hitems]
        refine Or.inr (Or.inr ⟨by rw [hitems]; rfl, ?_⟩)
        split <;> rfl
      | none =>
        rw [settle_scalar hentries hitems]
        exact Or.inl rfl

/-! ## Places do not matter -/

/-- The second of two ways to settle ends as the first one does, and without failures if the first
one does. -/
def SameEnd {β : Type} (a b : β × List Visit) : Prop := a.1 = b.1 ∧ (Clean a.2 → Clean b.2)

theorem SameEnd.refl {β : Type} (a : β × List Visit) : SameEnd a a := ⟨rfl, id⟩

theorem SameEnd.trans {β : Type} {a b c : β × List Visit} (h : SameEnd a b) (h' : SameEnd b c) :
    SameEnd a c := ⟨h.1.trans h'.1, h'.2 ∘ h.2⟩

theorem entries_sameEnd {f g : String → Option Value → Option Value × List Visit}
    (hfg : ∀ s cell, SameEnd (f s cell) (g s cell)) (names : List String) :
    ∀ es, SameEnd (entries f names es) (entries g names es) := by
  induction names with
  | nil => exact fun es => SameEnd.refl _
  | cons s names ih =>
    intro es
    obtain ⟨hcell, hclean⟩ := hfg s (Entries.find? (.str s) es)
    obtain ⟨hrest, hclean'⟩ := ih (Entries.put s (f s (Entries.find? (.str s) es)).1 es)
    rw [entries, entries, ← hcell]
    refine ⟨hrest, fun h => ?_⟩
    obtain ⟨h, h'⟩ := clean_append.mp h
    exact clean_append.mpr ⟨hclean h, hclean' h'⟩

theorem items_sameEnd {f g : Nat → Value → Option Value × List Visit}
    (hfg : ∀ i v, SameEnd (f i v) (g i v)) (xs : List Value) :
    ∀ n, SameEnd (items f n xs) (items g n xs) := by
  induction xs with
  | nil => exact fun n => SameEnd.refl _
  | cons v xs ih =>
    intro n
    obtain ⟨hcell, hclean⟩ := hfg n v
    obtain ⟨hrest, hclean'⟩ := ih (n + 1)
    refine ⟨?_, fun h => ?_⟩
    · rw [items, items, hcell, hrest]
    · obtain ⟨h, h'⟩ := clean_append.mp h
      exact clean_append.mpr ⟨hclean h, hclean' h'⟩

theorem judged_sameEnd (hsteady : Steady table judge) {r : Rule} (hr : r ∈ table.ruleList)
    {settle settle' : Value → Value × List Visit} (hsettle : ∀ v, SameEnd (settle v) (settle' v))
    (place place' : Place) (given : Value) :
    SameEnd (judged judge settle r place given false) (judged judge settle' r place' given false) := by
  have hplace := hsteady.kept_place r hr place place' given
  cases hkept : (judge r place given).kept? with
  | some v =>
    have hkept' := hplace.symm.trans hkept
    rw [judged_kept hkept, judged_kept hkept']
    obtain ⟨hvalue, hclean⟩ := hsettle v
    refine ⟨congrArg some hvalue, fun h => ?_⟩
    exact clean_cons.mpr ⟨FieldOutcome.failure?_of_kept? hkept', hclean (clean_cons.mp h).2⟩
  | none =>
    have hkept' := hplace.symm.trans hkept
    have hdropped := @judged_dropped judge settle r place given false hkept rfl
    have hdropped' := @judged_dropped judge settle' r place' given false hkept' rfl
    rw [hdropped, hdropped']
    refine ⟨rfl, fun h => clean_cons.mpr ⟨?_, Clean.nil⟩⟩
    exact hsteady.failure_place r hr place place' given (clean_cons.mp h).1

section Place

variable (hsteady : Steady table judge) {place place' : Place}
  (hpath : Place.path place' = Place.path place)
  (hsettle : ∀ v, SameEnd (settle table judge false place v) (settle table judge false place' v))

include hsteady hpath hsettle

theorem entry_sameEnd (cell : Option Value) :
    SameEnd (entry table judge (settle table judge false place) place cell)
      (entry table judge (settle table judge false place') place' cell) := by
  cases hrule : table.ruleAt place.path with
  | some r =>
    have hr := (RuleTable.ruleAt_eq_some hrule).1
    rw [entry_ruled hrule, entry_ruled (hpath ▸ hrule)]
    exact judged_sameEnd hsteady hr hsettle _ _ _
  | none =>
    cases cell with
    | some v =>
      rw [entry_free hrule, entry_free (hpath ▸ hrule)]
      exact ⟨congrArg some (hsettle v).1, (hsettle v).2⟩
    | none =>
      rw [entry_missing hrule, entry_missing (hpath ▸ hrule)]
      exact ⟨congrArg unlessEmpty (hsettle _).1, (hsettle _).2⟩

theorem item_sameEnd (v : Value) :
    SameEnd (item table judge false (settle table judge false place) place v)
      (item table judge false (settle table judge false place') place' v) := by
  cases hrule : table.ruleAt place.path with
  | some r =>
    have hr := (RuleTable.ruleAt_eq_some hrule).1
    rw [item_ruled hrule, item_ruled (hpath ▸ hrule)]
    exact judged_sameEnd hsteady hr hsettle _ _ _
  | none =>
    rw [item_free hrule, item_free (hpath ▸ hrule)]
    exact ⟨congrArg some (hsettle v).1, (hsettle v).2⟩

end Place

/-- What is settled depends on the path of the place alone. -/
theorem settle_sameEnd (hsteady : Steady table judge) :
    ∀ place place', Place.path place' = Place.path place → ∀ v,
      SameEnd (settle table judge false place v) (settle table judge false place' v) := by
  refine place_induction table ?_ ?_
  · intro place hbelow place' hpath v
    rw [settle_nil hbelow, settle_nil (hpath ▸ hbelow)]
    exact SameEnd.refl _
  · intro place hbelow ih place' hpath v
    have hbelow' : table.below (Place.path place') ≠ [] := hpath ▸ hbelow
    have hkey : ∀ s cell, SameEnd (settleKey table judge false place s cell)
        (settleKey table judge false place' s cell) := by
      intro s cell
      have hpath' : Place.path (place' ++ [Step.key s]) = Place.path (place ++ [Step.key s]) := by
        rw [Place.path_key, Place.path_key, hpath]
      exact entry_sameEnd hsteady hpath' (ih (.key s) _ hpath') cell
    have hitem : ∀ i v, SameEnd (settleItem table judge false place i v)
        (settleItem table judge false place' i v) := by
      intro i v
      have hpath' : Place.path (place' ++ [Step.index i]) = Place.path (place ++ [Step.index i]) := by
        rw [Place.path_index, Place.path_index, hpath]
      exact item_sameEnd hsteady hpath' (ih (.index i) _ hpath') v
    cases hentries : v.entries? with
    | some es =>
      obtain ⟨ordered, rfl⟩ := Value.eq_dict_of_entries? hentries
      rw [settle_dict hbelow, settle_dict hbelow', hpath]
      obtain ⟨hes, hclean⟩ := entries_sameEnd hkey (table.namesBelow place.path) es
      exact ⟨congrArg (Value.dict false) hes, hclean⟩
    | none =>
      cases hitems : v.items? with
      | some xs =>
        rw [settle_items hbelow hitems, settle_items hbelow' hitems, hpath]
        split
        · obtain ⟨hxs, hclean⟩ := items_sameEnd hitem xs 0
          exact ⟨congrArg Value.list hxs, hclean⟩
        · exact SameEnd.refl _
      | none =>
        rw [settle_scalar hentries hitems, settle_scalar hentries hitems]
        exact SameEnd.refl _

/-- The position of an element does not matter. -/
theorem settleItem_sameEnd (hsteady : Steady table judge) (place : Place) (i j : Nat) (v : Value) :
    SameEnd (settleItem table judge false place i v) (settleItem table judge false place j v) := by
  have hpath : Place.path (place ++ [Step.index j]) = Place.path (place ++ [Step.index i]) := by
    rw [Place.path_index, Place.path_index]
  exact item_sameEnd hsteady hpath (settle_sameEnd hsteady _ _ hpath) v

/-! ## Once is enough -/

/-- Keys whose contents are as settled leave a mapping as it is. -/
theorem entries_fixed {f : String → Option Value → Option Value × List Visit} {es : Entries Value}
    (names : List String)
    (hf : ∀ s ∈ names, (f s (Entries.find? (.str s) es)).1 = Entries.find? (.str s) es) :
    (entries f names es).1 = es := by
  induction names with
  | nil => rfl
  | cons s names ih =>
    rw [entries, hf s (List.mem_cons_self ..), Entries.put_find?]
    exact ih fun t ht => hf t (List.mem_cons_of_mem _ ht)

theorem items_fixed {f : Nat → Value → Option Value × List Visit} (ys : List Value) :
    (∀ y ∈ ys, ∀ j, (f j y).1 = some y) → ∀ n, (items f n ys).1 = ys := by
  induction ys with
  | nil =>
    intro _ n
    rfl
  | cons y ys ih =>
    intro hf n
    rw [items, hf y (List.mem_cons_self ..) n, ih (fun z hz => hf z (List.mem_cons_of_mem _ hz))]
    rfl

/-- What is left in a list was settled from one of its elements. -/
theorem exists_of_mem_items {f : Nat → Value → Option Value × List Visit} {y : Value}
    (xs : List Value) :
    ∀ n, y ∈ (items f n xs).1 →
      ∃ i, ∃ v ∈ xs, (f i v).1 = some y ∧ ∀ w ∈ (f i v).2, w ∈ (items f n xs).2 := by
  induction xs with
  | nil =>
    intro n hy
    cases hy
  | cons v xs ih =>
    intro n hy
    rcases List.mem_append.mp hy with hy | hy
    · exact ⟨n, v, List.mem_cons_self .., Option.mem_toList.mp hy,
        fun w hw => List.mem_append_left _ hw⟩
    · obtain ⟨i, v', hmem, hv', hws⟩ := ih (n + 1) hy
      exact ⟨i, v', List.mem_cons_of_mem _ hmem, hv', fun w hw => List.mem_append_right _ (hws w hw)⟩

/-- A mapping whose keys are settled once and for all is settled once and for all; `es'` may have lost
keys that are not among the names. -/
theorem entries_again {f : String → Option Value → Option Value × List Visit}
    (hf : ∀ s cell, SameEnd (f s cell) (f s (f s cell).1)) {names : List String}
    (hnd : names.Nodup) {es es' : Entries Value}
    (hes' : ∀ s ∈ names, Entries.find? (.str s) es' = Entries.find? (.str s) (entries f names es).1) :
    (entries f names es').1 = es' ∧
      (Clean (entries f names es).2 → Clean (entries f names es').2) := by
  have hfind : ∀ s ∈ names, Entries.find? (.str s) es' = (f s (Entries.find? (.str s) es)).1 := by
    intro s hs
    rw [hes' s hs, find?_entries hnd hs]
  refine ⟨entries_fixed names fun s hs => ?_, fun h => ?_⟩
  · rw [hfind s hs]
    exact (hf s _).1.symm
  · rw [entries_visits hnd] at h ⊢
    intro w hw
    obtain ⟨s, hs, hw⟩ := List.mem_flatMap.mp hw
    rw [hfind s hs] at hw
    refine (hf s _).2 (fun w' hw' => ?_) w hw
    exact h w' (List.mem_flatMap.mpr ⟨s, hs, hw'⟩)

/-- A list whose elements are settled once and for all, at whatever position, is settled once and for
all. -/
theorem items_again {f : Nat → Value → Option Value × List Visit}
    (hf : ∀ i j v y, (f i v).1 = some y → SameEnd (f i v) (f j y)) (xs : List Value) :
    SameEnd (items f 0 xs) (items f 0 (items f 0 xs).1) := by
  refine ⟨(items_fixed _ (fun y hy j => ?_) 0).symm, fun h => ?_⟩
  · obtain ⟨i, v, -, hv, -⟩ := exists_of_mem_items xs 0 hy
    rw [← (hf i j v y hv).1, hv]
  · have hclean : ∀ ys : List Value, (∀ y ∈ ys, y ∈ (items f 0 xs).1) → ∀ n,
        Clean (items f n ys).2 := by
      intro ys
      induction ys with
      | nil => exact fun _ n => Clean.nil
      | cons y ys ih =>
        intro hys n
        obtain ⟨i, v, -, hv, hws⟩ := exists_of_mem_items xs 0 (hys y (List.mem_cons_self ..))
        refine clean_append.mpr ⟨?_, ih (fun z hz => hys z (List.mem_cons_of_mem _ hz)) (n + 1)⟩
        exact (hf i n v y hv).2 fun w hw => h w (hws w hw)
    exact hclean _ (fun y hy => hy) 0

section Again

variable (hsteady : Steady table judge) {place : Place}
  (hsettle : ∀ v, SameEnd (settle table judge false place v)
    (settle table judge false place (settle table judge false place v).1))

include hsteady hsettle

/-- What a steady judgement has let through is let through again, or a default stands for it again. -/
theorem judged_again {r : Rule} (hr : r ∈ table.ruleList) {given w : Value}
    (hkept : (judge r place given).kept? = some w) :
    SameEnd (judged judge (settle table judge false place) r place given false)
      (judged judge (settle table judge false place) r place (settle table judge false place w).1
        false) := by
  have halike := @settle_alike table judge false place w
  rw [judged_kept hkept]
  -- it is let through as it is, or replaced by the default it came from
  rcases hsteady.again r hr place given w hkept _ halike with hkept' | hkept'
  · rw [judged_kept hkept']
    refine ⟨congrArg some (hsettle w).1, fun h => ?_⟩
    exact clean_cons.mpr ⟨FieldOutcome.failure?_of_kept? hkept', (hsettle w).2 (clean_cons.mp h).2⟩
  · rw [judged_kept hkept']
    refine ⟨rfl, fun h => ?_⟩
    exact clean_cons.mpr ⟨FieldOutcome.failure?_of_kept? hkept', (clean_cons.mp h).2⟩

theorem entry_again (cell : Option Value) :
    SameEnd (entry table judge (settle table judge false place) place cell)
      (entry table judge (settle table judge false place) place
        (entry table judge (settle table judge false place) place cell).1) := by
  cases hrule : table.ruleAt place.path with
  | some r =>
    have hr := (RuleTable.ruleAt_eq_some hrule).1
    rw [entry_ruled hrule, entry_ruled hrule]
    cases hkept : (judge r place (cell.getD .absent)).kept? with
    | some w =>
      have hagain := judged_again hsteady hsettle hr hkept
      rw [judged_kept hkept] at hagain ⊢
      exact hagain
    | none =>
      obtain ⟨hkept', hfailure⟩ := hsteady.dropped r hr place _ hkept
      have hdropped := @judged_dropped judge (settle table judge false place) r place _ false hkept rfl
      have hdropped' := @judged_dropped judge (settle table judge false place) r place _ false hkept' rfl
      rw [hdropped]
      dsimp only [Option.getD_none]
      rw [hdropped']
      refine ⟨rfl, fun h => clean_cons.mpr ⟨hfailure (clean_cons.mp h).1, Clean.nil⟩⟩
  | none =>
    cases cell with
    | some v =>
      rw [entry_free hrule, entry_free hrule]
      exact ⟨congrArg some (hsettle v).1, (hsettle v).2⟩
    | none =>
      have hmade := hsettle (.dict false [])
      rw [entry_missing hrule]
      by_cases hempty : (settle table judge false place (.dict false [])).1 = .dict false []
      · rw [hempty, show unlessEmpty (.dict false []) = none from rfl, entry_missing hrule, hempty]
        exact SameEnd.refl _
      · rw [unlessEmpty_of_ne hempty, entry_free hrule]
        exact ⟨congrArg some hmade.1, hmade.2⟩

theorem item_again {v y : Value}
    (hy : (item table judge false (settle table judge false place) place v).1 = some y) :
    SameEnd (item table judge false (settle table judge false place) place v)
      (item table judge false (settle table judge false place) place y) := by
  cases hrule : table.ruleAt place.path with
  | some r =>
    have hr := (RuleTable.ruleAt_eq_some hrule).1
    rw [item_ruled hrule] at hy ⊢
    rw [item_ruled hrule]
    cases hkept : (judge r place v).kept? with
    | some w =>
      have hagain := judged_again hsteady hsettle hr hkept
      rw [judged_kept hkept] at hy
      obtain rfl := Option.some.inj hy
      exact hagain
    | none =>
      have hdropped := @judged_dropped judge (settle table judge false place) r place v false hkept rfl
      rw [hdropped] at hy
      cases hy
  | none =>
    rw [item_free hrule] at hy ⊢
    rw [item_free hrule]
    obtain rfl := Option.some.inj hy
    exact ⟨congrArg some (hsettle v).1, (hsettle v).2⟩

end Again

/-- Settling a settled value gives it back, and where the first time went without failures, so does
the second. -/
theorem settle_settled (hsteady : Steady table judge) : ∀ place v,
    SameEnd (settle table judge false place v)
      (settle table judge false place (settle table judge false place v).1) := by
  refine place_induction table ?_ ?_
  · intro place hbelow v
    rw [settle_nil hbelow, settle_nil hbelow]
    exact SameEnd.refl _
  · intro place hbelow ih v
    have hkey : ∀ s cell, SameEnd (settleKey table judge false place s cell)
        (settleKey table judge false place s (settleKey table judge false place s cell).1) :=
      fun s cell => entry_again hsteady (ih (.key s)) cell
    -- an element may have moved up in between, to a place of the same path
    have hitem : ∀ i j v y, (settleItem table judge false place i v).1 = some y →
        SameEnd (settleItem table judge false place i v) (settleItem table judge false place j y) := by
      intro i j v y hy
      refine (item_again hsteady (ih (.index i)) hy).trans ?_
      exact settleItem_sameEnd hsteady place i j y
    cases hentries : v.entries? with
    | some es =>
      obtain ⟨ordered, rfl⟩ := Value.eq_dict_of_entries? hentries
      rw [settle_dict hbelow, settle_dict hbelow]
      have hagain := @entries_again _ hkey _ (table.nodup_namesBelow place.path) es _ fun _ _ => rfl
      exact ⟨congrArg (Value.dict false) hagain.1.symm, hagain.2⟩
    | none =>
      cases hitems : v.items? with
      | some xs =>
        rw [settle_items hbelow hitems]
        split
        · next hwild =>
          rw [settle_items hbelow (show (Value.list _).items? = some _ from rfl), if_pos hwild]
          have hagain := items_again hitem xs
          exact ⟨congrArg Value.list hagain.1, hagain.2⟩
        · next hwild =>
          rw [settle_items hbelow (show (Value.list _).items? = some _ from rfl), if_neg hwild]
          exact SameEnd.refl _
      | none =>
        rw [settle_scalar hentries hitems, settle_scalar hentries hitems]
        exact SameEnd.refl _

/-! ## Documents -/

theorem find?_declared {s : String} (hs : s ∈ table.roots) (es : Entries Value) :
    Entries.find? (.str s) (declared table es) = Entries.find? (.str s) es := by
  unfold declared
  induction es with
  | nil => rfl
  | cons e es ih =>
    obtain ⟨k, v⟩ := e
    by_cases hk : (Value.str s).sameKey k = true
    · have hdeclared : (table.roots.any fun s => (Value.str s).sameKey k) = true :=
        List.any_eq_true.mpr ⟨s, hs, hk⟩
      rw [List.filter_cons_of_pos (by simpa using hdeclared)]
      simp only [Entries.find?, hk, if_true]
    · have hskip : Entries.find? (.str s) ((k, v) :: es) = Entries.find? (.str s) es := by
        simp only [Entries.find?, hk, if_false, Bool.false_eq_true]
      rw [hskip, ← ih, List.filter_cons]
      split
      · simp only [Entries.find?, hk, if_false, Bool.false_eq_true]
      · rfl

theorem mem_roots_of_mem_namesBelow {s : String} (hs : s ∈ table.namesBelow []) :
    s ∈ table.roots := by
  obtain ⟨r, hr, rest, hpath⟩ := RuleTable.mem_namesBelow.mp hs
  rw [RuleTable.roots, List.mem_eraseDups, List.mem_filterMap]
  refine ⟨r, hr, ?_⟩
  rw [RuleTable.root, ← hpath]
  rfl

/-- The visits of a document report no error exactly if none of them has failed. -/
theorem ok_report_iff {lingering : Bool} {es : Entries Value} :
    (report table judge lingering es).ok = true ↔
      Clean (settle table judge lingering [] (.dict false es)).2 := by
  have hmem : ∀ w, w ∈ visits table judge lingering es ↔
      w ∈ (settle table judge lingering [] (.dict false es)).2 :=
    fun w => mem_visits
  rw [Report.ok, List.isEmpty_iff, report, List.filterMap_eq_nil_iff]
  exact forall_congr' fun w => imp_congr_left (hmem w)

theorem declared_declared (es : Entries Value) :
    declared table (declared table es) = declared table es := by
  unfold declared
  rw [List.filter_filter]
  exact List.filter_congr fun e _ => Bool.and_self _

/-- A plain mapping is settled key by key, also where there are no rules. -/
theorem settle_plain (lingering : Bool) (place : Place) (es : Entries Value) :
    let settled := entries (settleKey table judge lingering place) (table.namesBelow place.path) es
    settle table judge lingering place (.dict false es) = (.dict false settled.1, settled.2) := by
  intro settled
  by_cases hbelow : table.below place.path = []
  · have hnames : table.namesBelow place.path = [] := by
      rw [RuleTable.namesBelow, hbelow]
      rfl
    rw [settle_nil hbelow]
    simp only [settled, hnames, entries]
  · exact settle_dict hbelow false es

/-- A document under a steady judgement is its own output after one time. -/
theorem report_settled (hsteady : Steady table judge) (es : Entries Value) :
    ∃ es', output table judge false es = .dict false es' ∧
      output table judge false es' = .dict false es' ∧
      ((report table judge false es).ok = true → (report table judge false es').ok = true) := by
  let f := settleKey table judge false []
  let names := table.namesBelow []
  have hsettle : ∀ es, settle table judge false [] (.dict false es) =
      (.dict false (entries f names es).1, (entries f names es).2) :=
    fun es => settle_plain false [] es
  have hkey : ∀ s cell, SameEnd (f s cell) (f s (f s cell).1) :=
    fun s cell => entry_again hsteady (settle_settled hsteady _) cell
  -- dropping the undeclared keys takes nothing away that a rule looks at
  have hfind : ∀ s ∈ names, Entries.find? (.str s) (declared table (entries f names es).1) =
      Entries.find? (.str s) (entries f names es).1 :=
    fun s hs => find?_declared (mem_roots_of_mem_namesBelow hs) _
  obtain ⟨hfixed, hclean⟩ := entries_again hkey (table.nodup_namesBelow []) hfind
  refine ⟨declared table (entries f names es).1, ?_, ?_, ?_⟩
  · rw [output, hsettle]
    rfl
  · rw [output, hsettle, hfixed]
    exact congrArg (Value.dict false) (declared_declared _)
  · rw [ok_report_iff, ok_report_iff, hsettle, hsettle]
    exact hclean

end Descent

end ArgumentSchema
