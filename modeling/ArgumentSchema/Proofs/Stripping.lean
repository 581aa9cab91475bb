import ArgumentSchema.Proofs.Cells
import ArgumentSchema.Proofs.Markers

/-!
# Where a missing key can be written out

A key with a rule of its own is missing to the rule if the marker for a missing value stands under it.
On the way to a rule it is not: there the marker is a value like any other, and ends the way. It stays
in the output, so that the output tells whether the markers of an input were taken for missing keys:

> `Descent.settle_unmarked`: the output has no marker under a key with a rule of its own, and none at
> all if neither the input nor a default has one on the way to a rule.
> `Descent.settle_stripped`: where the output has no marker on the way to a rule, stripping the input
> changes nothing but the order of entries.
> `Validator.check_stripped_iff`: so an input and the stripped input are checked alike, and no marker
> is left under a key that a rule is about, exactly if the output has no marker on the way to a rule.
-/

namespace ArgumentSchema

namespace Descent

variable {table : RuleTable} {judge : Judge}

/-! ## Markers in the output -/

theorem settle_eq_absent {lingering : Bool} {place : Place} {v : Value}
    (h : (settle table judge lingering place v).1 = .absent) : v = .absent := by
  have halike := (@settle_alike table judge lingering place v).isAbsent_eq
  rw [h] at halike
  exact Value.isAbsent_iff.mp halike

section Marked

variable {bad free : List Segment → Prop} {place : Place}
  (hfree : bad place.path → table.ruleAt place.path = none → free place.path)
  (hkept : ∀ r ∈ table.ruleList, ∀ place given w, (judge r place given).kept? = some w →
    given.Unmarked free r.path → w.Unmarked free r.path)
  (hsettle : ∀ v, v.Unmarked free place.path →
    (settle table judge false place v).1.Unmarked bad place.path)

include hkept hsettle in
/-- What a rule lets through is no marker, and the rules below find none in it. -/
theorem judged_unmarked {r : Rule} (hrule : table.ruleAt place.path = some r) {given y : Value}
    (hgiven : given.Unmarked free place.path)
    (hy : (judged judge (settle table judge false place) r place given false).1 = some y) :
    y ≠ .absent ∧ y.Unmarked bad place.path := by
  obtain ⟨hr, hpath⟩ := RuleTable.ruleAt_eq_some hrule
  cases hw : (judge r place given).kept? with
  | none =>
    rw [judged_dropped hw rfl] at hy
    cases hy
  | some w =>
    rw [judged_kept hw] at hy
    obtain rfl := Option.some.inj hy
    rw [← hpath] at hgiven
    have hunmarked := hkept r hr place given w hw hgiven
    rw [hpath] at hunmarked
    refine ⟨fun habsent => ?_, hsettle w hunmarked⟩
    obtain rfl := settle_eq_absent habsent
    exact absurd (FieldOutcome.present_of_kept? hw) (by decide)

include hfree hkept hsettle in
theorem entry_unmarked {cell : Option Value} {y : Value}
    (hcell : ∀ v, cell = some v → (free place.path → v ≠ .absent) ∧ v.Unmarked free place.path)
    (hy : (entry table judge (settle table judge false place) place cell).1 = some y) :
    (bad place.path → y ≠ .absent) ∧ y.Unmarked bad place.path := by
  cases hrule : table.ruleAt place.path with
  | some r =>
    rw [entry_ruled hrule] at hy
    have hgiven : (cell.getD .absent).Unmarked free place.path := by
      cases cell with
      | some v => exact (hcell v rfl).2
      | none => exact Value.unmarked_scalar rfl rfl
    obtain ⟨hpresent, hunmarked⟩ := judged_unmarked hkept hsettle hrule hgiven hy
    exact ⟨fun _ => hpresent, hunmarked⟩
  | none =>
    cases cell with
    | some v =>
      rw [entry_free hrule] at hy
      obtain rfl := Option.some.inj hy
      obtain ⟨hpresent, hunmarked⟩ := hcell v rfl
      exact ⟨fun hbad habsent => hpresent (hfree hbad hrule) (settle_eq_absent habsent),
        hsettle v hunmarked⟩
    | none =>
      rw [entry_missing hrule] at hy
      -- a mapping is made for the rules below, and dropped again if it stays empty
      have hmade := hsettle (.dict false []) (Value.unmarked_dict_iff.mpr fun s w hw => by cases hw)
      have hsettled : (settle table judge false place (.dict false [])).1 = y := by
        by_cases hempty : (settle table judge false place (.dict false [])).1 = .dict false []
        · rw [hempty] at hy
          cases hy
        · rw [unlessEmpty_of_ne hempty] at hy
          exact Option.some.inj hy
      obtain rfl := hsettled
      exact ⟨fun _ habsent => (by cases settle_eq_absent habsent), hmade⟩

include hkept hsettle in
theorem item_unmarked {v y : Value} (hv : v.Unmarked free place.path)
    (hy : (item table judge false (settle table judge false place) place v).1 = some y) :
    y.Unmarked bad place.path := by
  cases hrule : table.ruleAt place.path with
  | some r =>
    rw [item_ruled hrule] at hy
    exact (judged_unmarked hkept hsettle hrule hv hy).2
  | none =>
    rw [item_free hrule] at hy
    obtain rfl := Option.some.inj hy
    exact hsettle v hv

end Marked

/-- Settling leaves a marker under a bad key only where the key has no rule of its own and held the
marker before, in the value itself or in what a rule has put in its place. -/
theorem settle_unmarked {bad free : List Segment → Prop}
    (hbad : ∀ path, bad path → table.mentions path = true)
    (hfree : ∀ path, bad path → table.ruleAt path = none → free path)
    (hkept : ∀ r ∈ table.ruleList, ∀ place given w, (judge r place given).kept? = some w →
      given.Unmarked free r.path → w.Unmarked free r.path) :
    ∀ (place : Place) (v : Value), v.Unmarked free place.path →
      (settle table judge false place v).1.Unmarked bad place.path := by
  refine place_induction table ?_ ?_
  · intro place hbelow v _
    rw [settle_nil hbelow]
    exact Value.unmarked_of_not_mentions hbad (RuleTable.not_mentions_of_below hbelow) v
  · intro place hbelow ih v hv
    cases hentries : v.entries? with
    | some es =>
      obtain ⟨ordered, rfl⟩ := Value.eq_dict_of_entries? hentries
      rw [settle_dict hbelow]
      refine Value.unmarked_dict_iff.mpr fun s w hw => ?_
      by_cases hs : s ∈ table.namesBelow place.path
      · rw [find?_entries (table.nodup_namesBelow _) hs] at hw
        rw [← Place.path_key]
        refine entry_unmarked (hfree _) hkept (ih (.key s)) (fun u hu => ?_) hw
        rw [Place.path_key]
        exact Value.unmarked_dict_iff.mp hv s u hu
      · exact Value.unmarked_unnamed hbad hs w
    | none =>
      cases hitems : v.items? with
      | some xs =>
        rw [settle_items hbelow hitems]
        have hxs := (Value.unmarked_items_iff hitems).mp hv
        by_cases hwild : table.itemsBelow place.path = true
        · rw [if_pos hwild]
          refine (Value.unmarked_items_iff rfl).mpr fun y hy => ?_
          obtain ⟨i, x, hx, hy, -⟩ := exists_of_mem_items xs 0 hy
          have hself := hxs x hx
          rw [← Place.path_index place i] at hself ⊢
          exact item_unmarked hkept (ih (.index i)) hself hy
        · rw [if_neg hwild]
          refine (Value.unmarked_items_iff rfl).mpr fun y hy => ?_
          exact Value.unmarked_of_not_mentions hbad
            (RuleTable.not_mentions_beyond (RuleTable.mentions_wildcard_eq_false_iff.mpr hwild)) y
      | none =>
        rw [settle_scalar hentries hitems]
        exact Value.unmarked_scalar hentries hitems

/-! ## Stripped inputs -/

/-- A judgement that does not see what stripping takes away: it lets a value and the stripped value
through as they are, or both as one other value, and turns both down under one key. -/
structure Blind (table : RuleTable) (judge : Judge) : Prop where
  kept : ∀ r ∈ table.ruleList, ∀ place v,
    ((judge r place v).kept? = some v ∧
      (judge r place (v.stripped table r.path)).kept? = some (v.stripped table r.path)) ∨
    (judge r place v).kept? = (judge r place (v.stripped table r.path)).kept?
  failure : ∀ r ∈ table.ruleList, ∀ place v, (judge r place v).failure?.map FieldError.key =
    (judge r place (v.stripped table r.path)).failure?.map FieldError.key

/-- Two visits of one place that fail under one key, or both do not fail. -/
def Echoes (w w' : Visit) : Prop :=
  w.place = w'.place ∧
    w.outcome.failure?.map FieldError.key = w'.outcome.failure?.map FieldError.key

theorem echoes_refl (ws : List Visit) : List.Forall₂ Echoes ws ws :=
  List.forall₂_same.mpr fun _ _ => ⟨rfl, rfl⟩

/-- Two descents that make related values, by visits that echo each other. -/
def Agree {β : Type} (R : β → β → Prop) (a b : β × List Visit) : Prop :=
  R a.1 b.1 ∧ List.Forall₂ Echoes a.2 b.2

theorem forall₂_flatMap {α β : Type} {R : β → β → Prop} {f g : α → List β} {as : List α}
    (h : ∀ a ∈ as, List.Forall₂ R (f a) (g a)) : List.Forall₂ R (as.flatMap f) (as.flatMap g) := by
  induction as with
  | nil => exact .nil
  | cons a as ih =>
    obtain ⟨hself, hrest⟩ := List.forall_mem_cons.mp h
    exact List.rel_append hself (ih hrest)

/-- What is to be shown of the values at a place: where a settled value has no marker on the way to a
rule, the stripped value is settled alike. -/
def SettlesAlike (table : RuleTable) (judge : Judge) (place : Place) : Prop :=
  ∀ v : Value, v.KeysOnce →
    (settle table judge false place v).1.Unmarked table.Unruled place.path →
      Agree Value.Rearranged (settle table judge false place v)
        (settle table judge false place (v.stripped table place.path))

section Cells

variable {place : Place} (hblind : Blind table judge)
  (hsettle : SettlesAlike table judge place)

include hblind hsettle

theorem judged_stripped {r : Rule} (hrule : table.ruleAt place.path = some r) {given : Value}
    (hgiven : given.KeysOnce)
    (hout : ∀ y, (judged judge (settle table judge false place) r place given false).1 = some y →
      y.Unmarked table.Unruled place.path) :
    Agree (Option.Rel Value.Rearranged)
      (judged judge (settle table judge false place) r place given false)
      (judged judge (settle table judge false place) r place (given.stripped table place.path)
        false) := by
  obtain ⟨hr, hpath⟩ := RuleTable.ruleAt_eq_some hrule
  have hfailure := hblind.failure r hr place given
  have hkept := hblind.kept r hr place given
  rw [hpath] at hfailure hkept
  rcases hkept with ⟨hkept, hkept'⟩ | hkept
  · rw [judged_kept hkept] at hout ⊢
    rw [judged_kept hkept']
    obtain ⟨hvalue, hvisits⟩ := hsettle given hgiven (hout _ rfl)
    exact ⟨.some hvalue, .cons ⟨rfl, hfailure⟩ hvisits⟩
  · cases hw : (judge r place given).kept? with
    | some w =>
      rw [judged_kept hw, judged_kept (hkept.symm.trans hw)]
      exact ⟨.some (.refl _), .cons ⟨rfl, hfailure⟩ (echoes_refl _)⟩
    | none =>
      have hdropped := @judged_dropped judge (settle table judge false place) r place given false hw rfl
      have hdropped' := @judged_dropped judge (settle table judge false place) r place
        (given.stripped table place.path) false (hkept.symm.trans hw) rfl
      rw [hdropped, hdropped']
      exact ⟨.none, .cons ⟨rfl, hfailure⟩ .nil⟩

/-- A key, and the key of the stripped mapping: a marker there counts as nothing to a rule, and without
a rule there is none. -/
theorem entry_stripped {cell : Option Value} (hcell : ∀ v, cell = some v → v.KeysOnce)
    (hout : ∀ y, (entry table judge (settle table judge false place) place cell).1 = some y →
      (table.Unruled place.path → y ≠ .absent) ∧ y.Unmarked table.Unruled place.path) :
    Agree (Option.Rel Value.Rearranged)
      (entry table judge (settle table judge false place) place cell)
      (entry table judge (settle table judge false place) place (cell.bind fun v =>
        if table.strips place.path v then none else some (v.stripped table place.path))) := by
  have habsent : Value.stripped table place.path .absent = .absent :=
    Value.stripped_scalar rfl rfl
  cases hrule : table.ruleAt place.path with
  | some r =>
    have hgiven : (cell.getD .absent).KeysOnce := by
      cases cell with
      | some v => exact hcell v rfl
      | none => exact .scalar rfl rfl
    -- to a rule, a marker and no entry are the same
    have hcells : (cell.bind fun v => if table.strips place.path v then none
        else some (v.stripped table place.path)).getD .absent =
        (cell.getD .absent).stripped table place.path := by
      cases cell with
      | none => exact habsent.symm
      | some v =>
        rw [Option.bind_some, Option.getD_some]
        split
        · next hstrips =>
          rw [Value.isAbsent_iff.mp (Bool.and_eq_true_iff.mp hstrips).1, habsent]
          rfl
        · rfl
    rw [entry_ruled hrule] at hout ⊢
    rw [entry_ruled hrule, hcells]
    exact judged_stripped hblind hsettle hrule hgiven fun y hy => (hout y hy).2
  | none =>
    cases cell with
    | none =>
      rw [Option.bind_none, entry_missing hrule]
      exact ⟨unlessEmpty_rearranged (.refl _), echoes_refl _⟩
    | some v =>
      rw [entry_free hrule] at hout ⊢
      obtain ⟨hpresent, hunmarked⟩ := hout _ rfl
      -- a marker would be on the way to a rule, and would stay in the output
      have hstrips : table.strips place.path v = false := by
        rw [Bool.eq_false_iff]
        intro hstrips
        obtain ⟨hv, hmentions⟩ := Bool.and_eq_true_iff.mp hstrips
        obtain rfl := Value.isAbsent_iff.mp hv
        refine hpresent ⟨hmentions, RuleTable.ruleAt_eq_none.mp hrule⟩ ?_
        rw [settle_scalar rfl rfl]
      rw [Option.bind_some, hstrips, if_neg Bool.false_ne_true, entry_free hrule]
      obtain ⟨hvalue, hvisits⟩ := hsettle v (hcell v rfl) hunmarked
      exact ⟨.some hvalue, hvisits⟩

theorem item_stripped {v : Value} (hv : v.KeysOnce)
    (hout : ∀ y, (item table judge false (settle table judge false place) place v).1 = some y →
      y.Unmarked table.Unruled place.path) :
    Agree (Option.Rel Value.Rearranged)
      (item table judge false (settle table judge false place) place v)
      (item table judge false (settle table judge false place) place
        (v.stripped table place.path)) := by
  cases hrule : table.ruleAt place.path with
  | some r =>
    rw [item_ruled hrule] at hout ⊢
    rw [item_ruled hrule]
    exact judged_stripped hblind hsettle hrule hv hout
  | none =>
    rw [item_free hrule] at hout ⊢
    rw [item_free hrule]
    obtain ⟨hvalue, hvisits⟩ := hsettle v hv (hout _ rfl)
    exact ⟨.some hvalue, hvisits⟩

end Cells

theorem cells_match {f : String → Option Value → Option Value × List Visit} {names : List String}
    {es es' : Entries Value} (h : ∀ s ∈ names, Option.Rel Value.Rearranged
      (f s (Entries.find? (.str s) es)).1 (f s (Entries.find? (.str s) es')).1) :
    Entries.Match Value.Rearranged (cells f names es) (cells f names es') := by
  induction names with
  | nil => exact .nil
  | cons s names ih =>
    obtain ⟨hself, hrest⟩ := List.forall_mem_cons.mp h
    rw [cells_cons, cells_cons]
    refine List.rel_append ?_ (ih hrest)
    generalize (f s (Entries.find? (.str s) es)).1 = a, (f s (Entries.find? (.str s) es')).1 = b
      at hself
    cases hself with
    | some hvalue => exact .cons ⟨rfl, hvalue⟩ .nil
    | none => exact .nil

theorem items_stripped {f : Nat → Value → Option Value × List Visit} {g : Value → Value}
    {p : Value → Prop} {vs : List Value}
    (hfg : ∀ i, ∀ v ∈ vs, (∀ y, (f i v).1 = some y → p y) →
      Agree (Option.Rel Value.Rearranged) (f i v) (f i (g v))) :
    ∀ n, (∀ y ∈ (items f n vs).1, p y) →
      Agree (List.Forall₂ Value.Rearranged) (items f n vs) (items f n (vs.map g)) := by
  induction vs with
  | nil => exact fun n _ => ⟨.nil, .nil⟩
  | cons v vs ih =>
    intro n hout
    rw [items] at hout
    obtain ⟨hself, hrest⟩ := List.forall_mem_append.mp hout
    obtain ⟨hcell, hcells⟩ := hfg n v (List.mem_cons_self ..)
      fun y hy => hself y (Option.mem_toList.mpr hy)
    obtain ⟨hvalues, hvisits⟩ := ih (fun i x hx => hfg i x (List.mem_cons_of_mem _ hx)) (n + 1) hrest
    rw [List.map_cons, items, items]
    have hhead : List.Forall₂ Value.Rearranged (f n v).1.toList (f n (g v)).1.toList := by
      generalize (f n v).1 = a, (f n (g v)).1 = b at hcell
      cases hcell with
      | some hvalue => exact .cons hvalue .nil
      | none => exact .nil
    exact ⟨List.rel_append hhead hvalues, List.rel_append hcells hvisits⟩

/-- No rule is about the other keys of a mapping, so that nothing is stripped there. -/
theorem others_strippedEntries (path : List Segment) (es : Entries Value) :
    Entries.others (table.namesBelow path) (Value.strippedEntries table path es) =
      Entries.others (table.namesBelow path) es := by
  let keeps : Value → Bool := fun k => !(table.namesBelow path).any fun s => (Value.str s).sameKey k
  refine @Value.filter_strippedEntries table path keeps (fun s hs => ?_) es
  refine RuleTable.mentions_name_eq_false_iff.mpr fun hmem => ?_
  have hany : ((table.namesBelow path).any fun t => (Value.str t).sameKey (.str s)) = true :=
    List.any_eq_true.mpr ⟨s, hmem, (Value.sameKey_str s _).mpr rfl⟩
  simp only [keeps, hany] at hs
  cases hs

section Parts

variable (hblind : Blind table judge) {place : Place} (hbelow : table.below place.path ≠ [])

include hblind hbelow

theorem list_stripped (ih : ∀ i, SettlesAlike table judge (place ++ [Step.index i])) {v : Value}
    {xs : List Value} (hitems : v.items? = some xs) (hxs : ∀ x ∈ xs, x.KeysOnce)
    (hout : (settle table judge false place v).1.Unmarked table.Unruled place.path) :
    Agree Value.Rearranged (settle table judge false place v)
      (settle table judge false place (v.stripped table place.path)) := by
  rw [settle_items hbelow hitems] at hout ⊢
  rw [settle_items hbelow (Value.stripped_items hitems)]
  by_cases hwild : table.itemsBelow place.path = true
  · rw [if_pos hwild] at hout ⊢
    rw [if_pos hwild]
    have hrow := (Value.unmarked_items_iff rfl).mp hout
    have hitem : ∀ i, ∀ x ∈ xs, (∀ y, (settleItem table judge false place i x).1 = some y →
        y.Unmarked table.Unruled (place.path ++ [.wildcard])) →
        Agree (Option.Rel Value.Rearranged) (settleItem table judge false place i x)
          (settleItem table judge false place i
            (x.stripped table (place.path ++ [.wildcard]))) := by
      intro i x hx hy
      rw [← Place.path_index place i] at hy ⊢
      exact item_stripped hblind (ih i) (hxs x hx) hy
    obtain ⟨hvalues, hvisits⟩ := items_stripped hitem 0 hrow
    exact ⟨.list hvalues, hvisits⟩
  · rw [if_neg hwild] at hout ⊢
    rw [if_neg hwild]
    have hself : xs.map (Value.stripped table (place.path ++ [.wildcard])) = xs := by
      refine (List.map_congr_left fun x _ => ?_).trans (List.map_id xs)
      exact Value.stripped_eq_self
        (RuleTable.not_mentions_beyond (RuleTable.mentions_wildcard_eq_false_iff.mpr hwild))
    rw [hself]
    exact ⟨.refl _, .nil⟩

theorem dict_stripped (ih : ∀ s, SettlesAlike table judge (place ++ [Step.key s])) {ordered : Bool}
    {es : Entries Value} (honce : ∀ s, Entries.Once s es) (hes : ∀ e ∈ es, e.2.KeysOnce)
    (hout : (settle table judge false place (.dict ordered es)).1.Unmarked table.Unruled place.path) :
    Agree Value.Rearranged (settle table judge false place (.dict ordered es))
      (settle table judge false place ((Value.dict ordered es).stripped table place.path)) := by
  let names := table.namesBelow place.path
  let f := settleKey table judge false place
  let es' := Value.strippedEntries table place.path es
  have hnd := table.nodup_namesBelow place.path
  have hstripped : (Value.dict ordered es).stripped table place.path = .dict ordered es' := by
    rw [Value.stripped]
  have hfind : ∀ s, Entries.find? (.str s) es' = (Entries.find? (.str s) es).bind fun v =>
      if table.strips (Place.path (place ++ [Step.key s])) v then none
      else some (v.stripped table (Place.path (place ++ [Step.key s]))) := by
    intro s
    rw [Place.path_key]
    exact Value.find?_strippedEntries (honce s)
  rw [settle_dict hbelow] at hout ⊢
  rw [hstripped, settle_dict hbelow]
  have hkey : ∀ s ∈ names, Agree (Option.Rel Value.Rearranged)
      (f s (Entries.find? (.str s) es)) (f s (Entries.find? (.str s) es')) := by
    intro s hs
    rw [hfind]
    refine entry_stripped hblind (ih s) (fun v hv => ?_) fun y hy => ?_
    · exact hes _ (Entries.mem_of_find? hv)
    · rw [Place.path_key]
      refine Value.unmarked_dict_iff.mp hout s y ?_
      rw [find?_entries hnd hs]
      exact hy
  have honce' : ∀ s, Entries.Once s es' := fun s => Value.once_strippedEntries (honce s)
  refine ⟨.of_perm_match (entries_perm_cells hnd es fun s _ => honce s) ?_
    (entries_perm_cells hnd es' fun s _ => honce' s).symm false, ?_⟩
  · rw [others_strippedEntries]
    exact List.rel_append (Entries.Match.refl Value.Rearranged.refl _)
      (cells_match fun s hs => (hkey s hs).1)
  · rw [entries_visits hnd, entries_visits hnd]
    exact forall₂_flatMap fun s hs => (hkey s hs).2

end Parts

/-- Where a settled value has no marker on the way to a rule, the stripped value is settled alike: the
same but for the order of entries, by visits of the same places which fail together. -/
theorem settle_stripped (hblind : Blind table judge) :
    ∀ place : Place, SettlesAlike table judge place := by
  refine place_induction table ?_ ?_
  · intro place hbelow v _ _
    rw [Value.stripped_eq_self (RuleTable.not_mentions_of_below hbelow)]
    exact ⟨.refl _, echoes_refl _⟩
  · intro place hbelow ih v hv hout
    cases hv with
    | scalar hentries hitems =>
      rw [Value.stripped_scalar hentries hitems]
      exact ⟨.refl _, echoes_refl _⟩
    | items hitems hxs => exact list_stripped hblind hbelow (fun i => ih (.index i)) hitems hxs hout
    | dict honce hes => exact dict_stripped hblind hbelow (fun s => ih (.key s)) honce hes hout

/-! ## Reports -/

theorem unmarked_declared_iff {bad : List Segment → Prop}
    (hbad : ∀ path, bad path → table.mentions path = true) {ordered : Bool} {es : Entries Value} :
    (Value.dict ordered (declared table es)).Unmarked bad [] ↔
      (Value.dict ordered es).Unmarked bad [] := by
  rw [Value.unmarked_dict_iff, Value.unmarked_dict_iff]
  refine forall_congr' fun s => ?_
  by_cases hs : s ∈ table.namesBelow []
  · rw [find?_declared (mem_roots_of_mem_namesBelow hs)]
  · exact ⟨fun _ w _ => Value.unmarked_unnamed hbad hs w,
      fun _ w _ => Value.unmarked_unnamed hbad hs w⟩

/-- The output of a document has the markers that are left when it is settled. -/
theorem unmarked_output_iff {bad : List Segment → Prop}
    (hbad : ∀ path, bad path → table.mentions path = true) (es : Entries Value) :
    (output table judge false es).Unmarked bad [] ↔
      (settle table judge false [] (.dict false es)).1.Unmarked bad [] := by
  rw [output, settle_plain]
  exact unmarked_declared_iff hbad

theorem inOrder_echoes {ws ws' : List Visit} (h : List.Forall₂ Echoes ws ws') :
    List.Forall₂ Echoes (inOrder table ws) (inOrder table ws') :=
  forall₂_flatMap fun r _ => List.rel_filter (fun w w' hw => by simp only [hw.1]) h

/-- Visits that echo each other report errors at the same keys. -/
theorem errors_echo {ws ws' : List Visit} (h : List.Forall₂ Echoes ws ws') :
    (ws.filterMap (·.outcome.failure?)).map FieldError.key =
      (ws'.filterMap (·.outcome.failure?)).map FieldError.key := by
  rw [List.map_filterMap, List.map_filterMap]
  induction h with
  | nil => rfl
  | cons hw _ ih => rw [List.filterMap_cons, List.filterMap_cons, hw.2, ih]

/-- Where the output has no marker on the way to a rule, the stripped document has the same report, but
for the order of entries and for what is given to a field that fails. -/
theorem report_stripped (hblind : Blind table judge) {ordered : Bool} {es : Entries Value}
    (honce : (Value.dict ordered es).KeysOnce)
    (hout : (output table judge false es).Unmarked table.Unruled []) :
    let r := report table judge false es
    let r' := report table judge false (Value.strippedEntries table [] es)
    r.ok = r'.ok ∧ r.errors.map FieldError.key = r'.errors.map FieldError.key ∧
      r.value.Rearranged r'.value := by
  intro r r'
  have honce' : (Value.dict false es).KeysOnce := by
    cases honce with
    | scalar hentries => cases hentries
    | items hitems => cases hitems
    | dict honce hes => exact .dict honce hes
  obtain ⟨hvalue, hvisits⟩ := settle_stripped hblind [] _ honce'
    ((unmarked_output_iff (fun path hpath => hpath.1) es).mp hout)
  rw [show Place.path [] = [] from rfl, Value.stripped] at hvalue hvisits
  have herrors : r.errors.map FieldError.key = r'.errors.map FieldError.key :=
    errors_echo (inOrder_echoes hvisits)
  refine ⟨?_, herrors, restricted_rearranged ⟨rfl, .refl _⟩ hvalue⟩
  rw [Report.ok, Report.ok, ← List.isEmpty_map, herrors, List.isEmpty_map]

/-- The output has no marker under a key with a rule of its own, so that it has none under any key that
a rule is about if it has none on the way to a rule. -/
theorem unmarked_mentions_iff (es : Entries Value) :
    (output table judge false es).Unmarked (fun path => table.mentions path = true) [] ↔
      (output table judge false es).Unmarked table.Unruled [] := by
  have hruled : (output table judge false es).Unmarked
      (fun path => table.mentions path = true ∧ table.hasPath path = true) [] := by
    rw [unmarked_output_iff fun path hpath => hpath.1]
    refine @settle_unmarked table judge _ (fun _ => False) (fun path hpath => hpath.1)
      (fun path hpath hrule => ?_) (fun r _ place given w _ _ => ?_) [] _ ?_
    · rw [RuleTable.ruleAt_eq_none, hpath.2] at hrule
      cases hrule
    · exact Value.unmarked_of_not_bad (fun _ _ => id) w
    · exact Value.unmarked_of_not_bad (fun _ _ => id) _
  constructor
  · exact fun h place s hpath => h place s hpath.1
  · intro h place s hpath
    cases hrule : table.hasPath ([] ++ Place.path (place ++ [.key s])) with
    | true => exact hruled place s ⟨hpath, hrule⟩
    | false => exact h place s ⟨hpath, hrule⟩

end Descent

namespace Field

variable {table : RuleTable} (ht : table.Compiled) (hsilent : ∀ r ∈ table.ruleList, r.Silent)
  (answer : Call → Value)

include ht hsilent

theorem kept?_judge {r : Rule} (hr : r ∈ table.ruleList) (place : Place) (v : Value) :
    (judge Registry.default answer table r place v).kept? =
      if (matchType Registry.default r.toContract v).isSome then if v.isAbsent then none else some v
      else r.default := by
  rw [judge, outcome_silent (hsilent r hr), kept?_ended (ht.present r hr)]

/-- Silent rules keep what they are given, or their default. -/
theorem unmarked_of_kept? {free : List Segment → Prop}
    (hdefault : ∀ r ∈ table.ruleList, ∀ d, r.default = some d → d.Unmarked free r.path) :
    ∀ r ∈ table.ruleList, ∀ place given w,
      (judge Registry.default answer table r place given).kept? = some w →
        given.Unmarked free r.path → w.Unmarked free r.path := by
  intro r hr place given w hw hgiven
  rw [kept?_judge ht hsilent answer hr] at hw
  split at hw
  · split at hw
    · cases hw
    · obtain rfl := Option.some.inj hw
      exact hgiven
  · exact hdefault r hr w hw

/-- Silent rules do not see what stripping takes away. -/
theorem judge_blind : Descent.Blind table (judge Registry.default answer table) := by
  constructor
  · intro r hr place v
    have halike := (@Value.stripped_alike table r.path v).isAbsent_eq
    rw [kept?_judge ht hsilent answer hr, kept?_judge ht hsilent answer hr, Value.matchType_stripped,
      ← halike]
    split
    · cases v.isAbsent with
      | true => exact Or.inr rfl
      | false => exact Or.inl ⟨rfl, rfl⟩
    · exact Or.inr rfl
  · intro r hr place v
    have hnone : (judge Registry.default answer table r place v).failure? = none ↔
        (judge Registry.default answer table r place (v.stripped table r.path)).failure? = none := by
      rw [judge, judge, outcome_silent (hsilent r hr), outcome_silent (hsilent r hr), failure?_ended,
        failure?_ended, Value.matchType_stripped]
    -- a field that fails does so under the key of its place
    have hkey : ∀ {w e}, (judge Registry.default answer table r place w).failure? = some e →
        e.key = place.write table.options := fun he => (failed_of_failure? he).2
    cases hfailure : (judge Registry.default answer table r place v).failure? with
    | none => rw [hnone.mp hfailure]
    | some e =>
      obtain ⟨e', he'⟩ := Option.ne_none_iff_exists'.mp fun h => by
        rw [hnone.mpr h] at hfailure
        cases hfailure
      rw [he', Option.map_some, Option.map_some, hkey hfailure, hkey he']

end Field

namespace Validator

/-- For rules without callbacks, an input and the input without its markers for missing values, at the
keys that rules are about, are checked alike, with errors at the same keys and the same output but
for the order of entries, and no such marker is left in the output, exactly if none is left on the way
to a rule. This is so if there are none on the way to a rule in the input and in the defaults. -/
theorem check_stripped_iff {o : PathOptions} {schema : Value} {v : Validator}
    (hv : compile Registry.default o schema = .ok v)
    (hsilent : ∀ r ∈ v.table.ruleList, r.validate = none ∧ r.catch? = none ∧ r.transform = none)
    (cb : Callbacks) {ordered : Bool} {es : Entries Value}
    (honce : (Value.dict ordered es).KeysOnce) (calls : List Call) :
    ∃ r r' : Report, v.check cb (.dict ordered es) [] calls = (.ok r, calls) ∧
      v.check cb (Value.stripped v.table [] (.dict ordered es)) [] calls = (.ok r', calls) ∧
      ((r.ok = r'.ok ∧ r.errors.map FieldError.key = r'.errors.map FieldError.key ∧
          r.value.Rearranged r'.value ∧
          r.value.Unmarked (fun path => v.table.mentions path = true) []) ↔
        r.value.Unmarked v.table.Unruled []) ∧
      ((Value.dict ordered es).Unmarked v.table.Unruled [] →
        (∀ r ∈ v.table.ruleList, ∀ d, r.default = some d → d.Unmarked v.table.Unruled r.path) →
          r.value.Unmarked v.table.Unruled []) := by
  obtain ⟨ht, hregistry⟩ := compile_compiled hv
  have hsilent : ∀ r ∈ v.table.ruleList, r.Silent := by
    intro r hr
    obtain ⟨hvalidate, hcatch, htransform⟩ := hsilent r hr
    exact ⟨hvalidate, hcatch, htransform⟩
  have hcheck := check_silent ht hsilent cb
    (show Input.entries v.table.topLevelKeys (.dict ordered es) [] = .ok es from rfl) calls
  have hcheck' := check_silent ht hsilent cb
    (show Input.entries v.table.topLevelKeys (.dict ordered (Value.strippedEntries v.table [] es)) [] =
      .ok (Value.strippedEntries v.table [] es) from rfl) calls
  rw [hregistry] at hcheck hcheck'
  rw [Value.stripped]
  refine ⟨_, _, hcheck, hcheck', ⟨fun h => ?_, fun hout => ?_⟩, fun hdata hdefault => ?_⟩
  · exact (Descent.unmarked_mentions_iff es).mp h.2.2.2
  · obtain ⟨hok, herrors, hvalue⟩ :=
      Descent.report_stripped (Field.judge_blind ht hsilent cb.calm) honce hout
    exact ⟨hok, herrors, hvalue, (Descent.unmarked_mentions_iff es).mpr hout⟩
  · refine (Descent.unmarked_output_iff (fun path hpath => hpath.1) es).mpr ?_
    refine Descent.settle_unmarked (fun path hpath => hpath.1) (fun path hpath _ => hpath)
      (Field.unmarked_of_kept? ht hsilent cb.calm hdefault) [] _ ?_
    exact Value.unmarked_dict_iff.mpr (Value.unmarked_dict_iff.mp hdata)

/-- A marker on the way to a rule: the input goes through, and the marker stays in the output. The
stripped input fails. -/
theorem check_stripped_iff_way :
    let schema : Value := .dict false [(.str "a.b", .str "number")]
    let data : Value := .dict false [(.str "a", .absent)]
    let cb : Callbacks := fun _ => .error (.ofText .runtimeError "called")
    ∃ v r r', compile Registry.default .default schema = .ok v ∧
      (∀ r ∈ v.table.ruleList, r.validate = none ∧ r.catch? = none ∧ r.transform = none) ∧
      data.KeysOnce ∧ Value.stripped v.table [] data = .dict false [] ∧
      v.check cb data [] [] = (.ok r, []) ∧ v.check cb (.dict false []) [] [] = (.ok r', []) ∧
      r.ok = true ∧ r.value = data ∧ r'.ok = false ∧ r'.errors.map FieldError.key = ["a.b"] ∧
      r'.value = .dict false [] ∧ ¬ r.value.Unmarked v.table.Unruled [] ∧
      ¬ (r.ok = r'.ok ∧ r.errors.map FieldError.key = r'.errors.map FieldError.key ∧
        r.value.Rearranged r'.value ∧
        r.value.Unmarked (fun path => v.table.mentions path = true) []) := by
  intro schema data cb
  let rule : Rule := ⟨.ofTypes ["number"], [.name "a", .name "b"]⟩
  let v : Validator := ⟨⟨.default, [("a.b", rule)]⟩, Registry.default⟩
  have hv : compile Registry.default .default schema = .ok v := by cbv
  have hsilent : ∀ r ∈ v.table.ruleList,
      r.validate = none ∧ r.catch? = none ∧ r.transform = none := by
    intro r hr
    obtain rfl := List.mem_singleton.mp (show r ∈ [rule] from hr)
    exact ⟨rfl, rfl, rfl⟩
  have honce : data.KeysOnce := by
    refine .dict (fun s => List.pairwise_singleton ..) fun e he => ?_
    obtain rfl := List.mem_singleton.mp he
    exact .scalar rfl rfl
  have hstripped : Value.stripped v.table [] data = .dict false [] := by cbv
  have hcheck : v.check cb data [] [] = (.ok ⟨data, [], [], []⟩, []) := by cbv
  have hcheck' : v.check cb (.dict false []) [] [] = (.ok ⟨.dict false [], [],
      [("a.b", .absent)], [⟨"a.b", .absent, "undefined", ["number"]⟩]⟩, []) := by cbv
  obtain ⟨r, r', hr, hr', hiff, -⟩ := check_stripped_iff hv hsilent cb honce []
  rw [hstripped] at hr'
  obtain rfl := Except.ok.inj (congrArg Prod.fst (hcheck.symm.trans hr))
  obtain rfl := Except.ok.inj (congrArg Prod.fst (hcheck'.symm.trans hr'))
  have hmarked : ¬ data.Unmarked v.table.Unruled [] :=
    fun h => h [] "a" ⟨by decide, by decide⟩ rfl
  exact ⟨v, _, _, hv, hsilent, honce, hstripped, hr, hr', rfl, rfl, rfl, rfl, rfl, hmarked,
    fun h => hmarked (hiff.mp h)⟩

end Validator

end ArgumentSchema
