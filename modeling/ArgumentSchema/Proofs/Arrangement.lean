import ArgumentSchema.Proofs.Concatenation
import ArgumentSchema.Proofs.Fragments
import Mathlib.Data.List.Perm.Basic

/-!
# The order of rules

Rules of one depth are evaluated in the order in which they are declared, and the first of them
opens the containers, makes the missing mappings and records the positions that the next ones find.
None of that can be told from the report: sibling rules never interact.

> `Descent.settle_rearranged`: tables with the same rules in another order settle a value alike, but
> for the order of entries, with the same visits in another order.
> `Validator.run_rearranged`: schemas with the same entries in another order report the same.
-/

namespace ArgumentSchema

/-- Values that are alike but for the order of the entries of mappings, at every level. -/
inductive Value.Rearranged : Value → Value → Prop where
  | refl (v : Value) : Rearranged v v
  | dict {ordered : Bool} {es mid es' : Entries Value} :
      es.map Prod.fst = mid.map Prod.fst →
      List.Forall₂ Rearranged (es.map Prod.snd) (mid.map Prod.snd) →
      mid.Perm es' → Rearranged (.dict ordered es) (.dict ordered es')
  | list {xs ys : List Value} : List.Forall₂ Rearranged xs ys → Rearranged (.list xs) (.list ys)

namespace Entries

variable {α β : Type}

/-- Entries under the same keys in the same order, with contents that are related. -/
def Match (R : α → β → Prop) : Entries α → Entries β → Prop :=
  List.Forall₂ fun e e' => e.1 = e'.1 ∧ R e.2 e'.2

theorem Match.keys {R : α → β → Prop} {es : Entries α} {mid : Entries β} (h : Match R es mid) :
    es.map Prod.fst = mid.map Prod.fst := by
  induction h with
  | nil => rfl
  | cons he _ ih => rw [List.map_cons, List.map_cons, he.1, ih]

theorem Match.values {R : α → β → Prop} {es : Entries α} {mid : Entries β} (h : Match R es mid) :
    List.Forall₂ R (es.map Prod.snd) (mid.map Prod.snd) := by
  induction h with
  | nil => exact .nil
  | cons he _ ih => exact .cons he.2 ih

theorem match_of_map {R : α → β → Prop} {es : Entries α} {mid : Entries β}
    (hkeys : es.map Prod.fst = mid.map Prod.fst)
    (hvalues : List.Forall₂ R (es.map Prod.snd) (mid.map Prod.snd)) : Match R es mid := by
  induction es generalizing mid with
  | nil =>
    rw [List.map_nil, eq_comm, List.map_eq_nil_iff] at hkeys
    subst hkeys
    exact .nil
  | cons e es ih =>
    cases mid with
    | nil => cases hkeys
    | cons e' mid =>
      obtain ⟨hkey, hkeys⟩ := List.cons.inj hkeys
      cases hvalues with
      | cons hvalue hvalues => exact .cons ⟨hkey, hvalue⟩ (ih hkeys hvalues)

theorem Match.refl {R : α → α → Prop} (h : ∀ v, R v v) (es : Entries α) : Match R es es :=
  List.forall₂_same.mpr fun _ _ => ⟨rfl, h _⟩

theorem Match.insert {R : α → β → Prop} {es : Entries α} {mid : Entries β} (h : Match R es mid)
    (s : String) {v : α} {w : β} (hvw : R v w) :
    Match R (insert (.str s) v es) (insert (.str s) w mid) := by
  induction h with
  | nil => exact .cons ⟨rfl, hvw⟩ .nil
  | @cons e e' es mid he hrest ih =>
    obtain ⟨k, x⟩ := e
    obtain ⟨k', x'⟩ := e'
    obtain ⟨rfl, hx⟩ := he
    by_cases hk : k = .str s
    · subst hk
      rw [insert_cons_self, insert_cons_self]
      exact .cons ⟨rfl, hvw⟩ hrest
    · rw [insert_cons_ne hk, insert_cons_ne hk]
      exact .cons ⟨rfl, hx⟩ ih

theorem Match.filter {R : α → β → Prop} {es : Entries α} {mid : Entries β} (h : Match R es mid)
    (p : Value → Bool) :
    Match R (es.filter fun e => p e.1) (mid.filter fun e => p e.1) :=
  List.rel_filter (fun e e' he => by simp only [he.1]) h

theorem Match.put {R : α → β → Prop} {es : Entries α} {mid : Entries β} (h : Match R es mid)
    (s : String) {a : Option α} {b : Option β} (hab : Option.Rel R a b) :
    Match R (put s a es) (put s b mid) := by
  cases hab with
  | some hvw => exact h.insert s hvw
  | none => exact h.filter fun k => !(Value.str s).sameKey k

/-- Changing a name in entries that have it at another place: the name finds the same. -/
theorem put_perm {es es' : Entries α} (h : es.Perm es') {s : String}
    (hfind : find? (.str s) es = find? (.str s) es') (cell : Option α) :
    (put s cell es).Perm (put s cell es') := by
  cases cell with
  | none => exact h.filter _
  | some v =>
    cases hs : find? (.str s) es with
    | none =>
      rw [put, put, insert_of_find?_eq_none hs, insert_of_find?_eq_none (hfind ▸ hs)]
      exact h.append_right _
    | some w =>
      -- both have the same entry under the name, and lose it when another one comes in its place
      obtain ⟨pre, post, rfl, hinsert⟩ := exists_eq_of_find? hs
      obtain ⟨pre', post', rfl, hinsert'⟩ := exists_eq_of_find? (hfind ▸ hs)
      rw [put, put, hinsert, hinsert']
      have hrest : (pre ++ post).Perm (pre' ++ post') :=
        (List.perm_middle.symm.trans (h.trans List.perm_middle)).cons_inv
      exact List.perm_middle.trans ((hrest.cons _).trans List.perm_middle.symm)

/-- Changes of two names commute but for the order of what they add. -/
theorem put_put_perm {s t : String} (hst : s ≠ t) (a b : Option α) (es : Entries α) :
    (put s a (put t b es)).Perm (put t b (put s a es)) := by
  by_cases ha : find? (.str s) es = none → a = none
  · rw [put_comm hst ha]
  · by_cases hb : find? (.str t) es = none → b = none
    · rw [put_comm (Ne.symm hst) hb]
    · -- both names are new, and are added at the end
      obtain ⟨hs, hsome⟩ := Classical.not_imp.mp ha
      obtain ⟨ht, hsome'⟩ := Classical.not_imp.mp hb
      obtain ⟨v, rfl⟩ := Option.ne_none_iff_exists'.mp hsome
      obtain ⟨w, rfl⟩ := Option.ne_none_iff_exists'.mp hsome'
      have hs' : find? (.str s) (insert (.str t) w es) = none := by
        rw [find?_insert_ne (Ne.symm hst), hs]
      have ht' : find? (.str t) (insert (.str s) v es) = none := by
        rw [find?_insert_ne hst, ht]
      rw [put, put, put, put, insert_of_find?_eq_none hs', insert_of_find?_eq_none ht',
        insert_of_find?_eq_none hs, insert_of_find?_eq_none ht, List.append_assoc, List.append_assoc]
      exact (List.Perm.swap _ _ _).append_left es

end Entries

namespace RuleTable

/-- Two tables have the same rules, in any order, and write paths alike. -/
structure Rearranges (t t' : RuleTable) : Prop where
  options : t.options = t'.options
  rules : t.ruleList.Perm t'.ruleList

variable {t t' : RuleTable}

/-- The rule of a path is the one that has it. -/
theorem Compiled.ruleAt_eq_some_iff (ht : t.Compiled) {path : List Segment} {r : Rule} :
    t.ruleAt path = some r ↔ r ∈ t.ruleList ∧ r.path = path := by
  refine ⟨ruleAt_eq_some, ?_⟩
  rintro ⟨hr, rfl⟩
  cases hrule : t.ruleAt r.path with
  | none =>
    have hpath := ruleAt_eq_none.mp hrule
    rw [hasPath_iff.mpr ⟨r, hr, rfl⟩] at hpath
    cases hpath
  | some r' =>
    obtain ⟨hr', heq⟩ := ruleAt_eq_some hrule
    rw [List.inj_on_of_nodup_map ht.distinct hr' hr heq]

namespace Rearranges

variable (h : t.Rearranges t')

include h

theorem mem_iff {r : Rule} : r ∈ t.ruleList ↔ r ∈ t'.ruleList := h.rules.mem_iff

theorem byDepth : t.byDepth.Perm t'.byDepth :=
  (List.mergeSort_perm _ _).trans (h.rules.trans (List.mergeSort_perm _ _).symm)

theorem below_eq_nil_iff (path : List Segment) : t.below path = [] ↔ t'.below path = [] := by
  have hperm : (t.below path).Perm (t'.below path) := h.byDepth.filter _
  rw [← List.length_eq_zero_iff, hperm.length_eq, List.length_eq_zero_iff]

theorem namesBelow (path : List Segment) : (t.namesBelow path).Perm (t'.namesBelow path) := by
  refine (List.perm_ext_iff_of_nodup (t.nodup_namesBelow path) (t'.nodup_namesBelow path)).mpr ?_
  intro s
  rw [mem_namesBelow, mem_namesBelow]
  exact exists_congr fun r => and_congr_left' h.mem_iff

theorem itemsBelow (path : List Segment) : t.itemsBelow path = t'.itemsBelow path := by
  rw [Bool.eq_iff_iff, itemsBelow_iff, itemsBelow_iff]
  exact exists_congr fun r => and_congr_left' h.mem_iff

theorem mem_roots_iff {s : String} : s ∈ t.roots ↔ s ∈ t'.roots := by
  rw [roots, roots, List.mem_eraseDups, List.mem_eraseDups, List.mem_filterMap, List.mem_filterMap]
  exact exists_congr fun r => and_congr_left' h.mem_iff

theorem ruleAt (ht : t.Compiled) (ht' : t'.Compiled) (path : List Segment) :
    t.ruleAt path = t'.ruleAt path := by
  refine Option.ext fun r => ?_
  rw [ht.ruleAt_eq_some_iff, ht'.ruleAt_eq_some_iff]
  exact and_congr_left' h.mem_iff

end Rearranges

end RuleTable

namespace Descent

/-! ## Keys in another order -/

section Rows

variable {f g : String → Option Value → Option Value × List Visit}

theorem entries_match {R : Value → Value → Prop}
    (hfg : ∀ s cell, Option.Rel R (f s cell).1 (g s cell).1) {names : List String} :
    names.Nodup → ∀ es mid, Entries.Match R es mid →
      (∀ s ∈ names, Entries.find? (.str s) es = Entries.find? (.str s) mid) →
      Entries.Match R (entries f names es).1 (entries g names mid).1 := by
  induction names with
  | nil => exact fun _ es mid hmatch _ => hmatch
  | cons s names ih =>
    intro hnd es mid hmatch hfind
    obtain ⟨hs, hnd⟩ := List.nodup_cons.mp hnd
    obtain ⟨hself, hrest⟩ := List.forall_mem_cons.mp hfind
    rw [entries, entries, ← hself]
    refine ih hnd _ _ (hmatch.put s (hfg s _)) fun t ht => ?_
    have hne : s ≠ t := by
      rintro rfl
      exact hs ht
    rw [Entries.find?_put_ne hne, Entries.find?_put_ne hne, hrest t ht]

theorem entries_perm_start {names : List String} :
    names.Nodup → ∀ es es' : Entries Value, es.Perm es' →
      (∀ s ∈ names, Entries.find? (.str s) es = Entries.find? (.str s) es') →
      (entries f names es).1.Perm (entries f names es').1 := by
  induction names with
  | nil => exact fun _ es es' hperm _ => hperm
  | cons s names ih =>
    intro hnd es es' hperm hfind
    obtain ⟨hs, hnd⟩ := List.nodup_cons.mp hnd
    obtain ⟨hself, hrest⟩ := List.forall_mem_cons.mp hfind
    rw [entries, entries, ← hself]
    refine ih hnd _ _ (Entries.put_perm hperm hself _) fun t ht => ?_
    have hne : s ≠ t := by
      rintro rfl
      exact hs ht
    rw [Entries.find?_put_ne hne, Entries.find?_put_ne hne, hrest t ht]

/-- Settling the keys of a mapping in another order: two neighbours can change places. -/
theorem entries_perm {names names' : List String} (hperm : names.Perm names') :
    names.Nodup → ∀ es : Entries Value,
      (entries f names es).1.Perm (entries f names' es).1 := by
  induction hperm with
  | nil => exact fun _ es => List.Perm.refl _
  | cons s _ ih =>
    intro hnd es
    rw [entries, entries]
    exact ih (List.nodup_cons.mp hnd).2 _
  | swap s t names =>
    intro hnd es
    obtain ⟨ht, hnd⟩ := List.nodup_cons.mp hnd
    obtain ⟨hs, hnd⟩ := List.nodup_cons.mp hnd
    have hts : t ≠ s := by
      rintro rfl
      exact ht (List.mem_cons_self ..)
    rw [entries, entries, entries, entries, Entries.find?_put_ne hts,
      Entries.find?_put_ne (Ne.symm hts)]
    refine entries_perm_start hnd _ _ (Entries.put_put_perm (Ne.symm hts) _ _ es) fun u hu => ?_
    have hus : s ≠ u := by
      rintro rfl
      exact hs hu
    have hut : t ≠ u := by
      rintro rfl
      exact ht (List.mem_cons_of_mem _ hu)
    rw [Entries.find?_put_ne hus, Entries.find?_put_ne hut, Entries.find?_put_ne hut,
      Entries.find?_put_ne hus]
  | trans hperm _ ih ih' =>
    intro hnd es
    exact (ih hnd es).trans (ih' (hperm.nodup_iff.mp hnd) es)

end Rows

/-! ## Rules in another order -/

/-- Two descents make values that are related, with the same visits in any order. -/
def Apart {β : Type} (R : β → β → Prop) (a b : β × List Visit) : Prop := R a.1 b.1 ∧ a.2.Perm b.2

theorem unlessEmpty_rearranged {v w : Value} (h : v.Rearranged w) :
    Option.Rel Value.Rearranged (unlessEmpty v) (unlessEmpty w) := by
  have hkept : ∀ {v w : Value}, v.Rearranged w → v ≠ .dict false [] → w ≠ .dict false [] →
      Option.Rel Value.Rearranged (unlessEmpty v) (unlessEmpty w) := by
    intro v w h hv hw
    rw [unlessEmpty_of_ne hv, unlessEmpty_of_ne hw]
    exact .some h
  by_cases hv : v = .dict false []
  · subst hv
    cases h with
    | refl => exact .none
    | dict hkeys hvalues hperm =>
      rw [List.map_nil, eq_comm, List.map_eq_nil_iff] at hkeys
      subst hkeys
      rw [hperm.nil_eq.symm]
      exact .none
  · refine hkept h hv ?_
    rintro rfl
    cases h with
    | refl => exact hv rfl
    | dict hkeys hvalues hperm =>
      rw [hperm.eq_nil, List.map_nil, List.map_eq_nil_iff] at hkeys
      exact hv (congrArg _ hkeys)

theorem items_rearranged {f g : Nat → Value → Option Value × List Visit}
    (hfg : ∀ i v, Apart (Option.Rel Value.Rearranged) (f i v) (g i v)) (vs : List Value) (n : Nat) :
    Apart (List.Forall₂ Value.Rearranged) (items f n vs) (items g n vs) := by
  induction vs generalizing n with
  | nil => exact ⟨.nil, .refl _⟩
  | cons v vs ih =>
    obtain ⟨hrest, hvisits⟩ := ih (n + 1)
    obtain ⟨hcell, hcells⟩ := hfg n v
    rw [items, items]
    have hself : List.Forall₂ Value.Rearranged (f n v).1.toList (g n v).1.toList := by
      generalize (f n v).1 = a, (g n v).1 = b at hcell
      cases hcell with
      | some h => exact .cons h .nil
      | none => exact .nil
    exact ⟨List.rel_append hself hrest, hcells.append hvisits⟩

section Tables

variable {t t' : RuleTable} {judge : Judge} {settle settle' : Value → Value × List Visit}
  {place : Place} (hsettle : ∀ v, Apart Value.Rearranged (settle v) (settle' v))

include hsettle

theorem judged_rearranged (r : Rule) (given : Value) (lingers : Bool) :
    Apart (Option.Rel Value.Rearranged) (judged judge settle r place given lingers)
      (judged judge settle' r place given lingers) := by
  cases hkept : (judge r place given).kept? with
  | some v =>
    rw [judged_kept hkept, judged_kept hkept]
    exact ⟨.some (hsettle v).1, (hsettle v).2.cons _⟩
  | none =>
    cases hs : lingers && (judge r place given).state.succeeded with
    | false =>
      rw [judged_dropped hkept hs, judged_dropped hkept hs]
      exact ⟨.none, .refl _⟩
    | true =>
      obtain ⟨rfl, hs⟩ := Bool.and_eq_true_iff.mp hs
      rw [judged_lingering hkept hs, judged_lingering hkept hs]
      exact ⟨.none, (hsettle given).2.cons _⟩

theorem entry_rearranged (hrule : t.ruleAt place.path = t'.ruleAt place.path) (cell : Option Value) :
    Apart (Option.Rel Value.Rearranged) (entry t judge settle place cell)
      (entry t' judge settle' place cell) := by
  cases h : t'.ruleAt place.path with
  | some r =>
    rw [entry_ruled (hrule.trans h), entry_ruled h]
    exact judged_rearranged hsettle r _ _
  | none =>
    cases cell with
    | some v =>
      rw [entry_free (hrule.trans h), entry_free h]
      exact ⟨.some (hsettle v).1, (hsettle v).2⟩
    | none =>
      rw [entry_missing (hrule.trans h), entry_missing h]
      exact ⟨unlessEmpty_rearranged (hsettle _).1, (hsettle _).2⟩

theorem item_rearranged (hrule : t.ruleAt place.path = t'.ruleAt place.path) (lingering : Bool)
    (v : Value) :
    Apart (Option.Rel Value.Rearranged) (item t judge lingering settle place v)
      (item t' judge lingering settle' place v) := by
  cases h : t'.ruleAt place.path with
  | some r =>
    rw [item_ruled (hrule.trans h), item_ruled h]
    exact judged_rearranged hsettle r v lingering
  | none =>
    rw [item_free (hrule.trans h), item_free h]
    exact ⟨.some (hsettle v).1, (hsettle v).2⟩

end Tables

section Rearranges

variable {t t' : RuleTable} (h : t.Rearranges t') (ht : t.Compiled) (ht' : t'.Compiled)

include h ht ht'

/-- Tables with the same rules in another order settle a value alike, but for the order of entries,
with the same visits in another order. -/
theorem settle_rearranged (judge : Judge) (lingering : Bool) : ∀ place v,
    Apart Value.Rearranged (settle t judge lingering place v)
      (settle t' judge lingering place v) := by
  refine place_induction t ?_ ?_
  · intro place hbelow v
    rw [settle_nil hbelow, settle_nil ((h.below_eq_nil_iff _).mp hbelow)]
    exact ⟨.refl v, .refl _⟩
  · intro place hbelow ih v
    have hbelow' := fun hnil => hbelow ((h.below_eq_nil_iff place.path).mpr hnil)
    cases hentries : v.entries? with
    | some es =>
      obtain ⟨ordered, rfl⟩ := Value.eq_dict_of_entries? hentries
      have hkey : ∀ s cell, Apart (Option.Rel Value.Rearranged)
          (settleKey t judge lingering place s cell) (settleKey t' judge lingering place s cell) :=
        fun s => entry_rearranged (ih (.key s)) (h.ruleAt ht ht' _)
      have hnames := h.namesBelow place.path
      have hnd := t.nodup_namesBelow place.path
      -- first another table settles the same names, and then the names come in another order
      have hmatch := entries_match (fun s cell => (hkey s cell).1) hnd es es
        (Entries.Match.refl Value.Rearranged.refl es) fun _ _ => rfl
      rw [settle_dict hbelow, settle_dict hbelow']
      refine ⟨.dict hmatch.keys hmatch.values (entries_perm hnames hnd es), ?_⟩
      dsimp only
      rw [entries_visits hnd, entries_visits (hnames.nodup_iff.mp hnd)]
      exact (List.Perm.flatMap_left _ fun s _ => (hkey s _).2).trans (hnames.flatMap_right _)
    | none =>
      cases hitems : v.items? with
      | some xs =>
        rw [settle_items hbelow hitems, settle_items hbelow' hitems, h.itemsBelow]
        split
        · have hitem : ∀ i x, Apart (Option.Rel Value.Rearranged)
              (settleItem t judge lingering place i x) (settleItem t' judge lingering place i x) :=
            fun i => item_rearranged (ih (.index i)) (h.ruleAt ht ht' _) lingering
          have hrow := items_rearranged hitem xs 0
          exact ⟨.list hrow.1, hrow.2⟩
        · exact ⟨.refl _, .refl _⟩
      | none =>
        rw [settle_scalar hentries hitems, settle_scalar hentries hitems]
        exact ⟨.refl v, .refl _⟩

omit ht ht' in
theorem restricted_rearranged {v w : Value} (hvw : v.Rearranged w) :
    (restricted t v).Rearranged (restricted t' w) := by
  have hdeclared : declared t = declared t' := by
    funext es
    refine List.filter_congr fun e _ => ?_
    rw [Bool.eq_iff_iff, List.any_eq_true, List.any_eq_true]
    exact exists_congr fun s => and_congr_left' h.mem_roots_iff
  unfold restricted
  rw [hdeclared]
  cases hvw with
  | refl => exact .refl _
  | dict hkeys hvalues hperm =>
    have hmatch := (Entries.match_of_map hkeys hvalues).filter
      fun k => t'.roots.any fun s => (Value.str s).sameKey k
    exact .dict hmatch.keys hmatch.values (hperm.filter _)
  | list hitems => exact .list hitems

theorem output_rearranged (judge : Judge) (lingering : Bool) (es : Entries Value) :
    (output t judge lingering es).Rearranged (output t' judge lingering es) :=
  restricted_rearranged h (settle_rearranged h ht ht' judge lingering [] _).1

theorem visits_perm (judge : Judge) (lingering : Bool) (es : Entries Value) :
    (visits t judge lingering es).Perm (visits t' judge lingering es) := by
  have hsettle := (settle_rearranged h ht ht' judge lingering [] (.dict false es)).2
  exact (h.byDepth.flatMap_right _).trans
    (List.Perm.flatMap_left _ fun r _ => hsettle.filter _)

end Rearranges

end Descent

/-- Two reports tell the same, but for the order in which they tell it: the value is alike but for
the order of entries at every level, and the same fields have passed and failed. -/
structure Report.Rearranged (r r' : Report) : Prop where
  ok : r.ok = r'.ok
  value : r.value.Rearranged r'.value
  passed : r.passed.Perm r'.passed
  failed : r.failed.Perm r'.failed
  errors : r.errors.Perm r'.errors

/-- What was read of entries in another order is what was read, in another order. -/
theorem RuleTable.exists_rearranges {registry : Registry} {o : PathOptions} {schema schema' : Value}
    {fragment fragment' : Entries Value} {t : RuleTable} (hfragment : fragments schema = .ok [fragment])
    (hfragment' : fragments schema' = .ok [fragment']) (hperm : fragment.Perm fragment')
    (hdistinct : (fragment.map Prod.fst).Nodup) (h : compile registry o schema = .ok t) :
    ∃ t', compile registry o schema' = .ok t' ∧ t.Rearranges t' := by
  obtain ⟨fs, read, hfs, hread, rfl⟩ := compile_eq_ok_iff.mp h
  obtain rfl := Except.ok.inj (hfragment.symm.trans hfs)
  rw [List.flatten_singleton] at hread
  obtain ⟨read', hread', hperm'⟩ := List.perm_comp_forall₂ hperm.symm hread
  have hkeys : fragment.map Prod.fst = (read.map (·.1)).map Value.str := by
    rw [List.map_map]
    exact (map_eq_of_forall₂ (hread.imp fun e read hreads => hreads.key.symm)).symm
  have hnodup : (read.map (·.1)).Nodup := by
    rw [hkeys] at hdistinct
    exact hdistinct.of_map _
  have hnodup' : (read'.map (·.1)).Nodup := (hperm'.map _).nodup_iff.mpr hnodup
  refine ⟨⟨o, gathered read'⟩,
    compile_eq_ok_iff.mpr ⟨[fragment'], read', hfragment', ?_, rfl⟩, rfl, ?_⟩
  · rwa [List.flatten_singleton]
  · show ((gathered read).map (·.2)).Perm ((gathered read').map (·.2))
    rw [gathered_of_nodup hnodup, gathered_of_nodup hnodup']
    exact hperm'.symm.map _

namespace Run

theorem Tally.rearranged {outcomes outcomes' : List FieldOutcome}
    {passed passed' failed failed' : List (String × Value)} {errors errors' : List FieldError}
    (h : Tally outcomes passed failed errors) (h' : Tally outcomes' passed' failed' errors')
    (hperm : outcomes.Perm outcomes') : passed.Perm passed' ∧ failed.Perm failed' := by
  rw [h.passed_eq, h'.passed_eq, h.failed_eq, h'.failed_eq]
  exact ⟨hperm.filterMap _, hperm.filterMap _⟩

end Run

namespace Validator

/-- Sibling rules never interact: schemas of one fragment with the same entries in another order
report the same on every mapping, but for the order in which they report it. -/
theorem run_rearranged {registry : Registry} {o : PathOptions} {schema schema' : Value}
    {fragment fragment' : Entries Value} (ho : o.Valid)
    (hsep : ∀ c ∈ o.separator.toList, c.isDigit = false)
    (hfragment : RuleTable.fragments schema = .ok [fragment])
    (hfragment' : RuleTable.fragments schema' = .ok [fragment']) (hperm : fragment.Perm fragment')
    (hdistinct : (fragment.map Prod.fst).Nodup) {v : Validator}
    (hv : compile registry o schema = .ok v) :
    ∃ v', compile registry o schema' = .ok v' ∧
      ∀ cb ordered es keywords calls finished after,
        v.run cb (.dict ordered es) keywords calls = (.ok finished, after) →
          ∀ calls', ∃ finished' after',
            v'.run cb (.dict ordered es) keywords calls' = (.ok finished', after') ∧
              finished.report.Rearranged finished'.report := by
  obtain ⟨t', hcompile, hrearranges⟩ := RuleTable.exists_rearranges hfragment hfragment' hperm
    hdistinct (compile_table hv)
  have hv' := compile_of_table hcompile
  obtain ⟨ht, hregistry⟩ := compile_compiled hv
  obtain ⟨ht', -⟩ := compile_compiled hv'
  refine ⟨_, hv', fun cb ordered es keywords calls finished after hrun calls' => ?_⟩
  obtain ⟨c, hc⟩ := List.exists_mem_of_ne_nil _ ho.separator_ne_nil
  have hon : o.GoesOn → ∃ c ∈ o.separator.toList, c.isDigit = false := fun _ => ⟨c, hc, hsep c hc⟩
  obtain ⟨es', hes, hexecute⟩ := exists_execute_of_run hrun
  -- both tables write places alike, so that they judge alike
  have hjudge : Field.judge v.registry cb.calm v.table = Field.judge registry cb.calm t' := by
    unfold Field.judge
    rw [hregistry, hrearranges.options]
  have hvisits := Descent.visits_perm hrearranges ht ht' (Field.judge registry cb.calm t') true es'
  have hends := (Run.ends_iff ht).mp ⟨_, _, hexecute⟩
  rw [hjudge, hregistry, hrearranges.options] at hends
  obtain ⟨finished', after', hexecute'⟩ := (@Run.ends_iff _ cb _ _ calls' ht').mpr
    fun w hw => hends w (hvisits.mem_iff.mpr hw)
  have hrun' : run ⟨t', registry⟩ cb (.dict ordered es) keywords calls' = (.ok finished', after') :=
    run_of_execute hes hexecute'
  refine ⟨finished', after', hrun', ?_⟩
  have htally := tally_of_run hv ho hon hrun
  have htally' := tally_of_run hv' ho hon hrun'
  obtain rfl := Run.execute_eq_ok ht hexecute
  obtain rfl := Run.execute_eq_ok ht' hexecute'
  rw [Run.settledEnd, hjudge] at htally ⊢
  have herrors := hvisits.filterMap (·.outcome.failure?)
  obtain ⟨hpassed, hfailed⟩ := htally.rearranged htally' ((hvisits.map _).map _)
  exact ⟨herrors.isEmpty_eq, Descent.output_rearranged hrearranges ht ht' _ _ _, hpassed, hfailed,
    herrors⟩

/-- Two defaults for which mappings are made, and a list that loses an element, declared one way and
the other. -/
theorem run_rearranged_defaults :
    let one : Value := .dict false [(.str "type", .str "number"), (.str "default", .int 1)]
    let two : Value := .dict false [(.str "type", .str "number"), (.str "default", .int 2)]
    let fragment : Entries Value := [(.str "a.b", one), (.str "c.$", .str "string"), (.str "d.e", two)]
    let fragment' : Entries Value := [(.str "d.e", two), (.str "a.b", one), (.str "c.$", .str "string")]
    let es : Entries Value := [(.str "c", .tuple [.str "x", .int 5])]
    let cb : Callbacks := fun _ => .error (.ofText .runtimeError "called")
    ∃ v v' finished finished', PathOptions.default.Valid ∧
      (∀ c ∈ PathOptions.default.separator.toList, c.isDigit = false) ∧
      fragment.Perm fragment' ∧ (fragment.map Prod.fst).Nodup ∧
      compile Registry.default .default (.dict false fragment) = .ok v ∧
      compile Registry.default .default (.list [.dict false fragment']) = .ok v' ∧
      v.run cb (.dict true es) [] [] = (.ok finished, []) ∧
      v'.run cb (.dict true es) [] [] = (.ok finished', []) ∧
      finished.report.value = .dict false [(.str "c", .list [.str "x"]),
        (.str "a", .dict false [(.str "b", .int 1)]), (.str "d", .dict false [(.str "e", .int 2)])] ∧
      finished'.report.value = .dict false [(.str "c", .list [.str "x"]),
        (.str "d", .dict false [(.str "e", .int 2)]), (.str "a", .dict false [(.str "b", .int 1)])] ∧
      finished.report.Rearranged finished'.report := by
  intro one two fragment fragment' es cb
  let r : Rule := ⟨{ Contract.ofTypes ["number"] with default := some (.int 1) },
    [.name "a", .name "b"]⟩
  let r' : Rule := ⟨.ofTypes ["string"], [.name "c", .wildcard]⟩
  let r'' : Rule := ⟨{ Contract.ofTypes ["number"] with default := some (.int 2) },
    [.name "d", .name "e"]⟩
  let v : Validator := ⟨⟨.default, [("a.b", r), ("c.$", r'), ("d.e", r'')]⟩, Registry.default⟩
  let v' : Validator := ⟨⟨.default, [("d.e", r''), ("a.b", r), ("c.$", r')]⟩, Registry.default⟩
  let e : FieldError := ⟨"c.1", .int 5, "number", ["string"]⟩
  let a : Value × Value := (.str "a", .dict false [(.str "b", .int 1)])
  let d : Value × Value := (.str "d", .dict false [(.str "e", .int 2)])
  let o₁ : Place × FieldOutcome :=
    ([.key "a", .key "b"], ⟨"a.b", .defaulted, .int 1, some "number", none⟩)
  let o₂ : Place × FieldOutcome :=
    ([.key "d", .key "e"], ⟨"d.e", .defaulted, .int 2, some "number", none⟩)
  let os : List (Place × FieldOutcome) :=
    [([.key "c", .index 0], ⟨"c.0", .matched, .str "x", some "string", none⟩),
      ([.key "c", .index 1], ⟨"c.1", .failed, .int 5, none, some e⟩)]
  let finished : Run.Finished := ⟨⟨.dict false [(.str "c", .list [.str "x"]), a, d],
    [("a.b", .int 1), ("c.0", .str "x"), ("d.e", .int 2)], [("c.1", .int 5)], [e]⟩, o₁ :: os ++ [o₂]⟩
  let finished' : Run.Finished := ⟨⟨.dict false [(.str "c", .list [.str "x"]), d, a],
    [("d.e", .int 2), ("a.b", .int 1), ("c.0", .str "x")], [("c.1", .int 5)], [e]⟩, o₂ :: o₁ :: os⟩
  have hv : compile Registry.default .default (.dict false fragment) = .ok v := by cbv
  have hv' : compile Registry.default .default (.list [.dict false fragment']) = .ok v' := by cbv
  have ho : PathOptions.default.Valid := by decide
  have hsep : ∀ c ∈ PathOptions.default.separator.toList, c.isDigit = false := by
    intro c hc
    obtain rfl : c = '.' := by simpa [PathOptions.default] using hc
    rfl
  have hperm : fragment.Perm fragment' := @List.perm_append_comm _ [_, _] [_]
  have hdistinct : (fragment.map Prod.fst).Nodup := by
    rw [show fragment.map Prod.fst = ["a.b", "c.$", "d.e"].map Value.str from rfl]
    exact List.Nodup.map (fun _ _ => Value.str.inj) (by decide)
  have hrun : v.run cb (.dict true es) [] [] = (.ok finished, []) := by cbv
  have hrun' : v'.run cb (.dict true es) [] [] = (.ok finished', []) := by cbv
  obtain ⟨w, hw, hends⟩ := @run_rearranged _ _ _ (.list [.dict false fragment']) _ _ ho hsep rfl
    rfl hperm hdistinct _ hv
  obtain rfl := Except.ok.inj (hv'.symm.trans hw)
  obtain ⟨other, after, hother, hreport⟩ := hends cb true es [] [] finished [] hrun []
  obtain rfl := Except.ok.inj (congrArg Prod.fst (hrun'.symm.trans hother))
  exact ⟨v, v', finished, finished', ho, hsep, hperm, hdistinct, hv, hv', hrun, hrun', rfl, rfl,
    hreport⟩

end Validator

end ArgumentSchema
