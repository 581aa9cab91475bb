import ArgumentSchema.Proofs.Concatenation
import ArgumentSchema.Proofs.Fragments

/-!
# The roots of a schema

The rules whose paths start with one name look only at what an input has under this name, and leave
the rest alone. So a run is made of one run for each root, and what an input has under other keys,
and in which order it has them, does not matter.

> `Descent.visits_under`: the visits under a root are those of the rules of this root alone.
> `Validator.run_roots`: a report tells, root by root, what the rules of the root report on the
> entry of the root; and inputs with the same entries at all roots have the same report.
-/

namespace ArgumentSchema

/-! ## Sorting what is left -/

namespace SameBy

variable {ω : Type} {label : ω → Nat} {l l' : List ω}

theorem filter (h : SameBy label l l') (p : ω → Bool) : SameBy label (l.filter p) (l'.filter p) := by
  intro k
  rw [List.filter_comm, h k, List.filter_comm]

theorem symm (h : SameBy label l l') : SameBy label l' l := fun k => (h k).symm

/-- The record that comes first in a log has no higher label than any record of the other. -/
theorem le_of_pairwise {a b : ω} {l l' : List ω} (h : SameBy label (a :: l) (b :: l'))
    (hl : (a :: l).Pairwise fun a b => label a ≤ label b) : label a ≤ label b := by
  have hb : b ∈ (a :: l).filter fun w => label w = label b := by
    rw [h]
    exact List.mem_filter.mpr ⟨List.mem_cons_self .., by simp⟩
  rcases List.mem_cons.mp (List.mem_filter.mp hb).1 with rfl | hmem
  · exact Nat.le_refl _
  · exact (List.pairwise_cons.mp hl).1 b hmem

/-- Logs in the order of their labels that have the same records under each label are the same. -/
theorem eq_of_pairwise (h : SameBy label l l') (hl : l.Pairwise fun a b => label a ≤ label b)
    (hl' : l'.Pairwise fun a b => label a ≤ label b) : l = l' := by
  have hfirst : ∀ {a : ω} {l : List ω}, ¬ SameBy label [] (a :: l) := by
    intro a l h
    have ha := h (label a)
    rw [List.filter_cons_of_pos (by simp)] at ha
    cases ha
  induction l generalizing l' with
  | nil =>
    cases l' with
    | nil => rfl
    | cons b l' => exact absurd h hfirst
  | cons a l ih =>
    cases l' with
    | nil => exact absurd h.symm hfirst
    | cons b l' =>
      have hlabel : label b = label a :=
        Nat.le_antisymm (h.symm.le_of_pairwise hl') (h.le_of_pairwise hl)
      have hhead := h (label a)
      rw [List.filter_cons_of_pos (by simp), List.filter_cons_of_pos (by simp [hlabel])] at hhead
      obtain ⟨rfl, -⟩ := List.cons.inj hhead
      refine congrArg (a :: ·) (ih (fun k => ?_) (List.pairwise_cons.mp hl).2
        (List.pairwise_cons.mp hl').2)
      have hk := h k
      rw [List.filter_cons, List.filter_cons] at hk
      split at hk
      · exact (List.cons.inj hk).2
      · exact hk

end SameBy

namespace RuleTable

/-- The rules under one root name. -/
def under (t : RuleTable) (root : String) : RuleTable :=
  { t with rules := t.rules.filter fun e => e.2.path.head? == some (.name root) }

section Under

variable (t : RuleTable) (root : String)

theorem ruleList_under :
    (t.under root).ruleList = t.ruleList.filter fun r => r.path.head? == some (.name root) := by
  rw [ruleList, ruleList, List.filter_map]
  rfl

theorem mem_ruleList_under {r : Rule} :
    r ∈ (t.under root).ruleList ↔ r ∈ t.ruleList ∧ r.path.head? = some (.name root) := by
  rw [ruleList_under, List.mem_filter, beq_iff_eq]

/-- The rules under a root come in their order among all rules. -/
theorem byDepth_under :
    (t.under root).byDepth = t.byDepth.filter fun r => r.path.head? == some (.name root) := by
  have hleft := mergeSort_sameBy (t.under root).ruleList
  rw [ruleList_under] at hleft
  have hsame : SameBy Rule.depth (t.under root).byDepth
      (t.byDepth.filter fun r => r.path.head? == some (.name root)) := by
    rw [byDepth, ruleList_under]
    exact hleft.trans ((mergeSort_sameBy t.ruleList).symm.filter _)
  exact hsame.eq_of_pairwise (pairwise_byDepth _) ((pairwise_byDepth t).filter _)

/-- Two tables have the same rules at and below a path. -/
def AgreeFrom (t t' : RuleTable) (upper : List Segment) : Prop :=
  ∀ path, upper <+: path → t.ruleAt path = t'.ruleAt path ∧ t.below path = t'.below path

theorem under_agreeFrom : (t.under root).AgreeFrom t [.name root] := by
  rintro _ ⟨rest, rfl⟩
  constructor
  · rw [ruleAt, ruleList_under, List.find?_filter, ruleAt]
    congr 1
    funext r
    rw [Bool.eq_iff_iff]
    simp only [beq_iff_eq, decide_eq_true_eq, and_iff_right_iff_imp]
    intro hpath
    rw [hpath]
    rfl
  · rw [below, byDepth_under, List.filter_filter, below]
    refine List.filter_congr fun r _ => ?_
    rw [Bool.eq_iff_iff]
    simp only [Bool.and_eq_true, beq_iff_eq, List.isPrefixOf_iff_prefix, decide_eq_true_eq,
      and_iff_left_iff_imp]
    rintro ⟨⟨rest', hpath⟩, -⟩
    rw [← hpath]
    rfl

variable {t root}

theorem namesBelow_under (hroot : root ∈ t.namesBelow []) :
    (t.under root).namesBelow [] = [root] := by
  rw [← List.perm_singleton]
  refine (List.perm_ext_iff_of_nodup (nodup_namesBelow _ _) (List.nodup_singleton _)).mpr fun s => ?_
  rw [mem_namesBelow, List.mem_singleton]
  constructor
  · rintro ⟨r, hr, rest, hpath⟩
    have hhead := ((t.mem_ruleList_under root).mp hr).2
    rw [← hpath] at hhead
    cases hhead
    rfl
  · rintro rfl
    obtain ⟨r, hr, rest, hpath⟩ := mem_namesBelow.mp hroot
    exact ⟨r, (t.mem_ruleList_under s).mpr ⟨hr, by rw [← hpath]; rfl⟩, rest, hpath⟩

end Under

/-! ## The entries of a root -/

/-- Whether a key of a schema is a path that starts with a name. -/
def startsWith (o : PathOptions) (root : String) : Value → Bool
  | .str s =>
    match Path.split? o s with
    | .ok path => path.head? == some (.name root)
    | .error _ => false
  | _ => false

/-- A schema with those entries alone whose paths start with a name. -/
def schemaUnder (o : PathOptions) (root : String) (schema : Value) : Value :=
  onFragments (fun es => es.filter fun e => startsWith o root e.1) schema

/-- The entries of a root compile to the rules under the root. -/
theorem compile_under {registry : Registry} {o : PathOptions} {schema : Value} {t : RuleTable}
    (h : compile registry o schema = .ok t) (root : String) :
    compile registry o (schemaUnder o root schema) = .ok (t.under root) := by
  obtain ⟨-, hsplit⟩ := forall_of_compile h (p := fun e => Path.split? o e.1 = .ok e.2.path)
    fun raw spec e hread => (readEntry_eq_ok_iff.mp hread).path
  obtain ⟨fs, read, hfs, hread, rfl⟩ := compile_eq_ok_iff.mp h
  let keeps : String → Bool := fun key => startsWith o root (.str key)
  refine compile_eq_ok_iff.mpr
    ⟨_, read.filter fun e => keeps e.1, fragments_onFragments _ hfs, ?_, ?_⟩
  · rw [← List.filter_flatten]
    exact List.rel_filter (fun e e' hreads => by simp only [hreads.key, keeps]) hread
  · rw [gathered_filter keeps, under]
    refine congrArg (RuleTable.mk o) (List.filter_congr fun e he => ?_)
    have hsplit : Path.split? o e.1 = .ok e.2.path := hsplit e he
    simp only [keeps, startsWith, hsplit]

end RuleTable

/-- What a mapping has under a name, and nothing else. -/
def Entries.only (s : String) (es : Entries Value) : Entries Value :=
  (Entries.find? (.str s) es).toList.map (Prod.mk (.str s))

theorem Entries.find?_only (s : String) (es : Entries Value) :
    find? (.str s) (only s es) = find? (.str s) es := by
  unfold only
  cases find? (.str s) es with
  | none => rfl
  | some v => exact find?_cons_self s v []

/-- Whether a place is at a root or below it. -/
def Place.isUnder (root : String) (place : Place) : Bool := place.head? == some (.key root)

namespace Descent

/-! ## The descent below a root -/

variable {t t' : RuleTable} {judge : Judge} {lingering : Bool}

theorem entry_congr {place : Place} (h : t.ruleAt place.path = t'.ruleAt place.path)
    (settle : Value → Value × List Visit) :
    entry t judge settle place = entry t' judge settle place := by
  funext cell
  unfold entry
  rw [h]

theorem item_congr {place : Place} (h : t.ruleAt place.path = t'.ruleAt place.path)
    (settle : Value → Value × List Visit) :
    item t judge lingering settle place = item t' judge lingering settle place := by
  funext v
  unfold item
  rw [h]

/-- Tables with the same rules at and below a path settle everything from there alike. -/
theorem settle_congr {upper : List Segment} (h : t.AgreeFrom t' upper) : ∀ place v,
    upper <+: Place.path place →
      settle t judge lingering place v = settle t' judge lingering place v := by
  refine place_induction t ?_ ?_
  · intro place hbelow v hupper
    have hbelow' : t'.below place.path = [] := by
      rw [← (h _ hupper).2]
      exact hbelow
    rw [settle_nil hbelow, settle_nil hbelow']
  · intro place hbelow ih v hupper
    obtain ⟨-, hsame⟩ := h _ hupper
    have hbelow' : t'.below place.path ≠ [] := by
      rw [← hsame]
      exact hbelow
    have hnext : ∀ step : Step, upper <+: Place.path (place ++ [step]) := by
      intro step
      rw [Place.path_append]
      exact hupper.trans (List.prefix_append ..)
    have hkey : settleKey t judge lingering place = settleKey t' judge lingering place := by
      funext s
      unfold settleKey
      rw [funext fun v => ih (.key s) v (hnext _), entry_congr (h _ (hnext (.key s))).1]
    have hitem : settleItem t judge lingering place = settleItem t' judge lingering place := by
      funext i
      unfold settleItem
      rw [funext fun v => ih (.index i) v (hnext _), item_congr (h _ (hnext (.index i))).1]
    cases hentries : v.entries? with
    | some es =>
      obtain ⟨ordered, rfl⟩ := Value.eq_dict_of_entries? hentries
      rw [settle_dict hbelow, settle_dict hbelow', hkey, RuleTable.namesBelow, hsame]
      rfl
    | none =>
      cases hitems : v.items? with
      | some xs =>
        rw [settle_items hbelow hitems, settle_items hbelow' hitems, hitem, RuleTable.itemsBelow,
          hsame]
        rfl
      | none => rw [settle_scalar hentries hitems, settle_scalar hentries hitems]

/-- What a root key makes of its value depends on the rules under the root alone. -/
theorem settleKey_at_root (root : String) :
    settleKey (t.under root) judge lingering [] root = settleKey t judge lingering [] root := by
  have hagree := t.under_agreeFrom root
  have hpath : [Segment.name root] <+: Place.path ([] ++ [Step.key root]) := List.prefix_refl _
  have hsettle : settle (t.under root) judge lingering ([] ++ [Step.key root]) =
      settle t judge lingering ([] ++ [Step.key root]) :=
    funext fun v => settle_congr hagree _ v hpath
  unfold settleKey
  rw [hsettle, entry_congr (hagree _ hpath).1]

/-- What the output of a mapping has under a root. -/
theorem output_at_root (ht : t.Compiled) {root : String} (hroot : root ∈ t.roots)
    (es : Entries Value) :
    (output t judge lingering es).at? [.key root] =
      (settleKey t judge lingering [] root (Entries.find? (.str root) es)).1 := by
  have hname : root ∈ t.namesBelow (Place.path []) := mem_namesBelow_nil ht hroot
  rw [output, settle_plain]
  show ((Entries.find? (.str root) (declared t _)).bind fun v => v.at? []) = _
  rw [find?_declared hroot, find?_entries (t.nodup_namesBelow _) hname]
  exact Option.bind_fun_some _

/-! ## The visits under a root -/

theorem isUnder_of_mem_settleKey {s : String} {cell : Option Value} {w : Visit}
    (hw : w ∈ (settleKey t judge true [] s cell).2) (root : String) :
    w.place.isUnder root = decide (s = root) := by
  obtain ⟨rest, hrest⟩ := (settleKey_spreadAt (settle_spread t judge ([] ++ [Step.key s])) cell).2 w hw
  rw [← hrest, Bool.eq_iff_iff]
  simp [Place.isUnder]

theorem flatMap_filter_key {names : List String} (hnd : names.Nodup) {root : String}
    (hroot : root ∈ names) {f : String → List Visit} {p : Visit → Bool}
    (hp : ∀ s, ∀ w ∈ f s, p w = decide (s = root)) : (names.flatMap f).filter p = f root := by
  obtain ⟨pre, post, rfl⟩ := List.append_of_mem hroot
  rw [List.nodup_append, List.nodup_cons] at hnd
  obtain ⟨-, ⟨hpost, -⟩, hpre⟩ := hnd
  have hother : ∀ names : List String, root ∉ names → (names.flatMap f).filter p = [] := by
    intro names hroot
    refine List.filter_eq_nil_iff.mpr fun w hw => ?_
    obtain ⟨s, hs, hw⟩ := List.mem_flatMap.mp hw
    rw [hp s w hw, decide_eq_true_eq]
    rintro rfl
    exact hroot hs
  have hself : (f root).filter p = f root :=
    List.filter_eq_self.mpr fun w hw => by rw [hp root w hw, decide_eq_true rfl]
  rw [List.flatMap_append, List.flatMap_cons, List.filter_append, List.filter_append,
    hother pre fun hmem => hpre _ hmem _ (List.mem_cons_self ..) rfl, hother post hpost, hself,
    List.nil_append, List.append_nil]

/-- The rounds of rules that find nothing can be left out. -/
theorem flatMap_filter_rules {rs : List Rule} {p : Rule → Bool} {f : Rule → List Visit}
    (hf : ∀ r ∈ rs, p r = false → f r = []) : (rs.filter p).flatMap f = rs.flatMap f := by
  induction rs with
  | nil => rfl
  | cons r rs ih =>
    obtain ⟨hr, hrs⟩ := List.forall_mem_cons.mp hf
    rw [List.filter_cons, List.flatMap_cons, ← ih hrs]
    split
    · rw [List.flatMap_cons]
    · next hp => rw [hr (by simpa using hp), List.nil_append]

/-- The visits under a root are those of the rules of this root alone, over the entry of the root
alone. -/
theorem visits_under (ht : t.Compiled) {root : String} (hroot : root ∈ t.roots) (es : Entries Value) :
    visits (t.under root) judge true (es.only root) =
      (visits t judge true es).filter fun w => w.place.isUnder root := by
  have hname : root ∈ t.namesBelow (Place.path []) := mem_namesBelow_nil ht hroot
  let own : List Visit := (settleKey t judge true [] root (Entries.find? (.str root) es)).2
  have hwhole : (settle t judge true [] (.dict false es)).2.filter (fun w => w.place.isUnder root) =
      own := by
    rw [settle_plain, entries_visits (t.nodup_namesBelow _)]
    exact flatMap_filter_key (t.nodup_namesBelow _) hname fun s w hw => isUnder_of_mem_settleKey hw root
  have hpart : (settle (t.under root) judge true [] (.dict false (es.only root))).2 = own := by
    have hnames : (t.under root).namesBelow (Place.path []) = [root] := RuleTable.namesBelow_under hname
    rw [settle_plain, entries_visits (RuleTable.nodup_namesBelow _ _), hnames, List.flatMap_cons,
      List.flatMap_nil, List.append_nil, Entries.find?_only, settleKey_at_root]
  have hrounds : ∀ r ∈ t.byDepth, (r.path.head? == some (.name root)) = false →
      (own.filter fun w => w.place.path == r.path) = [] := by
    intro r _ hr
    refine List.filter_eq_nil_iff.mpr fun w hw hpath => ?_
    have hunder : w.place.head? = some (.key root) := by
      simpa [Place.isUnder] using isUnder_of_mem_settleKey hw root
    rw [← (beq_iff_eq.mp hpath : w.place.path = r.path), Place.path, List.head?_map, hunder] at hr
    simp [Step.segment] at hr
  rw [visits, hpart, inOrder, RuleTable.byDepth_under, flatMap_filter_rules hrounds, visits, inOrder,
    List.filter_flatMap]
  refine List.flatMap_congr fun r _ => ?_
  rw [List.filter_comm, hwhole]

/-! ## The same entries at all roots -/

theorem visits_agree {es es' : Entries Value}
    (h : ∀ root ∈ t.roots, Entries.find? (.str root) es = Entries.find? (.str root) es') :
    visits t judge lingering es = visits t judge lingering es' := by
  have hsettle : (settle t judge lingering [] (.dict false es)).2 =
      (settle t judge lingering [] (.dict false es')).2 := by
    rw [settle_plain, settle_plain, entries_visits (t.nodup_namesBelow _),
      entries_visits (t.nodup_namesBelow _)]
    exact List.flatMap_congr fun s hs => by rw [h s (mem_roots_of_mem_namesBelow hs)]
  rw [visits, visits, hsettle]

/-- The output of a mapping is a mapping under declared names alone. -/
theorem exists_output (t : RuleTable) (judge : Judge) (lingering : Bool) (es : Entries Value) :
    ∃ out, output t judge lingering es = .dict false out ∧ ∀ e ∈ out, ∃ s ∈ t.roots, e.1 = .str s := by
  rw [output, settle_plain]
  refine ⟨_, rfl, fun e he => ?_⟩
  obtain ⟨s, hs, hkey⟩ := List.any_eq_true.mp (List.mem_filter.mp he).2
  exact ⟨s, hs, (Value.sameKey_str s e.1).mp hkey⟩

/-- An output has nothing under a name that no path starts with. -/
theorem output_at_other {s : String} (hs : s ∉ t.roots) (es : Entries Value) :
    (output t judge lingering es).at? [.key s] = none := by
  obtain ⟨out, hout, hdeclared⟩ := exists_output t judge lingering es
  rw [hout]
  show ((Entries.find? (.str s) out).bind fun v => v.at? []) = none
  cases hfind : Entries.find? (.str s) out with
  | none => rfl
  | some v =>
    obtain ⟨s', hs', hkey⟩ := hdeclared _ (Entries.mem_of_find? hfind)
    obtain rfl := Value.str.inj hkey
    exact absurd hs' hs

theorem output_agree (ht : t.Compiled) {es es' : Entries Value}
    (h : ∀ root ∈ t.roots, Entries.find? (.str root) es = Entries.find? (.str root) es') (s : String) :
    (output t judge lingering es).at? [.key s] = (output t judge lingering es').at? [.key s] := by
  by_cases hs : s ∈ t.roots
  · rw [output_at_root ht hs, output_at_root ht hs, h s hs]
  · rw [output_at_other hs, output_at_other hs]

end Descent

namespace Run

/-- What outcomes report under some places is what is reported under their keys, if no two outcomes
have the same key. -/
theorem filterMap_filter_keys {β : Type} {outcomes : List (Place × FieldOutcome)}
    (hkeys : ((outcomes.map (·.2)).map (·.key)).Nodup) (p : Place → Bool)
    {f : FieldOutcome → Option β} {name : β → String}
    (hname : ∀ e ∈ outcomes, ∀ b, f e.2 = some b → name b = e.2.key) :
    (((outcomes.filter fun e => p e.1).map (·.2)).filterMap f) =
      ((outcomes.map (·.2)).filterMap f).filter fun b =>
        outcomes.any fun e => e.2.key == name b && p e.1 := by
  have hany : ∀ e ∈ outcomes, (outcomes.any fun e' => e'.2.key == e.2.key && p e'.1) = p e.1 := by
    intro e he
    rw [Bool.eq_iff_iff, List.any_eq_true]
    constructor
    · rintro ⟨e', he', hboth⟩
      obtain ⟨hkey, hp⟩ := Bool.and_eq_true_iff.mp hboth
      rw [List.map_map] at hkeys
      rwa [← List.inj_on_of_nodup_map hkeys he' he (beq_iff_eq.mp hkey)]
    · exact fun hp => ⟨e, he, by rw [hp, beq_self_eq_true]; rfl⟩
  rw [List.filterMap_map, List.filterMap_map, List.filterMap_filter, List.filter_filterMap]
  refine List.filterMap_congr fun e he => ?_
  cases hf : f e.2 with
  | none => simp [hf]
  | some b => simp [hf, hname e he b hf, hany e he, Option.filter]

variable {registry : Registry} {cb : Callbacks} {table : RuleTable} {es : Entries Value}

/-- Whether a report has a key for the outcome of a place at a root or below it. -/
def Finished.startsAt (f : Finished) (root key : String) : Bool :=
  f.outcomes.any fun e => e.2.key == key && e.1.isUnder root

theorem errors_settledEnd : (settledEnd registry cb table es).report.errors =
    ((settledEnd registry cb table es).outcomes.map (·.2)).filterMap FieldOutcome.failure? := by
  rw [settledEnd, List.map_map, List.filterMap_map]
  rfl

/-- The error of an outcome of a run is filed under the key of the outcome. -/
theorem key_of_failure {e : Place × FieldOutcome}
    (he : e ∈ (settledEnd registry cb table es).outcomes) {error : FieldError}
    (herror : e.2.failure? = some error) : error.key = e.2.key := by
  obtain ⟨w, hw, rfl⟩ := List.mem_map.mp he
  obtain ⟨-, -, houtcome⟩ := Descent.settle_judged [] (.dict false es) w (Descent.mem_visits.mp hw)
  dsimp only at herror ⊢
  rw [houtcome] at herror ⊢
  have hkey : (Field.judge registry cb.calm table w.rule w.place w.given).key =
      w.place.write table.options := Field.outcome_key
  rw [hkey]
  unfold Field.judge at herror
  rw [Field.failure?_outcome] at herror
  obtain ⟨_, -, rfl⟩ := Option.map_eq_some_iff.mp herror
  rfl

end Run

namespace Validator

variable {registry : Registry} {o : PathOptions} {schema : Value} {v : Validator}

/-- What the rules under a root report on the entry of the root alone is what the whole report tells
under the root. -/
theorem run_under (hv : compile registry o schema = .ok v) (ho : o.Valid)
    (hon : o.GoesOn → ∃ c ∈ o.separator.toList, c.isDigit = false) {cb : Callbacks} {data : Value}
    {keywords es : Entries Value}
    (hes : Input.entries v.table.topLevelKeys data keywords = .ok es) {calls after : List Call}
    {finished : Run.Finished} (hrun : v.run cb data keywords calls = (.ok finished, after))
    {root : String} (hroot : root ∈ v.table.roots) :
    ∃ v', compile registry o (RuleTable.schemaUnder o root schema) = .ok v' ∧
      ∀ calls', ∃ part after',
        v'.run cb (.dict false (es.only root)) [] calls' = (.ok part, after') ∧
        part.report.value.at? [.key root] = finished.report.value.at? [.key root] ∧
        part.report.passed =
          finished.report.passed.filter (fun e => finished.startsAt root e.1) ∧
        part.report.failed =
          finished.report.failed.filter (fun e => finished.startsAt root e.1) ∧
        part.report.errors =
          finished.report.errors.filter (fun e => finished.startsAt root e.key) := by
  obtain ⟨ht, hregistry⟩ := compile_compiled hv
  have hv' := compile_of_table (RuleTable.compile_under (compile_table hv) root)
  obtain ⟨ht', -⟩ := compile_compiled hv'
  refine ⟨_, hv', fun calls' => ?_⟩
  let judge := Field.judge v.registry cb.calm v.table
  have hvisits : Descent.visits (v.table.under root) judge true (es.only root) =
      (Descent.visits v.table judge true es).filter fun w => w.place.isUnder root :=
    Descent.visits_under ht hroot es
  obtain ⟨es', hes', hexecute⟩ := exists_execute_of_run hrun
  obtain rfl := Except.ok.inj (hes'.symm.trans hes)
  have hends := (Run.ends_iff ht).mp ⟨_, _, hexecute⟩
  -- the visits of the part are among those of the whole run, so no check raises in it either
  obtain ⟨part, after', hpart⟩ :=
    (@Run.ends_iff v.registry cb _ (es'.only root) calls' ht').mpr fun w hw => by
        refine hends w ?_
        have hw : w ∈ Descent.visits (v.table.under root) judge true (es'.only root) := hw
        rw [hvisits] at hw
        exact (List.mem_filter.mp hw).1
  have hrunpart : run ⟨v.table.under root, registry⟩ cb (.dict false (es'.only root)) [] calls' =
      (.ok part, after') := run_of_execute rfl (hregistry ▸ hpart)
  refine ⟨part, after', hrunpart, ?_⟩
  have htally := tally_of_run hv ho hon hrun
  have htally' := tally_of_run hv' ho hon hrunpart
  obtain rfl := Run.execute_eq_ok ht' hpart
  obtain rfl := Run.execute_eq_ok ht hexecute
  have houtcomes : (Run.settledEnd v.registry cb (v.table.under root) (es'.only root)).outcomes =
      (Run.settledEnd v.registry cb v.table es').outcomes.filter fun e => e.1.isUnder root := by
    show (Descent.visits (v.table.under root) judge true (es'.only root)).map _ = _
    rw [hvisits, Run.settledEnd, List.filter_map]
    rfl
  -- each report lists its outcomes under their keys, so it can be filtered as the outcomes are
  have hkeyed : ∀ f : FieldOutcome → Option Value, ∀ e : Place × FieldOutcome, ∀ b,
      (f e.2).map (e.2.key, ·) = some b → b.1 = e.2.key := by
    rintro f e b hb
    obtain ⟨w, -, rfl⟩ := Option.map_eq_some_iff.mp hb
    rfl
  refine ⟨?_, ?_, ?_, ?_⟩
  · have hroot' : root ∈ (v.table.under root).roots := by
      refine Descent.mem_roots_of_mem_namesBelow ?_
      rw [RuleTable.namesBelow_under (Descent.mem_namesBelow_nil ht hroot)]
      exact List.mem_singleton_self _
    show (Descent.output (v.table.under root) judge true _).at? _ =
      (Descent.output v.table judge true es').at? _
    rw [Descent.output_at_root ht' hroot', Descent.output_at_root ht hroot, Entries.find?_only,
      Descent.settleKey_at_root]
  · rw [htally'.passed_eq, htally.passed_eq, houtcomes]
    exact Run.filterMap_filter_keys htally.keys _ fun e _ => hkeyed _ e
  · rw [htally'.failed_eq, htally.failed_eq, houtcomes]
    exact Run.filterMap_filter_keys htally.keys _ fun e _ => hkeyed _ e
  · rw [Run.errors_settledEnd, Run.errors_settledEnd, houtcomes]
    exact Run.filterMap_filter_keys htally.keys _ fun e he _ => Run.key_of_failure he

/-- Roots are independent. Where no character of the separator is a digit, and a run comes to an end:
its value is a mapping under declared root names alone; what it tells under a root is what the rules
of this root alone tell of the entry of the root alone; and every input that has the same entries
under all roots gets the same report, with a value that is the same mapping. -/
theorem run_roots (hv : compile registry o schema = .ok v) (ho : o.Valid)
    (hsep : ∀ c ∈ o.separator.toList, c.isDigit = false) {cb : Callbacks} {data : Value}
    {keywords es : Entries Value}
    (hes : Input.entries v.table.topLevelKeys data keywords = .ok es) {calls after : List Call}
    {finished : Run.Finished} (hrun : v.run cb data keywords calls = (.ok finished, after)) :
    (∃ out, finished.report.value = .dict false out ∧
      ∀ e ∈ out, ∃ root ∈ v.table.roots, e.1 = .str root) ∧
    (∀ root ∈ v.table.roots,
      ∃ v', compile registry o (RuleTable.schemaUnder o root schema) = .ok v' ∧
        ∀ calls', ∃ part after',
          v'.run cb (.dict false (es.only root)) [] calls' = (.ok part, after') ∧
          part.report.value.at? [.key root] = finished.report.value.at? [.key root] ∧
          part.report.passed =
            finished.report.passed.filter (fun e => finished.startsAt root e.1) ∧
          part.report.failed =
            finished.report.failed.filter (fun e => finished.startsAt root e.1) ∧
          part.report.errors =
            finished.report.errors.filter (fun e => finished.startsAt root e.key)) ∧
    ∀ data' keywords' es', Input.entries v.table.topLevelKeys data' keywords' = .ok es' →
      (∀ root ∈ v.table.roots, Entries.find? (.str root) es = Entries.find? (.str root) es') →
        ∀ calls', ∃ finished' after',
          v.run cb data' keywords' calls' = (.ok finished', after') ∧
          finished'.report.ok = finished.report.ok ∧
          finished'.report.passed = finished.report.passed ∧
          finished'.report.failed = finished.report.failed ∧
          finished'.report.errors = finished.report.errors ∧
          ∀ s, finished'.report.value.at? [.key s] = finished.report.value.at? [.key s] := by
  obtain ⟨c, hc⟩ := List.exists_mem_of_ne_nil _ ho.separator_ne_nil
  obtain ⟨ht, -⟩ := compile_compiled hv
  let judge := Field.judge v.registry cb.calm v.table
  obtain ⟨es₁, hes₁, hexecute⟩ := exists_execute_of_run hrun
  obtain rfl := Except.ok.inj (hes₁.symm.trans hes)
  have hends := (Run.ends_iff ht).mp ⟨_, _, hexecute⟩
  have hfinished := Run.execute_eq_ok ht hexecute
  refine ⟨?_, fun root hroot => ?_, fun data' keywords' es' hes' hfind calls' => ?_⟩
  · rw [hfinished]
    exact Descent.exists_output v.table judge true es₁
  · exact run_under hv ho (fun _ => ⟨c, hc, hsep c hc⟩) hes hrun hroot
  · have hvisits : Descent.visits v.table judge true es₁ = Descent.visits v.table judge true es' :=
      Descent.visits_agree hfind
    obtain ⟨finished', after', hexecute'⟩ := (@Run.ends_iff _ cb _ es' calls' ht).mpr fun w hw =>
      hends w (hvisits ▸ hw)
    refine ⟨finished', after', run_of_execute hes' hexecute', ?_⟩
    obtain rfl := Run.execute_eq_ok ht hexecute'
    subst hfinished
    refine ⟨?_, ?_, ?_, ?_, fun s => (Descent.output_agree ht hfind s).symm⟩
    · show (List.filterMap _ (Descent.visits v.table judge true es')).isEmpty = _
      rw [← hvisits]
      rfl
    · exact congrArg Descent.passed hvisits.symm
    · exact congrArg Descent.failed hvisits.symm
    · exact congrArg (List.filterMap (·.outcome.failure?)) hvisits.symm

/-- Two roots of which each loses something, and the same entries as positional values and
keywords. -/
theorem run_roots_pair :
    let schema : Value := .dict false [(.str "a.$", .str "number"), (.str "b", .str "string")]
    let xs : Value := .list [.int 1, .str "x"]
    let es : Entries Value := [(.str "b", .int 5), (.str "z", .null), (.str "a", xs)]
    let cb : Callbacks := fun _ => .error (.ofText .runtimeError "called")
    ∃ v finished, compile Registry.default .default schema = .ok v ∧
      PathOptions.default.Valid ∧
      (∀ c ∈ PathOptions.default.separator.toList, c.isDigit = false) ∧
      Input.entries v.table.topLevelKeys (.dict false es) [] = .ok es ∧
      v.run cb (.dict false es) [] [] = (.ok finished, []) ∧
      finished.report.failed = [("b", .int 5), ("a.1", .str "x")] ∧
      (∃ v' part after',
        compile Registry.default .default
          (.dict false [(.str "a.$", .str "number")]) = .ok v' ∧
        v'.run cb (.dict false [(.str "a", xs)]) [] [] = (.ok part, after') ∧
        part.report.value.at? [.key "a"] = finished.report.value.at? [.key "a"] ∧
        part.report.failed = [("a.1", .str "x")]) ∧
      ∃ finished' after',
        v.run cb (.tuple [.int 5, .int 7]) [(.str "a", xs)] [] = (.ok finished', after') ∧
        finished'.report.failed = [("b", .int 5), ("a.1", .str "x")] := by
  intro schema xs es cb
  let r : Rule := ⟨.ofTypes ["number"], [.name "a", .wildcard]⟩
  let r' : Rule := ⟨.ofTypes ["string"], [.name "b"]⟩
  let v : Validator := ⟨⟨.default, [("a.$", r), ("b", r')]⟩, Registry.default⟩
  let e : FieldError := ⟨"b", .int 5, "number", ["string"]⟩
  let e' : FieldError := ⟨"a.1", .str "x", "string", ["number"]⟩
  let finished : Run.Finished :=
    ⟨⟨.dict false [(.str "a", .list [.int 1])], [("a.0", .int 1)],
      [("b", .int 5), ("a.1", .str "x")], [e, e']⟩,
    [([.key "b"], ⟨"b", .failed, .int 5, none, some e⟩),
      ([.key "a", .index 0], ⟨"a.0", .matched, .int 1, some "number", none⟩),
      ([.key "a", .index 1], ⟨"a.1", .failed, .str "x", none, some e'⟩)]⟩
  have hv : compile Registry.default .default schema = .ok v := by cbv
  have ho : PathOptions.default.Valid := by decide
  have hsep : ∀ c ∈ PathOptions.default.separator.toList, c.isDigit = false := by
    intro c hc
    obtain rfl : c = '.' := by simpa [PathOptions.default] using hc
    rfl
  have hroots : v.table.roots = ["a", "b"] := by cbv
  have hes : Input.entries v.table.topLevelKeys (.dict false es) [] = .ok es := rfl
  have hes' : Input.entries v.table.topLevelKeys (.tuple [.int 5, .int 7]) [(.str "a", xs)] =
      .ok [(.str "b", .int 5), (.str "a", xs)] := by cbv
  have hrun : v.run cb (.dict false es) [] [] = (.ok finished, []) := by cbv
  have hschema : RuleTable.schemaUnder .default "a" schema =
      .dict false [(.str "a.$", .str "number")] := by cbv
  have honly : es.only "a" = [(.str "a", xs)] := by cbv
  obtain ⟨-, hparts, hagree⟩ := run_roots hv ho hsep hes hrun
  obtain ⟨v', hv', hpart⟩ := hparts "a" (by rw [hroots]; exact List.mem_cons_self ..)
  obtain ⟨part, after', hrunpart, hvalue, -, hfailed, -⟩ := hpart []
  obtain ⟨finished', after'', hrun', -, -, hfailed', -⟩ := hagree _ _ _ hes' (by
    rw [hroots]
    rintro root hroot
    rcases List.mem_pair.mp hroot with rfl | rfl <;> cbv) []
  rw [hschema] at hv'
  rw [honly] at hrunpart
  have hunder : finished.report.failed.filter (fun e => finished.startsAt "a" e.1) =
      [("a.1", .str "x")] := by cbv
  exact ⟨v, finished, hv, ho, hsep, hes, hrun, rfl,
    ⟨v', part, after', hv', hrunpart, hvalue, hfailed.trans hunder⟩,
    finished', after'', hrun', hfailed'⟩

end Validator

end ArgumentSchema
