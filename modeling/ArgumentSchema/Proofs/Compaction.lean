import ArgumentSchema.Proofs.Cascade
import ArgumentSchema.Proofs.Endings
import ArgumentSchema.Proofs.Found
import Mathlib.Data.Prod.Basic

/-!
# Reports and outputs

The keys of a report are written with the positions of the input, while the elements that were
dropped are taken out of their lists only in the end. The two belong together by `Place.compacted`:
a position in a list is less by the number of earlier elements that were dropped.

> `Descent.settle_survivors`: what remains of a list are its elements that were not dropped, in their
> order.
> `Validator.report_compacted`: if no transformation answers with the marker for a missing value,
> what a field has kept stands in the output at its compacted place, as long as no rule goes on below
> it, and a list that rules go through has lost exactly its dropped elements.
-/

namespace ArgumentSchema

theorem forall₂_filterMap {ι β : Type} {R : ι → β → Prop} {p : ι → Bool} {g : ι → Option β}
    {l : List ι} (hp : ∀ i ∈ l, p i = (g i).isSome) (hR : ∀ i ∈ l, ∀ y, g i = some y → R i y) :
    List.Forall₂ R (l.filter p) (l.filterMap g) := by
  induction l with
  | nil => exact .nil
  | cons i l ih =>
    have ih := ih (fun j hj => hp j (List.mem_cons_of_mem _ hj))
      fun j hj => hR j (List.mem_cons_of_mem _ hj)
    have hi := hp i (List.mem_cons_self ..)
    cases hg : g i with
    | none =>
      rw [hg] at hi
      rw [List.filter_cons_of_neg (by simp [hi]), List.filterMap_cons_none hg]
      exact ih
    | some y =>
      rw [hg] at hi
      rw [List.filter_cons_of_pos (by simp [hi]), List.filterMap_cons_some hg]
      exact .cons (hR i (List.mem_cons_self ..) y hg) ih

theorem length_filter_not {α : Type} (p : α → Bool) (l : List α) :
    (l.filter fun a => !p a).length = l.length - l.countP p := by
  have hwhole : l.countP p + (l.filter fun a => !p a).length = l.length := by
    simpa [List.countP_eq_length_filter] using (List.length_eq_countP_add_countP p (l := l)).symm
  omega

namespace Descent

variable {table : RuleTable} {judge : Judge}

/-- What remains of an element of a list: a value of the shape in which the element was found, and just
what was found if no rule goes on below it. -/
def Survives (table : RuleTable) (ends : Place → Option FieldOutcome) (place : Place) (v : Value)
    (i : Nat) (y : Value) : Prop :=
  ∃ x, v.found ends place [.index i] = some x ∧ x.Alike y ∧
    (table.below (Place.path (place ++ [Step.index i])) = [] → y = x)

/-- What remains of a list: its elements that were not dropped, in their order. -/
structure Survivors (table : RuleTable) (ends : Place → Option FieldOutcome) (place : Place)
    (v : Value) (xs ys : List Value) : Prop where
  length : ys.length =
    xs.length - (List.range xs.length).countP fun i => Place.dropped ends (place ++ [Step.index i])
  order : List.Forall₂ (Survives table ends place v)
    ((List.range xs.length).filter fun i => !Place.dropped ends (place ++ [Step.index i])) ys
  /-- Where elements have a rule of their own, all elements have ended, and no others. -/
  ended : table.hasPath (place.path ++ [Segment.wildcard]) = true →
    ∀ i, (ends (place ++ [Step.index i])).isSome = true ↔ i < xs.length

section Survivors

variable {ends : Place → Option FieldOutcome} {place : Place} {v : Value} {xs : List Value}

/-- What remains of an element was found at its place, and settled. -/
theorem survives_of_settleItem (hitems : v.items? = some xs)
    (hwild : table.itemsBelow place.path = true)
    (htold : Told ends place (settle table judge true place v).2) {i : Nat} {x y : Value}
    (hx : xs[i]? = some x) (hy : (settleItem table judge true place i x).1 = some y) :
    Survives table ends place v i y := by
  have hsettled : ∀ x', (settle table judge true (place ++ [Step.index i]) x').1 = y →
      x'.Alike y ∧ (table.below (Place.path (place ++ [Step.index i])) = [] → y = x') := by
    rintro x' rfl
    exact ⟨settle_alike true _ x', fun hbelow => by rw [settle_nil hbelow]⟩
  have hlands := @settleItem_lands table judge place i x
  have hin := fun w => @mem_settle_item table judge place w i v x xs hitems hwild hx
  rw [hy] at hlands
  generalize hcell : some y = cell at hlands
  generalize (settleItem table judge true place i x).2 = ws at hlands hin
  cases hlands with
  | @kept r x' hrule hkeeps =>
    refine ⟨x', ?_, hsettled x' (Option.some.inj hcell).symm⟩
    rw [Value.found, htold.ends_eq_some (hin _ (List.mem_cons_self ..)) rfl]
    exact (Option.bind_fun_some _).trans hkeeps
  | dropped hrule hdrops => cases hcell
  | free hunruled =>
    refine ⟨x, ?_, hsettled x (Option.some.inj hcell).symm⟩
    rw [Value.found, htold.ends_eq_none hunruled, Value.beyond?, hitems, Option.bind_some, hx]
    rfl
  | made hunruled hmissing => cases hmissing

/-- Elements with a rule of their own have all ended. -/
theorem isSome_ends_iff (hitems : v.items? = some xs)
    (htold : Told ends place (settle table judge true place v).2)
    (hrule : table.hasPath (place.path ++ [Segment.wildcard]) = true) (i : Nat) :
    (ends (place ++ [Step.index i])).isSome = true ↔ i < xs.length := by
  have hpath : Place.path (place ++ [Step.index i]) = place.path ++ [Segment.wildcard] :=
    Place.path_index ..
  have hbeyond : v.beyond? (.index i) = xs[i]? := by rw [Value.beyond?, hitems]; rfl
  obtain ⟨r, hr, hrpath⟩ := RuleTable.hasPath_iff.mp hrule
  have hleads : ∃ r ∈ table.ruleList, Place.path (place ++ [Step.index i]) <+: r.path :=
    ⟨r, hr, by rw [hpath, hrpath]⟩
  have hgoes := settle_goesOn htold hleads
  rw [GoesOn, hbeyond] at hgoes
  rcases hgoes with ⟨hnone, hbare⟩ | ⟨raw, cell, ws, hraw, hlands, hws, -⟩
  · refine iff_of_false (fun hend => ?_) (List.getElem?_eq_none_iff.mp hnone).not_gt
    obtain ⟨o, ho⟩ := Option.isSome_iff_exists.mp hend
    obtain ⟨w, hw, hplace, -⟩ := (htold _ o (Place.extends_of_step (List.prefix_refl _))).mp ho
    exact hbare w hw (hplace ▸ List.prefix_refl _)
  · refine iff_of_true ?_ (List.getElem?_eq_some_iff.mp hraw).1
    rw [hlands.ends_eq htold hws, Option.isSome_map, hpath, ← RuleTable.hasPath_eq]
    exact hrule

/-- What a descent leaves of a list whose elements it goes through. -/
theorem settle_survivors (hitems : v.items? = some xs)
    (hwild : table.itemsBelow place.path = true)
    (htold : Told ends place (settle table judge true place v).2) :
    ∃ ys, (settle table judge true place v).1 = .list ys ∧
      Survivors table ends place v xs ys := by
  let remains := fun i => (settleItem table judge true place i (xs[i]?.getD .absent)).1
  have hget : ∀ i ∈ List.range xs.length, ∃ x, xs[i]? = some x := fun i hi =>
    ⟨_, List.getElem?_eq_getElem (List.mem_range.mp hi)⟩
  have hsurvives : ∀ i ∈ List.range xs.length,
      (!Place.dropped ends (place ++ [Step.index i])) = (remains i).isSome := by
    intro i hi
    obtain ⟨x, hx⟩ := hget i hi
    rw [← isNone_settleItem htold hitems hwild hx]
    simp only [remains, hx, Option.getD_some, Option.not_isNone]
  have horder : List.Forall₂ (Survives table ends place v)
      ((List.range xs.length).filter fun i => !Place.dropped ends (place ++ [Step.index i]))
      ((List.range xs.length).filterMap remains) := by
    refine forall₂_filterMap hsurvives fun i hi y hy => ?_
    obtain ⟨x, hx⟩ := hget i hi
    simp only [remains, hx, Option.getD_some] at hy
    exact survives_of_settleItem hitems hwild htold hx hy
  refine ⟨_, settle_items_values hitems hwild, ?_, horder, isSome_ends_iff hitems htold⟩
  rw [← horder.length_eq, length_filter_not, List.length_range]

end Survivors

/-- In an output, what rules lead to stands where it stands in the settled document. -/
theorem at?_output_compacted (gone : Place → Bool) (es : Entries Value) {place : Place}
    (hplace : place ≠ []) (hrule : ∃ r ∈ table.ruleList, place.path <+: r.path) :
    (output table judge true es).at? (Place.compacted gone [] place) =
      (settle table judge true [] (.dict false es)).1.at? (Place.compacted gone [] place) := by
  rw [output, settle_plain]
  dsimp only [restricted]
  cases place with
  | nil => exact absurd rfl hplace
  | cons step rest =>
    rw [Place.compacted, Value.at?, Value.at?]
    cases step with
    | index i => rfl
    | key s =>
      obtain ⟨r, hr, hpre⟩ := hrule
      have hs : s ∈ table.namesBelow [] := by
        refine RuleTable.mem_namesBelow.mpr ⟨r, hr, List.IsPrefix.trans ?_ hpre⟩
        exact List.prefix_append [.name s] (Place.path rest)
      have hroot := mem_roots_of_mem_namesBelow hs
      refine congrArg (Option.bind · _) ?_
      exact find?_declared hroot _

end Descent

namespace Run

variable {registry : Registry} {cb : Callbacks} {table : RuleTable} {es : Entries Value}

/-- How a run has left a place, if it has looked at it. -/
def endsAt (outcomes : List (Place × FieldOutcome)) (place : Place) : Option FieldOutcome :=
  outcomes.lookup place

theorem endsAt_eq_some_iff {outcomes : List (Place × FieldOutcome)}
    (hnd : (outcomes.map (·.1)).Nodup) {place : Place} {o : FieldOutcome} :
    endsAt outcomes place = some o ↔ (place, o) ∈ outcomes := by
  induction outcomes with
  | nil => simp [endsAt]
  | cons e outcomes ih =>
    obtain ⟨p, o'⟩ := e
    rw [List.map_cons, List.nodup_cons] at hnd
    have ih := ih hnd.2
    rw [endsAt, List.lookup_cons, List.mem_cons, Prod.mk.injEq]
    by_cases hp : place = p
    · subst hp
      have hnot : (place, o) ∉ outcomes := fun hmem => hnd.1 (List.mem_map_of_mem (f := (·.1)) hmem)
      simp [hnot, eq_comm]
    · rw [beq_false_of_ne hp]
      simp only [hp, false_and, false_or]
      exact ih

/-- No transformation of a run answers with the marker for a missing value: where a field with a
transformation succeeds, it has a value. -/
def Quiet (registry : Registry) (cb : Callbacks) (table : RuleTable) (es : Entries Value) : Prop :=
  ∀ t o, Yields registry cb table es t → Ends registry cb t o → t.rule.transform ≠ none →
    o.state.succeeded = true → o.value.isAbsent = false

/-- A run is quiet if the transformations of its rules never answer with the marker. -/
theorem quiet_of_transforms (ht : table.Compiled)
    (htransforms : ∀ r ∈ table.ruleList, ∀ key, Field.Transforms registry cb.calm r.toContract key) :
    Quiet registry cb table es := by
  rintro t o hyields ⟨calls, calls', hevaluate⟩ htransform hs
  obtain ⟨w, hw, hrule, -⟩ := hyields.visit ht
  have hmem := (Descent.settle_judged [] (.dict false es) w (Descent.mem_visits.mp hw)).1
  obtain ⟨ho, -⟩ := Field.evaluate_of_ok registry cb _ _ hevaluate
  rw [ho] at hs ⊢
  exact htransforms t.rule (hrule ▸ hmem) t.dotted htransform t.value hs

section Ended

variable (ht : table.Compiled) {before calls : List Call} {finished : Finished}
  (hend : execute registry cb table es before = (.ok finished, calls))

include ht hend

/-- The outcomes of a run tell how the places of its descent have ended. -/
theorem told_endsAt :
    Descent.Told (endsAt finished.outcomes) []
      (Descent.settle table (Field.judge registry cb.calm table) true [] (.dict false es)).2 := by
  have honce := (Descent.visits_spread ht (Field.judge registry cb.calm table) es).once
  intro p o _
  rw [execute_eq_ok ht hend, settledEnd, endsAt_eq_some_iff (by rwa [List.map_map]), List.mem_map]
  refine exists_congr fun w => and_congr Descent.mem_visits ?_
  exact Prod.mk_inj

/-- What is found where rules lead to stands, once settled, in the report. -/
theorem stands_of_found {place : Place} {x : Value} (hplace : place ≠ [])
    (hfound : (Value.dict false es).found (endsAt finished.outcomes) [] place = some x)
    (hrule : ∃ r ∈ table.ruleList, place.path <+: r.path)
    (hreal : (endsAt finished.outcomes place).isSome = true ∨ x ≠ .dict false []) :
    let settled := Descent.settle table (Field.judge registry cb.calm table) true place x
    finished.report.value.at? (Place.compacted (Place.dropped (endsAt finished.outcomes)) [] place) =
        some settled.1 ∧
      Descent.Told (endsAt finished.outcomes) place settled.2 := by
  intro settled
  have htold := told_endsAt ht hend
  have hvalue : finished.report.value =
      Descent.output table (Field.judge registry cb.calm table) true es := by
    rw [execute_eq_ok ht hend]
    rfl
  rw [hvalue, Descent.at?_output_compacted _ _ hplace hrule]
  exact Descent.settle_found place [] _ x htold hfound hrule (Or.inr hreal)

/-- A list that is found where rules go on with its elements stands in the report with those that
survive. -/
theorem survivors_of_found {place : Place} {x : Value} {xs : List Value}
    (hfound : (Value.dict false es).found (endsAt finished.outcomes) [] place = some x)
    (hitems : x.items? = some xs) (hwild : table.itemsBelow place.path = true) :
    ∃ ys, finished.report.value.at?
        (Place.compacted (Place.dropped (endsAt finished.outcomes)) [] place) = some (.list ys) ∧
      Descent.Survivors table (endsAt finished.outcomes) place x xs ys := by
  obtain ⟨r, hr, hpre⟩ := RuleTable.itemsBelow_iff.mp hwild
  -- paths begin with a name, so the list is not the document itself
  have hplace : place ≠ [] := by
    rintro rfl
    obtain ⟨name, rest, hpath⟩ := ht.rooted r hr
    rw [hpath] at hpre
    cases (List.cons_prefix_cons.mp hpre).1
  have hreal : x ≠ .dict false [] := by
    rintro rfl
    cases hitems
  obtain ⟨hat, htold⟩ := stands_of_found ht hend hplace hfound
    ⟨r, hr, (List.prefix_append ..).trans hpre⟩ (Or.inr hreal)
  obtain ⟨ys, hys, hsurvivors⟩ := Descent.settle_survivors hitems hwild htold
  exact ⟨ys, by rw [hat, hys], hsurvivors⟩

variable (hquiet : Quiet registry cb table es)

include hquiet

/-- Under a place that keeps no value nothing is visited: it has not succeeded, or it was given
nothing. -/
theorem visits_barred :
    Descent.Barred (Descent.settle table (Field.judge registry cb.calm table) true []
      (.dict false es)).2 := by
  let judge := Field.judge registry cb.calm table
  have hspread := (Descent.settle_spread table judge [] (.dict false es)).1
  intro v hv hkept
  cases hs : v.outcome.state.succeeded with
  | false => exact hspread.barred hv hs
  | true =>
    obtain ⟨hmem, -, houtcome⟩ := Descent.settle_judged [] (.dict false es) v hv
    obtain ⟨t, hyields, hends, hrule, -⟩ :=
      exists_task_of_visit ht hend (Descent.mem_visits.mpr hv)
    -- it succeeded without a value, so it was not transformed, and nothing was given
    have htransform : v.rule.transform = none := by
      by_contra hsome
      have hpresent := hquiet t _ hyields hends (hrule ▸ hsome) hs
      rw [FieldOutcome.kept?, hs, hpresent] at hkept
      cases hkept
    have hgiven : v.given = .absent := by
      rw [houtcome] at hkept hs
      exact Field.absent_of_kept?_eq_none (ht.present v.rule hmem)
        (fun hsome => absurd htransform hsome) hkept hs
    have hbeneath : Descent.beneath table judge v = [] := by
      unfold Descent.beneath
      rw [hkept, hgiven, Descent.settle_scalar rfl rfl]
      exact ite_self _
    intro w hw hext
    exact (hspread.below v hv).mp ⟨w, hw, hext⟩ hbeneath

/-- A visit of a run finds what its field has kept at its place, and has looked into what is found
above it. -/
theorem found_of_visit {w : Visit}
    (hw : w ∈ Descent.visits table (Field.judge registry cb.calm table) true es) :
    (Value.dict false es).found (endsAt finished.outcomes) [] w.place = w.outcome.kept? ∧
      ∃ upper step x, w.place = upper ++ [step] ∧
        (Value.dict false es).found (endsAt finished.outcomes) [] upper = some x ∧
        (x.beyond? step).isSome = true ∧ w.given = (x.child? step).getD .absent :=
  Descent.found_of_mem w.place [] _ (told_endsAt ht hend) (visits_barred ht hend hquiet) w
    (Descent.mem_visits.mp hw) rfl

/-- What a field has kept, below which no rule goes on, stands in the report. -/
theorem kept_stands {w : Visit}
    (hw : w ∈ Descent.visits table (Field.judge registry cb.calm table) true es) {u : Value}
    (hkept : w.outcome.kept? = some u)
    (hlast : ∀ r ∈ table.ruleList, w.place.path <+: r.path → r.path = w.place.path) :
    finished.report.value.at?
      (Place.compacted (Place.dropped (endsAt finished.outcomes)) [] w.place) = some u := by
  have hsettled := Descent.mem_visits.mp hw
  obtain ⟨hmem, hpath, -⟩ := Descent.settle_judged [] (.dict false es) w hsettled
  obtain ⟨hfound, -⟩ := found_of_visit ht hend hquiet hw
  have hspread := (Descent.settle_spread table (Field.judge registry cb.calm table) []
    (.dict false es)).2 w hsettled
  have hended : endsAt finished.outcomes w.place = some w.outcome :=
    (told_endsAt ht hend _ _ hspread).mpr ⟨w, hsettled, rfl, rfl⟩
  obtain ⟨hat, -⟩ := stands_of_found ht hend (Ne.symm hspread.2) (hfound.trans hkept)
    ⟨w.rule, hmem, hpath ▸ List.prefix_refl _⟩ (Or.inl (by rw [hended]; rfl))
  -- nothing goes on below it, so what was kept is settled already
  have hbelow : table.below w.place.path = [] := by
    refine List.eq_nil_iff_forall_not_mem.mpr fun r hr => ?_
    obtain ⟨hr, hpre, hlength⟩ := RuleTable.mem_below.mp hr
    rw [hlast r hr hpre] at hlength
    exact absurd hlength (Nat.lt_irrefl _)
  rw [Descent.settle_nil hbelow] at hat
  exact hat

end Ended

end Run

namespace Validator

end Validator

end ArgumentSchema
