import ArgumentSchema.Proofs.Entries
import ArgumentSchema.Run

/-!
# Validation as one descent

A run goes through a document rule by rule, parents first, and puts off what it removes from lists.
What it comes to can be said as one recursion over the document: `Descent.settle` judges the value
at a place if the place has a rule, and then goes down into what is left of it.

- A place that fails, is left out or ends as a missing value is dropped, and nothing below it is
  looked at.
- A missing key without a rule of its own counts as an empty mapping if there are rules below it,
  and stays missing if nothing comes to stand in it.
- A container with rules below it becomes a plain mapping or a list. Of a mapping, the keys that
  the rules name next are settled; of a list, all elements if some rule goes on with the wildcard.

`lingering` switches on the one thing in which runs differ: an element of a list that ends as a
missing value is dropped from the list, but the rules below it still look at the value that it was
given. Main definitions: `Visit`, `Descent.settle`, `Descent.report`.
-/

namespace ArgumentSchema

/-- The name in a segment. -/
def Segment.name? : Segment → Option String
  | name s => some s
  | wildcard => none

/-- The segment that leads a step: its key, or the wildcard for a position. -/
def Step.segment : Step → Segment
  | key s => .name s
  | index _ => .wildcard

/-- The path of the rules that apply at a place. -/
def Place.path (place : Place) : List Segment := place.map Step.segment

@[simp] theorem Place.length_path (place : Place) : place.path.length = place.length :=
  List.length_map _

theorem Place.path_append (place place' : Place) :
    Place.path (place ++ place') = place.path ++ place'.path :=
  List.map_append

theorem Place.path_step (place : Place) (step : Step) :
    Place.path (place ++ [step]) = place.path ++ [step.segment] :=
  place.path_append _

theorem Place.path_key (place : Place) (s : String) :
    Place.path (place ++ [Step.key s]) = place.path ++ [Segment.name s] :=
  place.path_step _

theorem Place.path_index (place : Place) (i : Nat) :
    Place.path (place ++ [Step.index i]) = place.path ++ [Segment.wildcard] :=
  place.path_step _

/-- The value that a field keeps in the output, if it is not dropped. -/
def FieldOutcome.kept? (o : FieldOutcome) : Option Value :=
  if o.state.succeeded && !o.value.isAbsent then some o.value else none

/-- The error that a field adds to the report, if it failed. -/
def FieldOutcome.failure? (o : FieldOutcome) : Option FieldError :=
  if o.state.succeeded then none else o.error

theorem FieldOutcome.succeeded_of_kept? {o : FieldOutcome} {v : Value} (h : o.kept? = some v) :
    o.state.succeeded = true := by
  unfold FieldOutcome.kept? at h
  split at h
  · next hs => exact (Bool.and_eq_true_iff.mp hs).1
  · cases h

theorem FieldOutcome.present_of_kept? {o : FieldOutcome} {v : Value} (h : o.kept? = some v) :
    v.isAbsent = false := by
  unfold FieldOutcome.kept? at h
  split at h
  · next hs =>
    obtain rfl := Option.some.inj h
    simpa using (Bool.and_eq_true_iff.mp hs).2
  · cases h

theorem Value.isAbsent_iff {v : Value} : v.isAbsent = true ↔ v = .absent := by
  cases v <;> simp [Value.isAbsent]

theorem Value.eq_dict_of_entries? {v : Value} {es : Entries Value} (h : v.entries? = some es) :
    ∃ ordered, v = .dict ordered es := by
  cases v <;> cases h
  exact ⟨_, rfl⟩

/-- The evaluation of one place: its rule, the value found there, and how it ended. -/
structure Visit where
  rule : Rule
  place : Place
  given : Value
  outcome : FieldOutcome

/-- How the value at a place ends under a rule. -/
abbrev Judge := Rule → Place → Value → FieldOutcome

namespace RuleTable

/-- The rule of a path. -/
def ruleAt (t : RuleTable) (path : List Segment) : Option Rule := t.ruleList.find? (·.path == path)

/-- The rules whose paths go on below a path, parents first. -/
def below (t : RuleTable) (path : List Segment) : List Rule :=
  t.byDepth.filter fun r => path.isPrefixOf r.path && decide (path.length < r.path.length)

/-- The names that rules go on with below a path, in the order of their first rules. -/
def namesBelow (t : RuleTable) (path : List Segment) : List String :=
  ((t.below path).filterMap fun r => (r.path[path.length]?).bind Segment.name?).eraseDups

/-- Whether a rule goes on with the wildcard below a path. -/
def itemsBelow (t : RuleTable) (path : List Segment) : Bool :=
  (t.below path).any fun r => r.path[path.length]? == some .wildcard

/-- The length of the longest path. -/
def height (t : RuleTable) : Nat := (t.ruleList.map Rule.depth).foldr max 0

theorem depth_le_height {t : RuleTable} {r : Rule} (h : r ∈ t.ruleList) : r.depth ≤ t.height := by
  have bound : ∀ (ds : List Nat) (d : Nat), d ∈ ds → d ≤ ds.foldr max 0 := by
    intro ds
    induction ds with
    | nil => intro d hd; cases hd
    | cons e ds ih =>
      intro d hd
      rw [List.foldr_cons]
      rcases List.mem_cons.mp hd with rfl | hd
      · exact Nat.le_max_left ..
      · exact Nat.le_trans (ih d hd) (Nat.le_max_right ..)
  exact bound _ _ (List.mem_map_of_mem h)

theorem mem_below {t : RuleTable} {path : List Segment} {r : Rule} :
    r ∈ t.below path ↔ r ∈ t.ruleList ∧ path <+: r.path ∧ path.length < r.path.length := by
  simp [below, byDepth]

/-- Rules below a path are longer than it, so a descent along rules ends. -/
theorem length_lt_height {t : RuleTable} {path : List Segment} (h : t.below path ≠ []) :
    path.length < t.height := by
  obtain ⟨r, hr⟩ := List.exists_mem_of_ne_nil _ h
  obtain ⟨hmem, -, hlt⟩ := mem_below.mp hr
  exact Nat.lt_of_lt_of_le hlt (depth_le_height hmem)

end RuleTable

namespace Descent

/-- Settles a value under a rule: the part of it that stays, after the rules below, and the visits.
A value that is dropped is not looked into, unless it `lingers` and ended as a missing value. -/
def judged (judge : Judge) (settle : Value → Value × List Visit) (r : Rule) (place : Place)
    (given : Value) (lingers : Bool) : Option Value × List Visit :=
  let o := judge r place given
  let visit : Visit := ⟨r, place, given, o⟩
  match o.kept? with
  | some v => (some (settle v).1, visit :: (settle v).2)
  | none => (none, visit :: if lingers && o.state.succeeded then (settle given).2 else [])

/-- A value, unless it is an empty mapping. -/
def unlessEmpty : Value → Option Value
  | .dict false [] => none
  | v => some v

theorem unlessEmpty_of_ne {v : Value} (h : v ≠ .dict false []) : unlessEmpty v = some v := by
  unfold unlessEmpty
  split
  · exact absurd rfl h
  · rfl

/-- Settles what stands under a key. -/
def entry (table : RuleTable) (judge : Judge) (settle : Value → Value × List Visit) (place : Place)
    (cell : Option Value) : Option Value × List Visit :=
  match table.ruleAt place.path, cell with
  | some r, _ => judged judge settle r place (cell.getD .absent) false
  | none, some v => (some (settle v).1, (settle v).2)
  | none, none => (unlessEmpty (settle (.dict false [])).1, (settle (.dict false [])).2)

/-- Settles an element of a list. -/
def item (table : RuleTable) (judge : Judge) (lingering : Bool)
    (settle : Value → Value × List Visit) (place : Place) (v : Value) :
    Option Value × List Visit :=
  match table.ruleAt place.path with
  | some r => judged judge settle r place v lingering
  | none => (some (settle v).1, (settle v).2)

/-- Settles the keys of a mapping one after the other. -/
def entries (settle : String → Option Value → Option Value × List Visit) :
    List String → Entries Value → Entries Value × List Visit
  | [], es => (es, [])
  | s :: names, es =>
    let cell := settle s (Entries.find? (.str s) es)
    let rest := entries settle names (Entries.put s cell.1 es)
    (rest.1, cell.2 ++ rest.2)

/-- Settles the elements of a list one after the other, from a given position on. -/
def items (settle : Nat → Value → Option Value × List Visit) :
    Nat → List Value → List Value × List Visit
  | _, [] => ([], [])
  | i, v :: vs =>
    let x := settle i v
    let rest := items settle (i + 1) vs
    (x.1.toList ++ rest.1, x.2 ++ rest.2)

/-- Settles what is below a place: the value that comes to stand there, and the visits. -/
def settle (table : RuleTable) (judge : Judge) (lingering : Bool) (place : Place) (v : Value) :
    Value × List Visit :=
  if _h : table.below place.path = [] then (v, [])
  else
    match v with
    | .dict _ es =>
      let settled := entries (fun s cell =>
        entry table judge (fun v => settle table judge lingering (place ++ [.key s]) v)
          (place ++ [.key s]) cell) (table.namesBelow place.path) es
      (.dict false settled.1, settled.2)
    | .list xs | .tuple xs =>
      if table.itemsBelow place.path then
        let settled := items (fun i v =>
          item table judge lingering
            (fun v => settle table judge lingering (place ++ [.index i]) v)
            (place ++ [.index i]) v) 0 xs
        (.list settled.1, settled.2)
      else (.list xs, [])
    | v => (v, [])
termination_by table.height - place.length
decreasing_by
  all_goals
    have := RuleTable.length_lt_height _h
    simp only [Place.path, List.length_map] at this
    simp only [List.length_append, List.length_singleton]
    omega

section Settle

variable {table : RuleTable} {judge : Judge} {lingering : Bool} {place : Place}

/-- Settles what stands under a key of a mapping at a place. -/
def settleKey (table : RuleTable) (judge : Judge) (lingering : Bool) (place : Place) (s : String) :
    Option Value → Option Value × List Visit :=
  entry table judge (settle table judge lingering (place ++ [.key s])) (place ++ [.key s])

/-- Settles an element of a list at a place. -/
def settleItem (table : RuleTable) (judge : Judge) (lingering : Bool) (place : Place) (i : Nat) :
    Value → Option Value × List Visit :=
  item table judge lingering (settle table judge lingering (place ++ [.index i]))
    (place ++ [.index i])

theorem settle_nil (h : table.below place.path = []) (v : Value) :
    settle table judge lingering place v = (v, []) := by
  rw [settle.eq_def, dif_pos h]

theorem settle_dict (h : table.below place.path ≠ []) (ordered : Bool) (es : Entries Value) :
    settle table judge lingering place (.dict ordered es) =
      let settled := entries (settleKey table judge lingering place)
        (table.namesBelow place.path) es
      (.dict false settled.1, settled.2) := by
  rw [settle.eq_def, dif_neg h]
  rfl

theorem settle_items (h : table.below place.path ≠ []) {v : Value} {xs : List Value}
    (hv : v.items? = some xs) :
    settle table judge lingering place v =
      if table.itemsBelow place.path then
        let settled := items (settleItem table judge lingering place) 0 xs
        (.list settled.1, settled.2)
      else (.list xs, []) := by
  cases v <;> cases hv <;>
  · rw [settle.eq_def, dif_neg h]
    rfl

theorem settle_scalar {v : Value} (hentries : v.entries? = none) (hitems : v.items? = none) :
    settle table judge lingering place v = (v, []) := by
  by_cases h : table.below place.path = []
  · exact settle_nil h v
  · rw [settle.eq_def, dif_neg h]
    split
    · cases hentries
    · cases hitems
    · cases hitems
    · rfl

end Settle

/-- What holds of the places with no rules below, and of any place if it holds one step further, holds
of all places. -/
theorem place_induction (table : RuleTable) {motive : Place → Prop}
    (bare : ∀ place : Place, table.below place.path = [] → motive place)
    (inner : ∀ place : Place, table.below place.path ≠ [] →
      (∀ step, motive (place ++ [step])) → motive place) :
    ∀ place, motive place := by
  have bounded : ∀ (n : Nat) (place : Place), table.height - place.length ≤ n → motive place := by
    intro n
    induction n with
    | zero =>
      intro place hn
      by_cases hbelow : table.below place.path = []
      · exact bare place hbelow
      · have hlt := RuleTable.length_lt_height hbelow
        rw [Place.path, List.length_map] at hlt
        omega
    | succ n ih =>
      intro place hn
      by_cases hbelow : table.below place.path = []
      · exact bare place hbelow
      · refine inner place hbelow fun step => ih (place ++ [step]) ?_
        rw [List.length_append, List.length_singleton]
        omega
  intro place
  exact bounded _ place (Nat.le_refl _)

section Cells

variable {table : RuleTable} {judge : Judge} {settle : Value → Value × List Visit} {place : Place}

theorem entry_ruled {r : Rule} (h : table.ruleAt place.path = some r) (cell : Option Value) :
    entry table judge settle place cell =
      judged judge settle r place (cell.getD .absent) false := by
  simp only [entry, h]

theorem entry_free (h : table.ruleAt place.path = none) (v : Value) :
    entry table judge settle place (some v) = (some (settle v).1, (settle v).2) := by
  simp only [entry, h]

/-- What the rules below a missing key make of it stands there unless it stays empty. -/
theorem entry_missing (h : table.ruleAt place.path = none) :
    entry table judge settle place none =
      (unlessEmpty (settle (.dict false [])).1, (settle (.dict false [])).2) := by
  simp only [entry, h]

theorem item_ruled {r : Rule} (h : table.ruleAt place.path = some r) (lingering : Bool) (v : Value) :
    item table judge lingering settle place v = judged judge settle r place v lingering := by
  simp only [item, h]

theorem item_free (h : table.ruleAt place.path = none) (lingering : Bool) (v : Value) :
    item table judge lingering settle place v = (some (settle v).1, (settle v).2) := by
  simp only [item, h]

end Cells

section Rows

variable {f : String → Option Value → Option Value × List Visit}

theorem find?_entries_ne {s : String} {names : List String} (hs : s ∉ names) :
    ∀ es, Entries.find? (.str s) (entries f names es).1 = Entries.find? (.str s) es := by
  induction names with
  | nil =>
    intro es
    rfl
  | cons t names ih =>
    intro es
    rw [List.mem_cons, not_or] at hs
    rw [entries, ih hs.2, Entries.find?_put_ne (Ne.symm hs.1)]

/-- What stands under a settled key. -/
theorem find?_entries {s : String} {names : List String} (hnd : names.Nodup) (hs : s ∈ names) :
    ∀ es, Entries.find? (.str s) (entries f names es).1 = (f s (Entries.find? (.str s) es)).1 := by
  induction names with
  | nil => cases hs
  | cons t names ih =>
    intro es
    obtain ⟨ht, hnd⟩ := List.nodup_cons.mp hnd
    rw [entries]
    rcases List.mem_cons.mp hs with rfl | hs
    · rw [find?_entries_ne ht, Entries.find?_put_self]
    · have hne : t ≠ s := by
        rintro rfl
        exact ht hs
      rw [ih hnd hs, Entries.find?_put_ne hne]

/-- The visits below a mapping are those of its keys. -/
theorem entries_visits {names : List String} (hnd : names.Nodup) :
    ∀ es, (entries f names es).2 = names.flatMap fun s => (f s (Entries.find? (.str s) es)).2 := by
  induction names with
  | nil =>
    intro es
    rfl
  | cons t names ih =>
    intro es
    obtain ⟨ht, hnd⟩ := List.nodup_cons.mp hnd
    rw [entries, ih hnd, List.flatMap_cons]
    refine congrArg (_ ++ ·) (List.flatMap_congr fun s hs => ?_)
    have hne : t ≠ s := by
      rintro rfl
      exact ht hs
    rw [Entries.find?_put_ne hne]

end Rows

section Judged

variable {judge : Judge} {settle : Value → Value × List Visit} {r : Rule} {place : Place}
  {given : Value}

theorem judged_kept {v : Value} (h : (judge r place given).kept? = some v) (lingers : Bool) :
    judged judge settle r place given lingers =
      (some (settle v).1, ⟨r, place, given, judge r place given⟩ :: (settle v).2) := by
  simp only [judged, h]

theorem judged_dropped {lingers : Bool} (h : (judge r place given).kept? = none)
    (hs : (lingers && (judge r place given).state.succeeded) = false) :
    judged judge settle r place given lingers =
      (none, [⟨r, place, given, judge r place given⟩]) := by
  simp only [judged, h, hs, Bool.false_eq_true, if_false]

theorem judged_lingering (h : (judge r place given).kept? = none)
    (hs : (judge r place given).state.succeeded = true) :
    judged judge settle r place given true =
      (none, ⟨r, place, given, judge r place given⟩ :: (settle given).2) := by
  simp only [judged, h, hs, Bool.and_self, if_true]

end Judged

/-- Entries under the names that the paths of a table start with. -/
def declared (table : RuleTable) (es : Entries Value) : Entries Value :=
  es.filter fun e => table.roots.any fun s => (Value.str s).sameKey e.1

/-- A value without undeclared keys, if it is a mapping. -/
def restricted (table : RuleTable) : Value → Value
  | .dict ordered es => .dict ordered (declared table es)
  | v => v

/-- Visits in the order in which a run makes them: rule by rule, parents first. -/
def inOrder (table : RuleTable) (visits : List Visit) : List Visit :=
  table.byDepth.flatMap fun r => visits.filter fun v => v.place.path == r.path

/-- The fields that kept a value, under their keys. -/
def passed (visits : List Visit) : List (String × Value) :=
  visits.foldl (fun fields v =>
    match v.outcome.kept? with
    | some w => Report.store v.outcome.key w fields
    | none => fields) []

/-- The fields that failed, under their keys. -/
def failed (visits : List Visit) : List (String × Value) :=
  visits.foldl (fun fields v =>
    match v.outcome.failure? with
    | some _ => Report.store v.outcome.key v.outcome.value fields
    | none => fields) []

/-- The output of a mapping: it is settled, and its undeclared keys are dropped. -/
def output (table : RuleTable) (judge : Judge) (lingering : Bool) (es : Entries Value) : Value :=
  restricted table (settle table judge lingering [] (.dict false es)).1

/-- The visits that settle a mapping, in the order of a run. -/
def visits (table : RuleTable) (judge : Judge) (lingering : Bool) (es : Entries Value) :
    List Visit :=
  inOrder table (settle table judge lingering [] (.dict false es)).2

/-- The report on a mapping. -/
def report (table : RuleTable) (judge : Judge) (lingering : Bool) (es : Entries Value) : Report :=
  let vs := visits table judge lingering es
  ⟨output table judge lingering es, passed vs, failed vs, vs.filterMap (·.outcome.failure?)⟩

end Descent

end ArgumentSchema
