import ArgumentSchema.Proofs.Chain
import ArgumentSchema.Proofs.Compiled

/-!
# Drafts

A `Draft` is what a run makes of a document, rule by rule, without the handles and records by which
a working tree finds its parts again. A mapping knows whether it was made because a path led through
a missing key, and an element of a list whether it stays. `Draft.visit` takes a rule to all places
that it applies to; `Draft.final?` is what is left of a draft in the end. Main definitions: `Draft`,
`Draft.visit`, `Draft.final?`.
-/

namespace ArgumentSchema

/-- A document in the course of a run. -/
inductive Draft where
  | leaf (v : Value)
  | dict (made : Bool) (entries : List (Value × Draft))
  | list (items : List (Bool × Draft))

namespace Draft

/-- Whether a draft is an opened container. -/
def isOpened : Draft → Bool
  | leaf _ => false
  | _ => true

/-- Opens a container. -/
def opened : Draft → Draft
  | leaf (.dict _ es) => dict false (Entries.mapValues leaf es)
  | leaf (.list xs) => list (xs.map fun v => (true, leaf v))
  | leaf (.tuple xs) => list (xs.map fun v => (true, leaf v))
  | d => d

/-- The value that a rule finds in a draft that no path has entered. -/
def held : Draft → Value
  | leaf v => v
  | _ => .absent

mutual

/-- What is left of a draft in the end: a mapping that was made and stayed empty is gone. -/
def final? : Draft → Option Value
  | leaf v => some v
  | dict made ds =>
    let es := finalEntries ds
    if made && es.isEmpty then none else some (.dict false es)
  | list xs => some (.list (finalItems xs))

/-- What is left of the entries of a mapping. -/
def finalEntries : List (Value × Draft) → Entries Value
  | [] => []
  | (k, d) :: ds =>
    match final? d with
    | some v => (k, v) :: finalEntries ds
    | none => finalEntries ds

/-- What is left of the elements of a list. -/
def finalItems : List (Bool × Draft) → List Value
  | [] => []
  | (stays, d) :: xs => (if stays then (final? d).toList else []) ++ finalItems xs

end

variable (table : RuleTable) (judge : Judge)

/-- Judges what stands under a key. -/
def judgeKey (r : Rule) (place : Place) (cell : Option Draft) : Option Draft × List Visit :=
  let given := (cell.map held).getD .absent
  let o := judge r place given
  (o.kept?.map leaf, [⟨r, place, given, o⟩])

/-- Judges an element of a list. An element that fails or is left out can no longer be entered. -/
def judgeItem (r : Rule) (place : Place) (x : Bool × Draft) : (Bool × Draft) × List Visit :=
  let o := judge r place x.2.held
  (match o.kept? with
    | some w => (x.1, leaf w)
    | none => (false, if o.state.succeeded then x.2 else leaf .absent),
    [⟨r, place, x.2.held, o⟩])

/-- Goes into a draft if it is a container. -/
def enter (visit : Draft → Draft × List Visit) (d : Draft) : Draft × List Visit :=
  if d.opened.isOpened then visit d.opened else (d, [])

/-- Goes into what stands under a key. A missing key without a rule of its own gets a mapping. -/
def throughKey (ruled : Bool) (visit : Draft → Draft × List Visit) :
    Option Draft → Option Draft × List Visit
  | some d => (some (enter visit d).1, (enter visit d).2)
  | none => if ruled then (none, []) else (some (visit (dict true [])).1, (visit (dict true [])).2)

/-- Goes into an element of a list. -/
def throughItem (visit : Draft → Draft × List Visit) (x : Bool × Draft) :
    (Bool × Draft) × List Visit :=
  ((x.1, (enter visit x.2).1), (enter visit x.2).2)

/-- Takes a rule to the places that the rest of its path leads to from a place. -/
def visit (r : Rule) : List Segment → Place → Draft → Draft × List Visit
  | .name s :: rest, place, dict made ds =>
    let below := place ++ [.key s]
    let w := atKey s
      (if rest = [] then judgeKey judge r below
        else throughKey (table.hasPath below.path) (visit r rest below)) ds
    (dict made w.1, w.2)
  | .wildcard :: rest, place, list xs =>
    let w := atItems (fun i =>
      let below := place ++ [.index i]
      if rest = [] then judgeItem judge r below else throughItem (visit r rest below)) 0 xs
    (list w.1, w.2)
  | _, _, d => (d, [])

/-! ## Judging -/

section Judging

variable {judge} {r : Rule} {place : Place} {x : Bool × Draft}

theorem judgeItem_kept {w : Value} (h : (judge r place x.2.held).kept? = some w) :
    judgeItem judge r place x =
      ((x.1, leaf w), [⟨r, place, x.2.held, judge r place x.2.held⟩]) := by
  simp only [judgeItem, h]

theorem judgeItem_lingering (h : (judge r place x.2.held).kept? = none)
    (hs : (judge r place x.2.held).state.succeeded = true) :
    judgeItem judge r place x =
      ((false, x.2), [⟨r, place, x.2.held, judge r place x.2.held⟩]) := by
  simp only [judgeItem, h, hs, if_true]

theorem judgeItem_blocked (h : (judge r place x.2.held).kept? = none)
    (hs : (judge r place x.2.held).state.succeeded = false) :
    judgeItem judge r place x =
      ((false, leaf .absent), [⟨r, place, x.2.held, judge r place x.2.held⟩]) := by
  simp only [judgeItem, h, hs, Bool.false_eq_true, if_false]

end Judging

/-! ## Opened drafts -/

theorem opened_of_isOpened {d : Draft} (h : d.isOpened = true) : d.opened = d := by
  cases d with
  | leaf v => cases h
  | dict made ds => rfl
  | list xs => rfl

theorem opened_of_items? {v : Value} {xs : List Value} (h : v.items? = some xs) :
    (leaf v).opened = list (xs.map fun v => (true, leaf v)) := by
  cases v <;> cases h <;> rfl

theorem opened_of_scalar {v : Value} (hentries : v.entries? = none) (hitems : v.items? = none) :
    (leaf v).opened = leaf v := by
  cases v <;> first | rfl | simp [Value.entries?, Value.items?] at hentries hitems

theorem isOpened_visit (r : Rule) (path : List Segment) (place : Place) {d : Draft}
    (h : d.isOpened = true) : (visit table judge r path place d).1.isOpened = true := by
  unfold visit
  split
  · rfl
  · rfl
  · exact h

/-- Whether a draft is a mapping that was made. -/
def isMade : Draft → Bool
  | dict made _ => made
  | _ => false

theorem isMade_opened (d : Draft) : d.opened.isMade = d.isMade := by
  unfold opened
  split <;> rfl

theorem isMade_visit (r : Rule) (path : List Segment) (place : Place) (d : Draft) :
    (visit table judge r path place d).1.isMade = d.isMade := by
  unfold visit
  split <;> rfl

theorem isMade_enter {visit : Draft → Draft × List Visit}
    (hvisit : ∀ d, (visit d).1.isMade = d.isMade) (d : Draft) :
    (enter visit d).1.isMade = d.isMade := by
  unfold enter
  split
  · rw [hvisit, isMade_opened]
  · rfl

theorem finalEntries_eq (ds : List (Value × Draft)) :
    finalEntries ds = Entries.filterValues final? ds := by
  induction ds with
  | nil => rfl
  | cons e ds ih =>
    obtain ⟨k, d⟩ := e
    cases h : final? d <;> simp [finalEntries, Entries.filterValues, h, ih]

theorem final?_dict (made : Bool) (ds : List (Value × Draft)) :
    final? (dict made ds) =
      if made && (Entries.filterValues final? ds).isEmpty then none
      else some (.dict false (Entries.filterValues final? ds)) := by
  rw [final?, finalEntries_eq]

theorem final?_dict_false (ds : List (Value × Draft)) :
    final? (dict false ds) = some (.dict false (Entries.filterValues final? ds)) := by
  rw [final?_dict]
  rfl

theorem final?_leaf_ne_none (v : Value) : final? (leaf v) ≠ none := by
  simp [final?]

theorem filterValues_mapValues_leaf (es : Entries Value) :
    Entries.filterValues final? (Entries.mapValues leaf es) = es := by
  induction es with
  | nil => rfl
  | cons e es ih => simpa [Entries.filterValues, Entries.mapValues, final?] using ih

theorem finalItems_map_leaf (xs : List Value) :
    finalItems (xs.map fun v => (true, leaf v)) = xs := by
  induction xs with
  | nil => rfl
  | cons v xs ih => simp [finalItems, final?, ih]

/-! ## Where a rule records its visits -/

/-- The places that a rule visits have the path of the rule. -/
theorem visit_path (r : Rule) (path : List Segment) :
    ∀ (place : Place) (d : Draft), ∀ w ∈ (visit table judge r path place d).2,
      w.rule = r ∧ w.place.path = place.path ++ path := by
  induction path with
  | nil =>
    intro place d w hw
    cases d <;> cases hw
  | cons segment rest ih =>
    -- a rule goes into what it can open only, and goes on as for an open value there
    have henter : ∀ (place : Place) (d : Draft),
        ∀ w ∈ (enter (visit table judge r rest place) d).2,
          w.rule = r ∧ w.place.path = place.path ++ rest := by
      intro place d w hw
      unfold enter at hw
      split at hw
      · exact ih place _ w hw
      · cases hw
    intro place d w hw
    cases segment with
    | name s =>
      cases d with
      | dict made ds =>
        have hbelow : (place ++ [Step.key s]).path ++ rest = place.path ++ .name s :: rest := by
          simp [Place.path, Step.segment]
        rw [← hbelow]
        simp only [visit, atKey] at hw
        split at hw
        · next hrest =>
          obtain rfl := List.mem_singleton.mp hw
          exact ⟨rfl, by rw [hrest, List.append_nil]⟩
        · unfold throughKey at hw
          split at hw
          · exact henter _ _ w hw
          · split at hw
            · cases hw
            · exact ih _ _ w hw
      | leaf v => cases hw
      | list xs => cases hw
    | wildcard =>
      cases d with
      | list xs =>
        simp only [visit] at hw
        obtain ⟨i, x, -, hw⟩ := mem_atItems xs 0 hw
        have hbelow : (place ++ [Step.index i]).path ++ rest = place.path ++ .wildcard :: rest := by
          simp [Place.path, Step.segment]
        rw [← hbelow]
        split at hw
        · next hrest =>
          obtain rfl := List.mem_singleton.mp hw
          exact ⟨rfl, by rw [hrest, List.append_nil]⟩
        · exact henter _ _ w hw
      | leaf v => cases hw
      | dict made ds => cases hw

end Draft

end ArgumentSchema
