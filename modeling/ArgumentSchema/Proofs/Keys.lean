import ArgumentSchema.Proofs.Outcome
import ArgumentSchema.Proofs.Pieces
import ArgumentSchema.Proofs.Places
import Mathlib.Data.List.Nodup

/-!
# The keys of a report

A report names a place by its key, the place as the schema would write it. Places are told apart by
their keys as long as no two of them disagree about whether they enter a mapping or a list
(`Alike`), and as long as each piece of a key can be read from it (`Legible`). The places of one
descent are alike, since a value is a mapping or a list. The names of a path were once read from a
text, so they are legible; a position is if the separator has a character that is not a digit, or
if nothing comes behind it.

> `Place.write_inj`: legible places that are alike have different keys if they are different.
> `Descent.visits_alike`: the places of a descent are alike.
> `RuleTable.legible_of_compile`: where no path goes on behind a position, or the separator is not all
> digits, the places of a compiled table are legible.
-/

namespace ArgumentSchema

/-- Whether a step enters a mapping. -/
def Step.isKey : Step → Bool
  | key _ => true
  | index _ => false

/-- How a step is written. -/
def Step.text : Step → List Char
  | key s => s.toList
  | index i => Nat.toDigits 10 i

theorem Step.writePiece_piece (o : PathOptions) (step : Step) :
    Path.writePiece o step.piece = step.text := by
  cases step with
  | key s => rfl
  | index i => exact Nat.toList_repr

theorem Step.text_inj {step step' : Step} (hkind : step.isKey = step'.isKey)
    (h : step.text = step'.text) : step = step' := by
  cases step with
  | key s =>
    cases step' with
    | key s' => rw [String.toList_injective h]
    | index j => cases hkind
  | index i =>
    cases step' with
    | key s' => cases hkind
    | index j =>
      have hdigits : Nat.toDigits 10 i = Nat.toDigits 10 j := h
      rw [← Nat.ofDigitChars_toDigits (b := 10) (n := i) (by omega) (by omega), hdigits,
        Nat.ofDigitChars_toDigits (by omega) (by omega)]

theorem Step.isDigit_of_mem_text {i : Nat} {c : Char} (h : c ∈ (Step.index i).text) :
    c.isDigit = true :=
  Nat.isDigit_of_mem_toDigits (by omega) (by omega) h

/-- A separator that is not all digits is not read within a position. -/
theorem Step.clear_index {sep : List Char} (h : ∃ c ∈ sep, c.isDigit = false) (i : Nat) :
    Text.Clear sep sep (Step.index i).text := by
  obtain ⟨c, hc, hdigit⟩ := h
  refine Text.clear_of_foreign hc fun hmem => ?_
  rw [Step.isDigit_of_mem_text hmem] at hdigit
  cases hdigit

namespace Place

theorem write_eq (o : PathOptions) (place : Place) :
    place.write o = String.ofList (Text.join o.separator.toList (place.map Step.text)) := by
  unfold write Path.writePieces
  rw [List.map_map]
  refine congrArg (fun pieces => String.ofList (Text.join _ pieces)) ?_
  exact List.map_congr_left fun step _ => step.writePiece_piece o

/-! ## Places that are alike -/

/-- Where two places part, both enter a mapping or both enter a list. -/
def Alike (p q : Place) : Prop :=
  ∀ upper step step', upper ++ [step] <+: p → upper ++ [step'] <+: q → step.isKey = step'.isKey

section Alike

variable {p q upper : Place} {step step' : Step}

theorem Alike.symm (h : Alike p q) : Alike q p :=
  fun upper step step' hq hp => (h upper step' step hp hq).symm

theorem alike_of_prefix (h : p <+: q) : Alike p q := by
  intro upper step step' hp hq
  have heq : upper ++ [step] = upper ++ [step'] := by
    refine List.IsPrefix.eq_of_length ?_ (by simp)
    exact List.prefix_of_prefix_length_le (hp.trans h) hq (by simp)
  rw [List.singleton_inj.mp (List.append_cancel_left heq)]

/-- Places that part at steps of one kind are alike. -/
theorem alike_of_steps (hne : step ≠ step') (hkind : step.isKey = step'.isKey)
    (hp : upper ++ [step] <+: p) (hq : upper ++ [step'] <+: q) : Alike p q := by
  intro upper' x x' hp' hq'
  rcases Nat.lt_trichotomy upper'.length upper.length with hlt | heq | hgt
  · -- both places still go along with the upper one
    have hx := List.prefix_of_prefix_length_le hp' ((List.prefix_append ..).trans hp) (by simpa)
    have hx' := List.prefix_of_prefix_length_le hq' ((List.prefix_append ..).trans hq) (by simpa)
    exact alike_of_prefix (List.prefix_refl upper) upper' x x' hx hx'
  · -- at the place where they part, both steps are those of the assumption
    have hsteps : ∀ {y z : Step} {w : Place}, upper ++ [y] <+: w → upper' ++ [z] <+: w → y = z := by
      intro y z w hy hz
      have := List.IsPrefix.eq_of_length (List.prefix_of_prefix_length_le hy hz (by simp [heq]))
        (by simp [heq])
      exact List.singleton_inj.mp (List.append_inj_right' this rfl)
    rw [← hsteps hp hp', ← hsteps hq hq']
    exact hkind
  · -- the places cannot have parted twice
    have hup : upper ++ [step] <+: upper' :=
      List.prefix_of_prefix_length_le hp ((List.prefix_append ..).trans hp') (by simpa)
    have hup' : upper ++ [step'] <+: upper' :=
      List.prefix_of_prefix_length_le hq ((List.prefix_append ..).trans hq') (by simpa)
    exact absurd (List.prefix_refl upper') (not_prefix_of_steps hne hup hup')

theorem Alike.head (h : Alike (step :: p) (step' :: q)) : step.isKey = step'.isKey :=
  h [] step step' ⟨p, rfl⟩ ⟨q, rfl⟩

theorem Alike.tail (h : Alike (step :: p) (step :: q)) : Alike p q := by
  intro upper x x' hp hq
  exact h (step :: upper) x x' (List.cons_prefix_cons.mpr ⟨rfl, hp⟩)
    (List.cons_prefix_cons.mpr ⟨rfl, hq⟩)

end Alike

/-! ## Legible places -/

/-- The pieces of a written place can be read from it: the separator is not read too early in a
name, and nothing comes behind a position unless the separator is not all digits. -/
def Legible (sep : List Char) : Place → Prop
  | [] => False
  | [.key s] => Text.Clear sep [] s.toList
  | [.index _] => True
  | .key s :: step :: rest => Text.Clear sep sep s.toList ∧ Legible sep (step :: rest)
  | .index _ :: step :: rest => (∃ c ∈ sep, c.isDigit = false) ∧ Legible sep (step :: rest)

section Legible

variable {sep : List Char} {step step' next next' : Step} {rest rest' : Place}

theorem Legible.clear (h : Legible sep (step :: next :: rest)) : Text.Clear sep sep step.text := by
  cases step with
  | key s => exact h.1
  | index i => exact Step.clear_index h.1 i

theorem Legible.tail (h : Legible sep (step :: next :: rest)) : Legible sep (next :: rest) := by
  cases step <;> exact h.2

/-- A legible place that ends with a step is not read as one that goes on. -/
theorem Legible.ne_longer (hsep : sep ≠ []) (h : Legible sep [step])
    (h' : Legible sep (step' :: next :: rest)) (hkind : step.isKey = step'.isKey) (r : List Char) :
    step.text ≠ step'.text ++ sep ++ r := by
  cases step with
  | key s => exact h.ne_append hsep r
  | index i =>
    cases step' with
    | key s => cases hkind
    | index j =>
      exact (Step.clear_index h'.1 i).alone.ne_append hsep r

end Legible

theorem join_texts (sep : List Char) (step next : Step) (rest : Place) :
    Text.join sep ((step :: next :: rest).map Step.text) =
      step.text ++ sep ++ Text.join sep ((next :: rest).map Step.text) :=
  Text.join_cons _ _ (List.cons_ne_nil _ _)

/-- Legible places that are alike can be told apart by how they are written. -/
theorem texts_inj {sep : List Char} (hsep : sep ≠ []) :
    ∀ {p q : Place}, Legible sep p → Legible sep q → Alike p q →
      Text.join sep (p.map Step.text) = Text.join sep (q.map Step.text) → p = q := by
  intro p
  induction p with
  | nil => exact fun hp => hp.elim
  | cons step rest ih =>
    intro q hp hq halike h
    cases q with
    | nil => exact hq.elim
    | cons step' rest' =>
      have hkind := halike.head
      cases rest with
      | nil =>
        cases rest' with
        | nil => rw [Step.text_inj hkind h]
        | cons next' rest' =>
          rw [join_texts] at h
          exact absurd h (hp.ne_longer hsep hq hkind _)
      | cons next rest =>
        cases rest' with
        | nil =>
          rw [join_texts] at h
          exact absurd h.symm (hq.ne_longer hsep hp hkind.symm _)
        | cons next' rest' =>
          rw [join_texts, join_texts] at h
          obtain ⟨htext, htail⟩ := hp.clear.cancel hq.clear h
          obtain rfl := Step.text_inj hkind htext
          rw [ih hp.tail hq.tail halike.tail htail]

theorem write_inj {o : PathOptions} (ho : o.separator.toList ≠ []) {p q : Place}
    (hp : Legible o.separator.toList p) (hq : Legible o.separator.toList q) (halike : Alike p q)
    (h : p.write o = q.write o) : p = q := by
  rw [write_eq, write_eq] at h
  exact texts_inj ho hp hq halike (String.ofList_injective h)

end Place

/-! ## The places of a descent -/

namespace Descent

variable {table : RuleTable} {judge : Judge}

theorem items_visits (f : Nat → Value → Option Value × List Visit) (xs : List Value) (n : Nat) :
    (items f n xs).2 = (xs.zipIdx n).flatMap fun e => (f e.2 e.1).2 := by
  induction xs generalizing n with
  | nil => rfl
  | cons x xs ih => rw [items, ih, List.zipIdx_cons, List.flatMap_cons]

section Along

variable {place : Place} {w : Visit}

/-- What is visited at a key is visited below the mapping. -/
theorem mem_settle_key {s : String} {ordered : Bool} {es : Entries Value}
    (hs : s ∈ table.namesBelow place.path)
    (hw : w ∈ (settleKey table judge true place s (Entries.find? (.str s) es)).2) :
    w ∈ (settle table judge true place (.dict ordered es)).2 := by
  obtain ⟨r, hr, hpre⟩ := RuleTable.mem_namesBelow.mp hs
  rw [settle_dict (RuleTable.below_ne_nil hr hpre)]
  dsimp only
  rw [entries_visits (table.nodup_namesBelow _)]
  exact List.mem_flatMap.mpr ⟨s, hs, hw⟩

/-- What is visited at an element is visited below the list. -/
theorem mem_settle_item {i : Nat} {v x : Value} {xs : List Value} (hitems : v.items? = some xs)
    (hwild : table.itemsBelow place.path = true) (hx : xs[i]? = some x)
    (hw : w ∈ (settleItem table judge true place i x).2) :
    w ∈ (settle table judge true place v).2 := by
  obtain ⟨r, hr, hpre⟩ := RuleTable.itemsBelow_iff.mp hwild
  rw [settle_items (RuleTable.below_ne_nil hr hpre) hitems, if_pos hwild]
  dsimp only
  rw [items_visits]
  exact List.mem_flatMap.mpr ⟨(x, i), List.mem_zipIdx_iff_getElem?.mpr hx, hw⟩

end Along

section Induction

variable {motive : Place → List Visit → Prop}

/-- The visits at a place: those of a descent from there, after the visit of the place itself if it
has a rule. -/
def VisitsAt (motive : Place → List Visit → Prop) (place : Place) (ws : List Visit) : Prop :=
  ∃ below, motive place below ∧ (ws = below ∨ ∃ v : Visit, v.place = place ∧ ws = v :: below)

theorem visitsAt_judged (none : ∀ place, motive place []) {place : Place}
    (hsettle : ∀ v, motive place (settle table judge true place v).2) (r : Rule) (given : Value) :
    VisitsAt motive place
      (judged judge (settle table judge true place) r place given place.isItem).2 := by
  rw [judged_eq_beneath]
  refine ⟨_, ?_, Or.inr ⟨_, rfl, rfl⟩⟩
  unfold beneath
  split
  · exact hsettle _
  · split
    · exact hsettle _
    · exact none place

theorem visitsAt_settleKey (none : ∀ place, motive place []) {place : Place} {s : String}
    (hsettle : ∀ v,
      motive (place ++ [Step.key s]) (settle table judge true (place ++ [Step.key s]) v).2)
    (cell : Option Value) :
    VisitsAt motive (place ++ [Step.key s]) (settleKey table judge true place s cell).2 := by
  unfold settleKey
  cases hrule : table.ruleAt (Place.path (place ++ [Step.key s])) with
  | some r =>
    have h := visitsAt_judged none hsettle r (cell.getD .absent)
    rw [Place.isItem_key] at h
    rw [entry_ruled hrule]
    exact h
  | none =>
    cases cell with
    | some v =>
      rw [entry_free hrule]
      exact ⟨_, hsettle v, Or.inl rfl⟩
    | none =>
      rw [entry_missing hrule]
      exact ⟨_, hsettle (.dict false []), Or.inl rfl⟩

theorem visitsAt_settleItem (none : ∀ place, motive place []) {place : Place} {i : Nat}
    (hsettle : ∀ v,
      motive (place ++ [Step.index i]) (settle table judge true (place ++ [Step.index i]) v).2)
    (v : Value) :
    VisitsAt motive (place ++ [Step.index i]) (settleItem table judge true place i v).2 := by
  unfold settleItem
  cases hrule : table.ruleAt (Place.path (place ++ [Step.index i])) with
  | some r =>
    have h := visitsAt_judged none hsettle r v
    rw [Place.isItem_index] at h
    rw [item_ruled hrule]
    exact h
  | none =>
    rw [item_free hrule]
    exact ⟨_, hsettle v, Or.inl rfl⟩

/-- A descent makes its visits step by step: what holds of no visits, and of those that go on with
steps of one kind if it holds after each step, holds of the visits below every place. -/
theorem visits_induction (none : ∀ place, motive place [])
    (steps : ∀ (place : Place) (kind : Bool) (steps : List Step) (visits : Step → List Visit),
      (∀ step ∈ steps, step.isKey = kind ∧ VisitsAt motive (place ++ [step]) (visits step)) →
        motive place (steps.flatMap visits)) :
    ∀ place v, motive place (settle table judge true place v).2 := by
  refine place_induction table ?_ ?_
  · intro place hbelow v
    rw [settle_nil hbelow]
    exact none place
  · intro place hbelow ih v
    cases hentries : v.entries? with
    | some es =>
      obtain ⟨ordered, rfl⟩ := Value.eq_dict_of_entries? hentries
      -- the visits at a key, for every step; no step of the induction is a position
      let visits : Step → List Visit
        | .key s => (settleKey table judge true place s (Entries.find? (.str s) es)).2
        | .index _ => []
      rw [settle_dict hbelow]
      dsimp only
      rw [entries_visits (table.nodup_namesBelow _)]
      have hvisits := steps place true ((table.namesBelow place.path).map .key) visits ?_
      · rwa [List.flatMap_map] at hvisits
      · intro step hstep
        obtain ⟨s, -, rfl⟩ := List.mem_map.mp hstep
        exact ⟨rfl, visitsAt_settleKey none (ih (.key s)) _⟩
    | none =>
      cases hitems : v.items? with
      | some xs =>
        rw [settle_items hbelow hitems]
        split
        · let visits : Step → List Visit
            | .key _ => []
            | .index i => (settleItem table judge true place i (xs[i]?.getD .absent)).2
          dsimp only
          rw [items_visits]
          have hvisits := steps place false (xs.zipIdx.map fun e => .index e.2) visits ?_
          · rw [List.flatMap_map] at hvisits
            have heq : xs.zipIdx.flatMap (fun e => visits (.index e.2)) =
                xs.zipIdx.flatMap fun e => (settleItem table judge true place e.2 e.1).2 := by
              refine List.flatMap_congr fun e he => ?_
              have hx : xs[e.2]? = some e.1 := List.mem_zipIdx_iff_getElem?.mp he
              simp only [visits, hx, Option.getD_some]
            rwa [← heq]
          · intro step hstep
            obtain ⟨e, -, rfl⟩ := List.mem_map.mp hstep
            exact ⟨rfl, visitsAt_settleItem none (ih (.index e.2)) _⟩
        · exact none place
      | none =>
        rw [settle_scalar hentries hitems]
        exact none place

end Induction

/-- All places of some visits are at or below a place and alike. -/
def AlikeBelow (place : Place) (ws : List Visit) : Prop :=
  (∀ w ∈ ws, place <+: w.place) ∧ ∀ w ∈ ws, ∀ w' ∈ ws, w.place.Alike w'.place

theorem VisitsAt.alike {place : Place} {ws : List Visit} (h : VisitsAt AlikeBelow place ws) :
    AlikeBelow place ws := by
  obtain ⟨below, ⟨hbelow, halike⟩, rfl | ⟨v, rfl, rfl⟩⟩ := h
  · exact ⟨hbelow, halike⟩
  · have hunder : ∀ w ∈ v :: below, v.place <+: w.place :=
      List.forall_mem_cons.mpr ⟨List.prefix_refl _, hbelow⟩
    refine ⟨hunder, fun w hw w' hw' => ?_⟩
    rcases List.mem_cons.mp hw with rfl | hmem
    · exact Place.alike_of_prefix (hunder w' hw')
    · rcases List.mem_cons.mp hw' with rfl | hmem'
      · exact (Place.alike_of_prefix (hunder w hw)).symm
      · exact halike w hmem w' hmem'

/-- The places of a descent are alike: a value is entered as a mapping or as a list. -/
theorem settle_alikeBelow (table : RuleTable) (judge : Judge) :
    ∀ place v, AlikeBelow place (settle table judge true place v).2 := by
  refine visits_induction (fun place => ⟨by simp, by simp⟩) ?_
  intro place kind steps visits hsteps
  have hat := fun step hstep => (hsteps step hstep).2.alike
  refine ⟨fun w hw => ?_, fun w hw w' hw' => ?_⟩
  · obtain ⟨step, hstep, hw⟩ := List.mem_flatMap.mp hw
    exact (List.prefix_append ..).trans ((hat step hstep).1 w hw)
  · obtain ⟨step, hstep, hw⟩ := List.mem_flatMap.mp hw
    obtain ⟨step', hstep', hw'⟩ := List.mem_flatMap.mp hw'
    by_cases heq : step = step'
    · subst heq
      exact (hat step hstep).2 w hw w' hw'
    · -- two steps from one value are both keys or both positions
      have hkind : step.isKey = step'.isKey := by rw [(hsteps step hstep).1, (hsteps step' hstep').1]
      exact Place.alike_of_steps heq hkind ((hat step hstep).1 w hw) ((hat step' hstep').1 w' hw')

theorem visits_alike (table : RuleTable) (judge : Judge) (es : Entries Value) :
    ∀ w ∈ visits table judge true es, ∀ w' ∈ visits table judge true es,
      w.place.Alike w'.place := by
  intro w hw w' hw'
  exact (settle_alikeBelow table judge [] _).2 w (mem_visits.mp hw) w' (mem_visits.mp hw')

end Descent

/-! ## The paths of a table -/

/-- Paths can go on behind a wildcard: some text is read as one that does. -/
def PathOptions.GoesOn (o : PathOptions) : Prop :=
  ∃ raw upper segment rest,
    Path.split? o raw = .ok (upper ++ .wildcard :: segment :: rest)

/-- What is read is the pieces of a text. -/
theorem Path.split?_eq_ok {o : PathOptions} {raw : String} {path : List Segment}
    (h : Path.split? o raw = .ok path) :
    path = (Text.splitOn o.separator.toList raw.toList).map (readSegment o) := by
  unfold Path.split? at h
  dsimp only at h
  split at h
  · cases h
  · split at h
    · cases h
    · cases h
      rfl

theorem Path.readSegment_eq_name {o : PathOptions} {cs : List Char} {s : String}
    (h : readSegment o cs = .name s) : cs = s.toList := by
  unfold readSegment at h
  split at h
  · cases h
  · cases h
    exact String.toList_ofList.symm

/-- The place of a path is legible if the separator is not all digits or nothing goes on behind a
wildcard. -/
theorem Place.legible_of_row {o : PathOptions} :
    ∀ {pieces : List (List Char)} {place : Place}, Text.Row o.separator.toList pieces →
      place.path = pieces.map (Path.readSegment o) →
      (∀ upper segment rest, place.path = upper ++ .wildcard :: segment :: rest →
        ∃ c ∈ o.separator.toList, c.isDigit = false) →
      Legible o.separator.toList place := by
  intro pieces
  induction pieces with
  | nil => exact fun hrow => hrow.elim
  | cons piece pieces ih =>
    intro place hrow hpath hon
    cases place with
    | nil => cases hpath
    | cons step rest =>
      obtain ⟨hstep, hrest⟩ := List.cons.inj hpath
      have hname : ∀ s, step = .key s → piece = s.toList := by
        rintro s rfl
        exact Path.readSegment_eq_name hstep.symm
      by_cases hpieces : pieces = []
      · subst hpieces
        obtain rfl : rest = [] := List.map_eq_nil_iff.mp hrest
        cases step with
        | key s =>
          rw [hname s rfl] at hrow
          exact hrow
        | index i => trivial
      · obtain ⟨hpiece, hrow⟩ := (Text.row_cons hpieces).mp hrow
        have hlegible := ih hrow hrest fun upper segment rest' h =>
          hon (step.segment :: upper) segment rest' (congrArg (step.segment :: ·) h)
        cases rest with
        | nil => exact hlegible.elim
        | cons next rest =>
          cases step with
          | key s =>
            rw [hname s rfl] at hpiece
            exact ⟨hpiece, hlegible⟩
          | index i => exact ⟨hon [] _ _ rfl, hlegible⟩

namespace RuleTable

/-- What holds of every entry that can be read holds of the rules of a table. -/
theorem forall_of_compile {registry : Registry} {o : PathOptions} {schema : Value} {t : RuleTable}
    (h : compile registry o schema = .ok t) {p : String × Rule → Prop}
    (hp : ∀ raw spec e, readEntry registry o raw spec = .ok e → p e) :
    t.options = o ∧ ∀ e ∈ t.rules, p e := by
  -- by induction on the entries that are still to be read; the rules so far are general
  have hadd : ∀ (es : Entries Value) (rules rules' : List (String × Rule)), (∀ e ∈ rules, p e) →
      (addEntries registry o rules es).2 = .ok rules' → ∀ e ∈ rules', p e := by
    intro es
    induction es with
    | nil =>
      intro rules rules' hrules hok
      cases hok
      exact hrules
    | cons e es ih =>
      intro rules rules' hrules hok
      obtain ⟨raw, spec⟩ := e
      rw [addEntries] at hok
      cases hentry : readEntry registry o raw spec with
      | error e =>
        rw [hentry] at hok
        cases hok
      | ok e =>
        rw [hentry] at hok
        refine ih _ rules' (fun e' he' => ?_) hok
        rcases mem_insertRule he' with rfl | he'
        · exact hp raw spec _ hentry
        · exact hrules e' he'
  unfold compile compilation at h
  split at h
  · cases h
  · next fs _ =>
    dsimp only at h
    cases hrules : (addEntries registry o [] fs.flatten).2 with
    | error e =>
      rw [hrules] at h
      cases h
    | ok rules =>
      rw [hrules] at h
      cases h
      exact ⟨rfl, hadd _ [] rules (by simp) hrules⟩

/-- The path of a rule was read from a text. -/
theorem readEntry_split {registry : Registry} {o : PathOptions} {raw spec : Value}
    {e : String × Rule} (h : readEntry registry o raw spec = .ok e) :
    ∃ text, Path.split? o text = .ok e.2.path := by
  unfold readEntry at h
  cases hpath : readPath o raw with
  | error f => rw [hpath] at h; contradiction
  | ok path =>
    rw [hpath] at h
    cases hspec : Pattern.read registry spec with
    | error f => rw [hspec] at h; contradiction
    | ok c =>
      rw [hspec] at h
      cases h
      obtain ⟨text, -, hsplit⟩ := readPath_eq_ok_iff.mp hpath
      exact ⟨text, hsplit⟩

end RuleTable

/-- A separator is not empty. -/
theorem PathOptions.Valid.separator_ne_nil {o : PathOptions} (h : o.Valid) :
    o.separator.toList ≠ [] := by
  intro hnil
  have hempty : o.separator = "" := String.toList_injective hnil
  simp [Valid, fault?, hempty] at h

/-- A wildcard is not empty. -/
theorem PathOptions.Valid.wildcard_ne_nil {o : PathOptions} (h : o.Valid) :
    o.wildcard.toList ≠ [] := by
  intro hnil
  have hempty : o.wildcard = "" := String.toList_injective hnil
  unfold Valid fault? at h
  rw [hempty] at h
  split at h <;> cases h

/-- Where the separator is not all digits or no path goes on behind a wildcard, the places of a
table are legible. -/
theorem RuleTable.legible_of_compile {registry : Registry} {o : PathOptions} {schema : Value}
    {t : RuleTable} (h : compile registry o schema = .ok t) (ho : o.Valid)
    (hon : o.GoesOn → ∃ c ∈ o.separator.toList, c.isDigit = false) :
    t.options = o ∧ ∀ r ∈ t.ruleList, ∀ place : Place, r.path = place.path →
      place.Legible o.separator.toList := by
  obtain ⟨hoptions, hread⟩ := forall_of_compile h
    (p := fun e => ∃ text, Path.split? o text = .ok e.2.path) fun _ _ _ => readEntry_split
  refine ⟨hoptions, fun r hr place hpath => ?_⟩
  obtain ⟨e, he, rfl⟩ := List.mem_map.mp hr
  obtain ⟨text, hsplit⟩ := hread e he
  rw [hpath] at hsplit
  refine Place.legible_of_row (Text.row_splitOn ho.separator_ne_nil text.toList)
    (Path.split?_eq_ok hsplit) fun upper segment rest hgoes => hon ?_
  rw [hgoes] at hsplit
  exact ⟨text, upper, segment, rest, hsplit⟩

end ArgumentSchema
