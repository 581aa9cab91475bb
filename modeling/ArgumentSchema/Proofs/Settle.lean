import ArgumentSchema.Proofs.Draft

/-!
# Rule by rule comes to one descent

A run takes the rules one after the other, parents first, each to all of its places. Settling a
document goes through it once, with all rules at a time. Both leave the same.

> `Draft.settles`: after all rules of a compiled table, parents first, what is left of a mapping is
> what `Descent.settle` makes of it, and the visits are those of `Descent.settle`, rule by rule.

The rules below a place are taken apart by key (`chain_dict`, `chain_atKey`) and by element
(`chain_list`, `chain_atItems`). The rules of one key are the rule of the key itself, which comes
first, and the rules below it (`namedRules_filter`), so that what they do to the key is to judge it
and then to go into what is left of it (`key_settles`, `item_settles`). The induction is on how far
the place is from the ends of the longest paths.
-/

namespace ArgumentSchema

namespace Draft

variable (table : RuleTable) (judge : Judge)

/-- Takes a rule to its places below a place. -/
def visitFrom (r : Rule) (place : Place) : Draft → Draft × List Visit :=
  visit table judge r (r.path.drop place.length) place

/-- What a rule does with what stands under a key. -/
def keyAt (r : Rule) (below : Place) : Option Draft → Option Draft × List Visit :=
  if r.path.length = below.length then judgeKey judge r below
  else throughKey (table.hasPath below.path) (visitFrom table judge r below)

/-- What a rule does with an element of a list. -/
def itemAt (r : Rule) (below : Place) : Bool × Draft → (Bool × Draft) × List Visit :=
  if r.path.length = below.length then judgeItem judge r below
  else throughItem (visitFrom table judge r below)

variable {table judge} {r : Rule} {place : Place}

theorem drop_path {segment : Segment} (h : r.path[place.length]? = some segment) :
    r.path.drop place.length = segment :: r.path.drop (place.length + 1) := by
  obtain ⟨hlt, rfl⟩ := List.getElem?_eq_some_iff.mp h
  exact List.drop_eq_getElem_cons hlt

theorem drop_path_eq_nil {segment : Segment} (h : r.path[place.length]? = some segment) :
    r.path.drop (place.length + 1) = [] ↔ r.path.length = place.length + 1 := by
  obtain ⟨hlt, -⟩ := List.getElem?_eq_some_iff.mp h
  rw [List.drop_eq_nil_iff]
  omega

theorem visitFrom_dict {s : String} (h : r.path[place.length]? = some (.name s)) (made : Bool)
    (ds : Entries Draft) :
    visitFrom table judge r place (dict made ds) =
      (dict made (atKey s (keyAt table judge r (place ++ [Step.key s])) ds).1,
        (atKey s (keyAt table judge r (place ++ [Step.key s])) ds).2) := by
  rw [visitFrom, drop_path h, visit]
  simp only [keyAt, visitFrom, List.length_append, List.length_singleton, drop_path_eq_nil h]

theorem visitFrom_dict_wildcard (h : r.path[place.length]? = some .wildcard) (made : Bool)
    (ds : Entries Draft) : visitFrom table judge r place (dict made ds) = (dict made ds, []) := by
  rw [visitFrom, drop_path h]
  rfl

theorem visitFrom_list (h : r.path[place.length]? = some .wildcard) (xs : List (Bool × Draft)) :
    visitFrom table judge r place (list xs) =
      (list (atItems (fun i => itemAt table judge r (place ++ [Step.index i])) 0 xs).1,
        (atItems (fun i => itemAt table judge r (place ++ [Step.index i])) 0 xs).2) := by
  rw [visitFrom, drop_path h, visit]
  simp only [itemAt, visitFrom, List.length_append, List.length_singleton, drop_path_eq_nil h]

theorem visitFrom_list_name {s : String} (h : r.path[place.length]? = some (.name s))
    (xs : List (Bool × Draft)) : visitFrom table judge r place (list xs) = (list xs, []) := by
  rw [visitFrom, drop_path h]
  rfl

theorem visitFrom_path (h : place.path <+: r.path) (d : Draft) :
    ∀ w ∈ (visitFrom table judge r place d).2, w.rule = r ∧ w.place.path = r.path := by
  intro w hw
  obtain ⟨hr, hp⟩ := visit_path table judge r _ place d w hw
  obtain ⟨rest, hrest⟩ := h
  refine ⟨hr, ?_⟩
  rw [hp, ← hrest, ← place.length_path, List.drop_left]

theorem isOpened_visitFrom (r : Rule) (place : Place) {d : Draft} (h : d.isOpened = true) :
    (visitFrom table judge r place d).1.isOpened = true :=
  isOpened_visit table judge r _ place h

/-! ## Going in with many rules -/

section Enter

variable {v : Rule → Draft → Draft × List Visit}

theorem enter_of_isOpened (visit : Draft → Draft × List Visit) {d : Draft}
    (h : d.isOpened = true) : enter visit d = visit d := by
  rw [enter, opened_of_isOpened h, if_pos h]

theorem chain_enter_closed {d : Draft} (h : d.opened.isOpened = false) (L : List Rule) :
    chain (L.map fun r => enter (v r)) d = (d, []) := by
  induction L with
  | nil => rfl
  | cons r L ih =>
    have hstep : enter (v r) d = (d, []) := by
      rw [enter, h]
      rfl
    rw [List.map_cons, chain, hstep, ih, List.nil_append]

/-- Rules that go through a key go into what stands there. -/
theorem chain_throughKey_some (ruled : Bool) (L : List Rule) (d : Draft) :
    chain (L.map fun r => throughKey ruled (v r)) (some d) =
      (some (chain (L.map fun r => enter (v r)) d).1, (chain (L.map fun r => enter (v r)) d).2) :=
  chain_map some (fun _ _ _ => rfl) d

/-- Rules that go through a missing key with a rule of its own find nothing. -/
theorem chain_throughKey_ruled (L : List Rule) :
    chain (L.map fun r => throughKey true (v r)) none = (none, []) := by
  induction L with
  | nil => rfl
  | cons r L ih => rw [List.map_cons, chain, throughKey, if_pos rfl, ih, List.nil_append]

/-- Rules that go through an element go into what stands there. -/
theorem chain_throughItem (L : List Rule) (stays : Bool) (d : Draft) :
    chain (L.map fun r => throughItem (v r)) (stays, d) =
      ((stays, (chain (L.map fun r => enter (v r)) d).1),
        (chain (L.map fun r => enter (v r)) d).2) :=
  chain_map (Prod.mk stays) (fun _ _ _ => rfl) d

variable (hv : ∀ r d, d.isOpened = true → (v r d).1.isOpened = true)

include hv

theorem chain_enter_opened (L : List Rule) {d : Draft} (h : d.isOpened = true) :
    chain (L.map fun r => enter (v r)) d = chain (L.map v) d := by
  induction L generalizing d with
  | nil => rfl
  | cons r L ih =>
    rw [List.map_cons, List.map_cons, chain, chain, enter_of_isOpened _ h, ih (hv r d h)]

/-- A container stays open, so a chain of rules that go into a draft opens it once. -/
theorem chain_enter {L : List Rule} (hL : L ≠ []) (d : Draft) :
    chain (L.map fun r => enter (v r)) d =
      if d.opened.isOpened then chain (L.map v) d.opened else (d, []) := by
  cases hd : d.opened.isOpened with
  | false => exact chain_enter_closed hd L
  | true =>
    cases L with
    | nil => exact absurd rfl hL
    | cons r L =>
      have hstep : enter (v r) d = v r d.opened := by rw [enter, if_pos hd]
      rw [if_pos rfl, List.map_cons, List.map_cons, chain, chain, hstep,
        chain_enter_opened hv L (hv r _ hd)]

/-- The first of the rules that go through a missing key without a rule makes a mapping for it. -/
theorem chain_throughKey_made {L : List Rule} (hL : L ≠ []) :
    chain (L.map fun r => throughKey false (v r)) none =
      (some (chain (L.map v) (dict true [])).1, (chain (L.map v) (dict true [])).2) := by
  cases L with
  | nil => exact absurd rfl hL
  | cons r L =>
    have hfirst : throughKey false (v r) none =
        (some (v r (dict true [])).1, (v r (dict true [])).2) := rfl
    rw [List.map_cons, List.map_cons, chain, chain, hfirst, chain_throughKey_some,
      chain_enter_opened hv L (hv r _ rfl)]

end Enter

/-! ## What the rules of one key and of one element do -/

/-- The path that a visit is made for. -/
def label (v : Visit) : List Segment := v.place.path

/-- The rules below a place do to a value there what settling it does. -/
def Settles (table : RuleTable) (judge : Judge) (place : Place) (v : Value) : Prop :=
  let w := chain ((table.below place.path).map fun r => enter (visitFrom table judge r place)) (leaf v)
  let settled := Descent.settle table judge true place v
  final? w.1 = some settled.1 ∧ SameBy label w.2 settled.2

/-- The rules below a place do to a mapping that is made there what settling an empty mapping does,
and the mapping is gone if it stays empty. -/
def SettlesMade (table : RuleTable) (judge : Judge) (place : Place) : Prop :=
  let w := chain ((table.below place.path).map fun r => visitFrom table judge r place) (dict true [])
  let settled := Descent.settle table judge true place (.dict false [])
  final? w.1 = Descent.unlessEmpty settled.1 ∧ SameBy label w.2 settled.2

theorem keyAt_below {below : Place} {r : Rule} (h : r ∈ table.below below.path) :
    keyAt table judge r below =
      throughKey (table.hasPath below.path) (visitFrom table judge r below) := by
  obtain ⟨-, -, hlt⟩ := RuleTable.mem_below.mp h
  rw [below.length_path] at hlt
  rw [keyAt, if_neg (by omega)]

theorem keyAt_ruleAt {below : Place} {r : Rule} (h : table.ruleAt below.path = some r) :
    keyAt table judge r below = judgeKey judge r below := by
  rw [keyAt, if_pos]
  rw [(RuleTable.ruleAt_eq_some h).2, below.length_path]

theorem itemAt_below {below : Place} {r : Rule} (h : r ∈ table.below below.path) :
    itemAt table judge r below = throughItem (visitFrom table judge r below) := by
  obtain ⟨-, -, hlt⟩ := RuleTable.mem_below.mp h
  rw [below.length_path] at hlt
  rw [itemAt, if_neg (by omega)]

theorem itemAt_ruleAt {below : Place} {r : Rule} (h : table.ruleAt below.path = some r) :
    itemAt table judge r below = judgeItem judge r below := by
  rw [itemAt, if_pos]
  rw [(RuleTable.ruleAt_eq_some h).2, below.length_path]

/-- The rules of one key: the rule of the key itself, then the rules below it. -/
def keyRules (table : RuleTable) (judge : Judge) (below : Place) :
    List (Option Draft → Option Draft × List Visit) :=
  ((table.ruleAt below.path).toList ++ table.below below.path).map fun r => keyAt table judge r below

/-- The rules of one element: the rule of the elements, then the rules below it. -/
def itemRules (table : RuleTable) (judge : Judge) (below : Place) :
    List (Bool × Draft → (Bool × Draft) × List Visit) :=
  ((table.ruleAt below.path).toList ++ table.below below.path).map fun r => itemAt table judge r below

theorem keyRules_none {below : Place} (h : table.ruleAt below.path = none) :
    keyRules table judge below = (table.below below.path).map fun r =>
      throughKey false (visitFrom table judge r below) := by
  rw [keyRules, h, Option.toList_none, List.nil_append]
  refine List.map_congr_left fun r hr => ?_
  rw [keyAt_below hr, RuleTable.ruleAt_eq_none.mp h]

theorem keyRules_some {below : Place} {r : Rule} (h : table.ruleAt below.path = some r) :
    keyRules table judge below = judgeKey judge r below :: (table.below below.path).map fun r =>
      throughKey true (visitFrom table judge r below) := by
  rw [keyRules, h, Option.toList_some, List.singleton_append, List.map_cons, keyAt_ruleAt h]
  congr 1
  refine List.map_congr_left fun r hr => ?_
  rw [keyAt_below hr, RuleTable.hasPath_eq, h]
  rfl

theorem itemRules_none {below : Place} (h : table.ruleAt below.path = none) :
    itemRules table judge below = (table.below below.path).map fun r =>
      throughItem (visitFrom table judge r below) := by
  rw [itemRules, h, Option.toList_none, List.nil_append]
  exact List.map_congr_left fun r hr => itemAt_below hr

theorem itemRules_some {below : Place} {r : Rule} (h : table.ruleAt below.path = some r) :
    itemRules table judge below = judgeItem judge r below :: (table.below below.path).map fun r =>
      throughItem (visitFrom table judge r below) := by
  rw [itemRules, h, Option.toList_some, List.singleton_append, List.map_cons, itemAt_ruleAt h]
  congr 1
  exact List.map_congr_left fun r hr => itemAt_below hr

/-- What rules have left under a key holds what the key is settled to, with the same visits path by
path. If something is left that holds nothing, nothing was given. -/
structure CellSettles (w : Option Draft × List Visit) (settled : Option Value × List Visit)
    (cell : Option Value) : Prop where
  final : w.1.bind final? = settled.1
  log : SameBy label w.2 settled.2
  given : ∀ d, w.1 = some d → final? d = none → cell = none

theorem CellSettles.of_final {d : Draft} {v : Value} {cell : Option Value} {l l' : List Visit}
    (hfinal : final? d = some v) (hlog : SameBy label l l') :
    CellSettles (some d, l) (some v, l') cell := by
  refine ⟨hfinal, hlog, fun d' hd' hnone => ?_⟩
  obtain rfl := Option.some.inj hd'
  rw [hfinal] at hnone
  cases hnone

/-- The rule of a key comes first, then those below it. -/
theorem ruled_key_settles {below : Place} (hsettles : ∀ v, Settles table judge below v) {r : Rule}
    (hrule : table.ruleAt below.path = some r) (cell : Option Value) :
    CellSettles (chain (keyRules table judge below) (cell.map leaf))
      (Descent.entry table judge (Descent.settle table judge true below) below cell) cell := by
  have hgiven : ((cell.map leaf).map held).getD Value.absent = cell.getD .absent := by
    cases cell <;> rfl
  rw [keyRules_some hrule, chain, judgeKey, hgiven, Descent.entry_ruled hrule]
  cases hkept : (judge r below (cell.getD .absent)).kept? with
  | none =>
    rw [Descent.judged_dropped hkept rfl, Option.map_none, chain_throughKey_ruled]
    exact ⟨rfl, SameBy.refl _, fun d hd => by cases hd⟩
  | some v =>
    obtain ⟨hfinal, hlog⟩ := hsettles v
    rw [Descent.judged_kept hkept, Option.map_some, chain_throughKey_some]
    exact .of_final hfinal (SameBy.append (SameBy.refl [_]) hlog)

/-- A key without a rule of its own is gone through, and made on the way if it is missing. -/
theorem free_key_settles {below : Place} (hsettles : ∀ v, Settles table judge below v)
    (hmade : SettlesMade table judge below) (hrule : table.ruleAt below.path = none)
    (hbelow : table.below below.path ≠ []) (cell : Option Value) :
    CellSettles (chain (keyRules table judge below) (cell.map leaf))
      (Descent.entry table judge (Descent.settle table judge true below) below cell) cell := by
  rw [keyRules_none hrule]
  cases cell with
  | some v =>
    obtain ⟨hfinal, hlog⟩ := hsettles v
    rw [Descent.entry_free hrule, Option.map_some, chain_throughKey_some]
    exact .of_final hfinal hlog
  | none =>
    obtain ⟨hfinal, hlog⟩ := hmade
    rw [Descent.entry_missing hrule, Option.map_none,
      chain_throughKey_made (fun r d => isOpened_visitFrom r below) hbelow]
    exact ⟨hfinal, hlog, fun _ _ _ => rfl⟩

/-- The rules of one key do to what stands there what `Descent.entry` does. -/
theorem key_settles {below : Place} (hsettles : ∀ v, Settles table judge below v)
    (hmade : table.below below.path ≠ [] → SettlesMade table judge below)
    (hsome : (table.ruleAt below.path).toList ++ table.below below.path ≠ [])
    (cell : Option Value) :
    CellSettles (chain (keyRules table judge below) (cell.map leaf))
      (Descent.entry table judge (Descent.settle table judge true below) below cell) cell := by
  cases hrule : table.ruleAt below.path with
  | some r => exact ruled_key_settles hsettles hrule cell
  | none =>
    have hbelow : table.below below.path ≠ [] := by
      rw [hrule] at hsome
      exact hsome
    exact free_key_settles hsettles (hmade hbelow) hrule hbelow cell

/-- The rules of one element do to it what `Descent.item` does. -/
theorem item_settles {below : Place} (hsettles : ∀ v, Settles table judge below v) (v : Value) :
    let w := chain (itemRules table judge below) (true, leaf v)
    let settled := Descent.item table judge true (Descent.settle table judge true below) below v
    (if w.1.1 then final? w.1.2 else none) = settled.1 ∧ SameBy label w.2 settled.2 := by
  intro w settled
  cases hrule : table.ruleAt below.path with
  | some r =>
    have hw : w = chain (itemRules table judge below) (true, leaf v) := rfl
    rw [itemRules_some hrule, chain] at hw
    have hsettled : settled =
        Descent.judged judge (Descent.settle table judge true below) r below v true :=
      Descent.item_ruled hrule true v
    cases hkept : (judge r below v).kept? with
    | some x =>
      obtain ⟨hfinal, hlog⟩ := hsettles x
      rw [judgeItem_kept hkept, chain_throughItem] at hw
      rw [Descent.judged_kept hkept] at hsettled
      rw [hw, hsettled]
      exact ⟨hfinal, SameBy.append (SameBy.refl [_]) hlog⟩
    | none =>
      cases hs : (judge r below v).state.succeeded with
      | true =>
        rw [judgeItem_lingering hkept hs, chain_throughItem] at hw
        rw [Descent.judged_lingering hkept hs] at hsettled
        rw [hw, hsettled]
        exact ⟨rfl, SameBy.append (SameBy.refl [_]) (hsettles v).2⟩
      | false =>
        rw [judgeItem_blocked hkept hs, chain_throughItem, chain_enter_closed rfl] at hw
        rw [Descent.judged_dropped hkept (by rw [hs]; rfl)] at hsettled
        rw [hw, hsettled]
        exact ⟨rfl, SameBy.refl _⟩
  | none =>
    have hw : w = chain (itemRules table judge below) (true, leaf v) := rfl
    rw [itemRules_none hrule, chain_throughItem] at hw
    have hsettled : settled = (some (Descent.settle table judge true below v).1,
        (Descent.settle table judge true below v).2) := Descent.item_free hrule true v
    rw [hw, hsettled]
    exact hsettles v

/-! ## Mappings -/

theorem keyAt_label {r : Rule} {below : Place} (h : below.path <+: r.path) (cell : Option Draft) :
    ∀ w ∈ (keyAt table judge r below cell).2, label w = r.path := by
  intro w hw
  unfold keyAt at hw
  split at hw
  · next hlen =>
    obtain rfl := List.mem_singleton.mp hw
    exact h.eq_of_length (by rw [below.length_path, hlen])
  · unfold throughKey enter at hw
    split at hw
    · split at hw
      · exact (visitFrom_path h _ w hw).2
      · cases hw
    · split at hw
      · cases hw
      · exact (visitFrom_path h _ w hw).2

theorem itemAt_label {r : Rule} {below : Place} (h : below.path <+: r.path) (x : Bool × Draft) :
    ∀ w ∈ (itemAt table judge r below x).2, label w = r.path := by
  intro w hw
  unfold itemAt at hw
  split at hw
  · next hlen =>
    obtain rfl := List.mem_singleton.mp hw
    exact h.eq_of_length (by rw [below.length_path, hlen])
  · unfold throughItem enter at hw
    split at hw
    · exact (visitFrom_path h _ w hw).2
    · cases hw

/-- Keys that are settled one after the other, in a draft and in the mapping that it stands for. -/
theorem byKey_settles {f : Rule → Option Draft → Option Draft × List Visit} {name : Rule → String}
    {L : List Rule} {settle : String → Option Value → Option Value × List Visit}
    {names : List String} (hnames : names.Nodup)
    (hcell : ∀ s ∈ names, ∀ cell : Option Value,
      CellSettles (chain (ofKey f name s L) (cell.map leaf)) (settle s cell) cell) :
    ∀ {ds : Entries Draft} {es : Entries Value}, Entries.filterValues final? ds = es →
      (∀ s ∈ names, Entries.find? (.str s) ds = (Entries.find? (.str s) es).map leaf) →
      Entries.filterValues final? (byKey f name L names ds).1 =
          (Descent.entries settle names es).1 ∧
        SameBy label (byKey f name L names ds).2 (Descent.entries settle names es).2 := by
  induction names with
  | nil =>
    intro ds es hes _
    exact ⟨hes, SameBy.refl []⟩
  | cons s names ih =>
    intro ds es hes hfind
    obtain ⟨hs, hnames⟩ := List.nodup_cons.mp hnames
    have hstep : byKey f name L (s :: names) ds =
        let w := chain (ofKey f name s L) ((Entries.find? (.str s) es).map leaf)
        ((byKey f name L names (Entries.put s w.1 ds)).1,
          w.2 ++ (byKey f name L names (Entries.put s w.1 ds)).2) := by
      rw [byKey, List.map_cons, chain, atKey, hfind s (List.mem_cons_self ..)]
      rfl
    obtain ⟨hfinal, hlog, hempty⟩ := hcell s (List.mem_cons_self ..) (Entries.find? (.str s) es)
    rw [hstep, Descent.entries]
    generalize chain (ofKey f name s L) ((Entries.find? (.str s) es).map leaf) = w at *
    -- what the first key comes to is put in its place before the others are looked at
    have hfiltered : Entries.filterValues final? (Entries.put s w.1 ds) =
        Entries.put s (settle s (Entries.find? (.str s) es)).1 es := by
      rw [← hfinal, ← hes]
      refine Entries.filterValues_put final? ?_ ?_
      · intro u hu
        rw [hfind s (List.mem_cons_self ..)] at hu
        obtain ⟨v, -, rfl⟩ := Option.map_eq_some_iff.mp hu
        exact final?_leaf_ne_none v
      · intro u hu hnone
        rw [hfind s (List.mem_cons_self ..), hempty u hu hnone]
        rfl
    obtain ⟨hrest, hrestlog⟩ := ih hnames (fun t ht => hcell t (List.mem_cons_of_mem _ ht))
      hfiltered (fun t ht => by
        have hne : s ≠ t := by
          rintro rfl
          exact hs ht
        rw [Entries.find?_put_ne hne, Entries.find?_put_ne hne, hfind t (List.mem_cons_of_mem _ ht)])
    exact ⟨hrest, SameBy.append hlog hrestlog⟩

/-- The name that a rule goes on with below a place. -/
def nameAt (place : Place) (r : Rule) : String :=
  ((r.path[place.length]?).bind Segment.name?).getD ""

/-- Whether a rule goes on with a name below a place. -/
def isNamed (place : Place) (r : Rule) : Bool := ((r.path[place.length]?).bind Segment.name?).isSome

theorem segment_of_isNamed {place : Place} {r : Rule} (h : isNamed place r = true) :
    r.path[place.length]? = some (.name (nameAt place r)) := by
  unfold isNamed at h
  unfold nameAt
  cases hseg : r.path[place.length]? with
  | none => simp [hseg] at h
  | some segment =>
    cases segment with
    | name s => rfl
    | wildcard => simp [hseg, Segment.name?] at h

theorem isNamed_of_segment {place : Place} {r : Rule} {s : String}
    (h : r.path[place.length]? = some (.name s)) : isNamed place r = true ∧ nameAt place r = s := by
  simp [isNamed, nameAt, h, Segment.name?]

/-- The rules that go on with a name below a place. -/
def namedRules (table : RuleTable) (place : Place) : List Rule :=
  (table.below place.path).filter (isNamed place)

theorem map_nameAt_namedRules (table : RuleTable) (place : Place) :
    ((namedRules table place).map (nameAt place)).eraseDups = table.namesBelow place.path := by
  rw [RuleTable.namesBelow, place.length_path, namedRules]
  congr 1
  induction table.below place.path with
  | nil => rfl
  | cons r L ih =>
    cases hr : isNamed place r with
    | true =>
      have hname : (r.path[place.length]?).bind Segment.name? = some (nameAt place r) := by
        rw [segment_of_isNamed hr]
        rfl
      rw [List.filter_cons_of_pos hr, List.map_cons, List.filterMap_cons]
      simp only [hname, ih]
    | false =>
      have hname : (r.path[place.length]?).bind Segment.name? = none := by
        simpa [isNamed] using hr
      rw [List.filter_cons_of_neg (by simp [hr]), List.filterMap_cons]
      simp only [hname, ih]

theorem namedRules_filter (ht : table.Compiled) (place : Place) (s : String) :
    ((namedRules table place).filter fun r => nameAt place r == s) =
      (table.ruleAt (place ++ [Step.key s]).path).toList ++
        table.below (place ++ [Step.key s]).path := by
  rw [Place.path_key, ← ht.below_filter, namedRules, List.filter_filter, place.length_path]
  refine List.filter_congr fun r _ => ?_
  rw [Bool.eq_iff_iff]
  simp only [Bool.and_eq_true, beq_iff_eq]
  constructor
  · rintro ⟨rfl, hr⟩
    exact segment_of_isNamed hr
  · intro h
    exact (isNamed_of_segment h).symm

theorem prefix_path_key {place : Place} {r : Rule} (h : r ∈ namedRules table place) :
    Place.path (place ++ [Step.key (nameAt place r)]) <+: r.path := by
  obtain ⟨hbelow, hnamed⟩ := List.mem_filter.mp h
  obtain ⟨-, ⟨rest, hrest⟩, -⟩ := RuleTable.mem_below.mp hbelow
  have hseg := segment_of_isNamed hnamed
  rw [← hrest, ← place.length_path, List.getElem?_append_right (Nat.le_refl _),
    Nat.sub_self] at hseg
  cases rest with
  | nil => cases hseg
  | cons x rest =>
    rw [Place.path_key, ← hrest, show x = .name (nameAt place r) from Option.some.inj hseg]
    exact ⟨rest, by simp⟩

/-- What a rule does with what stands under its key below a place. -/
def ownKey (table : RuleTable) (judge : Judge) (place : Place) (r : Rule) :
    Option Draft → Option Draft × List Visit :=
  keyAt table judge r (place ++ [.key (nameAt place r)])

theorem map_ownKey {place : Place} {s : String} {L : List Rule}
    (h : ∀ r ∈ L, nameAt place r = s) :
    L.map (ownKey table judge place) = L.map fun r => keyAt table judge r (place ++ [Step.key s]) := by
  refine List.map_congr_left fun r hr => ?_
  rw [ownKey, h r hr]

theorem ofKey_namedRules (ht : table.Compiled) (place : Place) (s : String) :
    ofKey (ownKey table judge place) (nameAt place) s (namedRules table place) =
      keyRules table judge (place ++ [Step.key s]) := by
  rw [ofKey, map_ownKey (s := s) (by simp), namedRules_filter ht]
  rfl

/-- In a mapping the rules that go on with a name do something, each at its own key. -/
theorem chain_dict (place : Place) (made : Bool) (ds : Entries Draft) :
    chain ((table.below place.path).map fun r => visitFrom table judge r place) (dict made ds) =
      let w := chain ((namedRules table place).map fun r =>
        atKey (nameAt place r) (ownKey table judge place r)) ds
      (dict made w.1, w.2) := by
  let step : Rule → Entries Draft → Entries Draft × List Visit := fun r ds =>
    if isNamed place r then atKey (nameAt place r) (ownKey table judge place r) ds else (ds, [])
  have hstep : ∀ r ∈ table.below place.path, ∀ ds, visitFrom table judge r place (dict made ds) =
      (dict made (step r ds).1, (step r ds).2) := by
    intro r hr ds
    obtain ⟨-, -, hlt⟩ := RuleTable.mem_below.mp hr
    rw [place.length_path] at hlt
    cases hseg : r.path[place.length]? with
    | none =>
      rw [List.getElem?_eq_none_iff] at hseg
      omega
    | some segment =>
      cases segment with
      | name s =>
        obtain ⟨hnamed, hname⟩ := isNamed_of_segment hseg
        simp only [step, hnamed, if_true, ownKey, hname]
        exact visitFrom_dict hseg made ds
      | wildcard =>
        have hnamed : isNamed place r = false := by simp [isNamed, hseg, Segment.name?]
        simp only [step, hnamed, Bool.false_eq_true, if_false]
        exact visitFrom_dict_wildcard hseg made ds
  have hnamed : (namedRules table place).map step = (namedRules table place).map fun r =>
      atKey (nameAt place r) (ownKey table judge place r) := by
    refine List.map_congr_left fun r hr => ?_
    funext ds
    simp only [step, if_pos (List.mem_filter.mp hr).2]
  rw [chain_map (dict made) hstep, chain_filter (isNamed place), ← hnamed]
  · rfl
  · intro r _ hr ds
    simp only [step, hr, Bool.false_eq_true, if_false]

/-- A rule that comes after another rule of its key goes through the key, and brings nothing back
where the rules before it have left nothing. -/
theorem ownKey_steady (ht : table.Compiled) {place : Place} {pre post : List Rule} {r : Rule}
    (hsplit : namedRules table place = pre ++ r :: post) (hmem : nameAt place r ∈ pre.map (nameAt place))
    {cell : Option Draft}
    (hnone : (chain (ofKey (ownKey table judge place) (nameAt place) (nameAt place r) pre) cell).1 =
      none) : (ownKey table judge place r none).1 = none := by
  have hfilter := namedRules_filter ht place (nameAt place r)
  rw [hsplit, List.filter_append, List.filter_cons_of_pos (by simp)] at hfilter
  rw [ofKey, map_ownKey (s := nameAt place r) (by simp)] at hnone
  obtain ⟨j, hj, hjname⟩ := List.mem_map.mp hmem
  have hpre : pre.filter (fun i => nameAt place i == nameAt place r) ≠ [] :=
    List.ne_nil_of_mem (List.mem_filter.mpr ⟨hj, by simpa using hjname⟩)
  rw [ownKey]
  -- an earlier rule of the same key is the rule of the key, or has made the mapping already
  generalize pre.filter (fun i => nameAt place i == nameAt place r) = earlier at *
  generalize place ++ [Step.key (nameAt place r)] = below at *
  cases hrule : table.ruleAt below.path with
  | some r' =>
    have hbelow : r ∈ table.below below.path := by
      cases earlier with
      | nil => exact absurd rfl hpre
      | cons i rest =>
        rw [hrule, Option.toList_some, List.singleton_append, List.cons_append] at hfilter
        rw [← (List.cons.inj hfilter).2]
        simp
    rw [keyAt_below hbelow, RuleTable.hasPath_eq, hrule]
    rfl
  | none =>
    rw [hrule] at hfilter
    have hthrough : earlier.map (fun i => keyAt table judge i below) =
        earlier.map fun i => throughKey false (visitFrom table judge i below) := by
      refine List.map_congr_left fun i hi => ?_
      have hbelow : i ∈ table.below below.path := by
        rw [← show _ = table.below _ from hfilter]
        exact List.mem_append_left _ hi
      rw [keyAt_below hbelow, RuleTable.ruleAt_eq_none.mp hrule]
    rw [hthrough] at hnone
    cases cell with
    | some d =>
      rw [chain_throughKey_some] at hnone
      cases hnone
    | none =>
      rw [chain_throughKey_made (fun i d => isOpened_visitFrom i _) hpre] at hnone
      cases hnone

/-- The rules below a place do to the entries of a mapping what `Descent.entries` does. -/
theorem dict_settles (ht : table.Compiled) (place : Place)
    (hsettles : ∀ s v, Settles table judge (place ++ [Step.key s]) v)
    (hmade : ∀ s, table.below (Place.path (place ++ [Step.key s])) ≠ [] →
      SettlesMade table judge (place ++ [Step.key s])) (made : Bool) (es : Entries Value) :
    let w := chain ((table.below place.path).map fun r => visitFrom table judge r place)
      (dict made (Entries.mapValues leaf es))
    let settled := Descent.entries (Descent.settleKey table judge true place)
      (table.namesBelow place.path) es
    ∃ ds, w.1 = dict made ds ∧ Entries.filterValues final? ds = settled.1 ∧
      SameBy label w.2 settled.2 := by
  intro w settled
  have hcell : ∀ s ∈ table.namesBelow place.path, ∀ cell : Option Value,
      CellSettles (chain (ofKey (ownKey table judge place) (nameAt place) s (namedRules table place))
        (cell.map leaf)) (Descent.settleKey table judge true place s cell) cell := by
    intro s hs cell
    rw [ofKey_namedRules ht]
    refine key_settles (hsettles s) (hmade s) ?_ cell
    rw [← map_nameAt_namedRules, List.mem_eraseDups] at hs
    obtain ⟨r, hr, rfl⟩ := List.mem_map.mp hs
    rw [← namedRules_filter ht]
    exact List.ne_nil_of_mem (List.mem_filter.mpr ⟨hr, by simp⟩)
  obtain ⟨hes, hlog⟩ := chain_atKey (ownKey table judge place) (nameAt place) label (·.path)
    (Entries.mapValues leaf es) (L := namedRules table place)
    (fun r hr cell => keyAt_label (prefix_path_key hr) cell)
    (List.Nodup.sublist ((List.filter_sublist.trans List.filter_sublist).map _) ht.distinct_byDepth)
    (fun pre r post hsplit hmem hnone => ownKey_steady ht hsplit hmem hnone)
  rw [gathered, map_nameAt_namedRules] at hes hlog
  obtain ⟨hfinal, hsame⟩ := byKey_settles (nodup_eraseDups _) hcell (filterValues_mapValues_leaf es)
    (fun s _ => Entries.find?_mapValues leaf s es)
  rw [show w = _ from chain_dict place made _]
  exact ⟨_, rfl, by rw [hes]; exact hfinal, SameBy.trans hlog hsame⟩

/-! ## Lists -/

/-- Elements that are settled one after the other, in a draft and in the list that it stands
for. -/
theorem atItems_settles {g : Nat → Bool × Draft → (Bool × Draft) × List Visit}
    {settle : Nat → Value → Option Value × List Visit}
    (hitem : ∀ i v, let w := g i (true, leaf v)
      (if w.1.1 then final? w.1.2 else none) = (settle i v).1 ∧ SameBy label w.2 (settle i v).2)
    (vs : List Value) (n : Nat) :
    let w := atItems g n (vs.map fun v => (true, leaf v))
    finalItems w.1 = (Descent.items settle n vs).1 ∧
      SameBy label w.2 (Descent.items settle n vs).2 := by
  induction vs generalizing n with
  | nil => exact ⟨rfl, SameBy.refl []⟩
  | cons v vs ih =>
    obtain ⟨hrest, hrestlog⟩ := ih (n + 1)
    obtain ⟨hfinal, hlog⟩ := hitem n v
    refine ⟨?_, SameBy.append hlog hrestlog⟩
    rw [List.map_cons, atItems, Descent.items, finalItems, hrest, ← hfinal]
    split <;> simp_all

/-- The rules that go on with the wildcard below a place. -/
def wildcardRules (table : RuleTable) (place : Place) : List Rule :=
  (table.below place.path).filter fun r => r.path[place.length]? == some .wildcard

theorem wildcardRules_eq (ht : table.Compiled) (place : Place) (i : Nat) :
    wildcardRules table place = (table.ruleAt (place ++ [Step.index i]).path).toList ++
      table.below (place ++ [Step.index i]).path := by
  rw [Place.path_index, ← ht.below_filter, place.length_path, wildcardRules]

theorem prefix_path_index (ht : table.Compiled) {place : Place} {r : Rule}
    (h : r ∈ wildcardRules table place) (i : Nat) :
    Place.path (place ++ [Step.index i]) <+: r.path := by
  rw [wildcardRules_eq ht place i] at h
  rcases List.mem_append.mp h with h | h
  · obtain ⟨-, hpath⟩ := RuleTable.ruleAt_eq_some (Option.mem_toList.mp h)
    exact hpath ▸ List.prefix_refl _
  · exact (RuleTable.mem_below.mp h).2.1

theorem wildcardRules_eq_nil {place : Place} (h : table.itemsBelow place.path = false) :
    wildcardRules table place = [] := by
  rw [RuleTable.itemsBelow, List.any_eq_false, place.length_path] at h
  exact List.filter_eq_nil_iff.mpr h

/-- In a list the rules that go on with the wildcard do something, each at all elements. -/
theorem chain_list (place : Place) (xs : List (Bool × Draft)) :
    chain ((table.below place.path).map fun r => visitFrom table judge r place) (list xs) =
      let w := chain ((wildcardRules table place).map fun r =>
        atItems (fun i => itemAt table judge r (place ++ [Step.index i])) 0) xs
      (list w.1, w.2) := by
  let step : Rule → List (Bool × Draft) → List (Bool × Draft) × List Visit := fun r xs =>
    if r.path[place.length]? == some .wildcard then
      atItems (fun i => itemAt table judge r (place ++ [Step.index i])) 0 xs
    else (xs, [])
  have hstep : ∀ r ∈ table.below place.path, ∀ xs, visitFrom table judge r place (list xs) =
      (list (step r xs).1, (step r xs).2) := by
    intro r hr xs
    obtain ⟨-, -, hlt⟩ := RuleTable.mem_below.mp hr
    rw [place.length_path] at hlt
    cases hseg : r.path[place.length]? with
    | none =>
      rw [List.getElem?_eq_none_iff] at hseg
      omega
    | some segment =>
      cases segment with
      | name s =>
        rw [visitFrom_list_name hseg]
        simp [step, hseg]
      | wildcard =>
        rw [visitFrom_list hseg]
        simp [step, hseg]
  have hrules : (wildcardRules table place).map step = (wildcardRules table place).map fun r =>
      atItems (fun i => itemAt table judge r (place ++ [Step.index i])) 0 := by
    refine List.map_congr_left fun r hr => ?_
    funext xs
    simp only [step, if_pos (List.mem_filter.mp hr).2]
  rw [chain_map list hstep,
    chain_filter (fun r : Rule => r.path[place.length]? == some .wildcard), ← hrules]
  · rfl
  · intro r _ hr xs
    simp only [step, hr, Bool.false_eq_true, if_false]

/-- The rules below a place do to the elements of a list what `Descent.items` does. -/
theorem list_settles (ht : table.Compiled) (place : Place)
    (hsettles : ∀ i v, Settles table judge (place ++ [Step.index i]) v) (vs : List Value) :
    let w := chain ((table.below place.path).map fun r => visitFrom table judge r place)
      (list (vs.map fun v => (true, leaf v)))
    let settled := Descent.items (Descent.settleItem table judge true place) 0 vs
    ∃ xs, w.1 = list xs ∧ finalItems xs = settled.1 ∧ SameBy label w.2 settled.2 := by
  intro w settled
  obtain ⟨hxs, hlog⟩ := chain_atItems label (·.path)
    (fun r i => itemAt table judge r (place ++ [Step.index i])) (vs.map fun v => (true, leaf v)) 0
    (L := wildcardRules table place) (fun r hr i x => itemAt_label (prefix_path_index ht hr i) x)
    (List.Nodup.sublist ((List.filter_sublist.trans List.filter_sublist).map _) ht.distinct_byDepth)
  obtain ⟨hfinal, hsame⟩ := atItems_settles
    (g := fun i => chain ((wildcardRules table place).map fun r =>
      itemAt table judge r (place ++ [Step.index i])))
    (fun i v => by
      rw [wildcardRules_eq ht place i]
      exact item_settles (hsettles i) v) vs 0
  rw [show w = _ from chain_list place _]
  exact ⟨_, rfl, by rw [hxs]; exact hfinal, SameBy.trans hlog hsame⟩

/-! ## All rules below a place -/

/-- Where no rule goes further, a value stays as it is. -/
theorem settles_of_below_eq_nil {place : Place} (h : table.below place.path = []) (v : Value) :
    Settles table judge place v := by
  rw [Settles, h, Descent.settle_nil h]
  exact ⟨rfl, SameBy.refl []⟩

section Below

variable {place : Place}

/-- A value is settled if the entries of a mapping and the elements of a list are. -/
theorem settles_of_parts (ht : table.Compiled)
    (hkeys : ∀ s v, Settles table judge (place ++ [Step.key s]) v)
    (hmade : ∀ s, table.below (Place.path (place ++ [Step.key s])) ≠ [] →
      SettlesMade table judge (place ++ [Step.key s]))
    (hitems : ∀ i v, Settles table judge (place ++ [Step.index i]) v) (v : Value) :
    Settles table judge place v := by
  by_cases hbelow : table.below place.path = []
  · exact settles_of_below_eq_nil hbelow v
  rw [Settles, chain_enter (fun r d => isOpened_visitFrom r place) hbelow]
  cases hentries : v.entries? with
  | some es =>
    obtain ⟨ordered, rfl⟩ := Value.eq_dict_of_entries? hentries
    obtain ⟨ds, hds, hfinal, hlog⟩ := dict_settles ht place hkeys hmade false es
    rw [Descent.settle_dict hbelow]
    refine ⟨(congrArg final? hds).trans ?_, hlog⟩
    rw [final?_dict_false, hfinal]
  | none =>
    cases hxs : v.items? with
    | some xs =>
      obtain ⟨ds, hds, hfinal, hlog⟩ := list_settles ht place hitems xs
      rw [opened_of_items? hxs, Descent.settle_items hbelow hxs]
      cases hwild : table.itemsBelow place.path with
      | true =>
        refine ⟨(congrArg final? hds).trans ?_, hlog⟩
        rw [final?, hfinal]
        rfl
      | false =>
        have hnone := @chain_list table judge place (xs.map fun v => (true, leaf v))
        rw [wildcardRules_eq_nil hwild] at hnone
        rw [if_pos (show (list _).isOpened = true from rfl), hnone]
        refine ⟨?_, SameBy.refl []⟩
        rw [List.map_nil, chain, final?, finalItems_map_leaf]
        rfl
    | none =>
      rw [opened_of_scalar hentries hxs, Descent.settle_scalar hentries hxs]
      exact ⟨rfl, SameBy.refl []⟩

/-- A mapping that is made is settled like an empty one that was given, and is gone if it stays
empty. -/
theorem settlesMade_of_parts (ht : table.Compiled)
    (hkeys : ∀ s v, Settles table judge (place ++ [Step.key s]) v)
    (hmade : ∀ s, table.below (Place.path (place ++ [Step.key s])) ≠ [] →
      SettlesMade table judge (place ++ [Step.key s]))
    (hbelow : table.below place.path ≠ []) : SettlesMade table judge place := by
  obtain ⟨ds, hds, hfinal, hlog⟩ := dict_settles ht place hkeys hmade true []
  rw [SettlesMade, Descent.settle_dict hbelow]
  refine ⟨(congrArg final? hds).trans ?_, hlog⟩
  rw [final?_dict, hfinal]
  dsimp only
  generalize (Descent.entries (Descent.settleKey table judge true place)
    (table.namesBelow place.path) []).1 = es
  cases es <;> rfl

end Below

/-- A value that the rules below a place have gone through is settled, and so is a mapping that was
made there. -/
theorem settles_and_made (ht : table.Compiled) (n : Nat) :
    ∀ place : Place, table.height - place.length ≤ n →
      (∀ v, Settles table judge place v) ∧
        (table.below place.path ≠ [] → SettlesMade table judge place) := by
  -- by induction on how much deeper rules can go; both halves at once, since a mapping that is made
  -- is settled like one that was given
  induction n with
  | zero =>
    intro place hn
    have hnil : table.below place.path = [] := by
      by_contra hbelow
      have hlt := RuleTable.length_lt_height hbelow
      rw [place.length_path] at hlt
      omega
    exact ⟨settles_of_below_eq_nil hnil, fun h => absurd hnil h⟩
  | succ n ih =>
    intro place hn
    have hstep : ∀ step, (∀ v, Settles table judge (place ++ [step]) v) ∧
        (table.below (Place.path (place ++ [step])) ≠ [] →
          SettlesMade table judge (place ++ [step])) := by
      intro step
      refine ih _ ?_
      rw [List.length_append, List.length_singleton]
      omega
    have hkeys := fun s => (hstep (.key s)).1
    have hmade := fun s => (hstep (.key s)).2
    exact ⟨settles_of_parts ht hkeys hmade fun i => (hstep (.index i)).1,
      settlesMade_of_parts ht hkeys hmade⟩

/-- All rules of a table, parents first, do to a mapping what settling it does, and the visits come
in the order of the rules. -/
theorem settles (ht : table.Compiled) (es : Entries Value) :
    let w := chain (table.byDepth.map fun r => visit table judge r r.path [])
      (dict false (Entries.mapValues leaf es))
    let settled := Descent.settle table judge true [] (.dict false es)
    final? w.1 = some settled.1 ∧ w.2 = Descent.inOrder table settled.2 := by
  intro w settled
  have hbelow : table.below (Place.path []) = table.byDepth := by
    refine List.filter_eq_self.mpr fun r hr => ?_
    obtain ⟨s, rest, hpath⟩ := ht.rooted r (RuleTable.mem_byDepth.mp hr)
    simp [hpath, Place.path]
  have hvisits : final? w.1 = some settled.1 ∧ SameBy label w.2 settled.2 := by
    have h := (@settles_and_made table judge ht _ [] (Nat.le_refl _)).1 (.dict false es)
    rw [Settles, hbelow] at h
    by_cases hnil : table.byDepth = []
    · rw [hnil] at h
      have hw : w = (dict false (Entries.mapValues leaf es), []) := by
        simp only [w, hnil, List.map_nil, chain]
      rw [hw, final?_dict_false, filterValues_mapValues_leaf]
      exact h
    · rw [chain_enter (fun r d => isOpened_visitFrom r []) hnil] at h
      exact h
  refine ⟨hvisits.1, ?_⟩
  have hlog := chain_log label Rule.path (f := fun r => visit table judge r r.path [])
    (L := table.byDepth) (fun r _ d v hv => (visit_path table judge r r.path [] d v hv).2)
    ht.distinct_byDepth (dict false (Entries.mapValues leaf es))
  refine hlog.trans ?_
  rw [Descent.inOrder]
  refine List.flatMap_congr fun r _ => ?_
  rw [show List.filter _ _ = _ from hvisits.2 r.path]
  refine List.filter_congr fun v _ => Bool.eq_iff_iff.mpr ?_
  rw [decide_eq_true_iff, beq_iff_eq]
  rfl

end Draft

end ArgumentSchema
