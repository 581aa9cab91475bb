import ArgumentSchema.Proofs.Idempotence

/-!
# Missing keys, written out

A mapping says that a key is missing by not having it, or by holding the marker for a missing value
under it. `Value.stripped` takes the markers out of a value, at the keys that the rules of a table are
about, and leaves everything else as it is:

> `Value.find?_strippedEntries`: what a stripped mapping holds under a key.
> `Value.filter_strippedEntries`: a stripped mapping keeps all other entries.
> `Value.matchType_stripped`: a stripped value is of the types that it was of.
> `Value.unmarked_dict_iff`, `Value.unmarked_items_iff`: where the marker stands in a value, one step
> after the other.
-/

namespace ArgumentSchema

namespace RuleTable

/-- Whether a path is that of a rule, or a beginning of it. -/
def mentions (t : RuleTable) (path : List Segment) : Bool :=
  t.ruleList.any fun r => path.isPrefixOf r.path

/-- Whether a value at a path is the marker for a missing value, where the rules of a table are about the
path. -/
def strips (t : RuleTable) (path : List Segment) (v : Value) : Bool := v.isAbsent && t.mentions path

/-- A path on the way to a rule that has no rule of its own. -/
def Unruled (t : RuleTable) (path : List Segment) : Prop :=
  t.mentions path = true ∧ t.hasPath path = false

variable {t : RuleTable} {path : List Segment}

theorem mentions_iff : t.mentions path = true ↔ ∃ r ∈ t.ruleList, path <+: r.path := by
  simp [mentions]

theorem mentions_name_eq_false_iff {s : String} :
    t.mentions (path ++ [.name s]) = false ↔ s ∉ t.namesBelow path := by
  rw [Bool.eq_false_iff, ne_eq, mentions_iff, mem_namesBelow]

theorem mentions_wildcard_eq_false_iff :
    t.mentions (path ++ [.wildcard]) = false ↔ ¬ t.itemsBelow path = true := by
  rw [Bool.eq_false_iff, ne_eq, mentions_iff, itemsBelow_iff]

/-- Where a path is not mentioned, none that goes on from it is. -/
theorem mentions_of_append {rest : List Segment} (h : t.mentions (path ++ rest) = true) :
    t.mentions path = true := by
  obtain ⟨r, hr, hprefix⟩ := mentions_iff.mp h
  exact mentions_iff.mpr ⟨r, hr, (List.prefix_append ..).trans hprefix⟩

theorem not_mentions_of_below (h : t.below path = []) (segment : Segment) :
    t.mentions (path ++ [segment]) = false := by
  rw [Bool.eq_false_iff]
  intro hmentions
  obtain ⟨r, hr, hprefix⟩ := mentions_iff.mp hmentions
  exact below_ne_nil hr hprefix h

theorem not_strips (h : t.mentions path = false) (v : Value) : t.strips path v = false := by
  rw [strips, h, Bool.and_false]

theorem not_mentions_beyond (h : t.mentions path = false) (segment : Segment) :
    t.mentions (path ++ [segment]) = false :=
  Bool.eq_false_iff.mpr fun hmentions => Bool.eq_false_iff.mp h (mentions_of_append hmentions)

end RuleTable

namespace Value

mutual

/-- A value without the entries that hold the marker for a missing value under a key that the rules of
a table are about. The value stands at the given path. -/
def stripped (t : RuleTable) (path : List Segment) : Value → Value
  | dict ordered es => dict ordered (strippedEntries t path es)
  | list xs => list (strippedItems t (path ++ [.wildcard]) xs)
  | tuple xs => tuple (strippedItems t (path ++ [.wildcard]) xs)
  | v => v

/-- The entries of a stripped mapping. -/
def strippedEntries (t : RuleTable) (path : List Segment) :
    List (Value × Value) → List (Value × Value)
  | [] => []
  | (str s, v) :: es =>
    if t.strips (path ++ [.name s]) v then strippedEntries t path es
    else (str s, stripped t (path ++ [.name s]) v) :: strippedEntries t path es
  | e :: es => e :: strippedEntries t path es

/-- The elements of a stripped list or tuple, which all stand at one path. -/
def strippedItems (t : RuleTable) (path : List Segment) : List Value → List Value
  | [] => []
  | x :: xs => stripped t path x :: strippedItems t path xs

end

/-- What holds of every value without parts, and of a container if it holds of the values in it, holds
of all values. -/
theorem container_induction {motive : Value → Prop}
    (scalar : ∀ v : Value, v.entries? = none → v.items? = none → motive v)
    (items : ∀ (v : Value) (xs : List Value), v.items? = some xs → (∀ x ∈ xs, motive x) → motive v)
    (dict : ∀ (ordered : Bool) (es : Entries Value), (∀ e ∈ es, motive e.2) →
      motive (.dict ordered es)) : ∀ v, motive v := by
  intro v
  cases hentries : v.entries? with
  | some es =>
    obtain ⟨ordered, rfl⟩ := eq_dict_of_entries? hentries
    refine dict ordered es fun e he => ?_
    have hsmaller : sizeOf e.2 < sizeOf (Value.dict ordered es) := by
      have hentry := List.sizeOf_lt_of_mem he
      obtain ⟨k, w⟩ := e
      simp only [Prod.mk.sizeOf_spec, Value.dict.sizeOf_spec] at hentry ⊢
      omega
    exact container_induction scalar items dict e.2
  | none =>
    cases hitems : v.items? with
    | some xs =>
      refine items v xs hitems fun x hx => ?_
      have hsmaller : sizeOf x < sizeOf v := by
        have hitem := List.sizeOf_lt_of_mem hx
        cases v <;> cases hitems <;> simp only [list.sizeOf_spec, tuple.sizeOf_spec] <;> omega
      exact container_induction scalar items dict x
    | none => exact scalar v hentries hitems
termination_by v => sizeOf v

/-- A value in which every mapping holds each text once. -/
inductive KeysOnce : Value → Prop where
  | scalar {v : Value} : v.entries? = none → v.items? = none → KeysOnce v
  | items {v : Value} {xs : List Value} : v.items? = some xs → (∀ x ∈ xs, KeysOnce x) → KeysOnce v
  | dict {ordered : Bool} {es : Entries Value} : (∀ s, Entries.Once s es) →
      (∀ e ∈ es, KeysOnce e.2) → KeysOnce (.dict ordered es)

/-- A value that holds the marker for a missing value under no key of a bad path, in mappings at any
depth. The value stands at the given path. -/
def Unmarked (bad : List Segment → Prop) (path : List Segment) (v : Value) : Prop :=
  ∀ (place : Place) (s : String), bad (path ++ Place.path (place ++ [.key s])) →
    v.at? (place ++ [.key s]) ≠ some .absent

/-! ## What stripping changes -/

section Stripped

variable {t : RuleTable} {path : List Segment}

theorem strippedItems_eq_map (path : List Segment) (xs : List Value) :
    strippedItems t path xs = xs.map (stripped t path) := by
  induction xs with
  | nil => rw [strippedItems, List.map_nil]
  | cons x xs ih => rw [strippedItems, ih, List.map_cons]

theorem stripped_items {v : Value} {xs : List Value} (h : v.items? = some xs) :
    (stripped t path v).items? = some (xs.map (stripped t (path ++ [.wildcard]))) := by
  cases v <;> cases h <;> rw [stripped, items?, strippedItems_eq_map]

theorem stripped_scalar {v : Value} (hentries : v.entries? = none) (hitems : v.items? = none) :
    stripped t path v = v := by
  cases v with
  | dict ordered es => cases hentries
  | list xs => cases hitems
  | tuple xs => cases hitems
  | _ => simp only [stripped]

theorem strippedEntries_cons_other {k : Value} (hk : ∀ s, k ≠ .str s) (v : Value)
    (es : Entries Value) :
    strippedEntries t path ((k, v) :: es) = (k, v) :: strippedEntries t path es := by
  cases k with
  | str s => exact absurd rfl (hk s)
  | _ => simp only [strippedEntries]

/-- An entry with a marker under a key that a rule is about is the only one that is left out. -/
theorem strippedEntries_cons_str (s : String) (v : Value) (es : Entries Value) :
    strippedEntries t path ((.str s, v) :: es) =
      if t.strips (path ++ [.name s]) v then strippedEntries t path es
      else (.str s, stripped t (path ++ [.name s]) v) :: strippedEntries t path es := by
  rw [strippedEntries]

/-- Where no rules are below, nothing is stripped. -/
theorem stripped_eq_self {v : Value} : ∀ {path : List Segment},
    (∀ segment, t.mentions (path ++ [segment]) = false) → stripped t path v = v := by
  induction v using container_induction with
  | scalar v hentries hitems => exact fun _ => stripped_scalar hentries hitems
  | items v xs hitems ih =>
    intro path h
    have hself : strippedItems t (path ++ [.wildcard]) xs = xs := by
      rw [strippedItems_eq_map]
      refine (List.map_congr_left fun x hx => ?_).trans (List.map_id xs)
      exact ih x hx (RuleTable.not_mentions_beyond (h _))
    cases v <;> cases hitems <;> rw [stripped, hself]
  | dict ordered es ih =>
    intro path h
    have hself : strippedEntries t path es = es := by
      induction es with
      | nil => rw [strippedEntries]
      | cons e es ih' =>
        obtain ⟨k, v⟩ := e
        obtain ⟨hv, hes⟩ := List.forall_mem_cons.mp ih
        by_cases hk : ∃ s, k = .str s
        · obtain ⟨s, rfl⟩ := hk
          rw [strippedEntries_cons_str, RuleTable.not_strips (h _), if_neg Bool.false_ne_true, ih' hes,
            hv (RuleTable.not_mentions_beyond (h _))]
        · rw [strippedEntries_cons_other (fun s hs => hk ⟨s, hs⟩), ih' hes]
    rw [stripped, hself]

/-- What a stripped mapping holds under a key: nothing where a marker stood that a rule is about. -/
theorem find?_strippedEntries {es : Entries Value} {s : String} (hes : Entries.Once s es) :
    Entries.find? (.str s) (strippedEntries t path es) =
      (Entries.find? (.str s) es).bind fun v =>
        if t.strips (path ++ [.name s]) v then none
        else some (stripped t (path ++ [.name s]) v) := by
  induction es with
  | nil => rw [strippedEntries]; rfl
  | cons e es ih =>
    obtain ⟨k, v⟩ := e
    obtain ⟨hother, honce⟩ := List.pairwise_cons.mp hes
    by_cases hk : k = .str s
    · subst hk
      -- the key stands in no other entry
      have hnone : Entries.find? (.str s) (strippedEntries t path es) = none := by
        rw [ih honce, Entries.find?_eq_none_of_key_ne fun e he => hother e he rfl]
        rfl
      rw [strippedEntries_cons_str, Entries.find?_cons_self]
      rw [Option.bind_some]
      split
      · exact hnone
      · rw [Entries.find?_cons_self]
    · rw [Entries.find?_cons_ne hk, ← ih honce]
      by_cases hstr : ∃ s', k = .str s'
      · obtain ⟨s', rfl⟩ := hstr
        rw [strippedEntries_cons_str]
        split
        · rfl
        · rw [Entries.find?_cons_ne hk]
      · rw [strippedEntries_cons_other fun s' hs' => hstr ⟨s', hs'⟩, Entries.find?_cons_ne hk]

/-- A stripped mapping keeps all entries under keys that no rule is about. -/
theorem filter_strippedEntries {keeps : Value → Bool}
    (hkeeps : ∀ s, keeps (.str s) = true → t.mentions (path ++ [.name s]) = false)
    (es : Entries Value) :
    (strippedEntries t path es).filter (fun e => keeps e.1) = es.filter fun e => keeps e.1 := by
  induction es with
  | nil => rw [strippedEntries]
  | cons e es ih =>
    obtain ⟨k, v⟩ := e
    by_cases hk : ∃ s, k = .str s
    · obtain ⟨s, rfl⟩ := hk
      rw [strippedEntries_cons_str]
      cases hkept : keeps (.str s) with
      | true =>
        have hfree := hkeeps s hkept
        rw [RuleTable.not_strips hfree, if_neg Bool.false_ne_true,
          stripped_eq_self (RuleTable.not_mentions_beyond hfree),
          List.filter_cons_of_pos (by simpa using hkept),
          List.filter_cons_of_pos (by simpa using hkept), ih]
      | false =>
        rw [List.filter_cons_of_neg (by simpa using hkept), ← ih]
        split
        · rfl
        · rw [List.filter_cons_of_neg (by simpa using hkept)]
    · rw [strippedEntries_cons_other (fun s hs => hk ⟨s, hs⟩), List.filter_cons, List.filter_cons, ih]

theorem keys_strippedEntries (es : Entries Value) :
    ((strippedEntries t path es).map Prod.fst).Sublist (es.map Prod.fst) := by
  induction es with
  | nil =>
    rw [strippedEntries]
  | cons e es ih =>
    obtain ⟨k, v⟩ := e
    by_cases hk : ∃ s, k = .str s
    · obtain ⟨s, rfl⟩ := hk
      rw [strippedEntries_cons_str]
      split
      · exact ih.cons _
      · exact ih.cons_cons _
    · rw [strippedEntries_cons_other fun s hs => hk ⟨s, hs⟩]
      exact ih.cons_cons _

/-- A stripped mapping holds no text twice that the mapping did not. -/
theorem once_strippedEntries {es : Entries Value} {s : String} (h : Entries.Once s es) :
    Entries.Once s (strippedEntries t path es) := by
  have hkeys : (es.map Prod.fst).Pairwise fun a b => a = .str s → b ≠ .str s :=
    List.pairwise_map.mpr h
  exact List.pairwise_map.mp (hkeys.sublist (keys_strippedEntries es))

/-! ## The types of stripped values -/

theorem stripped_alike (v : Value) : v.Alike (stripped t path v) := by
  cases hentries : v.entries? with
  | some es =>
    obtain ⟨ordered, rfl⟩ := eq_dict_of_entries? hentries
    rw [stripped]
    exact Or.inr (Or.inl ⟨rfl, rfl⟩)
  | none =>
    cases hitems : v.items? with
    | some xs => exact Or.inr (Or.inr ⟨by rw [hitems]; rfl, by rw [stripped_items hitems]; rfl⟩)
    | none => exact Or.inl (stripped_scalar hentries hitems).symm

theorem classOf_stripped (v : Value) : (stripped t path v).classOf = v.classOf := by
  cases v with
  | dict ordered es => cases ordered <;> simp only [stripped, classOf]
  | _ => simp only [stripped, classOf]

/-- A stripped value is of the types that it was of, also of those that are the names of classes. -/
theorem isOfType_stripped (v : Value) (name : String) :
    Registry.default.isOfType (stripped t path v) name = Registry.default.isOfType v name := by
  unfold Registry.isOfType
  cases hp : Registry.default.predicate? name with
  | some p => exact ((stripped_alike v).accepts_eq p (List.mem_of_find?_eq_some hp)).symm
  | none => rw [classOf_stripped]

theorem matchType_stripped (c : Contract) (v : Value) :
    (Field.matchType Registry.default c (stripped t path v)).isSome =
      (Field.matchType Registry.default c v).isSome := by
  unfold Field.matchType
  rw [← (stripped_alike v).isAbsent_eq, funext (isOfType_stripped v)]
  split
  · cases v.isAbsent <;> rfl
  · rfl

end Stripped

/-! ## Where the marker stands -/

section Unmarked

variable {bad : List Segment → Prop} {path : List Segment}

/-- Where no path further on is bad, there are no markers to be found. -/
theorem unmarked_of_not_bad (h : ∀ segment rest, ¬ bad (path ++ segment :: rest)) (v : Value) :
    v.Unmarked bad path := by
  intro place s hbad
  rw [Place.path_key] at hbad
  cases hpath : Place.path place ++ [Segment.name s] with
  | nil => simp at hpath
  | cons segment rest => exact absurd (hpath ▸ hbad) (h segment rest)

/-- Where only paths that rules are about are bad, there are none without rules below. -/
theorem unmarked_of_not_mentions {t : RuleTable} (hbad : ∀ path, bad path → t.mentions path = true)
    (h : ∀ segment, t.mentions (path ++ [segment]) = false) (v : Value) : v.Unmarked bad path := by
  refine unmarked_of_not_bad (fun segment rest hpath => ?_) v
  rw [List.append_cons] at hpath
  exact Bool.eq_false_iff.mp (h segment) (RuleTable.mentions_of_append (hbad _ hpath))

/-- Under a name with no rules below there is no marker that counts, and none in what stands there. -/
theorem unmarked_unnamed {t : RuleTable} (hbad : ∀ path, bad path → t.mentions path = true)
    {s : String} (hs : s ∉ t.namesBelow path) (v : Value) :
    (bad (path ++ [.name s]) → v ≠ .absent) ∧ v.Unmarked bad (path ++ [.name s]) := by
  have hfalse := RuleTable.mentions_name_eq_false_iff.mpr hs
  refine ⟨fun hpath => ?_, ?_⟩
  · exact absurd (hbad _ hpath) (Bool.eq_false_iff.mp hfalse)
  · exact unmarked_of_not_mentions hbad (RuleTable.not_mentions_beyond hfalse) v

theorem unmarked_scalar {v : Value} (hentries : v.entries? = none) (hitems : v.items? = none) :
    v.Unmarked bad path := by
  have hnone : ∀ step, v.child? step = none := by
    intro step
    cases step with
    | key s => rw [child?, hentries]; rfl
    | index i => rw [child?, hitems]; rfl
  intro place s _ hat
  cases place with
  | nil =>
    rw [List.nil_append, at?, hnone] at hat
    cases hat
  | cons step place =>
    rw [List.cons_append, at?, hnone] at hat
    cases hat

/-- Where the marker stands in a mapping: under one of its keys, or deeper. -/
theorem unmarked_dict_iff {ordered : Bool} {es : Entries Value} :
    (dict ordered es).Unmarked bad path ↔ ∀ s w, Entries.find? (.str s) es = some w →
      (bad (path ++ [.name s]) → w ≠ .absent) ∧ w.Unmarked bad (path ++ [.name s]) := by
  have hchild : ∀ s, (dict ordered es).child? (.key s) = Entries.find? (.str s) es := fun s => rfl
  constructor
  · intro h s w hw
    refine ⟨fun hbad hw' => ?_, fun place s' hbad hat => ?_⟩
    · refine h [] s hbad ?_
      rw [List.nil_append, at?, hchild, hw, hw']
      rfl
    · refine h (.key s :: place) s' ?_ ?_
      · rw [List.append_assoc] at hbad
        exact hbad
      · rw [List.cons_append, at?, hchild, hw]
        exact hat
  · intro h place s hbad hat
    cases place with
    | nil =>
      rw [List.nil_append, at?, hchild] at hat
      obtain ⟨w, hw, hw'⟩ := Option.bind_eq_some_iff.mp hat
      exact (h s w hw).1 hbad (Option.some.inj hw')
    | cons step place =>
      rw [List.cons_append, at?] at hat
      obtain ⟨w, hw, hat'⟩ := Option.bind_eq_some_iff.mp hat
      cases step with
      | index i => cases hw
      | key s' =>
        refine (h s' w hw).2 place s ?_ hat'
        rw [List.append_assoc]
        exact hbad

/-- Where the marker stands in a list or tuple: inside one of its elements. -/
theorem unmarked_items_iff {v : Value} {xs : List Value} (hxs : v.items? = some xs) :
    v.Unmarked bad path ↔ ∀ w ∈ xs, w.Unmarked bad (path ++ [.wildcard]) := by
  have hentries : v.entries? = none := by cases v <;> first | rfl | cases hxs
  have hindex : ∀ i, v.child? (.index i) = xs[i]? := fun i => by rw [child?, hxs]; rfl
  have hkey : ∀ s, v.child? (.key s) = none := fun s => by rw [child?, hentries]; rfl
  constructor
  · intro h w hw place s hbad hat
    obtain ⟨i, hi⟩ := List.getElem?_of_mem hw
    refine h (.index i :: place) s ?_ ?_
    · rw [List.append_assoc] at hbad
      exact hbad
    · rw [List.cons_append, at?, hindex, hi]
      exact hat
  · intro h place s hbad hat
    cases place with
    | nil =>
      rw [List.nil_append, at?, hkey] at hat
      cases hat
    | cons step place =>
      rw [List.cons_append, at?] at hat
      obtain ⟨w, hw, hat'⟩ := Option.bind_eq_some_iff.mp hat
      cases step with
      | key s' =>
        rw [hkey] at hw
        cases hw
      | index i =>
        rw [hindex] at hw
        refine h w (List.mem_of_getElem? hw) place s ?_ hat'
        rw [List.append_assoc]
        exact hbad

end Unmarked

end Value

end ArgumentSchema
