import ArgumentSchema.Proofs.Keys
import Mathlib.Data.List.Forall2

/-!
# Schemas, entry by entry

Each entry of a schema is read on its own, and what was read is stored rule by rule. So a change of
a schema that keeps to its entries is a change of its table:

> `RuleTable.compile_eq_ok_iff`: a schema compiles exactly if each of its entries can be read, and
> its table is what was read, gathered under the keys.
> `RuleTable.compile_eq_error_iff`: a schema that does not compile is turned down with the error of
> the first entry that cannot be read.
> `RuleTable.gathered_filter`, `RuleTable.gathered_map`: leaving out keys, and changing rules one by
> one, can be done before or after.
> `RuleTable.fragments_onFragments`: the fragments of a schema that is changed fragment by fragment.
-/

namespace ArgumentSchema

/-- A path that was read from a text is written as this text. -/
theorem Path.write_of_split? {o : PathOptions} {raw : String} {path : List Segment}
    (h : Path.split? o raw = .ok path) : Path.write o path = raw := by
  have hpiece : ∀ cs : List Char, writePiece o (.segment (readSegment o cs)) = cs := by
    intro cs
    unfold readSegment
    split
    · next hcs => exact hcs.symm
    · exact String.toList_ofList
  have hpieces : ((Text.splitOn o.separator.toList raw.toList).map (readSegment o)).map
      (fun s => writePiece o (.segment s)) = Text.splitOn o.separator.toList raw.toList := by
    rw [List.map_map]
    exact (List.map_congr_left fun cs _ => hpiece cs).trans (List.map_id _)
  rw [Path.split?_eq_ok h, write, writePieces, List.map_map]
  exact (congrArg (fun ps => String.ofList (Text.join _ ps)) hpieces).trans
    ((congrArg String.ofList (Text.join_splitOn _ _)).trans String.ofList_toList)

namespace RuleTable

variable {registry : Registry} {o : PathOptions}

/-! ## Reading -/

/-- What an entry of a schema is read as: its key, and the rule of the path that the key writes. -/
structure Reads (registry : Registry) (o : PathOptions) (e : Value × Value) (read : String × Rule) :
    Prop where
  key : e.1 = .str read.1
  path : Path.split? o read.1 = .ok read.2.path
  contract : Pattern.read registry e.2 = .ok read.2.toContract

theorem readEntry_eq_ok_iff {raw spec : Value} {read : String × Rule} :
    readEntry registry o raw spec = .ok read ↔ Reads registry o (raw, spec) read := by
  constructor
  · intro h
    unfold readEntry at h
    cases hpath : readPath o raw with
    | error f => rw [hpath] at h; contradiction
    | ok path =>
      rw [hpath] at h
      cases hspec : Pattern.read registry spec with
      | error f => rw [hspec] at h; contradiction
      | ok c =>
        rw [hspec] at h
        cases h
        obtain ⟨text, rfl, hsplit⟩ := readPath_eq_ok_iff.mp hpath
        have hwrite := Path.write_of_split? hsplit
        exact ⟨congrArg Value.str hwrite.symm, by rw [hwrite]; exact hsplit, hspec⟩
  · obtain ⟨key, rule⟩ := read
    rintro ⟨hkey, hpath, hcontract⟩
    dsimp only at hkey hpath hcontract
    subst hkey
    rw [readEntry, readPath, hpath]
    dsimp only
    rw [hcontract]
    have hwrite := Path.write_of_split? hpath
    show Except.ok (Path.write o rule.path, (⟨rule.toContract, rule.path⟩ : Rule)) = _
    rw [hwrite]

/-- What was read, each rule stored under its key. -/
def gathered (read : List (String × Rule)) : List (String × Rule) :=
  read.foldl (fun rules e => insertRule e.1 e.2 rules) []

theorem addEntries_eq_ok_iff {es : Entries Value} {rules rules' : List (String × Rule)} :
    (addEntries registry o rules es).2 = .ok rules' ↔ ∃ read,
      List.Forall₂ (Reads registry o) es read ∧
        rules' = read.foldl (fun rules e => insertRule e.1 e.2 rules) rules := by
  induction es generalizing rules with
  | nil =>
    constructor
    · intro h
      cases h
      exact ⟨[], .nil, rfl⟩
    · rintro ⟨read, hread, rfl⟩
      cases hread
      rfl
  | cons e es ih =>
    obtain ⟨raw, spec⟩ := e
    rw [addEntries]
    cases hentry : readEntry registry o raw spec with
    | error err =>
      constructor
      · intro h
        cases h
      · rintro ⟨read, hread, -⟩
        cases hread with
        | cons hreads _ =>
          rw [readEntry_eq_ok_iff.mpr hreads] at hentry
          cases hentry
    | ok entry =>
      have hreads := readEntry_eq_ok_iff.mp hentry
      dsimp only
      rw [ih]
      constructor
      · rintro ⟨read, hread, rfl⟩
        exact ⟨entry :: read, .cons hreads hread, rfl⟩
      · rintro ⟨read, hread, rfl⟩
        cases hread with
        | cons hreads' hread =>
          -- an entry is read in one way only
          have hsame := hentry.symm.trans (readEntry_eq_ok_iff.mpr hreads')
          obtain rfl := Except.ok.inj hsame
          exact ⟨_, hread, rfl⟩

/-- A schema compiles exactly if each of its entries can be read, and its table is what was read,
gathered under the keys. -/
theorem compile_eq_ok_iff {schema : Value} {t : RuleTable} :
    compile registry o schema = .ok t ↔ ∃ fs read, fragments schema = .ok fs ∧
      List.Forall₂ (Reads registry o) fs.flatten read ∧ t = ⟨o, gathered read⟩ := by
  unfold compile compilation
  cases hfragments : fragments schema with
  | error f =>
    constructor
    · intro h
      cases h
    · rintro ⟨fs, read, hfs, -⟩
      cases hfs
  | ok fs =>
    dsimp only
    constructor
    · intro h
      cases hrules : (addEntries registry o [] fs.flatten).2 with
      | error e =>
        rw [hrules] at h
        cases h
      | ok rules =>
        rw [hrules] at h
        obtain ⟨read, hread, rfl⟩ := addEntries_eq_ok_iff.mp hrules
        exact ⟨fs, read, rfl, hread, (Except.ok.inj h).symm⟩
    · rintro ⟨fs', read, hfs, hread, rfl⟩
      obtain rfl := Except.ok.inj hfs
      rw [addEntries_eq_ok_iff.mpr ⟨read, hread, rfl⟩]
      rfl

/-- Entries are turned down with the error of the first one that cannot be read. -/
theorem addEntries_eq_error_iff {es : Entries Value} {rules : List (String × Rule)}
    {e : CompileError} : (addEntries registry o rules es).2 = .error e ↔
      ∃ pre raw spec post, es = pre ++ (raw, spec) :: post ∧
        (∀ x ∈ pre, ∃ read, Reads registry o x read) ∧ readEntry registry o raw spec = .error e := by
  induction es generalizing rules with
  | nil =>
    refine ⟨fun h => (by cases h), ?_⟩
    rintro ⟨pre, raw, spec, post, h, -⟩
    simp at h
  | cons x es ih =>
    obtain ⟨raw, spec⟩ := x
    rw [addEntries]
    cases hentry : readEntry registry o raw spec with
    | error e' =>
      constructor
      · intro h
        cases h
        exact ⟨[], raw, spec, es, rfl, fun x hx => (by cases hx), hentry⟩
      · rintro ⟨pre, raw', spec', post, hes, hpre, herror⟩
        cases pre with
        | nil =>
          cases hes
          exact congrArg Except.error (Except.error.inj (hentry.symm.trans herror))
        | cons x pre =>
          obtain ⟨rfl, -⟩ := List.cons.inj hes
          obtain ⟨read, hread⟩ := hpre _ (List.mem_cons_self ..)
          rw [readEntry_eq_ok_iff.mpr hread] at hentry
          cases hentry
    | ok entry =>
      dsimp only
      rw [ih]
      constructor
      · rintro ⟨pre, raw', spec', post, rfl, hpre, herror⟩
        exact ⟨(raw, spec) :: pre, raw', spec', post, rfl,
          List.forall_mem_cons.mpr ⟨⟨entry, readEntry_eq_ok_iff.mp hentry⟩, hpre⟩, herror⟩
      · rintro ⟨pre, raw', spec', post, hes, hpre, herror⟩
        cases pre with
        | nil =>
          cases hes
          rw [hentry] at herror
          cases herror
        | cons x pre =>
          obtain ⟨rfl, rfl⟩ := List.cons.inj hes
          exact ⟨pre, raw', spec', post, rfl, fun y hy => hpre y (List.mem_cons_of_mem _ hy), herror⟩

/-- A schema with fragments does not compile exactly if one of its entries cannot be read, and the
error is that of the first such entry. -/
theorem compile_eq_error_iff {schema : Value} {fs : List (Entries Value)} {e : CompileError}
    (hfs : fragments schema = .ok fs) : compile registry o schema = .error e ↔
      ∃ pre raw spec post, fs.flatten = pre ++ (raw, spec) :: post ∧
        (∀ x ∈ pre, ∃ read, Reads registry o x read) ∧ readEntry registry o raw spec = .error e := by
  rw [← @addEntries_eq_error_iff registry o _ [], compile, compilation, hfs]
  dsimp only
  cases (addEntries registry o [] fs.flatten).2 with
  | error e' => exact ⟨fun h => congrArg Except.error (Except.error.inj h), fun h => by rw [h]; rfl⟩
  | ok rules => exact ⟨fun h => (by cases h), fun h => (by cases h)⟩

/-! ## Gathering -/

theorem insertRule_new {key : String} {rule : Rule} {rules : List (String × Rule)}
    (h : key ∉ rules.map (·.1)) : insertRule key rule rules = rules ++ [(key, rule)] := by
  induction rules with
  | nil => rfl
  | cons e rules ih =>
    obtain ⟨k, r⟩ := e
    rw [List.map_cons, List.mem_cons, not_or] at h
    rw [insertRule, if_neg (Ne.symm h.1), ih h.2, List.cons_append]

theorem gathered_concat (read : List (String × Rule)) (e : String × Rule) :
    gathered (read ++ [e]) = insertRule e.1 e.2 (gathered read) := by
  rw [gathered, List.foldl_append]
  rfl

/-- Where no key comes up twice, what was read is kept as it is. -/
theorem gathered_of_nodup {read : List (String × Rule)} (h : (read.map (·.1)).Nodup) :
    gathered read = read := by
  induction read using List.reverseRecOn with
  | nil => rfl
  | append_singleton read e ih =>
    rw [List.map_append, List.nodup_append] at h
    have hnew : e.1 ∉ read.map (·.1) :=
      fun hmem => h.2.2 _ hmem _ (List.mem_singleton_self _) rfl
    rw [gathered_concat, ih h.1, insertRule_new hnew]

theorem mem_of_mem_gathered {read : List (String × Rule)} {e : String × Rule}
    (h : e ∈ gathered read) : e ∈ read := by
  induction read using List.reverseRecOn with
  | nil => exact h
  | append_singleton read x ih =>
    rw [gathered_concat] at h
    rcases mem_insertRule h with rfl | h
    · exact List.mem_append_right _ (List.mem_singleton_self _)
    · exact List.mem_append_left _ (ih h)

theorem insertRule_filter (keeps : String → Bool) (key : String) (rule : Rule)
    (rules : List (String × Rule)) :
    (insertRule key rule rules).filter (fun e => keeps e.1) =
      if keeps key then insertRule key rule (rules.filter fun e => keeps e.1)
      else rules.filter fun e => keeps e.1 := by
  induction rules with
  | nil =>
    cases h : keeps key <;> simp [insertRule, h]
  | cons e rules ih =>
    obtain ⟨k, r⟩ := e
    by_cases hk : k = key
    · subst hk
      cases h : keeps k <;> simp [insertRule, h]
    · rw [insertRule, if_neg hk]
      cases h : keeps k with
      | true =>
        rw [List.filter_cons_of_pos (by simpa using h), List.filter_cons_of_pos (by simpa using h), ih,
          insertRule, if_neg hk]
        split <;> rfl
      | false =>
        rw [List.filter_cons_of_neg (by simpa using h), List.filter_cons_of_neg (by simpa using h), ih]

/-- Keys can be left out before the rules are gathered, or after. -/
theorem gathered_filter (keeps : String → Bool) (read : List (String × Rule)) :
    gathered (read.filter fun e => keeps e.1) = (gathered read).filter fun e => keeps e.1 := by
  induction read using List.reverseRecOn with
  | nil => rfl
  | append_singleton read e ih =>
    rw [gathered_concat, insertRule_filter, ← ih, List.filter_append]
    cases h : keeps e.1 with
    | true =>
      rw [List.filter_cons_of_pos (by simpa using h), List.filter_nil, gathered_concat, if_pos rfl]
    | false =>
      rw [List.filter_cons_of_neg (by simpa using h), List.filter_nil, List.append_nil,
        if_neg Bool.false_ne_true]

theorem insertRule_map (change : Rule → Rule) (key : String) (rule : Rule)
    (rules : List (String × Rule)) :
    (insertRule key rule rules).map (fun e => (e.1, change e.2)) =
      insertRule key (change rule) (rules.map fun e => (e.1, change e.2)) := by
  induction rules with
  | nil => rfl
  | cons e rules ih =>
    obtain ⟨k, r⟩ := e
    by_cases hk : k = key
    · rw [insertRule, if_pos hk, List.map_cons, List.map_cons, insertRule, if_pos hk]
    · rw [insertRule, if_neg hk, List.map_cons, List.map_cons, insertRule, if_neg hk, ih]

/-- Rules can be changed before they are gathered, or after. -/
theorem gathered_map (change : Rule → Rule) (read : List (String × Rule)) :
    gathered (read.map fun e => (e.1, change e.2)) =
      (gathered read).map fun e => (e.1, change e.2) := by
  induction read using List.reverseRecOn with
  | nil => rfl
  | append_singleton read e ih =>
    rw [gathered_concat, insertRule_map, ← ih, List.map_append]
    exact gathered_concat _ _

/-! ## Changed fragments -/

/-- A fragment with its entries changed. -/
def onEntries (change : Entries Value → Entries Value) : Value → Value
  | .dict ordered es => .dict ordered (change es)
  | v => v

/-- A schema with the entries of each of its fragments changed. -/
def onFragments (change : Entries Value → Entries Value) : Value → Value
  | .list items => .list (items.map (onEntries change))
  | .tuple items => .tuple (items.map (onEntries change))
  | v => onEntries change v

/-- A schema is made of fragments if it is one mapping or a row of mappings. -/
inductive MadeOf : Value → List (Entries Value) → Prop where
  | one {ordered : Bool} {es : Entries Value} : MadeOf (.dict ordered es) [es]
  | list {items : List Value} {fs : List (Entries Value)} :
      List.Forall₂ (fun v es => v.entries? = some es) items fs → MadeOf (.list items) fs
  | tuple {items : List Value} {fs : List (Entries Value)} :
      List.Forall₂ (fun v es => v.entries? = some es) items fs → MadeOf (.tuple items) fs

theorem mapM_entries_iff {items : List Value} {fs : List (Entries Value)} :
    items.mapM Value.entries? = some fs ↔
      List.Forall₂ (fun v es => v.entries? = some es) items fs := by
  induction items generalizing fs with
  | nil =>
    rw [List.forall₂_nil_left_iff]
    exact ⟨fun h => (Option.some.inj h).symm, fun h => h ▸ rfl⟩
  | cons v items ih =>
    rw [List.mapM_cons, List.forall₂_cons_left_iff]
    constructor
    · intro h
      obtain ⟨es, hes, h⟩ := Option.bind_eq_some_iff.mp h
      obtain ⟨rest, hrest, h⟩ := Option.bind_eq_some_iff.mp h
      exact ⟨es, rest, hes, ih.mp hrest, (Option.some.inj h).symm⟩
    · rintro ⟨es, rest, hes, hrest, rfl⟩
      rw [hes, ih.mpr hrest]
      rfl

theorem exists_mapM_entries {items : List Value} (h : ∀ v ∈ items, v.entries?.isNone = false) :
    ∃ fs, items.mapM Value.entries? = some fs := by
  induction items with
  | nil => exact ⟨[], rfl⟩
  | cons v items ih =>
    obtain ⟨hv, hitems⟩ := List.forall_mem_cons.mp h
    obtain ⟨rest, hrest⟩ := ih hitems
    obtain ⟨es, hes⟩ := Option.isSome_iff_exists.mp (Option.isNone_eq_false_iff.mp hv)
    exact ⟨es :: rest, by rw [List.mapM_cons, hes, hrest]; rfl⟩

theorem fragments_row_eq_ok_iff {items : List Value} {fs : List (Entries Value)} :
    fragments (.list items) = .ok fs ↔
      List.Forall₂ (fun v es => v.entries? = some es) items fs := by
  rw [← mapM_entries_iff, fragments]
  cases hmapM : items.mapM Value.entries? with
  | some fs' =>
    exact ⟨fun h => congrArg some (Except.ok.inj h), fun h => congrArg Except.ok (Option.some.inj h)⟩
  | none =>
    -- a row with no fragments has the position of a value that is no mapping
    cases hindex : items.findIdx? (·.entries?.isNone) with
    | some i => exact ⟨fun h => (by cases h), fun h => (by cases h)⟩
    | none =>
      obtain ⟨fs', hfs'⟩ := exists_mapM_entries (List.findIdx?_eq_none_iff.mp hindex)
      rw [hmapM] at hfs'
      cases hfs'

/-- The fragments that a schema is made of. -/
theorem fragments_eq_ok_iff {schema : Value} {fs : List (Entries Value)} :
    fragments schema = .ok fs ↔ MadeOf schema fs := by
  constructor
  · intro h
    cases schema with
    | dict ordered es =>
      cases h
      exact .one
    | list items => exact .list (fragments_row_eq_ok_iff.mp h)
    | tuple items => exact .tuple (fragments_row_eq_ok_iff.mp h)
    | _ => cases h
  · intro h
    cases h with
    | one => rfl
    | list h => exact fragments_row_eq_ok_iff.mpr h
    | tuple h => exact fragments_row_eq_ok_iff.mpr h

/-- The fragments of a schema that is changed fragment by fragment are the changed fragments. -/
theorem fragments_onFragments (change : Entries Value → Entries Value) {schema : Value}
    {fs : List (Entries Value)} (h : fragments schema = .ok fs) :
    fragments (onFragments change schema) = .ok (fs.map change) := by
  have hrow : ∀ items : List Value, List.Forall₂ (fun v es => v.entries? = some es) items fs →
      List.Forall₂ (fun v es => v.entries? = some es) (items.map (onEntries change))
        (fs.map change) := by
    intro items hitems
    rw [List.forall₂_map_left_iff, List.forall₂_map_right_iff]
    refine hitems.imp fun v es hes => ?_
    obtain ⟨ordered, rfl⟩ := Value.eq_dict_of_entries? hes
    cases hes
    rfl
  rw [fragments_eq_ok_iff] at h ⊢
  cases h with
  | one => exact .one
  | list h => exact .list (hrow _ h)
  | tuple h => exact .tuple (hrow _ h)

end RuleTable

end ArgumentSchema
