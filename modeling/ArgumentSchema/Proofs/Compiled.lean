import ArgumentSchema.Proofs.Chain
import ArgumentSchema.Proofs.Descent
import ArgumentSchema.Validator
import Mathlib

/-!
# What compilation promises about a table

The rules of a compiled table have different paths (`Compiled.distinct`): a rule is stored under its
written path, so equal paths would have one key. A path starts with a name, and no default is the
marker for a missing value.

> `compile_compiled`: every table that comes out of a compilation is `Compiled`.
> `Compiled.byDepth_filter`: of the rules at or below a path, the rule of the path comes first.
-/

namespace ArgumentSchema

/-- A default that stands for a missing value is never declared. -/
def Contract.Present (c : Contract) : Prop := c.default ≠ some .absent

namespace Contract

theorem present_of_default_eq_none {c : Contract} (h : c.default = none) : c.Present := by
  intro hd
  rw [h] at hd
  cases hd

theorem declaredDefault_ne_absent (v : Value) : declaredDefault v ≠ some .absent := by
  unfold declaredDefault
  cases v <;> simp [Value.isAbsent]

end Contract

theorem Literal.read_ne_absent {cs : List Char} {v : Value} (h : Literal.read cs = .ok v) :
    v ≠ .absent := by
  rintro rfl
  unfold Literal.read Literal.readTrimmed at h
  split at h
  · cases h
  split at h
  · cases h
  split at h
  · cases h
  split at h
  · split at h <;> cases h
  · split at h
    · cases h
    · split at h <;> cases h

/-- A pattern in shorthand gives the types that it names, a default that is a literal, and whether the
field may be left out, and nothing else. -/
theorem Shorthand.exists_of_read {text : String} {c : Contract} (h : Shorthand.read text = .ok c) :
    ∃ types default optional, c = { Contract.ofTypes types with default, optional } ∧
      (∃ body, typeNames body = .ok types) ∧
      ∀ v, default = some v → ∃ literal, Literal.read literal = .ok v := by
  unfold Shorthand.read at h
  simp only [] at h
  split at h
  · split at h
    · contradiction
    · next literal _ _ =>
      cases hv : Literal.read literal with
      | error e => rw [hv] at h; contradiction
      | ok v =>
        rw [hv] at h
        cases ht : typeNames (Text.cutAt '=' text.toList).1 with
        | error f => rw [ht] at h; contradiction
        | ok types =>
          rw [ht] at h
          cases h
          exact ⟨types, some v, false, rfl, ⟨_, ht⟩, fun w hw => ⟨literal, Option.some.inj hw ▸ hv⟩⟩
  · generalize hnames : typeNames _ = result at h
    cases result with
    | error f => contradiction
    | ok types =>
      cases h
      exact ⟨types, none, _, rfl, ⟨_, hnames⟩, fun w hw => by cases hw⟩

theorem Shorthand.read_present {text : String} {c : Contract}
    (h : Shorthand.read text = .ok c) : c.Present := by
  obtain ⟨types, default, optional, rfl, -, hdefault⟩ := exists_of_read h
  intro habsent
  obtain ⟨literal, hliteral⟩ := hdefault _ habsent
  exact Literal.read_ne_absent hliteral rfl

namespace Pattern

theorem simple_present {registry : Registry} {spec : Value} {c : Contract}
    (h : simple registry spec = .ok c) : c.Present := by
  unfold simple at h
  split at h
  · cases h
    exact Contract.present_of_default_eq_none rfl
  · exact Shorthand.read_present h
  · cases h
    exact Contract.present_of_default_eq_none rfl
  · cases h
    exact Contract.present_of_default_eq_none rfl
  · split at h
    · cases h
      exact Contract.present_of_default_eq_none rfl
    · contradiction
  · split at h
    · cases h
      exact Contract.present_of_default_eq_none rfl
    · contradiction
  · contradiction

theorem longhandBase_present {registry : Registry} {es : Entries Value} {c : Contract}
    (h : longhandBase registry es = .ok c) : c.Present := by
  unfold longhandBase at h
  split at h
  · exact simple_present h
  · contradiction
  · exact simple_present h

/-- What the options of a longhand have to be if it is read: its type gives a contract, each callback
is given or not, and the contract is put together from them. -/
theorem exists_of_longhand {registry : Registry} {es : Entries Value} {c : Contract}
    (h : longhand registry es = .ok c) :
    ∃ base validate catch? transform, longhandBase registry es = .ok base ∧
      check? es = .ok validate ∧ callable? es "catch" = .ok catch? ∧
      callable? es "transform" = .ok transform ∧
      c = {
        types := base.types
        validate := validate <|> base.validate
        default := match Value.field? "default" es with
          | some v => Contract.declaredDefault v
          | none => base.default
        optional := match Value.field? "optional" es with
          | some v => v.truth
          | none => base.optional
        catch?
        transform } := by
  unfold longhand at h
  simp only [bind, Except.bind, pure, Except.pure] at h
  split at h
  · contradiction
  · cases hbase : longhandBase registry es with
    | error e => rw [hbase] at h; contradiction
    | ok base =>
      cases hcheck : check? es with
      | error f => rw [hbase, hcheck] at h; contradiction
      | ok validate =>
        cases hcatch : callable? es "catch" with
        | error f => rw [hbase, hcheck, hcatch] at h; contradiction
        | ok recovery =>
          cases htransform : callable? es "transform" with
          | error f => rw [hbase, hcheck, hcatch, htransform] at h; contradiction
          | ok transform =>
            rw [hbase, hcheck, hcatch, htransform] at h
            exact ⟨base, validate, recovery, transform, rfl, rfl, rfl, rfl, (Except.ok.inj h).symm⟩

/-- A longhand without unknown options whose parts can be read is put together from them. -/
theorem longhand_eq_ok {registry : Registry} {es : Entries Value} {base : Contract}
    {validate : Option Check} {catch? transform : Option Value}
    (hknown : (unknownKeys es).isEmpty = true) (hbase : longhandBase registry es = .ok base)
    (hcheck : check? es = .ok validate) (hcatch : callable? es "catch" = .ok catch?)
    (htransform : callable? es "transform" = .ok transform) :
    longhand registry es = .ok {
      types := base.types
      validate := validate <|> base.validate
      default := match Value.field? "default" es with
        | some v => Contract.declaredDefault v
        | none => base.default
      optional := match Value.field? "optional" es with
        | some v => v.truth
        | none => base.optional
      catch?
      transform } := by
  unfold longhand
  dsimp only
  rw [hknown, hbase, hcheck, hcatch, htransform]
  rfl

theorem longhand_present {registry : Registry} {es : Entries Value} {c : Contract}
    (h : longhand registry es = .ok c) : c.Present := by
  obtain ⟨base, validate, recovery, transform, hbase, -, -, -, rfl⟩ := exists_of_longhand h
  unfold Contract.Present
  dsimp only
  split
  · exact Contract.declaredDefault_ne_absent _
  · exact longhandBase_present hbase

theorem read_present {registry : Registry} {spec : Value} {c : Contract}
    (h : read registry spec = .ok c) : c.Present := by
  unfold read at h
  split at h
  · exact longhand_present h
  · exact simple_present h

end Pattern

/-- A written path starts with a name. -/
theorem Path.split?_rooted {o : PathOptions} {raw : String} {path : List Segment}
    (h : Path.split? o raw = .ok path) : ∃ s rest, path = .name s :: rest := by
  unfold Path.split? at h
  simp only [] at h
  split at h
  · contradiction
  · split at h
    · contradiction
    · next hroot =>
      cases h
      cases hparts : Text.splitOn o.separator.toList raw.toList with
      | nil =>
        unfold Text.splitOn at hparts
        split at hparts
        · contradiction
        · exact absurd hparts (Text.splitAux_ne_nil _ _ _ _)
      | cons p ps =>
        rw [hparts] at hroot
        cases hseg : readSegment o p with
        | name s => exact ⟨s, ps.map (readSegment o), by rw [List.map_cons, hseg]⟩
        | wildcard => exact absurd (by rw [List.map_cons, hseg]; rfl) hroot

namespace RuleTable

/-- What holds of every table that comes out of a compilation. -/
structure Compiled (t : RuleTable) : Prop where
  distinct : (t.ruleList.map (·.path)).Nodup
  rooted : ∀ r ∈ t.ruleList, ∃ s rest, r.path = .name s :: rest
  present : ∀ r ∈ t.ruleList, r.Present

/-! ## Compilation -/

/-- Rules stand under their own written paths, each once. -/
structure Kept (o : PathOptions) (rules : List (String × Rule)) : Prop where
  distinct : (rules.map (·.1)).Nodup
  written : ∀ e ∈ rules, e.1 = Path.write o e.2.path
  rooted : ∀ e ∈ rules, ∃ s rest, e.2.path = .name s :: rest
  present : ∀ e ∈ rules, e.2.Present

theorem keys_insertRule (key : String) (rule : Rule) (rules : List (String × Rule)) :
    (insertRule key rule rules).map (·.1) =
      if key ∈ rules.map (·.1) then rules.map (·.1) else rules.map (·.1) ++ [key] := by
  induction rules with
  | nil => rfl
  | cons e rules ih =>
    obtain ⟨k, r⟩ := e
    by_cases hk : k = key
    · simp [insertRule, hk]
    · simp only [insertRule, if_neg hk, List.map_cons, ih, List.mem_cons, Ne.symm hk, false_or]
      split <;> rfl

theorem mem_insertRule {key : String} {rule : Rule} {rules : List (String × Rule)}
    {e : String × Rule} (h : e ∈ insertRule key rule rules) : e = (key, rule) ∨ e ∈ rules := by
  induction rules with
  | nil => exact Or.inl (List.mem_singleton.mp h)
  | cons d rules ih =>
    obtain ⟨k, r⟩ := d
    by_cases hk : k = key
    · rw [insertRule, if_pos hk, hk] at h
      rcases List.mem_cons.mp h with rfl | h
      · exact Or.inl rfl
      · exact Or.inr (List.mem_cons_of_mem _ h)
    · rw [insertRule, if_neg hk] at h
      rcases List.mem_cons.mp h with rfl | h
      · exact Or.inr (List.mem_cons_self ..)
      · exact (ih h).imp_right (List.mem_cons_of_mem _)

theorem Kept.insertRule {o : PathOptions} {rules : List (String × Rule)} (h : Kept o rules)
    {rule : Rule} (hroot : ∃ s rest, rule.path = .name s :: rest) (hpresent : rule.Present) :
    Kept o (insertRule (Path.write o rule.path) rule rules) := by
  refine ⟨?_, ?_, ?_, ?_⟩
  · rw [keys_insertRule]
    split
    · exact h.distinct
    · next hnew => exact List.nodup_append.mpr ⟨h.distinct, by simp, by
        rintro a ha b hb rfl
        exact hnew (List.mem_singleton.mp hb ▸ ha)⟩
  · intro e he
    rcases mem_insertRule he with rfl | he
    · rfl
    · exact h.written e he
  · intro e he
    rcases mem_insertRule he with rfl | he
    · exact hroot
    · exact h.rooted e he
  · intro e he
    rcases mem_insertRule he with rfl | he
    · exact hpresent
    · exact h.present e he

/-- A path is read from a text. -/
theorem readPath_eq_ok_iff {o : PathOptions} {raw : Value} {path : List Segment} :
    readPath o raw = .ok path ↔ ∃ text, raw = .str text ∧ Path.split? o text = .ok path := by
  constructor
  · intro h
    unfold readPath at h
    split at h
    · next text =>
      split at h
      · next hsplit =>
        cases h
        exact ⟨text, rfl, hsplit⟩
      · contradiction
    · contradiction
  · rintro ⟨text, rfl, hsplit⟩
    rw [readPath, hsplit]

/-- What an entry of a schema reads as. -/
theorem readEntry_eq_ok {registry : Registry} {o : PathOptions} {raw spec : Value}
    {e : String × Rule} (h : readEntry registry o raw spec = .ok e) :
    e.1 = Path.write o e.2.path ∧ (∃ s rest, e.2.path = .name s :: rest) ∧ e.2.Present := by
  unfold readEntry at h
  cases hpath : readPath o raw with
  | error f => rw [hpath] at h; contradiction
  | ok path =>
    rw [hpath] at h
    cases hspec : Pattern.read registry spec with
    | error f => rw [hspec] at h; contradiction
    | ok c =>
      rw [hspec] at h
      cases h
      obtain ⟨text, -, hsplit⟩ := readPath_eq_ok_iff.mp hpath
      exact ⟨rfl, Path.split?_rooted hsplit, Pattern.read_present hspec⟩

theorem Kept.addEntries {registry : Registry} {o : PathOptions} {es : Entries Value} :
    ∀ {rules rules' : List (String × Rule)}, Kept o rules →
      (addEntries registry o rules es).2 = .ok rules' → Kept o rules' := by
  induction es with
  | nil =>
    intro rules rules' h hok
    cases hok
    exact h
  | cons e es ih =>
    intro rules rules' h hok
    obtain ⟨raw, spec⟩ := e
    rw [RuleTable.addEntries] at hok
    cases hentry : readEntry registry o raw spec with
    | error e => rw [hentry] at hok; contradiction
    | ok e =>
      obtain ⟨key, rule⟩ := e
      rw [hentry] at hok
      obtain ⟨hkey, hroot, hpresent⟩ := readEntry_eq_ok hentry
      simp only [] at hkey hroot hpresent
      rw [hkey] at hok
      exact ih (h.insertRule hroot hpresent) hok

/-- Every table that comes out of a compilation is compiled. -/
theorem compile_compiled {registry : Registry} {o : PathOptions} {schema : Value} {t : RuleTable}
    (h : compile registry o schema = .ok t) : t.Compiled := by
  unfold compile compilation at h
  split at h
  · contradiction
  · next fs _ =>
    simp only [] at h
    cases hrules : (addEntries registry o [] fs.flatten).2 with
    | error e => rw [hrules] at h; contradiction
    | ok rules =>
      rw [hrules] at h
      cases h
      have hkept : Kept o rules := Kept.addEntries ⟨by simp, by simp, by simp, by simp⟩ hrules
      refine ⟨?_, ?_, ?_⟩
      · have hkeys : rules.map (·.1) = (rules.map fun e => e.2.path).map (Path.write o) := by
          rw [List.map_map]
          exact List.map_congr_left hkept.written
        have hdistinct := hkept.distinct
        rw [hkeys] at hdistinct
        rw [ruleList, List.map_map]
        exact List.Nodup.of_map _ hdistinct
      · intro r hr
        obtain ⟨e, he, rfl⟩ := List.mem_map.mp hr
        exact hkept.rooted e he
      · intro r hr
        obtain ⟨e, he, rfl⟩ := List.mem_map.mp hr
        exact hkept.present e he

/-! ## Parents first -/

theorem mem_byDepth {t : RuleTable} {r : Rule} : r ∈ t.byDepth ↔ r ∈ t.ruleList :=
  List.mem_mergeSort

/-- Rules come in the order of their depths. -/
theorem pairwise_byDepth (t : RuleTable) :
    t.byDepth.Pairwise fun a b => a.path.length ≤ b.path.length := by
  have htrans : ∀ a b c : Rule, decide (a.depth ≤ b.depth) = true → decide (b.depth ≤ c.depth) = true →
      decide (a.depth ≤ c.depth) = true := by
    simp only [decide_eq_true_eq]
    omega
  have htotal : ∀ a b : Rule, (decide (a.depth ≤ b.depth) || decide (b.depth ≤ a.depth)) = true := by
    simp only [Bool.or_eq_true, decide_eq_true_eq]
    omega
  have h := List.pairwise_mergeSort htrans htotal t.ruleList
  exact h.imp fun h => of_decide_eq_true h

/-- Sorting by depth leaves the rules of one depth in their order. -/
theorem mergeSort_sameBy (rs : List Rule) :
    SameBy Rule.depth (rs.mergeSort fun a b => a.depth ≤ b.depth) rs := by
  intro k
  have hsublist : (rs.filter fun r => decide (r.depth = k)).Sublist
      (rs.mergeSort fun a b => a.depth ≤ b.depth) := by
    refine List.sublist_mergeSort (by simp only [decide_eq_true_eq]; omega)
      (by simp only [Bool.or_eq_true, decide_eq_true_eq]; omega) ?_ List.filter_sublist
    refine List.pairwise_of_forall_mem_list fun a ha b hb => ?_
    have ha := (List.mem_filter.mp ha).2
    have hb := (List.mem_filter.mp hb).2
    simp only [decide_eq_true_eq] at ha hb ⊢
    omega
  have hsublist := hsublist.filter fun r => decide (r.depth = k)
  rw [List.filter_filter] at hsublist
  simp only [Bool.and_self] at hsublist
  exact (hsublist.eq_of_length
    ((List.mergeSort_perm rs _).filter _).length_eq.symm).symm

theorem hasPath_iff {t : RuleTable} {path : List Segment} :
    t.hasPath path = true ↔ ∃ r ∈ t.ruleList, r.path = path := by
  simp [hasPath]

theorem ruleAt_eq_some {t : RuleTable} {path : List Segment} {r : Rule}
    (h : t.ruleAt path = some r) : r ∈ t.ruleList ∧ r.path = path :=
  ⟨List.mem_of_find?_eq_some h, by simpa using List.find?_some h⟩

theorem ruleAt_eq_none {t : RuleTable} {path : List Segment} :
    t.ruleAt path = none ↔ t.hasPath path = false := by
  simp [ruleAt, hasPath]

theorem hasPath_eq (t : RuleTable) (path : List Segment) :
    t.hasPath path = (t.ruleAt path).isSome := by
  cases h : t.ruleAt path with
  | none => exact ruleAt_eq_none.mp h
  | some r => exact hasPath_iff.mpr ⟨r, ruleAt_eq_some h⟩

namespace Compiled

variable {t : RuleTable} (ht : t.Compiled)

include ht

theorem distinct_byDepth : (t.byDepth.map (·.path)).Nodup :=
  ((List.mergeSort_perm t.ruleList _).map _).nodup_iff.mpr ht.distinct

/-- The rules of a path are the one rule that it may have. -/
theorem byDepth_filter_eq (path : List Segment) :
    (t.byDepth.filter fun r => r.path == path) = (t.ruleAt path).toList := by
  cases h : t.ruleAt path with
  | none =>
    refine List.filter_eq_nil_iff.mpr fun r hr => ?_
    exact List.find?_eq_none.mp h r (mem_byDepth.mp hr)
  | some r =>
    obtain ⟨hr, rfl⟩ := ruleAt_eq_some h
    have hsplit := List.append_of_mem (mem_byDepth.mpr hr)
    obtain ⟨pre, post, hsplit⟩ := hsplit
    have hnd := ht.distinct_byDepth
    rw [hsplit, List.map_append, List.map_cons, List.nodup_append] at hnd
    have hpre : (pre.filter fun r' => r'.path == r.path) = [] := by
      refine List.filter_eq_nil_iff.mpr fun a ha hp => ?_
      exact hnd.2.2 a.path (List.mem_map_of_mem ha) r.path (by simp) (by simpa using hp)
    have hpost : (post.filter fun r' => r'.path == r.path) = [] := by
      refine List.filter_eq_nil_iff.mpr fun a ha hp => ?_
      have hne := (List.nodup_cons.mp hnd.2.1).1
      exact hne (List.mem_map.mpr ⟨a, ha, by simpa using hp⟩)
    rw [hsplit, List.filter_append, hpre, List.filter_cons_of_pos (by simp), hpost]
    rfl

/-- Of the rules at or below a path, the rule of the path comes first. -/
theorem byDepth_filter (path : List Segment) :
    (t.byDepth.filter fun r => path.isPrefixOf r.path) =
      (t.ruleAt path).toList ++ t.below path := by
  have split : ∀ rs : List Rule, (rs.Pairwise fun a b => a.path.length ≤ b.path.length) →
      (rs.filter fun r => path.isPrefixOf r.path) = (rs.filter fun r => r.path == path) ++
        rs.filter fun r => path.isPrefixOf r.path && decide (path.length < r.path.length) := by
    intro rs hrs
    induction rs with
    | nil => rfl
    | cons r rs ih =>
      obtain ⟨hr, hrs⟩ := List.pairwise_cons.mp hrs
      have ih := ih hrs
      by_cases hpre : path <+: r.path
      · rcases Nat.lt_or_ge path.length r.path.length with hlt | hge
        · have hnone : (rs.filter fun r' => r'.path == path) = [] := by
            refine List.filter_eq_nil_iff.mpr fun r' hr' hp => ?_
            have := hr r' hr'
            rw [show r'.path = path by simpa using hp] at this
            omega
          have hne : ¬ r.path = path := by rintro rfl; omega
          simp [hpre, hlt, hne, ih, hnone]
        · have heq : path = r.path := hpre.eq_of_length_le hge
          simp only [heq, List.filter_cons, List.isPrefixOf_iff_prefix, List.prefix_refl, beq_self_eq_true,
            if_true, Nat.lt_irrefl, decide_false, Bool.and_false, List.cons_append, Bool.false_eq_true,
            if_false]
          rw [← heq, ih]
      · have hne : ¬ r.path = path := by rintro rfl; exact hpre (List.prefix_refl _)
        simp [hpre, hne, ih]
  rw [split _ t.pairwise_byDepth, ht.byDepth_filter_eq]
  rfl

/-- The rules that go on with a segment below a path: first the rule of the longer path. -/
theorem below_filter (path : List Segment) (segment : Segment) :
    ((t.below path).filter fun r => r.path[path.length]? == some segment) =
      (t.ruleAt (path ++ [segment])).toList ++ t.below (path ++ [segment]) := by
  rw [← ht.byDepth_filter, below, List.filter_filter]
  refine List.filter_congr fun r _ => ?_
  rw [Bool.eq_iff_iff]
  simp only [Bool.and_eq_true, beq_iff_eq, List.isPrefixOf_iff_prefix, decide_eq_true_eq]
  constructor
  · rintro ⟨hseg, ⟨rest, hrest⟩, hlt⟩
    rw [← hrest, List.getElem?_append_right (Nat.le_refl _), Nat.sub_self] at hseg
    cases rest with
    | nil => cases hseg
    | cons x rest =>
      rw [← hrest, show x = segment by simpa using hseg]
      exact ⟨rest, by simp⟩
  · rintro ⟨rest, hrest⟩
    rw [← hrest]
    refine ⟨by simp, ⟨segment :: rest, by simp⟩, by simp⟩

end Compiled

theorem mem_namesBelow {t : RuleTable} {path : List Segment} {s : String} :
    s ∈ t.namesBelow path ↔ ∃ r ∈ t.ruleList, path ++ [Segment.name s] <+: r.path := by
  simp only [namesBelow, List.mem_eraseDups, List.mem_filterMap, mem_below]
  constructor
  · rintro ⟨r, ⟨hr, ⟨rest, hrest⟩, -⟩, hs⟩
    refine ⟨r, hr, ?_⟩
    rw [← hrest, List.getElem?_append_right (Nat.le_refl _), Nat.sub_self] at hs
    rw [← hrest]
    cases rest with
    | nil => cases hs
    | cons x rest =>
      cases x with
      | name s' => cases hs; exact ⟨rest, by simp⟩
      | wildcard => cases hs
  · rintro ⟨r, hr, rest, hrest⟩
    refine ⟨r, ⟨hr, ⟨.name s :: rest, by rw [← hrest]; simp⟩, by rw [← hrest]; simp⟩, ?_⟩
    rw [← hrest]
    simp [Segment.name?]

theorem itemsBelow_iff {t : RuleTable} {path : List Segment} :
    t.itemsBelow path = true ↔ ∃ r ∈ t.ruleList, path ++ [Segment.wildcard] <+: r.path := by
  simp only [itemsBelow, List.any_eq_true, mem_below, beq_iff_eq]
  constructor
  · rintro ⟨r, ⟨hr, ⟨rest, hrest⟩, -⟩, hs⟩
    refine ⟨r, hr, ?_⟩
    rw [← hrest, List.getElem?_append_right (Nat.le_refl _), Nat.sub_self] at hs
    rw [← hrest]
    cases rest with
    | nil => cases hs
    | cons x rest =>
      rw [show x = .wildcard by simpa using hs]
      exact ⟨rest, by simp⟩
  · rintro ⟨r, hr, rest, hrest⟩
    refine ⟨r, ⟨hr, ⟨.wildcard :: rest, by rw [← hrest]; simp⟩, by rw [← hrest]; simp⟩, ?_⟩
    rw [← hrest]
    simp

/-! ## The order of the paths -/

/-- Two tables have the same keys, and whatever else a table tells of the order of its paths. -/
structure LaidOutAs (t t' : RuleTable) : Prop where
  keys : t.keys = t'.keys
  topLevelKeys : t.topLevelKeys = t'.topLevelKeys
  roots : t.roots = t'.roots
  hasPath : t.hasPath = t'.hasPath
  byDepth : t.byDepth.map (·.path) = t'.byDepth.map (·.path)

/-- What a table tells of the order of its paths does not depend on what the rules ask of them. -/
theorem laidOutAs_of_paths {t t' : RuleTable} (hkeys : t.keys = t'.keys)
    (hpaths : t.ruleList.map (·.path) = t'.ruleList.map (·.path)) : t.LaidOutAs t' where
  keys := hkeys
  topLevelKeys := by
    have htop : ∀ t : RuleTable, t.topLevelKeys =
        ((t.ruleList.map (·.path)).filter (·.length == 1)).filterMap fun p => root ⟨.any, p⟩ := by
      intro t
      rw [List.filter_map, List.filterMap_map]
      rfl
    rw [htop, htop, hpaths]
  roots := by
    have hroots : ∀ t : RuleTable, t.roots =
        ((t.ruleList.map (·.path)).filterMap fun p => root ⟨.any, p⟩).eraseDups := by
      intro t
      rw [List.filterMap_map]
      rfl
    rw [hroots, hroots, hpaths]
  hasPath := by
    have hany : ∀ (t : RuleTable) path,
        t.hasPath path = (t.ruleList.map (·.path)).any (· == path) := by
      intro t path
      rw [List.any_map]
      rfl
    funext path
    rw [hany, hany, hpaths]
  byDepth := by
    have hsorted : ∀ t : RuleTable, t.byDepth.map (·.path) =
        (t.ruleList.map (·.path)).mergeSort fun p q => p.length ≤ q.length :=
      fun t => List.map_mergeSort fun _ _ _ _ => rfl
    rw [hsorted, hsorted, hpaths]

end RuleTable

namespace Validator

variable {registry : Registry} {o : PathOptions} {schema : Value} {v : Validator}

theorem compile_table (h : compile registry o schema = .ok v) :
    RuleTable.compile registry o schema = .ok v.table := by
  unfold compile at h
  cases htable : RuleTable.compile registry o schema with
  | error e =>
    rw [htable] at h
    cases h
  | ok table =>
    rw [htable] at h
    cases h
    rfl

/-- The table of every validator is compiled, and its registry is the one that it was compiled
with. -/
theorem compile_compiled (h : compile registry o schema = .ok v) :
    v.table.Compiled ∧ v.registry = registry := by
  have htable := compile_table h
  rw [compile, htable] at h
  exact ⟨RuleTable.compile_compiled htable, (congrArg Validator.registry (Except.ok.inj h)).symm⟩

end Validator

end ArgumentSchema
