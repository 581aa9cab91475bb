import ArgumentSchema.Proofs.Fragments
import Mathlib.Data.List.Permutation

/-!
# Merging fragments

The fragments of a schema are read one after the other, entry by entry. A path keeps the place of its
first entry, and its rule is that of its last one, so fragments can as well be merged into one mapping
before they are read. A fragment that only comes back to paths which are there changes rules, and
nothing of the order of the paths. And each entry counts, also one whose rule would be replaced: the
first one that cannot be read ends the compilation.

> `RuleTable.gathered_keys`, `RuleTable.gathered_lookup`: where a key stands among the rules, and what
> its rule is.
> `RuleTable.compile_ofPairs`: entries that are put together under their keys compile to the same
> table.
> `RuleTable.Compiled.inDepthOrder`: rules in the order of their depths come after those of the paths
> above them.
> `RuleTable.compile_fragments`: what a list of fragments compiles to.
-/

namespace ArgumentSchema

namespace RuleTable

variable {registry : Registry} {o : PathOptions}

/-! ## Keys and rules -/

/-- The keys of what was read stand in the order in which they came up first. -/
theorem gathered_keys (read : List (String × Rule)) :
    (gathered read).map (·.1) = (read.map (·.1)).eraseDups := by
  induction read using List.reverseRecOn with
  | nil => rfl
  | append_singleton read e ih =>
    rw [gathered_concat, keys_insertRule, ih, List.map_append, List.map_singleton, eraseDups_concat]
    simp only [List.mem_eraseDups]

theorem lookup_insertRule_self (key : String) (rule : Rule) (rules : List (String × Rule)) :
    (insertRule key rule rules).lookup key = some rule := by
  induction rules with
  | nil => exact List.lookup_cons_self
  | cons e rules ih =>
    obtain ⟨k, r⟩ := e
    by_cases hk : k = key
    · rw [insertRule, if_pos hk, hk, List.lookup_cons_self]
    · rw [insertRule, if_neg hk, List.lookup_cons, beq_false_of_ne (Ne.symm hk)]
      exact ih

theorem lookup_insertRule_ne {key key' : String} (h : key' ≠ key) (rule : Rule)
    (rules : List (String × Rule)) : (insertRule key rule rules).lookup key' = rules.lookup key' := by
  induction rules with
  | nil => rw [insertRule, List.lookup_cons, beq_false_of_ne h]
  | cons e rules ih =>
    obtain ⟨k, r⟩ := e
    by_cases hk : k = key
    · rw [insertRule, if_pos hk, List.lookup_cons, List.lookup_cons, hk, beq_false_of_ne h]
    · rw [insertRule, if_neg hk, List.lookup_cons, List.lookup_cons, ih]

/-- The rule of a key is the one that was read last. -/
theorem gathered_lookup (read : List (String × Rule)) (key : String) :
    (gathered read).lookup key = read.reverse.lookup key := by
  induction read using List.reverseRecOn with
  | nil => rfl
  | append_singleton read e ih =>
    rw [gathered_concat, List.reverse_append, List.reverse_singleton, List.singleton_append,
      List.lookup_cons]
    by_cases h : key = e.1
    · rw [h, lookup_insertRule_self, beq_self_eq_true]
    · rw [lookup_insertRule_ne h, ih, beq_false_of_ne h]

/-- The rule of a key was read, and nothing was read for the key behind it. -/
theorem gathered_lookup_eq_some_iff {read : List (String × Rule)} {key : String} {rule : Rule} :
    (gathered read).lookup key = some rule ↔
      ∃ pre post, read = pre ++ (key, rule) :: post ∧ ∀ e ∈ post, e.1 ≠ key := by
  rw [gathered_lookup, List.lookup_eq_some_iff]
  constructor
  · rintro ⟨post, pre, hread, hpost⟩
    refine ⟨pre.reverse, post.reverse, ?_, fun e he heq => ?_⟩
    · rw [← List.reverse_inj, hread]
      simp
    · simpa [heq] using hpost e (List.mem_reverse.mp he)
  · rintro ⟨pre, post, rfl, hpost⟩
    refine ⟨post.reverse, pre.reverse, by simp, fun e he => ?_⟩
    exact bne_iff_ne.mpr (Ne.symm (hpost e (List.mem_reverse.mp he)))

/-- An entry of a schema that can be read. -/
def WellFormed (registry : Registry) (o : PathOptions) (e : Value × Value) : Prop :=
  ∃ read, readEntry registry o e.1 e.2 = .ok read

/-- Well-formed entries are read one by one. -/
theorem exists_reads {es : Entries Value} (h : ∀ e ∈ es, WellFormed registry o e) :
    ∃ read, List.Forall₂ (Reads registry o) es read := by
  induction es with
  | nil => exact ⟨[], .nil⟩
  | cons e es ih =>
    obtain ⟨⟨entry, hentry⟩, hes⟩ := List.forall_mem_cons.mp h
    obtain ⟨read, hread⟩ := ih hes
    exact ⟨entry :: read, .cons (readEntry_eq_ok_iff.mp hentry) hread⟩

/-- A table tells what entries were read as: the keys are those of the entries, each in the place of
its first entry, and the rule of a key is what its last entry is read as. -/
structure Gathers (registry : Registry) (o : PathOptions) (entries : Entries Value) (t : RuleTable) :
    Prop where
  options : t.options = o
  keys : ∃ raws : List String, entries.map (·.1) = raws.map .str ∧ t.keys = raws.eraseDups
  find? : ∀ key rule, t.find? key = some rule ↔ ∃ pre spec post,
    entries = pre ++ (.str key, spec) :: post ∧ (∀ e ∈ post, e.1 ≠ .str key) ∧
      readEntry registry o (.str key) spec = .ok (key, rule)

theorem map_keys_of_reads {es : Entries Value} {read : List (String × Rule)}
    (h : List.Forall₂ (Reads registry o) es read) :
    es.map (·.1) = (read.map (·.1)).map .str := by
  induction h with
  | nil => rfl
  | cons hreads _ ih => rw [List.map_cons, List.map_cons, List.map_cons, ih, hreads.key]

/-- What is gathered from entries tells what they were read as. -/
theorem gathers_of_reads {es : Entries Value} {read : List (String × Rule)}
    (h : List.Forall₂ (Reads registry o) es read) : Gathers registry o es ⟨o, gathered read⟩ where
  options := rfl
  keys := ⟨read.map Prod.fst, map_keys_of_reads h, gathered_keys read⟩
  find? key rule := by
    rw [RuleTable.find?, gathered_lookup_eq_some_iff]
    constructor
    · rintro ⟨pre, post, rfl, hpost⟩
      obtain ⟨pre', rest, rfl, -, hrest⟩ := exists_of_forall₂_append h.flip
      obtain ⟨⟨raw, spec⟩, post', hreads, hbehind, rfl⟩ := List.forall₂_cons_left_iff.mp hrest
      obtain rfl : raw = .str key := hreads.key
      refine ⟨pre', spec, post', rfl, fun e he heq => ?_, readEntry_eq_ok_iff.mpr hreads⟩
      obtain ⟨x, hx, hreads'⟩ := exists_of_mem_forall₂ hbehind he
      exact hpost x hx (Value.str.inj (hreads'.key.symm.trans heq))
    · rintro ⟨pre, spec, post, rfl, hpost, hentry⟩
      obtain ⟨pre', rest, rfl, -, hrest⟩ := exists_of_forall₂_append h
      obtain ⟨entry, post', hreads, hbehind, rfl⟩ := List.forall₂_cons_left_iff.mp hrest
      -- an entry is read in one way only
      obtain rfl := Except.ok.inj (hentry.symm.trans (readEntry_eq_ok_iff.mpr hreads))
      refine ⟨pre', post', rfl, fun x hx heq => ?_⟩
      obtain ⟨e, he, hreads'⟩ := exists_of_mem_forall₂ hbehind hx
      exact hpost e he (hreads'.key.trans (congrArg Value.str heq))

/-! ## One mapping for all fragments -/

/-- The fragments of a schema, merged into one. -/
def merged (fs : List (Entries Value)) : Entries Value := fs.foldl Entries.update []

theorem merged_eq (fs : List (Entries Value)) : merged fs = Entries.ofPairs fs.flatten := by
  rw [merged, Entries.ofPairs, Entries.update, List.foldl_flatten]
  rfl

theorem reads_insert {es : Entries Value} {rules : List (String × Rule)}
    (h : List.Forall₂ (Reads registry o) es rules) {e : Value × Value} {read : String × Rule}
    (hread : Reads registry o e read) :
    List.Forall₂ (Reads registry o) (Entries.insert e.1 e.2 es) (insertRule read.1 read.2 rules) := by
  obtain ⟨raw, spec⟩ := e
  obtain ⟨key, rule⟩ := read
  obtain rfl : raw = .str key := hread.key
  induction h with
  | nil => exact .cons hread .nil
  | @cons e entry es rules hreads hrest ih =>
    obtain ⟨raw', spec'⟩ := e
    obtain ⟨k, r⟩ := entry
    obtain rfl : raw' = .str k := hreads.key
    by_cases hk : k = key
    · subst hk
      rw [Entries.insert_cons_self, insertRule, if_pos rfl]
      exact .cons hread hrest
    · rw [Entries.insert_cons_ne (fun h => hk (Value.str.inj h)), insertRule, if_neg hk]
      exact .cons hreads ih

/-- Entries that are put together under their keys are read as what is gathered from them. -/
theorem reads_ofPairs {es : Entries Value} {read : List (String × Rule)}
    (h : List.Forall₂ (Reads registry o) es read) :
    List.Forall₂ (Reads registry o) (Entries.ofPairs es) (gathered read) :=
  List.rel_foldl (R := Reads registry o) (P := List.Forall₂ (Reads registry o))
    (fun _ _ hrules _ _ hread => reads_insert hrules hread) .nil h

/-- What was gathered stays as it is when it is gathered again. -/
theorem gathered_gathered (read : List (String × Rule)) : gathered (gathered read) = gathered read := by
  refine gathered_of_nodup ?_
  rw [gathered_keys]
  exact nodup_eraseDups _

/-- Entries that are put together compile to the table of the entries. -/
theorem compile_ofPairs {es : Entries Value} {read : List (String × Rule)}
    (h : List.Forall₂ (Reads registry o) es read) (ordered : Bool) :
    compile registry o (.dict ordered (Entries.ofPairs es)) = .ok ⟨o, gathered read⟩ := by
  refine compile_eq_ok_iff.mpr ⟨_, gathered read, rfl, ?_, by rw [gathered_gathered]⟩
  rw [List.flatten_singleton]
  exact reads_ofPairs h

/-! ## The order of the rules -/

/-- Rules in the order of their depths. -/
structure InDepthOrder (t : RuleTable) : Prop where
  /-- Each rule comes up once. -/
  once : t.byDepth.Perm t.ruleList ∧ (t.byDepth.map (·.path)).Nodup
  /-- A rule comes after those of the paths above its own. -/
  parents : ∀ parent ∈ t.ruleList, ∀ child ∈ t.ruleList, parent.path <+: child.path →
    parent.path ≠ child.path → [parent, child].Sublist t.byDepth
  /-- Rules of one depth come in the order of the keys. -/
  steady : SameBy Rule.depth t.byDepth t.ruleList

theorem Compiled.inDepthOrder {t : RuleTable} (ht : t.Compiled) : t.InDepthOrder where
  once := ⟨List.mergeSort_perm _ _, ht.distinct_byDepth⟩
  parents parent hparent child hchild hpre hne := by
    have hlt : parent.path.length < child.path.length :=
      Nat.lt_of_le_of_ne hpre.length_le fun h => hne (hpre.eq_of_length h)
    obtain ⟨pre, post, hsplit⟩ := List.append_of_mem (mem_byDepth.mpr hchild)
    have hsorted := t.pairwise_byDepth
    have hmem := mem_byDepth.mpr hparent
    rw [hsplit] at hsorted hmem ⊢
    rw [List.pairwise_append, List.pairwise_cons] at hsorted
    have hbefore : parent ∈ pre := by
      rcases List.mem_append.mp hmem with hmem | hmem
      · exact hmem
      · rcases List.mem_cons.mp hmem with rfl | hmem
        · exact absurd hlt (Nat.lt_irrefl _)
        · exact absurd hlt (Nat.not_lt.mpr (hsorted.2.1.1 parent hmem))
    exact (List.singleton_sublist.mpr hbefore).append
      (List.singleton_sublist.mpr (List.mem_cons_self ..))
  steady := mergeSort_sameBy t.ruleList

/-- Entries that are read as what they are compiled to have the paths that their keys write. -/
theorem split_of_reads {es : Entries Value} {read : List (String × Rule)}
    (h : List.Forall₂ (Reads registry o) es read) :
    ∀ e ∈ gathered read, Path.split? o e.1 = .ok e.2.path := by
  intro e he
  obtain ⟨x, -, hreads⟩ := exists_of_mem_forall₂ h (mem_of_mem_gathered he)
  exact hreads.path

/-- Rules under the same keys have the same paths. -/
theorem map_path_of_keys {rules rules' : List (String × Rule)}
    (hrules : ∀ e ∈ rules, Path.split? o e.1 = .ok e.2.path)
    (hrules' : ∀ e ∈ rules', Path.split? o e.1 = .ok e.2.path)
    (hkeys : rules.map (·.1) = rules'.map (·.1)) :
    rules.map (·.2.path) = rules'.map (·.2.path) := by
  let ok : List Segment → Except Path.Fault (List Segment) := .ok
  have hsplit : ∀ rules : List (String × Rule), (∀ e ∈ rules, Path.split? o e.1 = ok e.2.path) →
      (rules.map (·.2.path)).map ok = (rules.map (·.1)).map (Path.split? o) := by
    intro rules hrules
    rw [List.map_map, List.map_map]
    exact List.map_congr_left fun e he => (hrules e he).symm
  have hinjective : Function.Injective ok := fun _ _ => Except.ok.inj
  refine List.map_injective_iff.mpr hinjective ?_
  rw [hsplit rules hrules, hkeys, hsplit rules' hrules']

/-- A fragment that comes back to paths of fragments before it leaves the order of the paths as it
is. -/
theorem laidOutAs_of_redefined {pre more post : Entries Value} {read : List (String × Rule)}
    (h : List.Forall₂ (Reads registry o) (pre ++ more ++ post) read)
    (hmore : ∀ e ∈ more, ∃ e' ∈ pre, e'.1 = e.1) :
    ∃ read', List.Forall₂ (Reads registry o) (pre ++ post) read' ∧
      LaidOutAs ⟨o, gathered read⟩ ⟨o, gathered read'⟩ := by
  obtain ⟨read₁, readPost, rfl, h₁, hpost⟩ := exists_of_forall₂_append h
  obtain ⟨readPre, readMore, rfl, hpre, hreadMore⟩ := exists_of_forall₂_append h₁
  have h' := List.rel_append hpre hpost
  have hsubset : readMore.map (·.1) ⊆ readPre.map (·.1) := by
    intro key hkey
    obtain ⟨x, hx, rfl⟩ := List.mem_map.mp hkey
    obtain ⟨e, he, hreads⟩ := exists_of_mem_forall₂ hreadMore hx
    obtain ⟨e', he', heq⟩ := hmore e he
    obtain ⟨x', hx', hreads'⟩ := exists_of_mem_forall₂ hpre.flip he'
    have hsame : x'.1 = x.1 := Value.str.inj (hreads'.key.symm.trans (heq.trans hreads.key))
    exact List.mem_map.mpr ⟨x', hx', hsame⟩
  have hkeys : (gathered (readPre ++ readMore ++ readPost)).map (·.1) =
      (gathered (readPre ++ readPost)).map (·.1) := by
    rw [gathered_keys, gathered_keys]
    simp only [List.map_append]
    exact eraseDups_append_of_subset hsubset _
  refine ⟨_, h', laidOutAs_of_paths hkeys ?_⟩
  rw [ruleList, ruleList, List.map_map, List.map_map]
  exact map_path_of_keys (split_of_reads h) (split_of_reads h') hkeys

/-! ## Fragments that cannot be read -/

/-- A written path as an error tells it: as it stands, or what it shows if it is no text. -/
def rawPath : Value → String
  | .str s => s
  | v => v.shown

/-- An error in an entry names the path of the entry. -/
theorem readEntry_error_path {raw spec : Value} {e : SchemaError}
    (h : readEntry registry o raw spec = .error (.schema e)) : e.path = some (rawPath raw) := by
  unfold readEntry at h
  cases hpath : readPath o raw with
  | error f =>
    rw [hpath] at h
    cases h
    unfold readPath at hpath
    split at hpath
    · split at hpath
      · cases hpath
      · cases hpath
        rfl
    · next v hv =>
      cases hpath
      unfold rawPath
      split
      · exact absurd rfl (hv _)
      · rfl
  | ok path =>
    obtain ⟨text, rfl, -⟩ := readPath_eq_ok_iff.mp hpath
    rw [hpath] at h
    cases hspec : Pattern.read registry spec with
    | error f =>
      rw [hspec] at h
      cases f with
      | fault f =>
        cases h
        rfl
      | literal f => cases h
    | ok c =>
      rw [hspec] at h
      cases h

/-- The first entry that is not well-formed, if there is one. -/
theorem exists_first_malformed {es : Entries Value} (h : ∃ e ∈ es, ¬ WellFormed registry o e) :
    ∃ pre e post, es = pre ++ e :: post ∧ (∀ x ∈ pre, WellFormed registry o x) ∧
      ¬ WellFormed registry o e := by
  induction es with
  | nil =>
    obtain ⟨e, he, -⟩ := h
    cases he
  | cons e es ih =>
    by_cases hwell : WellFormed registry o e
    · obtain ⟨x, hx, hmalformed⟩ := h
      have hx : x ∈ es := by
        rcases List.mem_cons.mp hx with rfl | hx
        · exact absurd hwell hmalformed
        · exact hx
      obtain ⟨pre, x, post, rfl, hpre, hmalformed⟩ := ih ⟨x, hx, hmalformed⟩
      exact ⟨e :: pre, x, post, rfl, List.forall_mem_cons.mpr ⟨hwell, hpre⟩, hmalformed⟩
    · exact ⟨[], e, es, rfl, fun x hx => (by cases hx), hwell⟩

/-! ## Lists of fragments -/

/-- What a list of fragments compiles to. If each entry is well-formed, it is the table that tells
what the entries were read as, which is also the table of the merged fragments; its rules are in the
order of their depths, and a fragment that only comes back to paths of fragments before it does
nothing to the order of the paths. Otherwise it is the error of the first entry that is not
well-formed, which names the path of this entry. -/
theorem compile_fragments {schema : Value} {fs : List (Entries Value)} (hschema : MadeOf schema fs) :
    ((∀ e ∈ fs.flatten, WellFormed registry o e) →
      ∃ t, compile registry o schema = .ok t ∧ t.Gathers registry o fs.flatten ∧ t.InDepthOrder ∧
        (∀ ordered, compile registry o (.dict ordered (merged fs)) = .ok t) ∧
        ∀ pre more post without, fs = pre ++ more :: post →
          (∀ e ∈ more, ∃ e' ∈ pre.flatten, e'.1 = e.1) → MadeOf without (pre ++ post) →
          ∃ t', compile registry o without = .ok t' ∧ t.LaidOutAs t') ∧
    ((∃ e ∈ fs.flatten, ¬ WellFormed registry o e) →
      ∃ pre raw spec post error, fs.flatten = pre ++ (raw, spec) :: post ∧
        (∀ e ∈ pre, WellFormed registry o e) ∧ readEntry registry o raw spec = .error error ∧
        compile registry o schema = .error error ∧
        ∀ e, error = .schema e → e.path = some (rawPath raw)) := by
  have hfs := fragments_eq_ok_iff.mpr hschema
  refine ⟨fun hwell => ?_, fun hmalformed => ?_⟩
  · obtain ⟨read, hread⟩ := exists_reads hwell
    have hcompile : compile registry o schema = .ok ⟨o, gathered read⟩ :=
      compile_eq_ok_iff.mpr ⟨fs, read, hfs, hread, rfl⟩
    refine ⟨_, hcompile, gathers_of_reads hread, (compile_compiled hcompile).inDepthOrder,
      fun ordered => ?_, ?_⟩
    · rw [merged_eq]
      exact compile_ofPairs hread ordered
    rintro pre more post without rfl hmore hwithout
    rw [List.flatten_append, List.flatten_cons, ← List.append_assoc] at hread
    obtain ⟨read', hread', hsame⟩ := laidOutAs_of_redefined hread hmore
    rw [← List.flatten_append] at hread'
    exact ⟨_, compile_eq_ok_iff.mpr ⟨_, read', fragments_eq_ok_iff.mpr hwithout, hread', rfl⟩, hsame⟩
  · obtain ⟨pre, ⟨raw, spec⟩, post, hsplit, hpre, hbad⟩ := exists_first_malformed hmalformed
    cases hentry : readEntry registry o raw spec with
    | ok read => exact absurd ⟨read, hentry⟩ hbad
    | error error =>
      refine ⟨pre, raw, spec, post, error, hsplit, hpre, hentry, ?_, ?_⟩
      · exact (compile_eq_error_iff hfs).mpr ⟨pre, raw, spec, post, hsplit, fun x hx => by
          obtain ⟨read, hread⟩ := hpre x hx
          exact ⟨read, readEntry_eq_ok_iff.mp hread⟩, hentry⟩
      · rintro e rfl
        exact readEntry_error_path hentry

/-- A second fragment that excuses a field of the first, and a second fragment that has a path for one
that is no text, too late. -/
theorem compile_fragments_replaced :
    let first : Entries Value :=
      [(.str "user.name", .str "string"), (.str "user", .str "object"), (.str "age", .str "integer")]
    let second : Entries Value := [(.str "user.name", .str "string?")]
    let bad : Entries Value := [(.str "age", .str "integer"), (.int 7, .str "string")]
    let o : PathOptions := .default
    MadeOf (.list [.dict false first, .dict false second]) [first, second] ∧
    (∃ t t', compile Registry.default o (.list [.dict false first, .dict false second]) = .ok t ∧
      compile Registry.default o (.dict false [(.str "user.name", .str "string?"),
        (.str "user", .str "object"), (.str "age", .str "integer")]) = .ok t ∧
      compile Registry.default o (.list [.dict false first]) = .ok t' ∧
      t.byDepth.map (·.path) = t'.byDepth.map (·.path) ∧
      t.find? "user.name" =
        some ⟨{ Contract.ofTypes ["string"] with optional := true }, [.name "user", .name "name"]⟩) ∧
    ∃ e, compile Registry.default o (.tuple [.dict false bad, .dict true [(.int 7, .str "")]]) =
      .error (.schema e) ∧ e.path = some "7" := by
  intro first second bad o
  have hfragments : MadeOf (.list [.dict false first, .dict false second]) [first, second] :=
    .list (.cons rfl (.cons rfl .nil))
  let required : Rule := ⟨Contract.ofTypes ["string"], [.name "user", .name "name"]⟩
  let excused : Rule :=
    ⟨{ Contract.ofTypes ["string"] with optional := true }, [.name "user", .name "name"]⟩
  let user : Rule := ⟨Contract.ofTypes ["object"], [.name "user"]⟩
  let age : Rule := ⟨Contract.ofTypes ["integer"], [.name "age"]⟩
  have hexcused : readEntry Registry.default o (.str "user.name") (.str "string?") =
      .ok ("user.name", excused) := by cbv
  have hage : readEntry Registry.default o (.str "age") (.str "integer") = .ok ("age", age) := by cbv
  have hwell : ∀ e ∈ [first, second].flatten, WellFormed Registry.default o e := by
    have h₁ : WellFormed Registry.default o (.str "user.name", .str "string") :=
      ⟨("user.name", required), by cbv⟩
    have h₂ : WellFormed Registry.default o (.str "user", .str "object") := ⟨("user", user), by cbv⟩
    simpa [first, second] using ⟨h₁, h₂, ⟨_, hage⟩, ⟨_, hexcused⟩⟩
  refine ⟨hfragments, ?_, ?_⟩
  · obtain ⟨t, ht, hgathers, -, hmerged, hredefined⟩ := (compile_fragments hfragments).1 hwell
    obtain ⟨t', ht', hsame⟩ := hredefined [first] second [] (.list [.dict false first]) rfl
      (by simp [first, second]) (.list (.cons rfl .nil))
    refine ⟨t, t', ht, hmerged false, ht', hsame.byDepth, ?_⟩
    exact (hgathers.find? _ _).mpr ⟨first, _, [], rfl, fun e he => (by cases he), hexcused⟩
  · have hbad : readEntry Registry.default o (.int 7) (.str "string") =
        .error (.schema ⟨.pathKind "int", some "7"⟩) := by cbv
    have hmalformed : ¬ WellFormed Registry.default o (.int 7, .str "string") := by
      rintro ⟨read, hok⟩
      cases hbad.symm.trans hok
    have htuple : MadeOf (.tuple [.dict false bad, .dict true [(.int 7, .str "")]])
        [bad, [(.int 7, .str "")]] := .tuple (.cons rfl (.cons rfl .nil))
    obtain ⟨pre, raw, spec, post, error, hsplit, hpre, hentry, hcompile, hpath⟩ :=
      (compile_fragments htuple).2 ⟨_, by simp [bad], hmalformed⟩
    -- the number is the first path that is no text
    rcases pre with _ | ⟨x, _ | ⟨y, pre⟩⟩
    · cases hsplit
      cases hage.symm.trans hentry
    · cases hsplit
      obtain rfl := Except.error.inj (hbad.symm.trans hentry)
      exact ⟨_, hcompile, hpath _ rfl⟩
    · obtain ⟨-, rfl, -⟩ : _ ∧ (Value.int 7, Value.str "string") = y ∧ _ := by
        simpa [bad, Eq.comm] using hsplit
      exact absurd (hpre _ (List.mem_cons_of_mem _ (List.mem_cons_self ..))) hmalformed

end RuleTable

end ArgumentSchema
