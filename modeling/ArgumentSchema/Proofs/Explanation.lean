import ArgumentSchema.Proofs.Merging
import ArgumentSchema.Proofs.Rejections

/-!
# What an explanation tells

An explanation shows a table rule by rule. Its rows are again a schema: each one has the path of its
rule, and the types, the default and whether the field may be left out make up a pattern in longhand.
For a document nothing is lost on the way. The rules have no callbacks, their types are names that are
read as themselves, and a written path is read as the path that it was written for.

> `Shorthand.typeNames_spelled`, `RuleTable.compile_spelled`: the names in a type are read as
> themselves, and so are the types of all rules of a document.
> `Pattern.longhand_shown`: the longhand that shows a contract without callbacks is read as it.
> `RuleTable.compile_shownSchema`: and so a schema of such longhands is read as its table.
> `Service.explain_lossless`: the rows of an explanation compile to the table that was explained.
-/

namespace ArgumentSchema

/-! ## Types that are read as themselves -/

namespace Shorthand

theorem not_bar_of_isTypeName {cs : List Char} (h : isTypeName cs = true) : '|' ∉ cs := by
  intro hbar
  cases cs with
  | nil => cases hbar
  | cons c cs =>
    rw [isTypeName, Bool.and_eq_true, List.all_eq_true] at h
    rcases List.mem_cons.mp hbar with rfl | hbar
    · exact absurd h.1 (by decide)
    · exact absurd (h.2 _ hbar) (by decide)

/-- A trimmed type name is read as itself. -/
theorem typeNames_of_isTypeName {cs : List Char} (htrim : Text.trim cs = cs)
    (hname : isTypeName cs = true) : typeNames cs = .ok [String.ofList cs] := by
  have hfull : (Text.trim cs).isEmpty = false := by
    rw [htrim]
    cases cs with
    | nil => cases hname
    | cons c cs => rfl
  have hrow : Text.Row ['|'] [cs] :=
    (Text.clear_of_foreign (List.mem_singleton_self _) (not_bar_of_isTypeName hname)).alone
  have halone : Text.splitOn ['|'] cs = [cs] := Text.splitOn_join (List.cons_ne_nil _ _) hrow
  have hvalid : firstInvalid? [cs] = none := by
    rw [firstInvalid?, List.find?_eq_none]
    simp [hname]
  rw [typeNames, hfull, if_neg Bool.false_ne_true, halone, List.map_singleton, htrim]
  dsimp only
  rw [hvalid]
  rfl

/-- The names in a type, each read as itself. -/
structure Spelled (types : List String) : Prop where
  distinct : types.Nodup
  itself : ∀ name ∈ types, typeNames name.toList = .ok [name]

theorem Spelled.nil : Spelled [] := ⟨List.nodup_nil, nofun⟩

theorem typeNames_spelled {body : List Char} {types : List String}
    (h : typeNames body = .ok types) : Spelled types := by
  unfold typeNames at h
  split at h
  · cases h
    exact .nil
  · dsimp only at h
    split at h
    · cases h
    · next hvalid =>
      cases h
      refine ⟨nodup_eraseDups _, fun name hmem => ?_⟩
      rw [List.mem_eraseDups, List.map_map] at hmem
      obtain ⟨piece, hpiece, rfl⟩ := List.mem_map.mp hmem
      have hname : isTypeName (Text.trim piece) = true := by
        simpa using List.find?_eq_none.mp hvalid _ (List.mem_map_of_mem hpiece)
      rw [Function.comp, String.toList_ofList]
      exact typeNames_of_isTypeName (Text.trim_trim piece) hname

end Shorthand

namespace Pattern

open Shorthand (Spelled)

variable {registry : Registry} {c : Contract}

/-- A member of a list in a document is a text that names one type. -/
theorem unionMember_spelled {v : Value} (hv : v.Json) {name : String}
    (h : unionMember registry v = .ok name) : Shorthand.typeNames name.toList = .ok [name] := by
  cases hv with
  | str s =>
    unfold unionMember at h
    dsimp only at h
    cases hnames : Shorthand.typeNames s.toList with
    | error f =>
      rw [hnames] at h
      cases h
    | ok names =>
      rw [hnames] at h
      match names, h with
      | [_], h =>
        cases h
        exact (Shorthand.typeNames_spelled hnames).itself _ (List.mem_singleton_self _)
  | _ => cases h

/-- A list is read if each of its elements is. -/
theorem mapM_eq_ok_iff {α β : Type} {f : α → Except SchemaFault β} {xs : List α} {ys : List β} :
    xs.mapM f = .ok ys ↔ List.Forall₂ (fun x y => f x = .ok y) xs ys := by
  induction xs generalizing ys with
  | nil =>
    rw [List.forall₂_nil_left_iff, List.mapM_nil]
    exact ⟨fun h => (Except.ok.inj h).symm, fun h => congrArg Except.ok h.symm⟩
  | cons x xs ih =>
    rw [List.mapM_cons, List.forall₂_cons_left_iff]
    cases hx : f x with
    | error e => exact ⟨nofun, fun ⟨_, _, hy, _⟩ => nomatch hy⟩
    | ok y =>
      cases hxs : xs.mapM f with
      | error e =>
        refine ⟨nofun, ?_⟩
        rintro ⟨_, rest, -, hrest, -⟩
        cases hxs.symm.trans (ih.mpr hrest)
      | ok rest =>
        constructor
        · intro h
          cases h
          exact ⟨y, rest, rfl, ih.mp hxs, rfl⟩
        · rintro ⟨_, rest', hy, hrest', rfl⟩
          cases hy
          rw [Except.ok.inj (hxs.symm.trans (ih.mpr hrest'))]
          rfl

theorem union_spelled {members : List Value} (hmembers : ∀ v ∈ members, v.Json) {names : List String}
    (h : union registry members = .ok names) : Spelled names := by
  unfold union at h
  cases hnames : members.mapM (unionMember registry) with
  | error f =>
    rw [hnames] at h
    cases h
  | ok all =>
    rw [hnames] at h
    cases h
    refine ⟨nodup_eraseDups _, fun name hmem => ?_⟩
    obtain ⟨v, hv, hname⟩ :=
      exists_of_mem_forall₂ (mapM_eq_ok_iff.mp hnames) (List.mem_eraseDups.mp hmem)
    exact unionMember_spelled (hmembers v hv) hname

/-- A list of names that are read as themselves is read as these names. -/
theorem union_of_spelled {names : List String} (h : Spelled names) :
    union registry (names.map .str) = .ok names := by
  have hmapM : (names.map Value.str).mapM (unionMember registry) = .ok names := by
    rw [mapM_eq_ok_iff, List.forall₂_map_left_iff, List.forall₂_same]
    intro name hname
    rw [unionMember, h.itself name hname]
    rfl
  rw [union, hmapM]
  exact congrArg Except.ok (eraseDups_of_nodup h.distinct)

theorem simple_spelled {spec : Value} (hspec : spec.Json) (h : simple registry spec = .ok c) :
    Spelled c.types := by
  cases hspec with
  | null =>
    cases h
    exact .nil
  | str s =>
    obtain ⟨types, default, optional, rfl, ⟨body, hnames⟩, -⟩ := Shorthand.exists_of_read h
    exact Shorthand.typeNames_spelled hnames
  | list hitems =>
    unfold simple at h
    dsimp only at h
    split at h
    · next hunion =>
      cases h
      exact union_spelled hitems hunion
    · cases h
  | _ => cases h

theorem longhandBase_spelled {es : Entries Value} (hes : ∀ e ∈ es, e.2.Json)
    (h : longhandBase registry es = .ok c) : Spelled c.types := by
  unfold longhandBase at h
  split at h
  · exact simple_spelled .null h
  · cases h
  · next t _ ht => exact simple_spelled (hes _ (Entries.mem_of_find? ht)) h

/-- The types of a pattern in a document are names that are read as themselves. -/
theorem read_spelled {spec : Value} (hspec : spec.Json) (h : read registry spec = .ok c) :
    Spelled c.types := by
  unfold read at h
  split at h
  · obtain ⟨base, validate, recovery, transform, hbase, -, -, -, rfl⟩ := exists_of_longhand h
    exact @longhandBase_spelled registry base _ (hspec.of_entries? rfl) hbase
  · exact simple_spelled hspec h

end Pattern

/-! ## The patterns of rows -/

/-- The longhand that asks for the types, the default and the optionality of a contract. -/
def Contract.shown (c : Contract) : Entries Value :=
  [(.str "type", .texts c.types), (.str "optional", .bool c.optional)] ++
    c.default.toList.map (Prod.mk (.str "default"))

namespace Pattern

open Shorthand (Spelled)

section Shown

variable (registry : Registry) (c : Contract)

theorem unknownKeys_shown : (unknownKeys c.shown).isEmpty = true := by
  have hknown : ∀ name ∈ longhandKeys, isLonghandKey (.str name) = true := by decide
  rw [unknownKeys_isEmpty_iff]
  intro e he
  rcases List.mem_append.mp he with he | he
  · simp only [List.mem_cons, List.not_mem_nil, or_false] at he
    rcases he with rfl | rfl
    · exact hknown "type" (by decide)
    · exact hknown "optional" (by decide)
  · obtain ⟨d, -, rfl⟩ := List.mem_map.mp he
    exact hknown "default" (by decide)

theorem field?_shown : Value.field? "type" c.shown = some (.texts c.types) ∧
    Value.field? "optional" c.shown = some (.bool c.optional) ∧
    Value.field? "default" c.shown = c.default ∧ Value.field? "validate" c.shown = none ∧
    Value.field? "catch" c.shown = none ∧ Value.field? "transform" c.shown = none := by
  unfold Contract.shown Value.field?
  cases c.default <;> simp [Entries.find?, Value.sameKey_str]

/-- A contract without callbacks is what the longhand that shows it is read as. -/
theorem longhand_shown (htypes : Spelled c.types) (hsilent : c.Silent) (hpresent : c.Present) :
    longhand registry c.shown = .ok c := by
  obtain ⟨htype, hoptional, hdefault, hvalidate, hcatch, htransform⟩ := field?_shown c
  have hbase : longhandBase registry c.shown = .ok (.ofTypes c.types) := by
    rw [longhandBase, htype]
    show simple registry (.texts c.types) = _
    rw [Value.texts, simple, union_of_spelled htypes]
  have hcheck : check? c.shown = .ok none := by rw [check?, hvalidate]
  have hcatch : callable? c.shown "catch" = .ok none := by rw [callable?, hcatch]
  have htransform : callable? c.shown "transform" = .ok none := by rw [callable?, htransform]
  rw [longhand_eq_ok (unknownKeys_shown c) hbase hcheck hcatch htransform, hoptional, hdefault]
  obtain ⟨types, validate, default, optional, recovery, transform⟩ := c
  obtain ⟨rfl, rfl, rfl⟩ : validate = none ∧ recovery = none ∧ transform = none :=
    ⟨hsilent.validate, hsilent.catch?, hsilent.transform⟩
  cases default with
  | none => rfl
  | some d =>
    have hd : Contract.declaredDefault d = some d := by
      cases d <;> first | rfl | exact absurd rfl hpresent
    dsimp only
    rw [hd]
    rfl

end Shown

end Pattern

/-! ## Explanations as schemas -/

namespace RuleTable

variable {registry : Registry} {o : PathOptions} {schema : Value} {t : RuleTable}

/-- The types of the rules of a document are names that are read as themselves. -/
theorem compile_spelled (hschema : schema.Json) (h : compile registry o schema = .ok t) :
    ∀ r ∈ t.ruleList, Shorthand.Spelled r.types := by
  obtain ⟨fs, read, hfs, hread, rfl⟩ := compile_eq_ok_iff.mp h
  intro r hr
  obtain ⟨e, he, rfl⟩ := List.mem_map.mp hr
  obtain ⟨x, hx, hreads⟩ := exists_of_mem_forall₂ hread (mem_of_mem_gathered he)
  exact Pattern.read_spelled (fragments_json hschema hfs x hx) hreads.contract

/-- The schema of one fragment that shows each rule of a table in longhand. -/
def shownSchema (t : RuleTable) : Entries Value :=
  t.rules.map fun e => (.str e.1, .dict false e.2.shown)

/-- A table whose rules ask no callback and have types that are read as themselves is the table of the
schema that shows it. -/
theorem compile_shownSchema (h : compile registry o schema = .ok t)
    (hsilent : ∀ r ∈ t.ruleList, r.Silent)
    (hspelled : ∀ r ∈ t.ruleList, Shorthand.Spelled r.types) :
    compile registry o (.dict false (Entries.ofPairs t.shownSchema)) = .ok t := by
  have ht := compile_compiled h
  obtain ⟨fs, read, -, hread, rfl⟩ := compile_eq_ok_iff.mp h
  have hshown : List.Forall₂ (Reads registry o) (shownSchema ⟨o, gathered read⟩) (gathered read) := by
    rw [shownSchema, List.forall₂_map_left_iff]
    refine List.forall₂_same.mpr fun e he => ⟨rfl, split_of_reads hread e he, ?_⟩
    have hr : e.2 ∈ ruleList ⟨o, gathered read⟩ := List.mem_map_of_mem he
    exact Pattern.longhand_shown registry e.2.toContract (hspelled _ hr) (hsilent _ hr)
      (ht.present _ hr)
  rw [compile_ofPairs hshown false, gathered_gathered]

end RuleTable

namespace Service

/-- What a row of an explanation has under a name. -/
def column (row : Value) (name : String) : Value :=
  (Value.field? name (row.entries?.getD [])).getD .absent

/-- The entry of a schema that a row of an explanation describes: the path, and a longhand with the
types, the optionality, and the default if the row has one. -/
def rowEntry (row : Value) : Value × Value :=
  (column row "path", .record ([("type", column row "types"), ("optional", column row "optional")] ++
    if (column row "has_default").truth then [("default", column row "default")] else []))

/-- The schema of one fragment that the rows of an explanation describe. -/
def rowsSchema (rows : List Value) : Value := .dict false (Entries.ofPairs (rows.map rowEntry))

/-- A row describes the rule that it was made from. -/
theorem rowEntry_ruleRow (key : String) (r : Rule) :
    rowEntry (ruleRow key r) = (.str key, .dict false r.shown) := by
  obtain ⟨⟨types, validate, default, optional, recovery, transform⟩, path⟩ := r
  cases default with
  | none => rfl
  | some d => rfl

/-- An explanation of a document tells the whole table: its rows describe a schema of one fragment
that compiles to the table again, with its keys, its rules, which have no callbacks, and the same
top-level keys and roots; and it shows these top-level keys, and how many rules there are. -/
theorem explain_lossless {schema : Value} (hschema : schema.Json) {registry : Registry}
    {o : PathOptions} {result : ServiceResult} (h : (explain registry o schema).2 = .ok result)
    (hok : result.ok = true) :
    ∃ t rows, RuleTable.compile registry o schema = .ok t ∧ (∀ r ∈ t.ruleList, r.Silent) ∧
      result.data.lookup "rules" = some (.list rows) ∧
      RuleTable.compile registry o (rowsSchema rows) = .ok t ∧
      result.data.lookup "positional" = some (.texts t.topLevelKeys) ∧
      result.data.lookup "count" = some (.int t.rules.length) := by
  obtain ⟨t, ht, rfl⟩ := exists_of_explain h hok
  have hsilent := RuleTable.compile_silent hschema ht
  refine ⟨t, t.rules.map fun r => ruleRow r.1 r.2, ht, hsilent, rfl, ?_, rfl, rfl⟩
  have hrows : (t.rules.map fun r => ruleRow r.1 r.2).map rowEntry = t.shownSchema := by
    rw [List.map_map]
    exact List.map_congr_left fun e _ => rowEntry_ruleRow e.1 e.2
  rw [rowsSchema, hrows]
  exact RuleTable.compile_shownSchema ht hsilent (RuleTable.compile_spelled hschema ht)

/-- Two fragments with a list of types, a default that is null and a field that may be left out, under
markers of their own. -/
theorem explain_lossless_null :
    let o : PathOptions := ⟨"::", "*"⟩
    let schema : Value := .list [
      .dict false [(.str "tags::*", .list [.str "string", .str "null "]), (.str "nick", .str "number")],
      .dict false [(.str "nick", .dict false [(.str "type", .str "string?"), (.str "default", .null)])]]
    schema.Json ∧ ∃ result t, (explain Registry.default o schema).2 = .ok result ∧ result.ok = true ∧
      RuleTable.compile Registry.default o schema = .ok t ∧
      RuleTable.compile Registry.default o (.dict false [
        (.str "tags::*", .dict false [(.str "type", .texts ["string", "null"]),
          (.str "optional", .bool false)]),
        (.str "nick", .dict false [(.str "type", .texts ["string"]), (.str "optional", .bool true),
          (.str "default", .null)])]) = .ok t ∧
      result.data.lookup "positional" = some (.texts ["nick"]) ∧
      result.data.lookup "count" = some (.int 2) := by
  intro o schema
  have hjson : schema.Json := by
    refine .list (List.forall_mem_cons.mpr
      ⟨.object ?_ ?_, List.forall_mem_singleton.mpr (.object ?_ ?_)⟩)
    · simp
    · simp only [List.forall_mem_cons]
      refine ⟨.list ?_, .str _, nofun⟩
      simp only [List.forall_mem_cons]
      exact ⟨.str _, .str _, nofun⟩
    · simp
    · refine List.forall_mem_singleton.mpr (.object (by simp) ?_)
      simp only [List.forall_mem_cons]
      exact ⟨.str _, .null, nofun⟩
  let tags : Rule := ⟨.ofTypes ["string", "null"], [.name "tags", .wildcard]⟩
  let nick : Rule :=
    ⟨{ Contract.ofTypes ["string"] with optional := true, default := some .null }, [.name "nick"]⟩
  let t : RuleTable := ⟨o, [("tags::*", tags), ("nick", nick)]⟩
  have ht : RuleTable.compile Registry.default o schema = .ok t := by cbv
  obtain ⟨t', rows, ht', -, hrows, hback, hpositional, hcount⟩ :=
    explain_lossless hjson (explain_of_compiled ht) rfl
  obtain rfl := Except.ok.inj (ht.symm.trans ht')
  obtain rfl : [ruleRow "tags::*" tags, ruleRow "nick" nick] = rows :=
    Value.list.inj (Option.some.inj hrows)
  exact ⟨hjson, _, t, explain_of_compiled ht, rfl, ht, hback, hpositional, hcount⟩

end Service

end ArgumentSchema
