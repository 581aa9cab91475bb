import ArgumentSchema.Proofs.Endings
import ArgumentSchema.Proofs.Steady
import Mathlib.Data.List.Perm.Basic

/-!
# Lists are validated element by element

What becomes of an element of a list depends on the element alone, not on its position and not on
its neighbours. So a list that is put together from two is settled like the two, one after the
other, and the places in the second one are moved up by the length of the first:

> `Descent.settle_sameTale`: a descent at two places of one path makes the same of a value.
> `Descent.settle_list_append`: settling two lists put together.
> `Validator.run_append`: where recoveries do not look at the key, checking two lists that are put
> together under a key gives what checking each of them gives.
-/

namespace ArgumentSchema

/-- A judgement that does not depend on where a value is. -/
def Placeless (table : RuleTable) (judge : Judge) : Prop :=
  ∀ r ∈ table.ruleList, ∀ p q v, (judge r p v).ending = (judge r q v).ending

/-- Visits that tell the same below two places. -/
structure Visit.Matches (p q : Place) (w w' : Visit) : Prop where
  place : ∃ rest, w.place = p ++ rest ∧ w'.place = q ++ rest
  rule : w.rule = w'.rule
  given : w.given = w'.given
  ending : w.outcome.ending = w'.outcome.ending

theorem Visit.Matches.upper {p q : Place} {step step' : Step} {w w' : Visit}
    (h : Visit.Matches (p ++ [step]) (q ++ [step']) w w') (hstep : step = step') :
    Visit.Matches p q w w' := by
  subst hstep
  obtain ⟨rest, hw, hw'⟩ := h.place
  refine ⟨⟨step :: rest, ?_, ?_⟩, h.rule, h.given, h.ending⟩
  · rw [hw, List.append_assoc, List.singleton_append]
  · rw [hw', List.append_assoc, List.singleton_append]

namespace Descent

variable {table : RuleTable} {judge : Judge}

/-! ## Places do not matter -/

/-- Two descents at two places that make the same of a value, with visits that tell the same. -/
def SameTale {β : Type} (p q : Place) (a b : β × List Visit) : Prop :=
  a.1 = b.1 ∧ List.Forall₂ (Visit.Matches p q) a.2 b.2

theorem SameTale.none {β : Type} (p q : Place) (b : β) : SameTale p q (b, []) (b, []) := ⟨rfl, .nil⟩

theorem SameTale.upper {β : Type} {p q : Place} {step : Step} {a b : β × List Visit}
    (h : SameTale (p ++ [step]) (q ++ [step]) a b) : SameTale p q a b :=
  ⟨h.1, h.2.imp fun _ _ hmatches => hmatches.upper rfl⟩

section Rows

variable {p q : Place}

theorem entries_sameTale {f g : String → Option Value → Option Value × List Visit}
    (hfg : ∀ s cell, SameTale p q (f s cell) (g s cell)) (names : List String) :
    ∀ es, SameTale p q (entries f names es) (entries g names es) := by
  induction names with
  | nil => exact fun es => SameTale.none p q es
  | cons s names ih =>
    intro es
    obtain ⟨hcell, hvisits⟩ := hfg s (Entries.find? (.str s) es)
    obtain ⟨hrest, hvisits'⟩ := ih (Entries.put s (f s (Entries.find? (.str s) es)).1 es)
    rw [entries, entries, ← hcell]
    exact ⟨hrest, List.rel_append hvisits hvisits'⟩

theorem items_sameTale {f g : Nat → Value → Option Value × List Visit}
    (hfg : ∀ i v, SameTale p q (f i v) (g i v)) (xs : List Value) :
    ∀ n, SameTale p q (items f n xs) (items g n xs) := by
  induction xs with
  | nil => exact fun n => SameTale.none p q []
  | cons v xs ih =>
    intro n
    obtain ⟨hcell, hvisits⟩ := hfg n v
    obtain ⟨hrest, hvisits'⟩ := ih (n + 1)
    refine ⟨?_, List.rel_append hvisits hvisits'⟩
    rw [items, items, hcell, hrest]

end Rows

section Place

variable {place place' : Place} {settle settle' : Value → Value × List Visit}
  (hplaceless : Placeless table judge) (hpath : Place.path place' = Place.path place)
  (hsettle : ∀ v, SameTale place place' (settle v) (settle' v))

include hplaceless hsettle

theorem judged_sameTale {r : Rule} (hr : r ∈ table.ruleList) (given : Value) (lingers : Bool) :
    SameTale place place' (judged judge settle r place given lingers)
      (judged judge settle' r place' given lingers) := by
  have hending := hplaceless r hr place place' given
  have hkept' := FieldOutcome.kept?_of_ending hending
  have hvisit : Visit.Matches place place' ⟨r, place, given, judge r place given⟩
      ⟨r, place', given, judge r place' given⟩ := ⟨⟨[], by simp⟩, rfl, rfl, hending⟩
  -- the judgements end alike, so both descents take the same branch
  unfold judged
  dsimp only
  rw [← hkept', ← FieldOutcome.state_of_ending hending]
  cases (judge r place given).kept? with
  | some v => exact ⟨congrArg some (hsettle v).1, .cons hvisit (hsettle v).2⟩
  | none =>
    refine ⟨rfl, .cons hvisit ?_⟩
    split
    · exact (hsettle given).2
    · exact .nil

include hpath

theorem entry_sameTale (cell : Option Value) :
    SameTale place place' (entry table judge settle place cell)
      (entry table judge settle' place' cell) := by
  cases hrule : table.ruleAt place.path with
  | some r =>
    have hr := (RuleTable.ruleAt_eq_some hrule).1
    rw [entry_ruled hrule, entry_ruled (hpath ▸ hrule)]
    exact judged_sameTale hplaceless hsettle hr _ _
  | none =>
    cases cell with
    | some v =>
      rw [entry_free hrule, entry_free (hpath ▸ hrule)]
      exact ⟨congrArg some (hsettle v).1, (hsettle v).2⟩
    | none =>
      rw [entry_missing hrule, entry_missing (hpath ▸ hrule)]
      exact ⟨congrArg unlessEmpty (hsettle _).1, (hsettle _).2⟩

theorem item_sameTale (lingering : Bool) (v : Value) :
    SameTale place place' (item table judge lingering settle place v)
      (item table judge lingering settle' place' v) := by
  cases hrule : table.ruleAt place.path with
  | some r =>
    have hr := (RuleTable.ruleAt_eq_some hrule).1
    rw [item_ruled hrule, item_ruled (hpath ▸ hrule)]
    exact judged_sameTale hplaceless hsettle hr _ _
  | none =>
    rw [item_free hrule, item_free (hpath ▸ hrule)]
    exact ⟨congrArg some (hsettle v).1, (hsettle v).2⟩

end Place

/-- A descent at two places of one path makes the same of a value, and its visits tell the same. -/
theorem settle_sameTale (hplaceless : Placeless table judge) (lingering : Bool) :
    ∀ place place', Place.path place' = Place.path place → ∀ v,
      SameTale place place' (settle table judge lingering place v)
        (settle table judge lingering place' v) := by
  refine place_induction table ?_ ?_
  · intro place hbelow place' hpath v
    rw [settle_nil hbelow, settle_nil (hpath ▸ hbelow)]
    exact SameTale.none _ _ v
  · intro place hbelow ih place' hpath v
    have hbelow' : table.below (Place.path place') ≠ [] := hpath ▸ hbelow
    have hkey : ∀ s cell, SameTale place place' (settleKey table judge lingering place s cell)
        (settleKey table judge lingering place' s cell) := by
      intro s cell
      have hpath' : Place.path (place' ++ [Step.key s]) = Place.path (place ++ [Step.key s]) := by
        rw [Place.path_key, Place.path_key, hpath]
      exact (entry_sameTale hplaceless hpath' (ih (.key s) _ hpath') cell).upper
    have hitem : ∀ i v, SameTale place place' (settleItem table judge lingering place i v)
        (settleItem table judge lingering place' i v) := by
      intro i v
      have hpath' : Place.path (place' ++ [Step.index i]) = Place.path (place ++ [Step.index i]) := by
        rw [Place.path_index, Place.path_index, hpath]
      exact (item_sameTale hplaceless hpath' (ih (.index i) _ hpath') lingering v).upper
    cases hentries : v.entries? with
    | some es =>
      obtain ⟨ordered, rfl⟩ := Value.eq_dict_of_entries? hentries
      rw [settle_dict hbelow, settle_dict hbelow', hpath]
      obtain ⟨hes, hvisits⟩ := entries_sameTale hkey (table.namesBelow place.path) es
      exact ⟨congrArg (Value.dict false) hes, hvisits⟩
    | none =>
      cases hitems : v.items? with
      | some xs =>
        rw [settle_items hbelow hitems, settle_items hbelow' hitems, hpath]
        split
        · obtain ⟨hxs, hvisits⟩ := items_sameTale hitem xs 0
          exact ⟨congrArg Value.list hxs, hvisits⟩
        · exact SameTale.none _ _ _
      | none =>
        rw [settle_scalar hentries hitems, settle_scalar hentries hitems]
        exact SameTale.none _ _ v

/-! ## Lists put together -/

theorem items_append (f : Nat → Value → Option Value × List Visit) (xs ys : List Value) (n : Nat) :
    items f n (xs ++ ys) =
      ((items f n xs).1 ++ (items f (n + xs.length) ys).1,
        (items f n xs).2 ++ (items f (n + xs.length) ys).2) := by
  induction xs generalizing n with
  | nil => rfl
  | cons x xs ih =>
    have hlength : n + (x :: xs).length = n + 1 + xs.length := by
      rw [List.length_cons]
      omega
    rw [List.cons_append, items, items, ih, hlength, List.append_assoc, List.append_assoc]

end Descent

/-- A place under a key with its first position in a list raised. -/
def Place.raised (m : Nat) : Place → Place
  | step :: .index i :: rest => step :: .index (i + m) :: rest
  | place => place

/-- Visits that tell the same, the first position of the second raised. -/
structure Visit.Raised (m : Nat) (w w' : Visit) : Prop where
  place : w'.place = w.place.raised m
  rule : w.rule = w'.rule
  given : w.given = w'.given
  ending : w.outcome.ending = w'.outcome.ending

namespace Descent

variable {table : RuleTable} {judge : Judge} {key : String}

theorem items_raised (hplaceless : Placeless table judge) (ys : List Value) (n m : Nat) :
    (items (settleItem table judge true [.key key]) n ys).1 =
        (items (settleItem table judge true [.key key]) (n + m) ys).1 ∧
      List.Forall₂ (Visit.Raised m) (items (settleItem table judge true [.key key]) n ys).2
        (items (settleItem table judge true [.key key]) (n + m) ys).2 := by
  induction ys generalizing n with
  | nil => exact ⟨rfl, .nil⟩
  | cons y ys ih =>
    -- both elements have the path of the wildcard, whatever their positions
    have hpath : Place.path ([.key key] ++ [Step.index (n + m)]) =
        Place.path ([.key key] ++ [Step.index n]) := rfl
    obtain ⟨hvalue, hvisits⟩ := item_sameTale hplaceless hpath
      (settle_sameTale hplaceless true _ _ hpath) true y
    obtain ⟨hrest, hvisits'⟩ := ih (n + 1)
    rw [show n + 1 + m = n + m + 1 by omega] at hrest hvisits'
    refine ⟨?_, List.rel_append (hvisits.imp fun w w' hmatches => ?_) hvisits'⟩
    · rw [items, items, hrest]
      exact congrArg (fun cell => cell.toList ++ _) hvalue
    · obtain ⟨rest, hw, hw'⟩ := hmatches.place
      refine ⟨?_, hmatches.rule, hmatches.given, hmatches.ending⟩
      rw [hw, hw']
      rfl

/-- A list put together from two is settled like the two, one after the other. -/
theorem settle_list_append (hplaceless : Placeless table judge) (xs ys : List Value) :
    ∃ xs' ys' ws, (settle table judge true [.key key] (.list xs)).1 = .list xs' ∧
      (settle table judge true [.key key] (.list ys)).1 = .list ys' ∧
      settle table judge true [.key key] (.list (xs ++ ys)) =
        (.list (xs' ++ ys'), (settle table judge true [.key key] (.list xs)).2 ++ ws) ∧
      List.Forall₂ (Visit.Raised xs.length) (settle table judge true [.key key] (.list ys)).2 ws := by
  by_cases hbelow : table.below (Place.path [.key key]) = []
  · simp only [settle_nil hbelow]
    exact ⟨xs, ys, [], rfl, rfl, rfl, .nil⟩
  · have hlist : ∀ zs : List Value, (Value.list zs).items? = some zs := fun _ => rfl
    simp only [settle_items hbelow (hlist _)]
    split
    · obtain ⟨hvalues, hvisits⟩ := @items_raised table judge key hplaceless ys 0 xs.length
      refine ⟨_, _, _, rfl, rfl, ?_, hvisits⟩
      rw [items_append, hvalues]
    · exact ⟨xs, ys, [], rfl, rfl, rfl, .nil⟩

end Descent

/-! ## A list under a root key -/

/-- The endings of outcomes under a root key, below the key itself. -/
def Run.endingsUnder (key : String) (outcomes : List (Place × FieldOutcome)) :
    List (Place × FieldState × Value × Option String) :=
  (outcomes.filter fun e => [.key key].isPrefixOf e.1 && decide (2 ≤ e.1.length)).map
    fun e => (e.1, e.2.ending)

namespace Field

variable {registry : Registry} {answer : Call → Value} {types : List String} {key : String}

/-- Nothing is called for a field of which only the types are asked. -/
theorem answered_ofTypes (cb : Callbacks) (v : Value) :
    Answered registry cb (.ofTypes types) key v := by
  unfold Answered evaluate
  cases matchType registry (.ofTypes types) v with
  | none => exact ⟨[], _, _, rfl⟩
  | some type => exact ⟨[], _, _, rfl⟩

/-- A list is kept where a list is asked for. -/
theorem kept?_list (harray : "array" ∈ types)
    (hbuiltin : registry.predicate? "array" = Registry.default.predicate? "array")
    (zs : List Value) :
    (outcome registry answer (.ofTypes types) key (.list zs)).kept? = some (.list zs) := by
  have haccepts : registry.isOfType (.list zs) "array" = true := by
    unfold Registry.isOfType
    rw [hbuiltin]
    rfl
  obtain ⟨type, htype⟩ : ∃ type, types.find? (registry.isOfType (.list zs)) = some type :=
    Option.isSome_iff_exists.mp (List.find?_isSome.mpr ⟨_, harray, haccepts⟩)
  have hmatch : matchType registry (.ofTypes types) (.list zs) = some type := by
    unfold matchType
    have hnonempty : (Contract.ofTypes types).types.isEmpty = false := by
      rw [List.isEmpty_eq_false_iff]
      exact List.ne_nil_of_mem harray
    rw [hnonempty, if_neg Bool.false_ne_true]
    exact htype
  unfold outcome evaluate
  rw [hmatch]
  rfl

end Field

namespace Descent

variable {table : RuleTable} {judge : Judge} {key : String}

theorem mem_namesBelow_nil (ht : table.Compiled) (hkey : key ∈ table.roots) :
    key ∈ table.namesBelow [] := by
  rw [RuleTable.roots, List.mem_eraseDups, List.mem_filterMap] at hkey
  obtain ⟨r, hr, hroot⟩ := hkey
  obtain ⟨s, rest, hpath⟩ := ht.rooted r hr
  rw [RuleTable.root, hpath] at hroot
  obtain rfl := Option.some.inj hroot
  exact RuleTable.mem_namesBelow.mpr ⟨r, hr, rest, hpath.symm⟩

/-- A root key keeps the lists that stand there: it has no rule, or its rule keeps them. -/
def KeepsLists (table : RuleTable) (judge : Judge) (key : String) : Prop :=
  ∀ r, table.ruleAt [.name key] = some r → ∀ zs, (judge r [.key key] (.list zs)).kept? = some (.list zs)

/-- What becomes of a list that the key keeps, after the visit of the key itself. -/
theorem settleKey_list (hkeeps : KeepsLists table judge key) (zs : List Value) :
    ∃ own : List Visit, (∀ w ∈ own, table.ruleAt [.name key] = some w.rule ∧ w.place = [.key key]) ∧
      settleKey table judge true [] key (some (.list zs)) =
        (some (settle table judge true [.key key] (.list zs)).1,
          own ++ (settle table judge true [.key key] (.list zs)).2) := by
  unfold settleKey
  rw [List.nil_append]
  cases hrule : table.ruleAt (Place.path [.key key]) with
  | some r =>
    rw [entry_ruled hrule, Option.getD_some, judged_kept (hkeeps r hrule zs)]
    refine ⟨[_], fun w hw => ?_, rfl⟩
    obtain rfl := List.mem_singleton.mp hw
    exact ⟨hrule, rfl⟩
  | none =>
    rw [entry_free hrule]
    exact ⟨[], by simp, rfl⟩

theorem find?_document (key s : String) (v : Value) :
    Entries.find? (.str s) [(.str key, v)] = if key = s then some v else none := by
  by_cases h : key = s
  · simp [Entries.find?, Value.sameKey_str, h]
  · simp [Entries.find?, Value.sameKey_str, h]

/-- The output of a list under a root key that keeps it. -/
theorem at?_output (ht : table.Compiled) (hkey : key ∈ table.roots)
    (hkeeps : KeepsLists table judge key) (zs : List Value) :
    (output table judge true [(.str key, .list zs)]).at? [.key key] =
      some (settle table judge true [.key key] (.list zs)).1 := by
  obtain ⟨own, -, hsettled⟩ := settleKey_list hkeeps zs
  have hname : key ∈ table.namesBelow (Place.path []) := mem_namesBelow_nil ht hkey
  rw [output, settle_plain]
  dsimp only [restricted]
  rw [Value.at?, Value.child?]
  show ((Entries.find? (.str key) (declared table _)).bind fun v => v.at? []) = _
  rw [find?_declared hkey, find?_entries (table.nodup_namesBelow _) hname, find?_document, if_pos rfl,
    hsettled]
  rfl

/-- What is visited in a document with a list under a root key that keeps it: what is visited below
the list, the key itself, and what is visited at the other names. -/
theorem mem_visits_document
    (hkeeps : KeepsLists table judge key) {zs : List Value} {w : Visit} :
    w ∈ visits table judge true [(.str key, .list zs)] →
      w ∈ (settle table judge true [.key key] (.list zs)).2 ∨
        (table.ruleAt [.name key] = some w.rule ∧ w.place = [.key key]) ∨
        ∃ s ∈ table.namesBelow [], s ≠ key ∧ w ∈ (settleKey table judge true [] s none).2 := by
  intro hw
  rw [mem_visits, settle_plain, entries_visits (table.nodup_namesBelow _)] at hw
  obtain ⟨s, hs, hw⟩ := List.mem_flatMap.mp hw
  rw [find?_document] at hw
  by_cases heq : key = s
  · subst heq
    obtain ⟨own, hown, hsettled⟩ := settleKey_list hkeeps zs
    rw [if_pos rfl, hsettled] at hw
    rcases List.mem_append.mp hw with hw | hw
    · exact Or.inr (Or.inl (hown w hw))
    · exact Or.inl hw
  · rw [if_neg heq] at hw
    exact Or.inr (Or.inr ⟨s, hs, Ne.symm heq, hw⟩)

theorem mem_visits_of_mem_list (ht : table.Compiled) (hkey : key ∈ table.roots)
    (hkeeps : KeepsLists table judge key) {zs : List Value} {w : Visit}
    (hw : w ∈ (settle table judge true [.key key] (.list zs)).2) :
    w ∈ visits table judge true [(.str key, .list zs)] := by
  obtain ⟨own, -, hsettled⟩ := settleKey_list hkeeps zs
  refine mem_visits.mpr (mem_settle_key (mem_namesBelow_nil ht hkey) ?_)
  rw [find?_document, if_pos rfl, hsettled]
  exact List.mem_append_right _ hw

/-- What is visited at the other names does not depend on the list. -/
theorem mem_visits_of_mem_other {s : String} (hs : s ∈ table.namesBelow []) (hne : s ≠ key)
    {w : Visit} (hw : w ∈ (settleKey table judge true [] s none).2) (v : Value) :
    w ∈ visits table judge true [(.str key, v)] := by
  refine mem_visits.mpr (mem_settle_key (s := s) hs ?_)
  rw [find?_document, if_neg (Ne.symm hne)]
  exact hw

/-- The outcomes under the key are those of the visits below the list. -/
theorem endingsUnder_perm (ht : table.Compiled) (hkey : key ∈ table.roots)
    (hkeeps : KeepsLists table judge key) (zs : List Value) :
    (Run.endingsUnder key ((visits table judge true [(.str key, .list zs)]).map
        fun w => (w.place, w.outcome))).Perm
      ((settle table judge true [.key key] (.list zs)).2.map fun w => (w.place, w.outcome.ending)) := by
  have hspread := settle_spread table judge [.key key] (.list zs)
  rw [Run.endingsUnder, List.filter_map, List.map_map]
  refine List.Perm.map _ ?_
  refine (List.perm_ext_iff_of_nodup ?_ (List.Nodup.of_map _ hspread.1.once)).mpr fun w => ?_
  · exact (List.Nodup.of_map _ (visits_spread ht judge _).once).filter _
  · rw [List.mem_filter]
    simp only [Function.comp, Bool.and_eq_true, List.isPrefixOf_iff_prefix, decide_eq_true_eq]
    constructor
    · rintro ⟨hw, hunder, hlength⟩
      rcases mem_visits_document hkeeps hw with hw | ⟨-, hplace⟩ | ⟨s, -, hne, hw⟩
      · exact hw
      · rw [hplace] at hlength
        exact absurd hlength (by simp)
      · -- a visit at another name is not under the key
        have hother :=
          (settleKey_spreadAt (settle_spread table judge ([] ++ [Step.key s])) none).2 w hw
        have hapart := Place.not_prefix_of_steps (fun heq => hne (Step.key.inj heq)) hother hunder
        exact absurd (List.prefix_refl _) hapart
    · intro hw
      have hext := hspread.2 w hw
      exact ⟨mem_visits_of_mem_list ht hkey hkeeps hw, hext.1, Place.length_lt_of_extends hext⟩

end Descent

/-! ## Checking lists put together -/

theorem map_eq_of_forall₂ {α β γ : Type} {f : α → γ} {g : β → γ} {as : List α} {bs : List β}
    (h : List.Forall₂ (fun a b => g b = f a) as bs) : bs.map g = as.map f := by
  induction h with
  | nil => rfl
  | cons hab _ ih => rw [List.map_cons, List.map_cons, hab, ih]

theorem Callbacks.calm_eq {cb : Callbacks} {call call' : Call} (h : cb call = cb call') :
    cb.calm call = cb.calm call' := by
  unfold Callbacks.calm
  rw [h]

/-- Where recoveries do not look at the key, judgements do not depend on the place. -/
theorem placeless_of_recoveries {registry : Registry} {cb : Callbacks} {table : RuleTable}
    (hrecoveries : ∀ r ∈ table.ruleList, ∀ f, r.catch? = some f → ∀ v t k k',
      cb ⟨f, v, t, some k⟩ = cb ⟨f, v, t, some k'⟩) :
    Placeless table (Field.judge registry cb.calm table) := by
  intro r hr p q v
  have hlike := @Field.evaluate_like registry (.answering cb.calm) r.toContract
    (p.write table.options) (q.write table.options)
    (fun f hf v t => congrArg Except.ok (Callbacks.calm_eq (hrecoveries r hr f hf v t _ _))) v [] []
  rw [Field.evaluate_answering, Field.evaluate_answering] at hlike
  cases hlike with
  | ok h => exact h

/-- The run over two lists put together comes to an end if those over each of them do: each of its
visits tells the same as one of theirs. -/
theorem Run.ends_append {registry : Registry} {cb : Callbacks} {table : RuleTable}
    (ht : table.Compiled)
    (hrecoveries : ∀ r ∈ table.ruleList, ∀ f, r.catch? = some f → ∀ x t k k',
      cb ⟨f, x, t, some k⟩ = cb ⟨f, x, t, some k'⟩)
    {key : String} (hkey : key ∈ table.roots)
    (hrule : ∀ r, table.ruleAt [.name key] = some r → ∃ types, r.toContract = .ofTypes types)
    (hkeeps : Descent.KeepsLists table (Field.judge registry cb.calm table) key)
    {xs ys : List Value} {before₁ before₂ calls₁ calls₂ : List Call} {f g : Finished}
    (hf : execute registry cb table [(.str key, .list xs)] before₁ = (.ok f, calls₁))
    (hg : execute registry cb table [(.str key, .list ys)] before₂ = (.ok g, calls₂))
    (before : List Call) :
    ∃ h calls, execute registry cb table [(.str key, .list (xs ++ ys))] before = (.ok h, calls) := by
  obtain ⟨xs', ys', ws, -, -, happend, hraised⟩ := @Descent.settle_list_append table
    (Field.judge registry cb.calm table) key (placeless_of_recoveries hrecoveries) xs ys
  have hendsf := (ends_iff ht).mp ⟨_, _, hf⟩
  have hendsg := (ends_iff ht).mp ⟨_, _, hg⟩
  refine (ends_iff ht).mpr fun w hw => ?_
  rcases Descent.mem_visits_document hkeeps hw with hw | ⟨hruled, -⟩ | ⟨s, hs, hne, hw⟩
  · rw [happend] at hw
    rcases List.mem_append.mp hw with hw | hw
    · exact hendsf w (Descent.mem_visits_of_mem_list ht hkey hkeeps hw)
    · obtain ⟨w₀, hw₀, hraise⟩ := exists_of_mem_forall₂ hraised hw
      have hanswered := hendsg w₀ (Descent.mem_visits_of_mem_list ht hkey hkeeps hw₀)
      have hr := (Descent.settle_judged _ _ w₀ hw₀).1
      obtain ⟨o, calls, hevaluate⟩ := hanswered.of_like
        (fun f hf x t => hrecoveries _ hr f hf x t _ (w.place.write table.options)) []
      rw [← hraise.rule, ← hraise.given]
      exact ⟨_, _, _, hevaluate⟩
  · obtain ⟨types, htypes⟩ := hrule _ hruled
    rw [htypes]
    exact Field.answered_ofTypes cb w.given
  · exact hendsf w (Descent.mem_visits_of_mem_other hs hne hw _)

namespace Validator

/-- Checking two lists that are put together: where recoveries do not look at the key, and the lists
stand under a declared root key without a rule of its own, or with one that asks only for types and
for `array` among them, the run over both comes to an end if those over each of them do, keeps at
the key what these keep, one after the other, and its outcomes below the key are those for the first
list and those for the second with their first position raised by the length of the first. -/
theorem run_append {registry : Registry} {o : PathOptions} {schema : Value} {v : Validator}
    (hv : compile registry o schema = .ok v) {cb : Callbacks}
    (hrecoveries : ∀ r ∈ v.table.ruleList, ∀ f, r.catch? = some f → ∀ x t k k',
      cb ⟨f, x, t, some k⟩ = cb ⟨f, x, t, some k'⟩)
    {key : String} (hkey : key ∈ v.table.roots)
    (hrule : ∀ r, v.table.ruleAt [.name key] = some r →
      (∃ types, r.toContract = .ofTypes types ∧ "array" ∈ types) ∧
        registry.predicate? "array" = Registry.default.predicate? "array")
    (xs ys : List Value) {calls calls₁ calls₁' calls₂ calls₂' : List Call} {f g : Run.Finished}
    (hf : v.run cb (.dict false [(.str key, .list xs)]) [] calls₁ = (.ok f, calls₁'))
    (hg : v.run cb (.dict false [(.str key, .list ys)]) [] calls₂ = (.ok g, calls₂')) :
    ∃ h calls', v.run cb (.dict false [(.str key, .list (xs ++ ys))]) [] calls = (.ok h, calls') ∧
      (∃ xs' ys', f.report.value.at? [.key key] = some (.list xs') ∧
        g.report.value.at? [.key key] = some (.list ys') ∧
        h.report.value.at? [.key key] = some (.list (xs' ++ ys'))) ∧
      (Run.endingsUnder key h.outcomes).Perm (Run.endingsUnder key f.outcomes ++
        (Run.endingsUnder key g.outcomes).map fun e => (e.1.raised xs.length, e.2)) := by
  obtain ⟨ht, hregistry⟩ := compile_compiled hv
  let judge := Field.judge v.registry cb.calm v.table
  have hplaceless : Placeless v.table judge := placeless_of_recoveries hrecoveries
  have hkeeps : Descent.KeepsLists v.table judge key := by
    intro r hr zs
    obtain ⟨⟨types, htypes, harray⟩, hbuiltin⟩ := hrule r hr
    show (Field.outcome v.registry cb.calm r.toContract _ (.list zs)).kept? = _
    rw [htypes]
    exact Field.kept?_list harray (hregistry ▸ hbuiltin) zs
  obtain ⟨es, hes, hrunf⟩ := exists_execute_of_run hf
  obtain rfl := Except.ok.inj hes
  obtain ⟨es, hes, hrung⟩ := exists_execute_of_run hg
  obtain rfl := Except.ok.inj hes
  obtain ⟨h, calls', hrun⟩ := Run.ends_append ht hrecoveries hkey
    (fun r hr => (hrule r hr).1.imp fun _ htypes => htypes.1) hkeeps hrunf hrung calls
  obtain rfl := Run.execute_eq_ok ht hrunf
  obtain rfl := Run.execute_eq_ok ht hrung
  obtain ⟨xs', ys', ws, hxs, hys, happend, hraised⟩ :=
    @Descent.settle_list_append v.table judge key hplaceless xs ys
  obtain rfl := Run.execute_eq_ok ht hrun
  refine ⟨_, calls', run_of_execute rfl hrun, ⟨xs', ys', ?_, ?_, ?_⟩, ?_⟩
  · rw [← hxs]
    exact Descent.at?_output ht hkey hkeeps xs
  · rw [← hys]
    exact Descent.at?_output ht hkey hkeeps ys
  · have hvalue := Descent.at?_output ht hkey hkeeps (xs ++ ys)
    rw [happend] at hvalue
    exact hvalue
  · -- the visits of the second list are raised, and so are their endings
    have hperm := Descent.endingsUnder_perm ht hkey hkeeps (xs ++ ys)
    rw [happend, List.map_append] at hperm
    refine hperm.trans (List.Perm.append ?_ ?_)
    · exact (Descent.endingsUnder_perm ht hkey hkeeps xs).symm
    · have hraise : ws.map (fun w => (w.place, w.outcome.ending)) =
          ((Descent.settle v.table judge true [.key key] (.list ys)).2.map
            fun w => (w.place, w.outcome.ending)).map fun e => (e.1.raised xs.length, e.2) := by
        rw [List.map_map]
        exact map_eq_of_forall₂ (hraised.imp fun w w' hraise => by
          rw [hraise.place, ← hraise.ending]
          rfl)
      rw [hraise]
      exact ((Descent.endingsUnder_perm ht hkey hkeeps ys).map _).symm

/-- Lists with elements that a recovery replaces. -/
theorem run_append_recovered :
    let zero : Value := .callback "zero" []
    let schema : Value := .dict false [(.str "a", .str "array"),
      (.str "a.$", .dict false [(.str "type", .str "number"), (.str "catch", zero)])]
    let cb : Callbacks := fun _ => .ok (.int 0)
    let xs : List Value := [.int 1, .str "x"]
    let ys : List Value := [.str "y"]
    ∃ v f g calls₁ calls₂, compile Registry.default .default schema = .ok v ∧
      "a" ∈ v.table.roots ∧
      v.run cb (.dict false [(.str "a", .list xs)]) [] [] = (.ok f, calls₁) ∧
      v.run cb (.dict false [(.str "a", .list ys)]) [] [] = (.ok g, calls₂) ∧
      f.report.value.at? [.key "a"] = some (.list [.int 1, .int 0]) ∧
      g.report.value.at? [.key "a"] = some (.list [.int 0]) ∧
      ∃ h calls', v.run cb (.dict false [(.str "a", .list (xs ++ ys))]) [] [] = (.ok h, calls') ∧
        (∃ xs' ys', f.report.value.at? [.key "a"] = some (.list xs') ∧
          g.report.value.at? [.key "a"] = some (.list ys') ∧
          h.report.value.at? [.key "a"] = some (.list (xs' ++ ys'))) ∧
        (Run.endingsUnder "a" h.outcomes).Perm (Run.endingsUnder "a" f.outcomes ++
          (Run.endingsUnder "a" g.outcomes).map fun e => (e.1.raised xs.length, e.2)) := by
  intro zero schema cb xs ys
  let r : Rule := ⟨.ofTypes ["array"], [.name "a"]⟩
  let r' : Rule := ⟨{ Contract.ofTypes ["number"] with catch? := some zero }, [.name "a", .wildcard]⟩
  let v : Validator := ⟨⟨.default, [("a", r), ("a.$", r')]⟩, Registry.default⟩
  let f : Run.Finished := ⟨⟨.dict false [(.str "a", .list [.int 1, .int 0])],
      [("a", .list xs), ("a.0", .int 1), ("a.1", .int 0)], [], []⟩,
    [([.key "a"], ⟨"a", .matched, .list xs, some "array", none⟩),
      ([.key "a", .index 0], ⟨"a.0", .matched, .int 1, some "number", none⟩),
      ([.key "a", .index 1], ⟨"a.1", .caught, .int 0, some "number", none⟩)]⟩
  let g : Run.Finished := ⟨⟨.dict false [(.str "a", .list [.int 0])],
      [("a", .list ys), ("a.0", .int 0)], [], []⟩,
    [([.key "a"], ⟨"a", .matched, .list ys, some "array", none⟩),
      ([.key "a", .index 0], ⟨"a.0", .caught, .int 0, some "number", none⟩)]⟩
  have hv : compile Registry.default .default schema = .ok v := by cbv
  have hkey : "a" ∈ v.table.roots := by
    rw [show v.table.roots = ["a"] by cbv]
    exact List.mem_singleton_self _
  have hrule : ∀ s, v.table.ruleAt [.name "a"] = some s →
      (∃ types, s.toContract = .ofTypes types ∧ "array" ∈ types) ∧
        Registry.default.predicate? "array" = Registry.default.predicate? "array" := by
    intro s hs
    rw [show v.table.ruleAt [.name "a"] = some r by cbv] at hs
    obtain rfl := Option.some.inj hs
    exact ⟨⟨["array"], rfl, List.mem_singleton_self _⟩, rfl⟩
  have hf : v.run cb (.dict false [(.str "a", .list xs)]) [] [] =
      (.ok f, [⟨zero, .str "x", "string", some "a.1"⟩]) := by cbv
  have hg : v.run cb (.dict false [(.str "a", .list ys)]) [] [] =
      (.ok g, [⟨zero, .str "y", "string", some "a.0"⟩]) := by cbv
  exact ⟨v, f, g, _, _, hv, hkey, hf, hg, by cbv, by cbv,
    run_append hv (fun _ _ _ _ _ _ _ _ => rfl) hkey hrule xs ys hf hg⟩

end Validator

end ArgumentSchema
