import ArgumentSchema.Proofs.Entries
import Mathlib.Data.List.Basic
import Mathlib.Data.List.Forall2
import Mathlib.Data.List.Induction

/-!
# Steps that keep a log

A step changes a state and tells what it did. `chain` does steps one after the other and puts their
logs together. Here the state is a container: `atKey` is a step of one key of a mapping, `atItems`
one of all elements of a list, and a chain of such steps is taken apart by key and by element.

> `chain_atKey`: a chain of steps of single keys does to the entries what the chains of the single
> keys do, one key after the other.
> `chain_atItems`: a chain of steps of all elements does to a list what the chains of the single
> elements do.

The logs come in another order then. They agree in what matters: `SameBy label` says that two logs
have the same records under each label, in the same order.
-/

namespace ArgumentSchema

variable {σ ω κ ι δ : Type}

/-- Does steps one after the other. -/
def chain : List (σ → σ × List ω) → σ → σ × List ω
  | [], s => (s, [])
  | f :: fs, s => ((chain fs (f s).1).1, (f s).2 ++ (chain fs (f s).1).2)

theorem chain_append (fs gs : List (σ → σ × List ω)) (s : σ) :
    chain (fs ++ gs) s =
      ((chain gs (chain fs s).1).1, (chain fs s).2 ++ (chain gs (chain fs s).1).2) := by
  induction fs generalizing s with
  | nil => simp [chain]
  | cons f fs ih => simp [chain, ih]

theorem chain_concat (fs : List (σ → σ × List ω)) (g : σ → σ × List ω) (s : σ) :
    chain (fs ++ [g]) s = ((g (chain fs s).1).1, (chain fs s).2 ++ (g (chain fs s).1).2) := by
  simp [chain_append, chain]

/-- Steps that do nothing can be left out. -/
theorem chain_filter (p : ι → Bool) (f : ι → σ → σ × List ω) (L : List ι) (s : σ)
    (h : ∀ i ∈ L, p i = false → ∀ s, f i s = (s, [])) :
    chain (L.map f) s = chain ((L.filter p).map f) s := by
  induction L generalizing s with
  | nil => rfl
  | cons i L ih =>
    have ih := fun s => ih s fun j hj => h j (List.mem_cons_of_mem _ hj)
    cases hp : p i with
    | true => rw [List.filter_cons_of_pos hp, List.map_cons, List.map_cons, chain, chain, ih]
    | false =>
      rw [List.filter_cons_of_neg (by simp [hp]), List.map_cons, chain,
        h i (List.mem_cons_self ..) hp, ih, List.nil_append]

/-- Steps on a part of a state, or on a state in another form, are steps on the state. -/
theorem chain_map {τ : Type} (wrap : σ → τ) {f : ι → σ → σ × List ω} {g : ι → τ → τ × List ω}
    {L : List ι} (h : ∀ i ∈ L, ∀ s, g i (wrap s) = (wrap (f i s).1, (f i s).2)) (s : σ) :
    chain (L.map g) (wrap s) = (wrap (chain (L.map f) s).1, (chain (L.map f) s).2) := by
  induction L generalizing s with
  | nil => rfl
  | cons i L ih =>
    rw [List.map_cons, List.map_cons, chain, chain, h i (List.mem_cons_self ..),
      ih fun j hj => h j (List.mem_cons_of_mem _ hj)]

/-- What holds of the records of each step holds of the records of a chain. -/
theorem forall_mem_chain {p : ω → Prop} {fs : List (σ → σ × List ω)}
    (h : ∀ f ∈ fs, ∀ s, ∀ w ∈ (f s).2, p w) (s : σ) : ∀ w ∈ (chain fs s).2, p w := by
  induction fs generalizing s with
  | nil => intro w hw; cases hw
  | cons f fs ih =>
    intro w hw
    rcases List.mem_append.mp hw with hw | hw
    · exact h f (List.mem_cons_self ..) s w hw
    · exact ih (fun g hg => h g (List.mem_cons_of_mem _ hg)) _ w hw

/-! ## Logs that agree label by label -/

/-- Two logs have the same records under each label, in the same order. -/
def SameBy [DecidableEq κ] (label : ω → κ) (l l' : List ω) : Prop :=
  ∀ k, (l.filter fun w => label w = k) = l'.filter fun w => label w = k

namespace SameBy

variable [DecidableEq κ] {label : ω → κ} {l l' l₁ l₂ l₁' l₂' : List ω}

theorem refl (l : List ω) : SameBy label l l := fun _ => rfl

theorem trans {l'' : List ω} (h : SameBy label l l') (h' : SameBy label l' l'') :
    SameBy label l l'' := fun k => (h k).trans (h' k)

theorem append (h₁ : SameBy label l₁ l₁') (h₂ : SameBy label l₂ l₂') :
    SameBy label (l₁ ++ l₂) (l₁' ++ l₂') := by
  intro k
  rw [List.filter_append, List.filter_append, h₁ k, h₂ k]

/-- Records that come first do not matter. -/
theorem append_left (l : List ω) (h : SameBy label l₁ l₁') : SameBy label (l ++ l₁) (l ++ l₁') :=
  append (refl l) h

/-- Records under one label change places with records under other labels. -/
theorem swap {k : κ} (h₁ : ∀ w ∈ l₁, label w ≠ k) (h₂ : ∀ w ∈ l₂, label w = k) :
    SameBy label (l₁ ++ l₂) (l₂ ++ l₁) := by
  intro j
  rw [List.filter_append, List.filter_append]
  by_cases hj : j = k
  · have : (l₁.filter fun w => label w = j) = [] :=
      List.filter_eq_nil_iff.mpr fun w hw => by simpa [hj] using h₁ w hw
    rw [this, List.nil_append, List.append_nil]
  · have : (l₂.filter fun w => label w = j) = [] :=
      List.filter_eq_nil_iff.mpr fun w hw => by simpa [h₂ w hw] using Ne.symm hj
    rw [this, List.nil_append, List.append_nil]

end SameBy

/-- The log of a chain comes step by step, so it is in order by its labels. -/
theorem chain_log [DecidableEq κ] (label : ω → κ) (tag : ι → κ) {f : ι → σ → σ × List ω}
    {L : List ι} (htag : ∀ i ∈ L, ∀ s, ∀ w ∈ (f i s).2, label w = tag i)
    (hnd : (L.map tag).Nodup) (s : σ) :
    (chain (L.map f) s).2 =
      L.flatMap fun i => (chain (L.map f) s).2.filter fun w => label w = tag i := by
  induction L generalizing s with
  | nil => rfl
  | cons i L ih =>
    obtain ⟨hi, hnd⟩ := List.nodup_cons.mp hnd
    have htag' := fun j hj => htag j (List.mem_cons_of_mem i hj)
    have hlater : ∀ w ∈ (chain (L.map f) (f i s).1).2, label w ≠ tag i := by
      refine forall_mem_chain ?_ _
      intro g hg s w hw
      obtain ⟨j, hj, rfl⟩ := List.mem_map.mp hg
      rw [htag' j hj s w hw]
      exact fun h => hi (h ▸ List.mem_map_of_mem hj)
    have hown : ((chain ((i :: L).map f) s).2.filter fun w => label w = tag i) = (f i s).2 := by
      rw [List.map_cons, chain, List.filter_append, List.filter_eq_self.mpr, List.filter_eq_nil_iff.mpr,
        List.append_nil]
      · intro w hw
        simpa using hlater w hw
      · intro w hw
        simpa using htag i (List.mem_cons_self ..) s w hw
    have hothers : ∀ j ∈ L, ((chain ((i :: L).map f) s).2.filter fun w => label w = tag j) =
        (chain (L.map f) (f i s).1).2.filter fun w => label w = tag j := by
      intro j hj
      rw [List.map_cons, chain, List.filter_append, List.filter_eq_nil_iff.mpr, List.nil_append]
      intro w hw
      rw [htag i (List.mem_cons_self ..) s w hw]
      simpa using fun h : tag i = tag j => hi (h ▸ List.mem_map_of_mem hj)
    rw [List.flatMap_cons, hown, List.flatMap_congr hothers, ← ih htag' hnd]
    rfl

/-! ## Lists side by side -/

theorem exists_of_mem_forall₂ {α β : Type} {R : α → β → Prop} {as : List α} {bs : List β} {b : β}
    (h : List.Forall₂ R as bs) (hb : b ∈ bs) : ∃ a ∈ as, R a b := by
  induction h with
  | nil => cases hb
  | cons hab _ ih =>
    rcases List.mem_cons.mp hb with rfl | hb
    · exact ⟨_, List.mem_cons_self .., hab⟩
    · obtain ⟨a, ha, hab'⟩ := ih hb
      exact ⟨a, List.mem_cons_of_mem _ ha, hab'⟩

theorem exists_of_forall₂_append {α β : Type} {R : α → β → Prop} {as as' : List α} {bs : List β}
    (h : List.Forall₂ R (as ++ as') bs) :
    ∃ cs cs', bs = cs ++ cs' ∧ List.Forall₂ R as cs ∧ List.Forall₂ R as' cs' := by
  induction as generalizing bs with
  | nil => exact ⟨[], bs, rfl, .nil, h⟩
  | cons a as ih =>
    obtain ⟨b, rest, hab, hrest, rfl⟩ := List.forall₂_cons_left_iff.mp h
    obtain ⟨cs, cs', rfl, hcs, hcs'⟩ := ih hrest
    exact ⟨b :: cs, cs', rfl, .cons hab hcs, hcs'⟩

/-! ## Names in the order of first mention -/

theorem eraseDups_concat [DecidableEq κ] (as : List κ) (a : κ) :
    (as ++ [a]).eraseDups = if a ∈ as then as.eraseDups else as.eraseDups ++ [a] := by
  rw [List.eraseDups_append]
  by_cases h : a ∈ as <;> simp [List.removeAll, List.eraseDups_cons, h]

theorem nodup_eraseDups [DecidableEq κ] (as : List κ) : as.eraseDups.Nodup := by
  induction as using List.reverseRecOn with
  | nil => simp
  | append_singleton as a ih =>
    rw [eraseDups_concat]
    split
    · exact ih
    · next h =>
      rw [List.nodup_append]
      refine ⟨ih, by simp, ?_⟩
      intro b hb c hc hbc
      rw [List.mem_singleton.mp hc] at hbc
      exact h (hbc ▸ List.mem_eraseDups.mp hb)

theorem eraseDups_of_nodup [DecidableEq κ] {as : List κ} (h : as.Nodup) : as.eraseDups = as := by
  induction as using List.reverseRecOn with
  | nil => rfl
  | append_singleton as a ih =>
    rw [List.nodup_append] at h
    have hnew : a ∉ as := fun hmem => h.2.2 a hmem a (List.mem_singleton_self _) rfl
    rw [eraseDups_concat, if_neg hnew, ih h.1]

/-- Names that have been mentioned can be mentioned again. -/
theorem eraseDups_append_of_subset [DecidableEq κ] {as bs : List κ} (h : bs ⊆ as) (cs : List κ) :
    (as ++ bs ++ cs).eraseDups = (as ++ cs).eraseDups := by
  have hnone : bs.removeAll as = [] :=
    List.filter_eq_nil_iff.mpr fun b hb => by simpa using h hb
  rw [List.append_assoc, List.eraseDups_append, List.removeAll, List.filter_append,
    ← List.removeAll, hnone, List.nil_append, List.eraseDups_append]
  rfl

/-- A name that is mentioned splits the names: it does not occur before it or after it. -/
theorem exists_eraseDups_eq [DecidableEq κ] {as : List κ} {a : κ} (h : a ∈ as) :
    ∃ pre post, as.eraseDups = pre ++ a :: post ∧ (∀ b ∈ pre, b ≠ a) ∧ ∀ b ∈ post, b ≠ a := by
  obtain ⟨pre, post, hsplit, hpre⟩ := List.eq_append_cons_of_mem (List.mem_eraseDups.mpr h)
  have hnd := nodup_eraseDups as
  rw [hsplit, List.nodup_append] at hnd
  refine ⟨pre, post, hsplit, ?_, ?_⟩
  · rintro b hb rfl
    exact hpre hb
  · rintro b hb rfl
    exact (List.nodup_cons.mp hnd.2.1).1 hb

/-! ## Steps of single keys -/

open Entries (find? put)

/-- A step of what stands under a name. -/
def atKey (s : String) (f : Option δ → Option δ × List ω) (es : Entries δ) :
    Entries δ × List ω :=
  (put s (f (find? (.str s) es)).1 es, (f (find? (.str s) es)).2)

/-- Steps of single keys leave the other keys alone. -/
theorem find?_chain_atKey_ne (f : ι → Option δ → Option δ × List ω) (name : ι → String)
    {L : List ι} {s : String} (h : ∀ i ∈ L, name i ≠ s) (es : Entries δ) :
    find? (.str s) (chain (L.map fun i => atKey (name i) (f i)) es).1 = find? (.str s) es := by
  induction L generalizing es with
  | nil => rfl
  | cons i L ih =>
    rw [List.map_cons, chain, ih fun j hj => h j (List.mem_cons_of_mem _ hj)]
    exact Entries.find?_put_ne (h i (List.mem_cons_self ..)) _ es

/-- A change of a name moves across steps of other names, unless it adds the name. -/
theorem put_chain_atKey (f : ι → Option δ → Option δ × List ω) (name : ι → String) {L : List ι}
    {s : String} (h : ∀ i ∈ L, name i ≠ s) {a : Option δ} {es : Entries δ}
    (ha : find? (.str s) es = none → a = none) :
    chain (L.map fun i => atKey (name i) (f i)) (put s a es) =
      (put s a (chain (L.map fun i => atKey (name i) (f i)) es).1,
        (chain (L.map fun i => atKey (name i) (f i)) es).2) := by
  induction L generalizing es with
  | nil => rfl
  | cons i L ih =>
    have hi : name i ≠ s := h i (List.mem_cons_self ..)
    have hstep : atKey (name i) (f i) (put s a es) =
        (put s a (atKey (name i) (f i) es).1, (atKey (name i) (f i) es).2) := by
      simp only [atKey, Entries.find?_put_ne hi.symm]
      rw [Entries.put_comm hi.symm ha]
    have ha' : find? (.str s) (atKey (name i) (f i) es).1 = none → a = none := by
      intro hn
      rw [atKey, Entries.find?_put_ne hi] at hn
      exact ha hn
    rw [List.map_cons, chain, chain, hstep, ih (fun j hj => h j (List.mem_cons_of_mem _ hj)) ha']

variable (f : ι → Option δ → Option δ × List ω) (name : ι → String)

/-- The steps of one name, out of many. -/
def ofKey (s : String) (L : List ι) : List (Option δ → Option δ × List ω) :=
  (L.filter fun i => name i == s).map f

/-- Steps of the given names, all those of a name together. -/
def byKey (L : List ι) (names : List String) : Entries δ → Entries δ × List ω :=
  chain (names.map fun s => atKey s (chain (ofKey f name s L)))

/-- Steps of single keys, gathered by key in the order of first mention. -/
def gathered (L : List ι) : Entries δ → Entries δ × List ω :=
  byKey f name L (L.map name).eraseDups

theorem ofKey_concat (s : String) (L : List ι) (i : ι) :
    ofKey f name s (L ++ [i]) = ofKey f name s L ++ if name i = s then [f i] else [] := by
  by_cases h : name i = s <;> simp [ofKey, List.filter_append, h]

theorem ofKey_eq_nil {s : String} {L : List ι} (h : s ∉ L.map name) : ofKey f name s L = [] := by
  rw [ofKey, List.filter_eq_nil_iff.mpr, List.map_nil]
  intro i hi hs
  exact h (List.mem_map.mpr ⟨i, hi, by simpa using hs⟩)

theorem find?_byKey_ne {L : List ι} {names : List String} {s : String} (h : ∀ t ∈ names, t ≠ s)
    (es : Entries δ) : find? (.str s) (byKey f name L names es).1 = find? (.str s) es :=
  find?_chain_atKey_ne (fun t => chain (ofKey f name t L)) id h es

theorem put_byKey {L : List ι} {names : List String} {s : String} (h : ∀ t ∈ names, t ≠ s)
    {a : Option δ} {es : Entries δ} (ha : find? (.str s) es = none → a = none) :
    byKey f name L names (put s a es) =
      (put s a (byKey f name L names es).1, (byKey f name L names es).2) :=
  put_chain_atKey (fun t => chain (ofKey f name t L)) id h ha

/-- A further step does not matter where its name is not asked for. -/
theorem byKey_concat_ne {L : List ι} {i : ι} {names : List String} (h : ∀ t ∈ names, t ≠ name i) :
    byKey f name (L ++ [i]) names = byKey f name L names := by
  unfold byKey
  congr 1
  refine List.map_congr_left fun t ht => ?_
  rw [ofKey_concat, if_neg (h t ht).symm, List.append_nil]

theorem byKey_split (L : List ι) (pre post : List String) (s : String) (es : Entries δ) :
    byKey f name L (pre ++ s :: post) es =
      let first := byKey f name L pre es
      let own := chain (ofKey f name s L) (find? (.str s) first.1)
      let last := byKey f name L post (put s own.1 first.1)
      (last.1, first.2 ++ (own.2 ++ last.2)) := by
  rw [byKey, List.map_append, List.map_cons, chain_append, chain]
  rfl

/-- Every record of gathered steps is a record of one of the steps. -/
theorem exists_of_mem_byKey {L : List ι} {names : List String} {es : Entries δ} {w : ω}
    (h : w ∈ (byKey f name L names es).2) : ∃ i ∈ L, ∃ c, w ∈ (f i c).2 := by
  have hcell : ∀ t c, ∀ w ∈ (chain (ofKey f name t L) c).2, ∃ i ∈ L, ∃ c, w ∈ (f i c).2 := by
    intro t c
    refine forall_mem_chain ?_ c
    intro g hg c w hw
    obtain ⟨i, hi, rfl⟩ := List.mem_map.mp hg
    exact ⟨i, (List.mem_filter.mp hi).1, c, hw⟩
  refine forall_mem_chain (p := fun w => ∃ i ∈ L, ∃ c, w ∈ (f i c).2) ?_ es w h
  intro g hg s w hw
  obtain ⟨t, -, rfl⟩ := List.mem_map.mp hg
  exact hcell t _ w hw

/-- What stands under a name after gathered steps is what the chain of that name makes of it. -/
theorem find?_gathered (s : String) (L : List ι) (es : Entries δ) :
    find? (.str s) (gathered f name L es).1 =
      (chain (ofKey f name s L) (find? (.str s) es)).1 := by
  by_cases hs : s ∈ L.map name
  · obtain ⟨pre, post, hsplit, hpre, hpost⟩ := exists_eraseDups_eq hs
    rw [gathered, hsplit, byKey_split]
    simp only []
    rw [find?_byKey_ne f name hpost, Entries.find?_put_self, find?_byKey_ne f name hpre]
  · rw [ofKey_eq_nil f name hs, gathered]
    refine find?_byKey_ne f name ?_ es
    rintro t ht rfl
    exact hs (List.mem_eraseDups.mp ht)

/-- A further step of a new name comes last. -/
theorem gathered_concat_new {L : List ι} {i : ι} (hi : name i ∉ L.map name) (es : Entries δ) :
    gathered f name (L ++ [i]) es =
      let before := gathered f name L es
      ((atKey (name i) (f i) before.1).1, before.2 ++ (atKey (name i) (f i) before.1).2) := by
  have hne : ∀ t ∈ (L.map name).eraseDups, t ≠ name i := by
    rintro t ht rfl
    exact hi (List.mem_eraseDups.mp ht)
  rw [gathered, List.map_append, List.map_singleton, eraseDups_concat, if_neg hi, byKey_split,
    byKey_concat_ne f name hne, ofKey_concat, if_pos rfl, ofKey_eq_nil f name hi]
  simp [gathered, byKey, atKey, chain]

/-- A further step of a name that was met before joins the earlier ones of its name, if it does not
bring back what they have removed. -/
theorem gathered_concat_old {L : List ι} {i : ι} (hi : name i ∈ L.map name) (es : Entries δ)
    (hback : find? (.str (name i)) (gathered f name L es).1 = none → (f i none).1 = none) :
    (gathered f name (L ++ [i]) es).1 = (atKey (name i) (f i) (gathered f name L es).1).1 ∧
    ∃ l₁ l₂, (gathered f name L es).2 = l₁ ++ l₂ ∧
      (gathered f name (L ++ [i]) es).2 =
        l₁ ++ ((atKey (name i) (f i) (gathered f name L es).1).2 ++ l₂) ∧
      ∀ w ∈ l₂, ∃ j ∈ L, ∃ c, w ∈ (f j c).2 := by
  have hcell := find?_gathered f name (name i) L es
  obtain ⟨pre, post, hsplit, hpre, hpost⟩ := exists_eraseDups_eq hi
  have hnew : gathered f name (L ++ [i]) es = byKey f name (L ++ [i]) (pre ++ name i :: post) es := by
    rw [gathered, List.map_append, List.map_singleton, eraseDups_concat, if_pos hi, hsplit]
  rw [hnew, byKey_split, byKey_concat_ne f name hpre, byKey_concat_ne f name hpost, ofKey_concat,
    if_pos rfl]
  rw [hcell] at hback
  rw [atKey, hcell, gathered, hsplit, byKey_split]
  simp only [find?_byKey_ne f name hpre, chain_concat]
  generalize byKey f name L pre es = first at hback ⊢
  generalize chain (ofKey f name (name i) L) (find? (.str (name i)) es) = own at hback ⊢
  have hkeep : own.1 = none → (f i own.1).1 = none := by
    intro h
    rw [h]
    exact hback h
  have hnone : find? (.str (name i)) (put (name i) own.1 first.1) = none →
      (f i own.1).1 = none := by
    rw [Entries.find?_put_self]
    exact hkeep
  have hmove := put_byKey f name (L := L) hpost hnone
  rw [Entries.put_put_self hkeep] at hmove
  rw [hmove]
  refine ⟨rfl, first.2 ++ own.2, (byKey f name L post (put (name i) own.1 first.1)).2, ?_, ?_, ?_⟩
  · simp
  · simp
  · intro w hw
    exact exists_of_mem_byKey f name hw

/-- A chain of steps of single keys does what the gathered steps do, if no step brings back what
the earlier steps of its key have removed. The records are labelled by their steps. -/
theorem chain_atKey [DecidableEq κ] (label : ω → κ) (tag : ι → κ) (es : Entries δ) {L : List ι}
    (htag : ∀ i ∈ L, ∀ c, ∀ w ∈ (f i c).2, label w = tag i) (hnd : (L.map tag).Nodup)
    (hsteady : ∀ pre i post, L = pre ++ i :: post → name i ∈ pre.map name →
      (chain (ofKey f name (name i) pre) (find? (.str (name i)) es)).1 = none →
      (f i none).1 = none) :
    (chain (L.map fun i => atKey (name i) (f i)) es).1 = (gathered f name L es).1 ∧
    SameBy label (chain (L.map fun i => atKey (name i) (f i)) es).2 (gathered f name L es).2 := by
  induction L using List.reverseRecOn with
  | nil => exact ⟨rfl, SameBy.refl _⟩
  | append_singleton L i ih =>
    rw [List.map_append, List.nodup_append] at hnd
    obtain ⟨ihes, ihlog⟩ := ih
      (fun j hj => htag j (List.mem_append_left _ hj)) hnd.1
      (fun pre j post h => hsteady pre j (post ++ [i]) (by rw [h]; simp))
    rw [List.map_append, List.map_singleton, chain_concat, ihes]
    by_cases hi : name i ∈ L.map name
    · have hback : find? (.str (name i)) (gathered f name L es).1 = none →
          (f i none).1 = none := by
        rw [find?_gathered]
        exact hsteady L i [] rfl hi
      obtain ⟨hes, l₁, l₂, hold, hnew, hl₂⟩ := gathered_concat_old f name hi es hback
      rw [hes, hnew]
      rw [hold] at ihlog
      refine ⟨rfl, ?_⟩
      -- the last step is moved to the others of its key, past those that come between
      have hswap : SameBy label (l₂ ++ (atKey (name i) (f i) (gathered f name L es).1).2)
          ((atKey (name i) (f i) (gathered f name L es).1).2 ++ l₂) := by
        refine SameBy.swap (k := tag i) ?_ ?_
        · intro w hw
          obtain ⟨j, hj, c, hwj⟩ := hl₂ w hw
          rw [htag j (List.mem_append_left _ hj) c w hwj]
          exact hnd.2.2 _ (List.mem_map_of_mem hj) _ (by simp)
        · exact htag i (by simp) _
      have h := SameBy.append_left l₁ hswap
      rw [← List.append_assoc] at h
      exact (SameBy.append ihlog (SameBy.refl _)).trans h
    · rw [gathered_concat_new f name hi]
      exact ⟨rfl, SameBy.append ihlog (SameBy.refl _)⟩

/-! ## Steps of all elements -/

variable {α : Type}

/-- A step of every element of a list, from a given position on. -/
def atItems (g : Nat → α → α × List ω) : Nat → List α → List α × List ω
  | _, [] => ([], [])
  | n, x :: xs =>
    ((g n x).1 :: (atItems g (n + 1) xs).1, (g n x).2 ++ (atItems g (n + 1) xs).2)

theorem mem_atItems {g : Nat → α → α × List ω} {w : ω} :
    ∀ (xs : List α) (n : Nat), w ∈ (atItems g n xs).2 → ∃ m, ∃ x ∈ xs, w ∈ (g m x).2
  | [], _, h => by cases h
  | x :: xs, n, h => by
    rcases List.mem_append.mp h with h | h
    · exact ⟨n, x, List.mem_cons_self .., h⟩
    · obtain ⟨m, y, hy, hw⟩ := mem_atItems xs (n + 1) h
      exact ⟨m, y, List.mem_cons_of_mem _ hy, hw⟩

theorem atItems_id (xs : List α) (n : Nat) :
    atItems (fun _ x => (x, ([] : List ω))) n xs = (xs, []) := by
  induction xs generalizing n with
  | nil => rfl
  | cons x xs ih => simp [atItems, ih]

/-- Two steps of all elements do to each element what the two steps do to it. -/
theorem atItems_atItems [DecidableEq κ] (label : ω → κ) {k : κ} {g h : Nat → α → α × List ω}
    (hg : ∀ n x, ∀ w ∈ (g n x).2, label w ≠ k) (hh : ∀ n x, ∀ w ∈ (h n x).2, label w = k)
    (xs : List α) (n : Nat) :
    let both := fun n x => ((h n (g n x).1).1, (g n x).2 ++ (h n (g n x).1).2)
    (atItems h n (atItems g n xs).1).1 = (atItems both n xs).1 ∧
    SameBy label ((atItems g n xs).2 ++ (atItems h n (atItems g n xs).1).2)
      (atItems both n xs).2 := by
  intro both
  induction xs generalizing n with
  | nil => exact ⟨rfl, SameBy.refl _⟩
  | cons x xs ih =>
    obtain ⟨ihxs, ihlog⟩ := ih (n + 1)
    refine ⟨by simp only [atItems, ihxs, both], ?_⟩
    have hswap : SameBy label ((atItems g (n + 1) xs).2 ++ (h n (g n x).1).2)
        ((h n (g n x).1).2 ++ (atItems g (n + 1) xs).2) := by
      refine SameBy.swap (k := k) ?_ (hh n _)
      intro w hw
      obtain ⟨m, y, -, hwy⟩ := mem_atItems xs (n + 1) hw
      exact hg m y w hwy
    have hhead := SameBy.append_left (g n x).2
      (SameBy.append hswap (SameBy.refl (atItems h (n + 1) (atItems g (n + 1) xs).1).2))
    have htail := SameBy.append_left ((g n x).2 ++ (h n (g n x).1).2) ihlog
    simp only [atItems, List.append_assoc, both] at hhead htail ⊢
    exact hhead.trans htail

/-- A chain of steps of all elements does to each element what the chain of its steps does. -/
theorem chain_atItems [DecidableEq κ] (label : ω → κ) (tag : ι → κ)
    (g : ι → Nat → α → α × List ω) (xs : List α) (n : Nat) {L : List ι}
    (htag : ∀ i ∈ L, ∀ n x, ∀ w ∈ (g i n x).2, label w = tag i) (hnd : (L.map tag).Nodup) :
    (chain (L.map fun i => atItems (g i) n) xs).1 =
      (atItems (fun n => chain (L.map fun i => g i n)) n xs).1 ∧
    SameBy label (chain (L.map fun i => atItems (g i) n) xs).2
      (atItems (fun n => chain (L.map fun i => g i n)) n xs).2 := by
  induction L using List.reverseRecOn with
  | nil =>
    have hid : atItems (fun n => chain ([].map fun i => g i n)) n xs = (xs, []) := atItems_id xs n
    rw [hid]
    exact ⟨rfl, SameBy.refl []⟩
  | append_singleton L i ih =>
    rw [List.map_append, List.nodup_append] at hnd
    obtain ⟨ihxs, ihlog⟩ := ih (fun j hj => htag j (List.mem_append_left _ hj)) hnd.1
    have hboth : (fun n => chain ((L ++ [i]).map fun i => g i n)) =
        fun n x => ((g i n (chain (L.map fun i => g i n) x).1).1,
          (chain (L.map fun i => g i n) x).2 ++ (g i n (chain (L.map fun i => g i n) x).1).2) := by
      funext n x
      rw [List.map_append, List.map_singleton, chain_concat]
    have hearlier : ∀ n x, ∀ w ∈ (chain (L.map fun i => g i n) x).2, label w ≠ tag i := by
      intro n x
      refine forall_mem_chain ?_ x
      intro f hf y w hw
      obtain ⟨j, hj, rfl⟩ := List.mem_map.mp hf
      rw [htag j (List.mem_append_left _ hj) n y w hw]
      exact hnd.2.2 _ (List.mem_map_of_mem hj) _ (by simp)
    obtain ⟨hxs, hlog⟩ := atItems_atItems label hearlier (htag i (by simp)) xs n
    rw [List.map_append, List.map_singleton, chain_concat, ihxs, hboth]
    exact ⟨hxs, (SameBy.append ihlog (SameBy.refl _)).trans hlog⟩

end ArgumentSchema
