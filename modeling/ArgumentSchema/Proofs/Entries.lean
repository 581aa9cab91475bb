import ArgumentSchema.Value.Key
import Mathlib.Data.List.Basic

/-!
# Laws of entries

Entries of a mapping under names: what `Entries.find?` sees after `Entries.insert` and
`Entries.erase`, and when two changes may change places. A change of one name is a `put`: a value
to store, or none to remove the name.

> `put_comm`: changes of two names commute unless the first would add its name at the end.

The order of entries counts, so the condition is needed: a name that is added later stands later.
Nothing here asks for distinct keys; erasing takes every entry of a key, inserting changes the
first.
-/

namespace ArgumentSchema.Entries

variable {α β : Type}

/-- Stores a value under a name, or removes the name. -/
def put (s : String) (cell : Option α) (es : Entries α) : Entries α :=
  match cell with
  | some v => insert (.str s) v es
  | none => erase (.str s) es

/-- Entries with their contents changed one by one. -/
def mapValues (f : α → β) (es : Entries α) : Entries β := es.map fun e => (e.1, f e.2)

/-- Entries with their contents changed one by one, less those that nothing is left of. -/
def filterValues (f : α → Option β) (es : Entries α) : Entries β :=
  es.filterMap fun e => (f e.2).map (Prod.mk e.1)

/-! ## Looking up -/

theorem find?_cons_self (s : String) (v : α) (es : Entries α) :
    find? (.str s) ((.str s, v) :: es) = some v := by
  simp [find?, Value.sameKey_str]

theorem find?_cons_ne {s : String} {k : Value} (h : k ≠ .str s) (v : α) (es : Entries α) :
    find? (.str s) ((k, v) :: es) = find? (.str s) es := by
  simp [find?, Value.sameKey_str, h]

theorem insert_cons_self (s : String) (v w : α) (es : Entries α) :
    insert (.str s) v ((.str s, w) :: es) = (.str s, v) :: es := by
  simp [insert, Value.sameKey_str]

theorem insert_cons_ne {s : String} {k : Value} (h : k ≠ .str s) (v w : α) (es : Entries α) :
    insert (.str s) v ((k, w) :: es) = (k, w) :: insert (.str s) v es := by
  simp [insert, Value.sameKey_str, h]

theorem erase_cons_self (s : String) (w : α) (es : Entries α) :
    erase (.str s) ((.str s, w) :: es) = erase (.str s) es := by
  simp [erase, Value.sameKey_str]

theorem erase_cons_ne {s : String} {k : Value} (h : k ≠ .str s) (w : α) (es : Entries α) :
    erase (.str s) ((k, w) :: es) = (k, w) :: erase (.str s) es := by
  have hk : Value.sameKey (.str s) k = false := by
    rw [← Bool.not_eq_true, Value.sameKey_str]
    exact h
  simp [erase, hk]

/-- What is found under a name is one of the entries. -/
theorem mem_of_find? {s : String} {v : α} {es : Entries α} (h : find? (.str s) es = some v) :
    (.str s, v) ∈ es := by
  induction es with
  | nil => simp [find?] at h
  | cons e es ih =>
    obtain ⟨k, w⟩ := e
    by_cases hk : k = .str s
    · subst hk
      rw [find?_cons_self] at h
      injection h with h
      exact h ▸ List.mem_cons_self ..
    · rw [find?_cons_ne hk] at h
      exact List.mem_cons_of_mem _ (ih h)

theorem find?_insert_self (s : String) (v : α) (es : Entries α) :
    find? (.str s) (insert (.str s) v es) = some v := by
  induction es with
  | nil => exact find?_cons_self s v []
  | cons e es ih =>
    obtain ⟨k, w⟩ := e
    by_cases hk : k = .str s
    · rw [hk, insert_cons_self, find?_cons_self]
    · rw [insert_cons_ne hk, find?_cons_ne hk, ih]

theorem find?_insert_ne {s t : String} (h : s ≠ t) (v : α) (es : Entries α) :
    find? (.str t) (insert (.str s) v es) = find? (.str t) es := by
  induction es with
  | nil => simp [insert, find?, Value.sameKey_str, h]
  | cons e es ih =>
    obtain ⟨k, w⟩ := e
    by_cases hk : k = .str s
    · have ht : (Value.str s) ≠ .str t := by simpa using h
      rw [hk, insert_cons_self, find?_cons_ne ht, find?_cons_ne ht]
    · simp only [insert_cons_ne hk, find?, ih]

theorem find?_erase_self (s : String) (es : Entries α) :
    find? (.str s) (erase (.str s) es) = none := by
  induction es with
  | nil => rfl
  | cons e es ih =>
    obtain ⟨k, w⟩ := e
    by_cases hk : k = .str s
    · rw [hk, erase_cons_self, ih]
    · rw [erase_cons_ne hk, find?_cons_ne hk, ih]

theorem find?_erase_ne {s t : String} (h : s ≠ t) (es : Entries α) :
    find? (.str t) (erase (.str s) es) = find? (.str t) es := by
  induction es with
  | nil => rfl
  | cons e es ih =>
    obtain ⟨k, w⟩ := e
    by_cases hk : k = .str s
    · have ht : (Value.str s) ≠ .str t := by simpa using h
      rw [hk, erase_cons_self, find?_cons_ne ht, ih]
    · simp only [erase_cons_ne hk, find?, ih]

theorem find?_put_self (s : String) (cell : Option α) (es : Entries α) :
    find? (.str s) (put s cell es) = cell := by
  cases cell with
  | some v => exact find?_insert_self s v es
  | none => exact find?_erase_self s es

theorem find?_put_ne {s t : String} (h : s ≠ t) (cell : Option α) (es : Entries α) :
    find? (.str t) (put s cell es) = find? (.str t) es := by
  cases cell with
  | some v => exact find?_insert_ne h v es
  | none => exact find?_erase_ne h es

/-- An entry after a value is stored under a name is the stored one or was there before. -/
theorem mem_insert {s : String} {v : α} {es : Entries α} {e : Value × α}
    (h : e ∈ insert (.str s) v es) : e = (.str s, v) ∨ e ∈ es := by
  induction es with
  | nil => exact Or.inl (List.mem_singleton.mp h)
  | cons d es ih =>
    obtain ⟨k, w⟩ := d
    by_cases hk : k = .str s
    · rw [hk, insert_cons_self] at h
      rcases List.mem_cons.mp h with rfl | h
      · exact Or.inl rfl
      · exact Or.inr (List.mem_cons_of_mem _ h)
    · rw [insert_cons_ne hk] at h
      rcases List.mem_cons.mp h with rfl | h
      · exact Or.inr (List.mem_cons_self ..)
      · exact (ih h).imp_right (List.mem_cons_of_mem _)

/-- A key that is found splits the entries at the first of its entries, and storing under it changes
this one. -/
theorem exists_split_of_find? {k : Value} {v : α} {es : Entries α} (h : find? k es = some v) :
    ∃ pre key post, es = pre ++ (key, v) :: post ∧
      (∀ w, insert k w es = pre ++ (key, w) :: post) ∧ k.sameKey key = true ∧
        ∀ e ∈ pre, k.sameKey e.1 = false := by
  induction es with
  | nil => cases h
  | cons e es ih =>
    obtain ⟨key, u⟩ := e
    rw [find?] at h
    by_cases hkey : k.sameKey key = true
    · rw [if_pos hkey] at h
      obtain rfl := Option.some.inj h
      exact ⟨[], key, es, rfl, fun w => by rw [insert, if_pos hkey]; rfl, hkey, by simp⟩
    · rw [if_neg hkey] at h
      obtain ⟨pre, key', post, rfl, hinsert, hkey', hpre⟩ := ih h
      refine ⟨(key, u) :: pre, key', post, rfl, fun w => ?_, hkey', fun e he => ?_⟩
      · rw [insert, if_neg hkey, hinsert]
        rfl
      · rcases List.mem_cons.mp he with rfl | he
        · exact Bool.not_eq_true _ ▸ hkey
        · exact hpre e he

/-- A name that is found splits the entries, and storing under it changes the one between. -/
theorem exists_eq_of_find? {s : String} {v : α} {es : Entries α}
    (h : find? (.str s) es = some v) :
    ∃ pre post, es = pre ++ (.str s, v) :: post ∧
      ∀ w, insert (.str s) w es = pre ++ (.str s, w) :: post := by
  obtain ⟨pre, key, post, hes, hinsert, hkey, -⟩ := exists_split_of_find? h
  obtain rfl := (Value.sameKey_str s key).mp hkey
  exact ⟨pre, post, hes, hinsert⟩

/-- A new name is stored at the end. -/
theorem insert_of_find?_eq_none {s : String} {es : Entries α} (h : find? (.str s) es = none)
    (v : α) : insert (.str s) v es = es ++ [(.str s, v)] := by
  induction es with
  | nil => rfl
  | cons e es ih =>
    obtain ⟨k, u⟩ := e
    have hk : ¬ k = .str s := by
      rintro rfl
      rw [find?_cons_self] at h
      cases h
    rw [find?_cons_ne hk] at h
    rw [insert_cons_ne hk, ih h, List.cons_append]

/-! ## Changes that do nothing -/

theorem erase_of_find?_eq_none {s : String} {es : Entries α} (h : find? (.str s) es = none) :
    erase (.str s) es = es := by
  induction es with
  | nil => rfl
  | cons e es ih =>
    obtain ⟨k, w⟩ := e
    have hk : ¬ k = .str s := by
      rintro rfl
      rw [find?_cons_self] at h
      exact absurd h (by simp)
    rw [find?_cons_ne hk] at h
    rw [erase_cons_ne hk, ih h]

theorem insert_of_find?_eq_some {s : String} {v : α} {es : Entries α}
    (h : find? (.str s) es = some v) : insert (.str s) v es = es := by
  induction es with
  | nil => simp [find?] at h
  | cons e es ih =>
    obtain ⟨k, w⟩ := e
    by_cases hk : k = .str s
    · subst hk
      rw [find?_cons_self] at h
      injection h with h
      rw [insert_cons_self, h]
    · rw [find?_cons_ne hk] at h
      rw [insert_cons_ne hk, ih h]

/-- Storing what is there changes nothing. -/
theorem put_find? (s : String) (es : Entries α) : put s (find? (.str s) es) es = es := by
  cases h : find? (.str s) es with
  | some v => exact insert_of_find?_eq_some h
  | none => exact erase_of_find?_eq_none h

/-! ## Two changes -/

theorem insert_insert_self (s : String) (v w : α) (es : Entries α) :
    insert (.str s) w (insert (.str s) v es) = insert (.str s) w es := by
  induction es with
  | nil => exact insert_cons_self s w v []
  | cons e es ih =>
    obtain ⟨k, u⟩ := e
    by_cases hk : k = .str s
    · rw [hk, insert_cons_self, insert_cons_self, insert_cons_self]
    · rw [insert_cons_ne hk, insert_cons_ne hk, insert_cons_ne hk, ih]

theorem erase_insert_self (s : String) (v : α) (es : Entries α) :
    erase (.str s) (insert (.str s) v es) = erase (.str s) es := by
  induction es with
  | nil => exact erase_cons_self s v []
  | cons e es ih =>
    obtain ⟨k, u⟩ := e
    by_cases hk : k = .str s
    · rw [hk, insert_cons_self, erase_cons_self, erase_cons_self]
    · rw [insert_cons_ne hk, erase_cons_ne hk, erase_cons_ne hk, ih]

/-- Of two changes of a name the last one counts, unless it brings back what the first removed. -/
theorem put_put_self {s : String} {a b : Option α} (h : a = none → b = none) (es : Entries α) :
    put s b (put s a es) = put s b es := by
  cases a with
  | some v =>
    cases b with
    | some w => exact insert_insert_self s v w es
    | none => exact erase_insert_self s v es
  | none =>
    rw [h rfl]
    exact erase_of_find?_eq_none (find?_erase_self s es)

theorem erase_insert_ne {s t : String} (h : s ≠ t) (v : α) (es : Entries α) :
    erase (.str s) (insert (.str t) v es) = insert (.str t) v (erase (.str s) es) := by
  have hst : (Value.str s) ≠ .str t := by simpa using h
  induction es with
  | nil => exact erase_cons_ne hst.symm v []
  | cons e es ih =>
    obtain ⟨k, u⟩ := e
    by_cases hs : k = .str s
    · rw [hs, insert_cons_ne hst, erase_cons_self, erase_cons_self, ih]
    · by_cases ht : k = .str t
      · rw [ht, insert_cons_self, erase_cons_ne hst.symm, erase_cons_ne hst.symm, insert_cons_self]
      · rw [insert_cons_ne ht, erase_cons_ne hs, erase_cons_ne hs, insert_cons_ne ht, ih]

theorem insert_insert_ne {s t : String} (h : s ≠ t) {es : Entries α}
    (hs : find? (.str s) es ≠ none) (v w : α) :
    insert (.str s) v (insert (.str t) w es) = insert (.str t) w (insert (.str s) v es) := by
  have hst : (Value.str s) ≠ .str t := by simpa using h
  induction es with
  | nil => simp [find?] at hs
  | cons e es ih =>
    obtain ⟨k, u⟩ := e
    by_cases hks : k = .str s
    · rw [hks, insert_cons_ne hst, insert_cons_self, insert_cons_self, insert_cons_ne hst]
    · rw [find?_cons_ne hks] at hs
      by_cases hkt : k = .str t
      · rw [hkt, insert_cons_self, insert_cons_ne hst.symm, insert_cons_ne hst.symm,
          insert_cons_self]
      · rw [insert_cons_ne hkt, insert_cons_ne hks, insert_cons_ne hks, insert_cons_ne hkt, ih hs]

theorem erase_erase_comm (s t : String) (es : Entries α) :
    erase (.str s) (erase (.str t) es) = erase (.str t) (erase (.str s) es) := by
  simp only [erase, List.filter_filter]
  exact List.filter_congr fun e _ => Bool.and_comm ..

/-- Changes of two names commute, unless the first one adds its name at the end. -/
theorem put_comm {s t : String} (h : s ≠ t) {a b : Option α} {es : Entries α}
    (ha : find? (.str s) es = none → a = none) :
    put s a (put t b es) = put t b (put s a es) := by
  cases a with
  | none =>
    cases b with
    | none => exact erase_erase_comm s t es
    | some w => exact erase_insert_ne h w es
  | some v =>
    cases b with
    | none => exact (erase_insert_ne (Ne.symm h) v es).symm
    | some w => exact insert_insert_ne h (fun hn => absurd (ha hn) (by simp)) v w

/-! ## Names that occur once -/

/-- At most one entry stands under a name. -/
def Once (s : String) (es : Entries α) : Prop := es.Pairwise fun a b => a.1 = .str s → b.1 ≠ .str s

theorem key_ne_of_find?_eq_none {s : String} {es : Entries α} (h : find? (.str s) es = none) :
    ∀ e ∈ es, e.1 ≠ .str s := by
  induction es with
  | nil =>
    intro e he
    cases he
  | cons e es ih =>
    obtain ⟨k, v⟩ := e
    have hk : k ≠ .str s := by
      rintro rfl
      rw [find?_cons_self] at h
      cases h
    rw [find?_cons_ne hk] at h
    intro e he
    rcases List.mem_cons.mp he with rfl | he
    · exact hk
    · exact ih h e he

theorem find?_eq_none_of_key_ne {s : String} {es : Entries α} (h : ∀ e ∈ es, e.1 ≠ .str s) :
    find? (.str s) es = none := by
  cases hfind : find? (.str s) es with
  | none => rfl
  | some v => exact absurd rfl (h _ (mem_of_find? hfind))

theorem once_insert_of_find?_eq_none {s : String} {es : Entries α}
    (h : find? (.str s) es = none) (v : α) : Once s (insert (.str s) v es) := by
  have hne := key_ne_of_find?_eq_none h
  rw [insert_of_find?_eq_none h]
  refine List.pairwise_append.mpr ⟨?_, List.pairwise_singleton .., fun a ha _ _ hkey => ?_⟩
  · exact List.pairwise_of_forall_mem_list fun a ha _ _ hkey => absurd hkey (hne a ha)
  · exact absurd hkey (hne a ha)

theorem Once.insert {s : String} {es : Entries α} (h : Once s es) (t : String) (v : α) :
    Once s (insert (.str t) v es) := by
  induction es with
  | nil => exact List.pairwise_singleton ..
  | cons e es ih =>
    obtain ⟨k, w⟩ := e
    obtain ⟨hhead, htail⟩ := List.pairwise_cons.mp h
    by_cases hk : k = .str t
    · subst hk
      rw [insert_cons_self]
      exact List.pairwise_cons.mpr ⟨hhead, htail⟩
    · rw [insert_cons_ne hk]
      refine List.pairwise_cons.mpr ⟨fun b hb hkey => ?_, ih htail⟩
      rcases mem_insert hb with rfl | hb
      · intro heq
        exact hk (hkey.trans heq.symm)
      · exact hhead b hb hkey

theorem Once.erase {s : String} {es : Entries α} (h : Once s es) (t : String) :
    Once s (erase (.str t) es) := h.filter _

theorem Once.mapValues {s : String} {es : Entries α} (h : Once s es) (f : α → β) :
    Once s (mapValues f es) := List.pairwise_map.mpr h

/-! ## Changed contents -/

theorem find?_mapValues (f : α → β) (s : String) (es : Entries α) :
    find? (.str s) (mapValues f es) = (find? (.str s) es).map f := by
  induction es with
  | nil => rfl
  | cons e es ih =>
    obtain ⟨k, v⟩ := e
    by_cases hk : k = .str s
    · simp [mapValues, find?, Value.sameKey_str, hk]
    · simpa [mapValues, find?, Value.sameKey_str, hk] using ih

theorem mapValues_eq_self {f : α → α} {es : Entries α} (h : ∀ e ∈ es, f e.2 = e.2) :
    mapValues f es = es := by
  refine (List.map_congr_left fun e he => ?_).trans (List.map_id es)
  rw [h e he]
  rfl

theorem mapValues_insert (f : α → β) (s : String) (v : α) (es : Entries α) :
    mapValues f (insert (.str s) v es) = insert (.str s) (f v) (mapValues f es) := by
  induction es with
  | nil => rfl
  | cons e es ih =>
    obtain ⟨k, u⟩ := e
    by_cases hk : k = .str s
    · simp [mapValues, insert, Value.sameKey_str, hk]
    · simpa [mapValues, insert, Value.sameKey_str, hk] using ih

theorem mapValues_erase (f : α → β) (s : String) (es : Entries α) :
    mapValues f (erase (.str s) es) = erase (.str s) (mapValues f es) := by
  simp only [mapValues, erase, List.filter_map]
  rfl

theorem mapValues_put (f : α → β) (s : String) (cell : Option α) (es : Entries α) :
    mapValues f (put s cell es) = put s (cell.map f) (mapValues f es) := by
  cases cell with
  | some v => exact mapValues_insert f s v es
  | none => exact mapValues_erase f s es

theorem filterValues_mapValues {γ : Type} (f : β → Option γ) (g : α → β) (es : Entries α) :
    filterValues f (mapValues g es) = filterValues (f ∘ g) es := by
  rw [filterValues, mapValues, List.filterMap_map]
  rfl

theorem filterValues_congr {f g : α → Option β} {es : Entries α} (h : ∀ e ∈ es, f e.2 = g e.2) :
    filterValues f es = filterValues g es :=
  List.filterMap_congr fun e he => by rw [h e he]

theorem find?_eq_none_of_filterValues (f : α → Option β) {s : String} {es : Entries α}
    (h : find? (.str s) es = none) : find? (.str s) (filterValues f es) = none := by
  induction es with
  | nil => rfl
  | cons e es ih =>
    obtain ⟨k, v⟩ := e
    have hk : ¬ k = .str s := by
      rintro rfl
      rw [find?_cons_self] at h
      exact absurd h (by simp)
    rw [find?_cons_ne hk] at h
    cases hf : f v with
    | none => simpa [filterValues, hf] using ih h
    | some w =>
      rw [filterValues, List.filterMap_cons_some (by rw [hf]; rfl), find?_cons_ne hk]
      exact ih h

theorem filterValues_insert (f : α → Option β) {s : String} {v : α} {w : β} (hv : f v = some w)
    {es : Entries α} (h : ∀ u, find? (.str s) es = some u → f u ≠ none) :
    filterValues f (insert (.str s) v es) = insert (.str s) w (filterValues f es) := by
  induction es with
  | nil => simp [filterValues, insert, hv]
  | cons e es ih =>
    obtain ⟨k, u⟩ := e
    by_cases hk : k = .str s
    · subst hk
      obtain ⟨x, hx⟩ := Option.ne_none_iff_exists'.1 (h u (find?_cons_self s u es))
      simp [filterValues, insert, Value.sameKey_str, hv, hx]
    · have ih := ih fun u hu => h u (by rw [find?_cons_ne hk, hu])
      cases hf : f u with
      | none => simpa [filterValues, insert, Value.sameKey_str, hk, hf] using ih
      | some x => simpa [filterValues, insert, Value.sameKey_str, hk, hf] using ih

theorem filterValues_erase (f : α → Option β) (s : String) (es : Entries α) :
    filterValues f (erase (.str s) es) = erase (.str s) (filterValues f es) := by
  induction es with
  | nil => rfl
  | cons e es ih =>
    obtain ⟨k, u⟩ := e
    cases hk : Value.sameKey (.str s) k <;> cases hf : f u <;>
      simpa [filterValues, erase, hk, hf] using ih

/-- Erasing a name that occurs once and of which nothing is left. -/
theorem filterValues_erase_of_once (f : α → Option β) {s : String} {v : α} (hv : f v = none)
    {es : Entries α} (honce : Once s es) (hfind : find? (.str s) es = some v) :
    filterValues f (erase (.str s) es) = filterValues f es := by
  obtain ⟨es₁, es₂, rfl, -⟩ := exists_eq_of_find? hfind
  have hne : ∀ e ∈ es₁ ++ es₂, e.1 ≠ .str s := by
    obtain ⟨-, htail, hcross⟩ := List.pairwise_append.mp honce
    intro e he hkey
    rcases List.mem_append.mp he with he | he
    · exact hcross e he _ (List.mem_cons_self ..) hkey rfl
    · exact (List.pairwise_cons.mp htail).1 e he rfl hkey
  have hkeep : ∀ es : Entries α, (∀ e ∈ es, e.1 ≠ .str s) → erase (.str s) es = es := by
    intro es hes
    refine List.filter_eq_self.mpr fun e he => ?_
    have hk : Value.sameKey (.str s) e.1 = false := by
      rw [← Bool.not_eq_true, Value.sameKey_str]
      exact hes e he
    rw [hk]
    rfl
  rw [erase, List.filter_append, ← erase, ← erase, erase_cons_self, hkeep es₁ fun e he =>
    hne e (List.mem_append_left _ he), hkeep es₂ fun e he => hne e (List.mem_append_right _ he)]
  simp [filterValues, hv]

/-- An entry that nothing is left of, added at the end, is not seen. -/
theorem filterValues_insert_none (f : α → Option β) {s : String} {v : α} (hv : f v = none)
    {es : Entries α} (h : find? (.str s) es = none) :
    filterValues f (insert (.str s) v es) = filterValues f es := by
  induction es with
  | nil => simp [filterValues, insert, hv]
  | cons e es ih =>
    obtain ⟨k, u⟩ := e
    have hk : ¬ k = .str s := by
      rintro rfl
      rw [find?_cons_self] at h
      exact absurd h (by simp)
    rw [find?_cons_ne hk] at h
    cases hf : f u <;> simpa [filterValues, insert, Value.sameKey_str, hk, hf] using ih h

/-- A change of a name is seen through a filter, if nothing that was stored under the name was
hidden and nothing that is to be hidden takes its place. -/
theorem filterValues_put (f : α → Option β) {s : String} {cell : Option α} {es : Entries α}
    (h : ∀ u, find? (.str s) es = some u → f u ≠ none)
    (hcell : ∀ u, cell = some u → f u = none → find? (.str s) es = none) :
    filterValues f (put s cell es) = put s (cell.bind f) (filterValues f es) := by
  cases cell with
  | none => exact filterValues_erase f s es
  | some v =>
    cases hv : f v with
    | some w =>
      rw [Option.bind_some, hv]
      exact filterValues_insert f hv h
    | none =>
      have hnone := hcell v rfl hv
      rw [Option.bind_some, hv]
      refine (filterValues_insert_none f hv hnone).trans ?_
      exact (erase_of_find?_eq_none (find?_eq_none_of_filterValues f hnone)).symm

end ArgumentSchema.Entries
