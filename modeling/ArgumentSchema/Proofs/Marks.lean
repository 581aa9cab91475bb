import ArgumentSchema.Proofs.Draft
import ArgumentSchema.Proofs.Walk

/-!
# What a tree and its records stand for

The records of a working tree are told by handles and places: recorded positions, blocked places,
mappings that were made. `view` reads a tree together with its records (`Marks`) as a `Draft`, which
has no handles. What is read at a node depends only on the records about the handles in it
(`view_congr`). `Fits` says that tree and records belong together: no container is opened below a
given depth, a blocked key is gone, a blocked element is marked at its list, and nothing is blocked
below a value that no path has entered.
-/

namespace ArgumentSchema

/-- The records about a tree. `shut` has the positions of the elements that are blocked. -/
structure Marks where
  blocked : List Place
  gone : List (Nat × Nat)
  shut : List (Nat × Nat)
  created : List Created

namespace Marks

/-- Whether a container was made because a path led through a missing key. -/
def made (m : Marks) (h : Nat) : Bool := m.created.any fun c => c.child == h

mutual

/-- The draft that a node stands for. -/
def view (m : Marks) : Node → Draft
  | .leaf v => .leaf v
  | .dict h es => .dict (m.made h) (viewEntries m es)
  | .list h xs => .list (viewItems m h 0 xs)

/-- The drafts that entries stand for. -/
def viewEntries (m : Marks) : List (Value × Node) → List (Value × Draft)
  | [] => []
  | (k, n) :: es => (k, view m n) :: viewEntries m es

/-- The drafts that the elements of a list stand for, from a given position on. -/
def viewItems (m : Marks) (h : Nat) : Nat → List Node → List (Bool × Draft)
  | _, [] => []
  | i, n :: ns =>
    (!m.gone.contains (h, i), if m.shut.contains (h, i) then .leaf .absent else view m n) ::
      viewItems m h (i + 1) ns

end

theorem viewEntries_eq (m : Marks) (es : List (Value × Node)) :
    viewEntries m es = Entries.mapValues (view m) es := by
  induction es with
  | nil => rfl
  | cons e es ih => simp [viewEntries, Entries.mapValues, ih]

theorem view_dict (m : Marks) (h : Nat) (es : List (Value × Node)) :
    view m (.dict h es) = .dict (m.made h) (Entries.mapValues (view m) es) := by
  rw [view, viewEntries_eq]

theorem viewEntries_closed (m : Marks) (es : Entries Value) :
    Entries.mapValues (view m) (Node.closedEntries es) = Entries.mapValues .leaf es := by
  simp [Entries.mapValues, Node.closedEntries, view, Function.comp_def]

theorem isOpened_view (m : Marks) (n : Node) : (view m n).isOpened = n.isOpened := by
  cases n <;> rfl

theorem toValue_eq_held (m : Marks) {n : Node} (h : n.isOpened = false) :
    n.toValue = (view m n).held := by
  cases n with
  | leaf v => rfl
  | dict k es => cases h
  | list k xs => cases h

/-! ## Records that agree -/

/-- Two records say the same about a container. -/
structure AgreesAt (m m' : Marks) (h : Nat) : Prop where
  gone : ∀ i, (h, i) ∈ m.gone ↔ (h, i) ∈ m'.gone
  shut : ∀ i, (h, i) ∈ m.shut ↔ (h, i) ∈ m'.shut
  made : m.made h = m'.made h

namespace AgreesAt

variable {m m' : Marks} {h : Nat}

theorem contains_gone (ha : AgreesAt m m' h) (i : Nat) :
    m.gone.contains (h, i) = m'.gone.contains (h, i) := by
  rw [Bool.eq_iff_iff, List.contains_iff_mem, List.contains_iff_mem]
  exact ha.gone i

theorem contains_shut (ha : AgreesAt m m' h) (i : Nat) :
    m.shut.contains (h, i) = m'.shut.contains (h, i) := by
  rw [Bool.eq_iff_iff, List.contains_iff_mem, List.contains_iff_mem]
  exact ha.shut i

end AgreesAt

theorem viewItems_congr {m m' : Marks} {h : Nat} (hh : AgreesAt m m' h) {xs : List Node}
    (hxs : ∀ x ∈ xs, view m x = view m' x) (i : Nat) : viewItems m h i xs = viewItems m' h i xs := by
  induction xs generalizing i with
  | nil => rfl
  | cons x xs ih =>
    rw [viewItems, viewItems, hh.contains_gone, hh.contains_shut, hxs x (List.mem_cons_self ..),
      ih fun x hx => hxs x (List.mem_cons_of_mem _ hx)]

/-- What a node stands for depends only on the records about the handles in it. -/
theorem view_congr {m m' : Marks} {n : Node} (h : ∀ k ∈ n.handles, AgreesAt m m' k) :
    view m n = view m' n := by
  induction n using Node.induction with
  | leaf v => rfl
  | dict k es ih =>
    have hes : Entries.mapValues (view m) es = Entries.mapValues (view m') es := by
      refine List.map_congr_left fun e he => ?_
      rw [ih e he fun k hk => h k (List.mem_cons_of_mem _ (Node.mem_handlesOfEntries.mpr ⟨e, he, hk⟩))]
    rw [view_dict, view_dict, (h k (List.mem_cons_self ..)).made, hes]
  | list k xs ih =>
    rw [view, view]
    congr 1
    refine viewItems_congr (h k (List.mem_cons_self ..)) (fun x hx => ih x hx fun k hk => ?_) 0
    exact h k (List.mem_cons_of_mem _ (Node.mem_handlesOfItems.mpr ⟨x, hx, hk⟩))

/-! ## Tree and records belong together -/

/-- Nothing is blocked below a place. -/
def Clear (m : Marks) (place : Place) : Prop := ∀ q ∈ m.blocked, place <+: q → q = place

/-- A mapping that was made is recorded with the key under which it stands, alone. -/
def Placed (m : Marks) (h : Nat) (s : String) (es : List (Value × Node)) : Node → Prop
  | .dict c _ => m.made c = true → ⟨h, s, c⟩ ∈ m.created ∧ Entries.Once s es
  | _ => True

/-- Opened containers stand in entries where they are found: under names, and nowhere behind
another entry of the name. -/
structure Named (es : List (Value × Node)) : Prop where
  name : ∀ e ∈ es, e.2.isOpened = true → ∃ s, e.1 = .str s
  first : es.Pairwise fun a b => a.1 = b.1 → b.2.isOpened = false

/-- A node stands at a place of a tree with these records, and no container in it is opened at the
given depth or below. -/
def Fits (m : Marks) : Nat → Place → Node → Prop
  | _, place, .leaf _ => Clear m place
  | 0, _, _ => False
  | k + 1, place, .dict h es =>
    (∀ i, (h, i) ∉ m.gone) ∧ Named es ∧
      (∀ s, Entries.find? (.str s) es = none → Clear m (place ++ [.key s])) ∧
      ∀ s n, Entries.find? (.str s) es = some n →
        place ++ [.key s] ∉ m.blocked ∧ Placed m h s es n ∧ Fits m k (place ++ [.key s]) n
  | k + 1, place, .list h xs =>
    m.made h = false ∧ (∀ i, (h, i) ∈ m.gone → i < xs.length) ∧
      ∀ i n, xs[i]? = some n →
        (place ++ [.index i] ∈ m.blocked ↔ (h, i) ∈ m.shut) ∧
          (∀ c ces, n = .dict c ces → m.made c = false) ∧ Fits m k (place ++ [.index i]) n

theorem fits_leaf {m : Marks} {k : Nat} {place : Place} {v : Value} :
    Fits m k place (.leaf v) ↔ Clear m place := by
  cases k <;> exact Iff.rfl

theorem fits_zero {m : Marks} {place : Place} {n : Node} :
    Fits m 0 place n ↔ Clear m place ∧ ∃ v, n = .leaf v := by
  cases n with
  | leaf v => exact ⟨fun h => ⟨h, v, rfl⟩, fun h => h.1⟩
  | dict k es => exact ⟨False.elim, fun h => nomatch h.2.choose_spec⟩
  | list k xs => exact ⟨False.elim, fun h => nomatch h.2.choose_spec⟩

/-- A tree that is closed at a depth is closed at every greater depth. -/
theorem Fits.mono {m : Marks} {k l : Nat} (hkl : k ≤ l) :
    ∀ {place : Place} {n : Node}, Fits m k place n → Fits m l place n := by
  induction k generalizing l with
  | zero =>
    intro place n h
    cases n with
    | leaf v => exact fits_leaf.mpr (fits_leaf.mp h)
    | dict k es => cases h
    | list k xs => cases h
  | succ k ih =>
    intro place n h
    obtain ⟨l, rfl⟩ : ∃ l', l = l' + 1 := ⟨l - 1, by omega⟩
    cases n with
    | leaf v => exact fits_leaf.mpr (fits_leaf.mp h)
    | dict h' es =>
      obtain ⟨hgone, hnamed, hnone, hsome⟩ := h
      refine ⟨hgone, hnamed, hnone, fun s n hn => ?_⟩
      obtain ⟨hfree, hplaced, hfits⟩ := hsome s n hn
      exact ⟨hfree, hplaced, ih (by omega) hfits⟩
    | list h' xs =>
      obtain ⟨hmade, hgone, hitems⟩ := h
      refine ⟨hmade, hgone, fun i n hn => ?_⟩
      obtain ⟨hshut, hmade, hfits⟩ := hitems i n hn
      exact ⟨hshut, hmade, ih (by omega) hfits⟩

theorem Clear.congr {m m' : Marks} {place : Place} (h : Clear m place)
    (hblocked : ∀ q, place <+: q → (q ∈ m.blocked ↔ q ∈ m'.blocked)) : Clear m' place :=
  fun q hq hpre => h q ((hblocked q hpre).mpr hq) hpre

/-- Whether a node fits depends only on the records about the handles in it and the places at or
below its own. -/
theorem Fits.congr {m m' : Marks} (hcreated : ∀ c ∈ m.created, c ∈ m'.created) {k : Nat} :
    ∀ {place : Place} {n : Node}, (∀ q, place <+: q → (q ∈ m.blocked ↔ q ∈ m'.blocked)) →
      (∀ h ∈ n.handles, AgreesAt m m' h) → Fits m k place n → Fits m' k place n := by
  have down : ∀ (place : Place) (step : Step),
      (∀ q, place <+: q → (q ∈ m.blocked ↔ q ∈ m'.blocked)) →
      ∀ q, place ++ [step] <+: q → (q ∈ m.blocked ↔ q ∈ m'.blocked) :=
    fun place step h q hq => h q ((List.prefix_append ..).trans hq)
  -- by induction on the depth to which the node is opened
  induction k with
  | zero =>
    intro place n hblocked _ h
    cases n with
    | leaf v => exact Clear.congr h hblocked
    | dict k es => cases h
    | list k xs => cases h
  | succ k ih =>
    intro place n hblocked hagree h
    cases n with
    | leaf v => exact Clear.congr h hblocked
    | dict h' es =>
      obtain ⟨hgone, hnamed, hnone, hsome⟩ := h
      have hself := hagree h' (List.mem_cons_self ..)
      refine ⟨fun i hi => hgone i ((hself.gone i).mpr hi), hnamed,
        fun s hs => (hnone s hs).congr (down place _ hblocked), fun s n hn => ?_⟩
      obtain ⟨hfree, hplaced, hfits⟩ := hsome s n hn
      have hn' : ∀ g ∈ n.handles, AgreesAt m m' g := fun g hg =>
        hagree g (List.mem_cons_of_mem _
          (Node.mem_handlesOfEntries.mpr ⟨_, Entries.mem_of_find? hn, hg⟩))
      refine ⟨fun hb => hfree ((hblocked _ (List.prefix_append ..)).mpr hb), ?_,
        ih (down place _ hblocked) hn' hfits⟩
      cases n with
      | dict c ces =>
        intro hmade
        rw [← (hn' c (List.mem_cons_self ..)).made] at hmade
        exact (hplaced hmade).imp_left (hcreated _)
      | leaf v => trivial
      | list c xs => trivial
    | list h' xs =>
      obtain ⟨hmade, hgone, hitems⟩ := h
      have hself := hagree h' (List.mem_cons_self ..)
      refine ⟨hself.made.symm.trans hmade, fun i hi => hgone i ((hself.gone i).mpr hi), fun i n hn => ?_⟩
      obtain ⟨hshut, hmade, hfits⟩ := hitems i n hn
      have hn' : ∀ g ∈ n.handles, AgreesAt m m' g := fun g hg =>
        hagree g (List.mem_cons_of_mem _
          (Node.mem_handlesOfItems.mpr ⟨_, List.mem_of_getElem? hn, hg⟩))
      refine ⟨?_, ?_, ih (down place _ hblocked) hn' hfits⟩
      · rw [← hblocked _ (List.prefix_append ..), hshut, hself.shut i]
      · rintro c ces rfl
        rw [← (hn' c (List.mem_cons_self ..)).made]
        exact hmade c ces rfl

/-! ## Entries where containers are found -/

theorem Named.closed (es : Entries Value) : Named (Node.closedEntries es) := by
  have hclosed : ∀ e ∈ Node.closedEntries es, e.2.isOpened = false := by
    intro e he
    obtain ⟨d, -, rfl⟩ := List.mem_map.mp he
    rfl
  refine ⟨fun e he hopen => ?_, ?_⟩
  · rw [hclosed e he] at hopen
    cases hopen
  · rw [List.pairwise_iff_forall_sublist]
    intro a b hab _
    exact hclosed b (hab.subset (by simp))

theorem Named.insert {s : String} {es : List (Value × Node)} (h : Named es) (n : Node) :
    Named (Entries.insert (.str s) n es) := by
  refine ⟨fun e he hopen => ?_, ?_⟩
  · rcases Entries.mem_insert he with rfl | he
    · exact ⟨s, rfl⟩
    · exact h.name e he hopen
  · have hfirst := h.first
    clear h
    induction es with
    | nil => exact List.pairwise_singleton ..
    | cons e es ih =>
      obtain ⟨k, d⟩ := e
      obtain ⟨hhead, htail⟩ := List.pairwise_cons.mp hfirst
      by_cases hk : k = .str s
      · rw [hk, Entries.insert_cons_self]
        rw [hk] at hhead
        exact List.pairwise_cons.mpr ⟨hhead, htail⟩
      · rw [Entries.insert_cons_ne hk]
        refine List.pairwise_cons.mpr ⟨fun b hb hkey => ?_, ih htail⟩
        rcases Entries.mem_insert hb with rfl | hb
        · exact absurd hkey hk
        · exact hhead b hb hkey

theorem Named.erase {s : String} {es : List (Value × Node)} (h : Named es) :
    Named (Entries.erase (.str s) es) :=
  ⟨fun e he hopen => h.name e (List.mem_of_mem_filter he) hopen, h.first.filter _⟩

/-- If what is found under a name is closed, so are all entries of the name. -/
theorem Named.closed_of_find? {s : String} {es : List (Value × Node)} (h : Named es)
    (hfind : ∀ n, Entries.find? (.str s) es = some n → n.isOpened = false) :
    ∀ e ∈ es, e.1 = .str s → e.2.isOpened = false := by
  have hfirst := h.first
  clear h
  induction es with
  | nil =>
    intro e he
    cases he
  | cons e es ih =>
    obtain ⟨k, d⟩ := e
    obtain ⟨hhead, htail⟩ := List.pairwise_cons.mp hfirst
    intro b hb hkey
    by_cases hk : k = .str s
    · subst hk
      rcases List.mem_cons.mp hb with rfl | hb
      · exact hfind d (Entries.find?_cons_self s d es)
      · exact hhead b hb hkey.symm
    · rcases List.mem_cons.mp hb with rfl | hb
      · exact absurd hkey hk
      · exact ih (fun n hn => hfind n (by rw [Entries.find?_cons_ne hk, hn])) htail b hb hkey

/-- An opened container is found under its name. -/
theorem Named.find?_of_mem {s : String} {es : List (Value × Node)} (h : Named es) {n : Node}
    (hmem : (.str s, n) ∈ es) (hopen : n.isOpened = true) : Entries.find? (.str s) es = some n := by
  have hfirst := h.first
  clear h
  induction es with
  | nil => cases hmem
  | cons e es ih =>
    obtain ⟨k, d⟩ := e
    obtain ⟨hhead, htail⟩ := List.pairwise_cons.mp hfirst
    rcases List.mem_cons.mp hmem with heq | hrest
    · obtain ⟨rfl, rfl⟩ := Prod.mk.inj heq
      exact Entries.find?_cons_self s n es
    · have hk : k ≠ .str s := by
        rintro rfl
        have hclosed : n.isOpened = false := hhead _ hrest rfl
        rw [hclosed] at hopen
        cases hopen
      rw [Entries.find?_cons_ne hk]
      exact ih hrest htail

end Marks

end ArgumentSchema
