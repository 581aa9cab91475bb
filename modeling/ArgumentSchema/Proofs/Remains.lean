import ArgumentSchema.Proofs.Marks
import Mathlib.Data.List.Flatten

/-!
# What remains of a tree

In the end of a run the recorded positions go, and then the mappings that were made and stayed
empty. What remains of a node can be told from the records before that (`Marks.remains`). It stays
the same when the positions of one list are removed, or one empty mapping, and are struck from the
records:

> `Marks.remains_dropIndexes`: removing the recorded positions of a list.
> `Marks.remains_eraseKey`: removing the youngest mapping that was made, if it is empty.
> `Marks.remains_keep`: leaving it in place, if it is not.

`Sound` is what these need of tree and records, without places.
-/

namespace ArgumentSchema

open Node

namespace Marks

mutual

/-- What is left of a node in the end: elements at recorded positions are gone, and so are mappings
that were made and in which nothing is left. -/
def remains (m : Marks) : Node → Option Node
  | .leaf v => some (.leaf v)
  | .dict h es =>
    let es := remainsOfEntries m es
    if m.made h && es.isEmpty then none else some (.dict h es)
  | .list h xs => some (.list h (remainsFrom m h 0 xs))

/-- What is left of the entries of a mapping. -/
def remainsOfEntries (m : Marks) : List (Value × Node) → List (Value × Node)
  | [] => []
  | (k, n) :: es =>
    match remains m n with
    | some n => (k, n) :: remainsOfEntries m es
    | none => remainsOfEntries m es

/-- What is left of the elements of a list, from a given position on. -/
def remainsFrom (m : Marks) (h : Nat) : Nat → List Node → List Node
  | _, [] => []
  | i, n :: ns =>
    (if m.gone.contains (h, i) then [] else (remains m n).toList) ++ remainsFrom m h (i + 1) ns

end

variable {m m' : Marks}

theorem remainsOfEntries_eq (m : Marks) (es : List (Value × Node)) :
    remainsOfEntries m es = Entries.filterValues (remains m) es := by
  induction es with
  | nil => rfl
  | cons e es ih =>
    obtain ⟨k, n⟩ := e
    cases h : remains m n <;> simp [remainsOfEntries, Entries.filterValues, h, ih]

theorem remains_dict (m : Marks) (h : Nat) (es : List (Value × Node)) :
    remains m (.dict h es) =
      if m.made h && (Entries.filterValues (remains m) es).isEmpty then none
      else some (.dict h (Entries.filterValues (remains m) es)) := by
  rw [remains, remainsOfEntries_eq]

theorem remains_dict_congr {h : Nat} {es es' : List (Value × Node)} (hmade : m.made h = m'.made h)
    (hes : Entries.filterValues (remains m) es = Entries.filterValues (remains m') es') :
    remains m (.dict h es) = remains m' (.dict h es') := by
  rw [remains_dict, remains_dict, hmade, hes]

theorem remains_list (m : Marks) (h : Nat) (xs : List Node) :
    remains m (.list h xs) = some (.list h (remainsFrom m h 0 xs)) := by
  rw [remains]

theorem remainsFrom_congr {h i : Nat} {xs : List Node} {g : Node → Node}
    (hgone : ∀ j, m.gone.contains (h, j) = m'.gone.contains (h, j))
    (hxs : ∀ x ∈ xs, remains m x = remains m' (g x)) :
    remainsFrom m h i xs = remainsFrom m' h i (xs.map g) := by
  induction xs generalizing i with
  | nil => rfl
  | cons x xs ih =>
    rw [List.map_cons, remainsFrom, remainsFrom, hgone, hxs x (List.mem_cons_self ..),
      ih fun y hy => hxs y (List.mem_cons_of_mem _ hy)]

/-- What is left of a node depends only on the records about the handles in it. -/
theorem remains_congr {n : Node} (hgone : ∀ k ∈ n.handles, ∀ i, (k, i) ∈ m.gone ↔ (k, i) ∈ m'.gone)
    (hmade : ∀ k ∈ n.handles, m.made k = m'.made k) : remains m n = remains m' n := by
  induction n using Node.induction with
  | leaf v => rfl
  | dict k es ih =>
    have hin : ∀ e ∈ es, ∀ g ∈ e.2.handles, g ∈ (Node.dict k es).handles := fun e he g hg =>
      List.mem_cons_of_mem _ (mem_handlesOfEntries.mpr ⟨e, he, hg⟩)
    refine remains_dict_congr (hmade k (List.mem_cons_self ..)) ?_
    refine Entries.filterValues_congr fun e he => ?_
    exact ih e he (fun g hg => hgone g (hin e he g hg)) fun g hg => hmade g (hin e he g hg)
  | list k xs ih =>
    have hin : ∀ x ∈ xs, ∀ g ∈ x.handles, g ∈ (Node.list k xs).handles := fun x hx g hg =>
      List.mem_cons_of_mem _ (mem_handlesOfItems.mpr ⟨x, hx, hg⟩)
    have hself : ∀ j, m.gone.contains (k, j) = m'.gone.contains (k, j) := by
      intro j
      rw [Bool.eq_iff_iff, List.contains_iff_mem, List.contains_iff_mem]
      exact hgone k (List.mem_cons_self ..) j
    have hxs : remainsFrom m k 0 xs = remainsFrom m' k 0 (xs.map id) :=
      remainsFrom_congr hself fun x hx =>
        ih x hx (fun g hg => hgone g (hin x hx g hg)) fun g hg => hmade g (hin x hx g hg)
    rw [remains_list, remains_list, hxs, List.map_id]

/-- With nothing recorded, all of a node remains. -/
theorem remains_bare {blocked : List Place} (n : Node) :
    remains ⟨blocked, [], [], []⟩ n = some n := by
  induction n using Node.induction with
  | leaf v => rfl
  | dict h es ih =>
    have hes : Entries.filterValues (remains ⟨blocked, [], [], []⟩) es = es := by
      induction es with
      | nil => rfl
      | cons e es ihes =>
        rw [Entries.filterValues, List.filterMap_cons, ih e (List.mem_cons_self ..)]
        exact congrArg (e :: ·) (ihes fun d hd => ih d (List.mem_cons_of_mem _ hd))
    rw [remains_dict, hes]
    rfl
  | list h xs ih =>
    have hxs : ∀ i, remainsFrom ⟨blocked, [], [], []⟩ h i xs = xs := by
      induction xs with
      | nil =>
        intro i
        rfl
      | cons x xs ihxs =>
        intro i
        rw [remainsFrom, ih x (List.mem_cons_self ..),
          ihxs (fun y hy => ih y (List.mem_cons_of_mem _ hy)) (i + 1)]
        rfl
    rw [remains_list, hxs]

/-- What is left of a node is final in the draft that it stands for. Elements that are blocked are
gone, so it does not matter what stands for them. -/
theorem final?_view (hgone : ∀ e ∈ m.shut, e ∈ m.gone) (n : Node) :
    (view m n).final? = (remains m n).map toValue := by
  induction n using Node.induction with
  | leaf v => rfl
  | dict h es ih =>
    have hes : Entries.filterValues Draft.final? (Entries.mapValues (view m) es) =
        entriesToValues (Entries.filterValues (remains m) es) := by
      rw [Entries.filterValues_mapValues]
      induction es with
      | nil => rfl
      | cons e es ihes =>
        have ihes := ihes fun d hd => ih d (List.mem_cons_of_mem _ hd)
        rw [Entries.filterValues] at ihes ⊢
        rw [List.filterMap_cons, Entries.filterValues, List.filterMap_cons, ihes,
          Function.comp_apply, ih e (List.mem_cons_self ..)]
        cases remains m e.2 <;> rfl
    have hempty : (entriesToValues (Entries.filterValues (remains m) es)).isEmpty =
        (Entries.filterValues (remains m) es).isEmpty := by
      cases Entries.filterValues (remains m) es <;> rfl
    rw [view_dict, Draft.final?_dict, remains_dict, hes, hempty]
    split <;> rfl
  | list h xs ih =>
    have hitems : ∀ i, Draft.finalItems (viewItems m h i xs) =
        itemsToValues (remainsFrom m h i xs) := by
      induction xs with
      | nil =>
        intro i
        rfl
      | cons x xs ihxs =>
        intro i
        rw [viewItems, Draft.finalItems, remainsFrom,
          ihxs (fun y hy => ih y (List.mem_cons_of_mem _ hy)) (i + 1)]
        cases hg : m.gone.contains (h, i) with
        | true => rfl
        | false =>
          have hopen : m.shut.contains (h, i) = false := by
            rw [← Bool.not_eq_true, List.contains_iff_mem]
            intro hs
            rw [← Bool.not_eq_true, List.contains_iff_mem] at hg
            exact hg (hgone _ hs)
          rw [hopen, if_neg Bool.false_ne_true, ih x (List.mem_cons_self ..)]
          cases remains m x <;> rfl
    rw [view, Draft.final?, hitems, remains_list]
    rfl

/-! ## Sound trees -/

/-- Tree and records belong together, told without places: recorded positions exist, opened
containers are found under their names, and mappings that were made stand where they are recorded,
alone under their keys. -/
inductive Sound (m : Marks) : Node → Prop
  | leaf (v : Value) : Sound m (.leaf v)
  | dict {h : Nat} {es : List (Value × Node)} (gone : ∀ i, (h, i) ∉ m.gone) (named : Named es)
      (placed : ∀ s n, Entries.find? (.str s) es = some n → Placed m h s es n)
      (below : ∀ e ∈ es, Sound m e.2) : Sound m (.dict h es)
  | list {h : Nat} {xs : List Node} (made : m.made h = false)
      (gone : ∀ i, (h, i) ∈ m.gone → i < xs.length)
      (unmade : ∀ c ces, .dict c ces ∈ xs → m.made c = false)
      (below : ∀ x ∈ xs, Sound m x) : Sound m (.list h xs)

theorem Fits.sound {k : Nat} : ∀ {place : Place} {n : Node}, Fits m k place n → Sound m n := by
  induction k with
  | zero =>
    intro place n hfits
    obtain ⟨-, v, rfl⟩ := fits_zero.mp hfits
    exact .leaf v
  | succ k ih =>
    intro place n hfits
    cases n with
    | leaf v => exact .leaf v
    | dict h es =>
      obtain ⟨hgone, hnamed, -, hsome⟩ := hfits
      refine .dict hgone hnamed (fun s n hn => (hsome s n hn).2.1) fun e he => ?_
      cases hopen : e.2.isOpened with
      | false =>
        cases hn : e.2 with
        | leaf v => exact .leaf v
        | dict c ces =>
          rw [hn] at hopen
          cases hopen
        | list c xs =>
          rw [hn] at hopen
          cases hopen
      | true =>
        obtain ⟨key, n⟩ := e
        obtain ⟨s, rfl⟩ := hnamed.name _ he hopen
        exact ih (hsome s n (hnamed.find?_of_mem he hopen)).2.2
    | list h xs =>
      obtain ⟨hmade, hgone, hitems⟩ := hfits
      refine .list hmade hgone (fun c ces hc => ?_) fun x hx => ?_
      · obtain ⟨i, hi⟩ := List.getElem?_of_mem hc
        exact (hitems i _ hi).2.1 c ces rfl
      · obtain ⟨i, hi⟩ := List.getElem?_of_mem hx
        exact ih (hitems i x hi).2.2

namespace Sound

/-- With fewer records a tree is still sound, if each mapping that counts as made is recorded. -/
theorem anti {n : Node} (hsound : Sound m n) (m' : Marks) (hgone : ∀ e ∈ m'.gone, e ∈ m.gone)
    (hmade : ∀ c, m'.made c = true → m.made c = true)
    (hcreated : ∀ c ∈ m.created, m'.made c.child = true → c ∈ m'.created) : Sound m' n := by
  have hunmade : ∀ c, m.made c = false → m'.made c = false := by
    intro c hc
    rw [← Bool.not_eq_true] at hc ⊢
    exact mt (hmade c) hc
  induction hsound with
  | leaf v => exact .leaf v
  | dict gone named placed below ih =>
    refine .dict (fun i hi => gone i (hgone _ hi)) named (fun s n hn => ?_) ih
    have hplaced := placed s n hn
    cases n with
    | leaf v => trivial
    | list c xs => trivial
    | dict c ces =>
      intro hc
      obtain ⟨hmem, honce⟩ := hplaced (hmade c hc)
      exact ⟨hcreated _ hmem hc, honce⟩
  | list made gone unmade below ih =>
    exact .list (hunmade _ made) (fun i hi => gone i (hgone _ hi))
      (fun c ces hc => hunmade c (unmade c ces hc)) ih

theorem of_find? {h : Nat} {n c : Node} (hsound : Sound m n) (hc : n.find? h = some c) :
    Sound m c := by
  induction hsound with
  | leaf v => cases hc
  | dict gone named placed below ih =>
    rw [Node.find?] at hc
    split at hc
    · obtain rfl := Option.some.inj hc
      exact .dict gone named placed below
    · obtain ⟨e, he, hfind⟩ := exists_of_findInEntries hc
      exact ih e he hfind
  | list made gone unmade below ih =>
    rw [Node.find?] at hc
    split at hc
    · obtain rfl := Option.some.inj hc
      exact .list made gone unmade below
    · obtain ⟨x, hx, hfind⟩ := exists_of_findInItems hc
      exact ih x hx hfind

end Sound

end Marks

/-! ## Removing parts of a container -/

namespace Node

/-- A change that keeps a container, with other contents. -/
structure Reshapes (f : Node → Node) : Prop where
  dict : ∀ h es, ∃ es', f (.dict h es) = .dict h es'
  list : ∀ h xs, ∃ xs', f (.list h xs) = .list h xs'

/-- A change that keeps a container and removes some of what is in it. -/
structure Trims (f : Node → Node) : Prop where
  dict : ∀ h es, ∃ es', f (.dict h es) = .dict h es' ∧ es'.Sublist es
  list : ∀ h xs, ∃ xs', f (.list h xs) = .list h xs' ∧ xs'.Sublist xs

theorem trims_dropIndexes (indexes : List Nat) : Trims (dropIndexes indexes) := by
  refine ⟨fun h es => ⟨es, rfl, List.Sublist.refl es⟩, fun h xs => ⟨_, rfl, ?_⟩⟩
  have hsub := (List.filter_sublist (p := fun x => !indexes.contains x.2) (l := xs.zipIdx)).map (·.1)
  rwa [List.zipIdx_map_fst] at hsub

theorem trims_eraseKey (s : String) : Trims (eraseKey s) :=
  ⟨fun _ _ => ⟨_, rfl, List.filter_sublist⟩, fun _ xs => ⟨xs, rfl, List.Sublist.refl xs⟩⟩

variable {f : Node → Node} {h : Nat}

/-- A change that gives a container no handles gives none to the whole. -/
theorem handles_modify_sublist
    (hf : ∀ c : Node, c.isOpened = true → (f c).handles.Sublist c.handles) (n : Node) :
    (n.modify h f).handles.Sublist n.handles := by
  induction n using induction with
  | leaf v => exact List.Sublist.refl _
  | dict k es ih =>
    rw [modify]
    split
    · exact hf _ rfl
    · rw [handles, handles, modifyEntries_eq, handlesOfEntries_eq, handlesOfEntries_eq,
        Entries.mapValues, List.flatMap_map]
      exact (List.Sublist.flatMap_right es ih).cons_cons k
  | list k xs ih =>
    rw [modify]
    split
    · exact hf _ rfl
    · rw [handles, handles, modifyItems_eq, handlesOfItems_eq, handlesOfItems_eq, List.flatMap_map]
      exact (List.Sublist.flatMap_right xs ih).cons_cons k

namespace Trims

theorem handles_sublist (hf : Trims f) {n : Node} (hopen : n.isOpened = true) :
    (f n).handles.Sublist n.handles := by
  cases n with
  | leaf v => cases hopen
  | dict h es =>
    obtain ⟨es', heq, hsub⟩ := hf.dict h es
    rw [heq, handles, handles, handlesOfEntries_eq, handlesOfEntries_eq]
    exact (hsub.flatMap _).cons_cons h
  | list h xs =>
    obtain ⟨xs', heq, hsub⟩ := hf.list h xs
    rw [heq, handles, handles, handlesOfItems_eq, handlesOfItems_eq]
    exact (hsub.flatMap _).cons_cons h

theorem handles_modify_sublist (hf : Trims f) (n : Node) :
    (n.modify h f).handles.Sublist n.handles :=
  Node.handles_modify_sublist (fun _ => hf.handles_sublist) n

theorem reshapes (hf : Trims f) : Reshapes f := by
  refine ⟨fun h es => ?_, fun h xs => ?_⟩
  · obtain ⟨es', heq, -⟩ := hf.dict h es
    exact ⟨es', heq⟩
  · obtain ⟨xs', heq, -⟩ := hf.list h xs
    exact ⟨xs', heq⟩

end Trims

namespace Reshapes

theorem isOpened_modify (hf : Reshapes f) (n : Node) : (n.modify h f).isOpened = n.isOpened := by
  cases n with
  | leaf v => rfl
  | dict k es =>
    obtain ⟨es', heq⟩ := hf.dict k es
    rw [modify]
    split
    · rw [heq]
      rfl
    · rfl
  | list k xs =>
    obtain ⟨xs', heq⟩ := hf.list k xs
    rw [modify]
    split
    · rw [heq]
      rfl
    · rfl

theorem handle?_modify (hf : Reshapes f) (n : Node) : (n.modify h f).handle? = n.handle? := by
  cases n with
  | leaf v => rfl
  | dict k es =>
    obtain ⟨es', heq⟩ := hf.dict k es
    rw [modify]
    split
    · rw [heq]
      rfl
    · rfl
  | list k xs =>
    obtain ⟨xs', heq⟩ := hf.list k xs
    rw [modify]
    split
    · rw [heq]
      rfl
    · rfl

theorem exists_dict_of_modify (hf : Reshapes f) {n : Node} {c : Nat} {ces : List (Value × Node)}
    (heq : n.modify h f = .dict c ces) : ∃ ces', n = .dict c ces' := by
  cases n with
  | leaf v => cases heq
  | dict k es =>
    have hk : k = c := by
      have := hf.handle?_modify (h := h) (.dict k es)
      rw [heq] at this
      exact (Option.some.inj this).symm
    exact ⟨es, by rw [hk]⟩
  | list k xs =>
    obtain ⟨xs', hlist⟩ := hf.list k xs
    rw [modify] at heq
    split at heq
    · rw [hlist] at heq
      cases heq
    · cases heq

end Reshapes

end Node

namespace Marks

variable {m m' : Marks}

theorem Named.mapValues {es : List (Value × Node)} (hnamed : Named es) {g : Node → Node}
    (hopen : ∀ n, (g n).isOpened = n.isOpened) : Named (Entries.mapValues g es) := by
  refine ⟨fun e he ho => ?_, List.pairwise_map.mpr (hnamed.first.imp fun hab hkey => ?_)⟩
  · obtain ⟨d, hd, rfl⟩ := List.mem_map.mp he
    rw [hopen] at ho
    exact hnamed.name d hd ho
  · rw [hopen]
    exact hab hkey

/-- A change of one container keeps a tree sound if it keeps the container, and keeps it sound. -/
theorem Sound.modify {f : Node → Node} (hf : Reshapes f) {h : Nat}
    (hkeeps : ∀ c, c.handle? = some h → Sound m c → Sound m (f c)) {n : Node}
    (hsound : Sound m n) : Sound m (n.modify h f) := by
  induction hsound with
  | leaf v => exact .leaf v
  | @dict k es gone named placed below ih =>
    rw [Node.modify]
    split
    · next hk => exact hkeeps _ (congrArg some hk) (.dict gone named placed below)
    · rw [modifyEntries_eq]
      refine .dict gone (named.mapValues hf.isOpened_modify) (fun s n hn => ?_) fun e he => ?_
      · rw [Entries.find?_mapValues] at hn
        obtain ⟨old, hold, rfl⟩ := Option.map_eq_some_iff.mp hn
        cases hnew : old.modify h f with
        | leaf v => trivial
        | list c xs => trivial
        | dict c ces =>
          obtain ⟨ces', rfl⟩ := hf.exists_dict_of_modify hnew
          intro hc
          exact ⟨(placed s _ hold hc).1, (placed s _ hold hc).2.mapValues _⟩
      · obtain ⟨d, hd, rfl⟩ := List.mem_map.mp he
        exact ih d hd
  | @list k xs made gone unmade below ih =>
    rw [Node.modify]
    split
    · next hk => exact hkeeps _ (congrArg some hk) (.list made gone unmade below)
    · rw [modifyItems_eq]
      refine .list made (fun i hi => ?_) (fun c ces hc => ?_) fun x hx => ?_
      · rw [List.length_map]
        exact gone i hi
      · obtain ⟨x, hx, hnew⟩ := List.mem_map.mp hc
        obtain ⟨ces', rfl⟩ := hf.exists_dict_of_modify hnew
        exact unmade c ces' hx
      · obtain ⟨y, hy, rfl⟩ := List.mem_map.mp hx
        exact ih y hy

/-- The records without those about the positions of one list. -/
def struck (m : Marks) (h : Nat) : Marks := { m with gone := m.gone.filter fun e => e.1 != h }

theorem mem_struck_gone {h g i : Nat} : (g, i) ∈ (m.struck h).gone ↔ (g, i) ∈ m.gone ∧ g ≠ h := by
  simp [struck]

theorem agreesAt_struck {h g : Nat} (hne : g ≠ h) : AgreesAt m (m.struck h) g :=
  ⟨fun _ => by rw [mem_struck_gone]; exact (and_iff_left hne).symm, fun _ => Iff.rfl, rfl⟩

theorem Sound.struck {h : Nat} {n : Node} (hsound : Sound m n) : Sound (m.struck h) n :=
  hsound.anti (m.struck h) (fun _ he => (mem_struck_gone.mp he).1) (fun _ hc => hc) fun _ hc _ => hc

theorem Sound.dropIndexes {h : Nat} {n : Node} (hsound : Sound m n) (indexes : List Nat) :
    Sound (m.struck h) (n.modify h (Node.dropIndexes indexes)) := by
  have htrims := trims_dropIndexes indexes
  refine hsound.struck.modify htrims.reshapes fun c hc hsound => ?_
  cases hsound with
  | leaf v => cases hc
  | dict gone named placed below => exact .dict gone named placed below
  | @list k xs made gone unmade below =>
    obtain rfl : k = h := Option.some.inj hc
    obtain ⟨xs', heq, hsub⟩ := htrims.list k xs
    rw [heq]
    refine .list made (fun i hi => absurd rfl (mem_struck_gone.mp hi).2) ?_ ?_
    · exact fun c ces hc => unmade c ces (hsub.subset hc)
    · exact fun x hx => below x (hsub.subset hx)

theorem Sound.erased {n : Node} (hsound : Sound m n) (s : String) : Sound m (n.eraseKey s) := by
  cases hsound with
  | leaf v => exact .leaf v
  | list made gone unmade below => exact .list made gone unmade below
  | dict gone named placed below =>
    refine .dict gone named.erase (fun t n hn => ?_) fun e he => below e (List.mem_of_mem_filter he)
    have hst : s ≠ t := by
      rintro rfl
      rw [Entries.find?_erase_self] at hn
      cases hn
    rw [Entries.find?_erase_ne hst] at hn
    have hplaced := placed t n hn
    cases n with
    | leaf v => trivial
    | list c xs => trivial
    | dict c ces => exact fun hc => ⟨(hplaced hc).1, (hplaced hc).2.erase s⟩

theorem Sound.eraseKey {h : Nat} {n : Node} (hsound : Sound m n) (s : String) :
    Sound m (n.modify h (Node.eraseKey s)) :=
  hsound.modify (trims_eraseKey s).reshapes fun _ _ hc => hc.erased s

/-! ## Positions of a list -/

theorem remainsFrom_free {h : Nat} (hfree : ∀ i, (h, i) ∉ m.gone) (xs : List Node) (i : Nat) :
    remainsFrom m h i xs = xs.flatMap fun x => (remains m x).toList := by
  induction xs generalizing i with
  | nil => rfl
  | cons x xs ih =>
    have hx : m.gone.contains (h, i) = false := by simpa using hfree i
    rw [remainsFrom, ih, hx, List.flatMap_cons]
    rfl

theorem remainsFrom_dropped {h : Nat} {indexes : List Nat}
    (hgone : ∀ i, m.gone.contains (h, i) = indexes.contains i) (xs : List Node) (i : Nat) :
    remainsFrom m h i xs =
      (((xs.zipIdx i).filter fun x => !indexes.contains x.2).map (·.1)).flatMap
        fun x => (remains m x).toList := by
  induction xs generalizing i with
  | nil => rfl
  | cons x xs ih =>
    rw [remainsFrom, ih, hgone, List.zipIdx_cons]
    cases hi : indexes.contains i with
    | true =>
      rw [List.filter_cons_of_neg (by rw [hi]; exact Bool.false_ne_true)]
      rfl
    | false =>
      rw [List.filter_cons_of_pos (by rw [hi]; rfl), List.map_cons, List.flatMap_cons]
      rfl

/-- Removing the recorded positions of a list and striking them from the records. -/
theorem remains_dropIndexes {h : Nat} {indexes : List Nat}
    (hgone : ∀ i, (h, i) ∈ m.gone ↔ i ∈ indexes) {n : Node} (hnd : n.handles.Nodup)
    (hsound : Sound m n) :
    remains (m.struck h) (n.modify h (Node.dropIndexes indexes)) = remains m n := by
  induction hsound with
  | leaf v => rfl
  | @dict k es gone named placed below ih =>
    obtain ⟨hk, hes⟩ := List.nodup_cons.mp hnd
    rw [Node.modify]
    split
    · next heq =>
      subst heq
      have hmade : ∀ g ∈ (Node.dict k es).handles, m.made g = (m.struck k).made g := fun _ _ => rfl
      refine (remains_congr (fun g _ i => ?_) hmade).symm
      rw [mem_struck_gone]
      refine ⟨fun hi => ⟨hi, ?_⟩, fun hi => hi.1⟩
      rintro rfl
      exact gone i hi
    · rw [modifyEntries_eq]
      refine remains_dict_congr rfl ?_
      rw [Entries.filterValues_mapValues]
      exact Entries.filterValues_congr fun e he => ih e he (nodup_of_mem_entries hes he)
  | @list k xs made gone unmade below ih =>
    obtain ⟨hk, hxs⟩ := List.nodup_cons.mp hnd
    rw [Node.modify]
    split
    · next heq =>
      subst heq
      have hsame : ∀ x ∈ xs, remains (m.struck k) x = remains m x := by
        intro x hx
        have hmade : ∀ g ∈ x.handles, m.made g = (m.struck k).made g := fun _ _ => rfl
        refine (remains_congr (fun g hg => (agreesAt_struck ?_).gone) hmade).symm
        rintro rfl
        exact hk (mem_handlesOfItems.mpr ⟨x, hx, hg⟩)
      have hcontains : ∀ i, m.gone.contains (k, i) = indexes.contains i := by
        intro i
        rw [Bool.eq_iff_iff, List.contains_iff_mem, List.contains_iff_mem]
        exact hgone i
      -- what was marked is now taken out, so nothing is left to be passed over
      rw [Node.dropIndexes, remains_list, remains_list,
        remainsFrom_dropped hcontains,
        remainsFrom_free fun i hi => (mem_struck_gone.mp hi).2 rfl]
      congr 2
      refine List.flatMap_congr fun x hx => ?_
      obtain ⟨y, hy, rfl⟩ := List.mem_map.mp hx
      have hmem := List.mem_map_of_mem (f := (·.1)) (List.mem_of_mem_filter hy)
      rw [List.zipIdx_map_fst] at hmem
      rw [hsame _ hmem]
    · next hne =>
      rw [modifyItems_eq, remains_list, remains_list]
      congr 2
      refine (remainsFrom_congr (fun j => ?_) fun x hx => ?_).symm
      · exact (agreesAt_struck hne).contains_gone j
      · exact (ih x hx (nodup_of_mem_items hxs hx)).symm

/-! ## Mappings that were made -/

/-- Records of nothing but mappings that were made. -/
def ofCreated (created : List Created) : Marks := ⟨[], [], [], created⟩

section Youngest

variable {older : List Created} {c : Created}

theorem made_ofCreated_concat {h : Nat} (hne : h ≠ c.child) :
    (ofCreated (older ++ [c])).made h = (ofCreated older).made h := by
  simp [made, ofCreated, Ne.symm hne]

theorem made_child : (ofCreated (older ++ [c])).made c.child = true := by
  simp [made, ofCreated]

theorem child_le (hsorted : (older ++ [c]).Pairwise fun a b => a.child < b.child) {b : Created}
    (hb : b ∈ older ++ [c]) : b.child ≤ c.child := by
  rcases List.mem_append.mp hb with hb | hb
  · exact Nat.le_of_lt ((List.pairwise_append.mp hsorted).2.2 b hb c (List.mem_singleton_self c))
  · exact Nat.le_of_eq (congrArg Created.child (List.mem_singleton.mp hb))

theorem eq_of_child_eq (hsorted : (older ++ [c]).Pairwise fun a b => a.child < b.child)
    {b : Created} (hb : b ∈ older ++ [c]) (hchild : b.child = c.child) : b = c := by
  rcases List.mem_append.mp hb with hb | hb
  · have := (List.pairwise_append.mp hsorted).2.2 b hb c (List.mem_singleton_self c)
    omega
  · exact List.mem_singleton.mp hb

theorem Sound.of_concat (hsorted : (older ++ [c]).Pairwise fun a b => a.child < b.child) {n : Node}
    (hsound : Sound (ofCreated (older ++ [c])) n) : Sound (ofCreated older) n := by
  refine hsound.anti (ofCreated older) (fun _ he => he) (fun h hmade => ?_) fun b hb hmade => ?_
  · rw [made, List.any_eq_true] at hmade ⊢
    obtain ⟨b, hb, hchild⟩ := hmade
    exact ⟨b, List.mem_append_left _ hb, hchild⟩
  · rcases List.mem_append.mp hb with hb | hb
    · exact hb
    · obtain rfl := List.mem_singleton.mp hb
      rw [made, List.any_eq_true] at hmade
      obtain ⟨d, hd, hchild⟩ := hmade
      have := (List.pairwise_append.mp hsorted).2.2 d hd b (List.mem_singleton_self b)
      rw [beq_iff_eq] at hchild
      omega

/-- The youngest mapping that was made is not an element of a list, and no entry of a mapping but
the one that is recorded. -/
theorem entry_of_handle? (hsorted : (older ++ [c]).Pairwise fun a b => a.child < b.child) {h : Nat}
    {es : List (Value × Node)} (hsound : Sound (ofCreated (older ++ [c])) (.dict h es))
    {e : Value × Node} (he : e ∈ es)
    (hhandle : e.2.handle? = some c.child) :
    h = c.parent ∧ Entries.Once c.key es ∧
      ∃ ces, Entries.find? (.str c.key) es = some (.dict c.child ces) ∧
        e = (.str c.key, .dict c.child ces) := by
  cases hsound with
  | dict gone named placed below =>
    have hopen : e.2.isOpened = true := by
      cases he2 : e.2 with
      | leaf v =>
        rw [he2] at hhandle
        cases hhandle
      | dict k ces => rfl
      | list k xs => rfl
    obtain ⟨key, n⟩ := e
    obtain ⟨s, rfl⟩ := named.name _ he hopen
    have hfind := named.find?_of_mem he hopen
    cases n with
    | leaf v => cases hhandle
    | list k xs =>
      obtain rfl : k = c.child := Option.some.inj hhandle
      cases below _ he with
      | list made =>
        rw [made_child] at made
        cases made
    | dict k ces =>
      obtain rfl : k = c.child := Option.some.inj hhandle
      obtain ⟨hmem, honce⟩ := placed s _ hfind made_child
      have heq := eq_of_child_eq hsorted hmem rfl
      obtain rfl : h = c.parent := congrArg Created.parent heq
      obtain rfl : s = c.key := congrArg Created.key heq
      exact ⟨rfl, honce, ces, hfind, rfl⟩

theorem item_handle?_ne {h : Nat} {xs : List Node}
    (hsound : Sound (ofCreated (older ++ [c])) (.list h xs)) {x : Node} (hx : x ∈ xs) :
    x.handle? ≠ some c.child := by
  intro hhandle
  cases hsound with
  | list made gone unmade below =>
    cases x with
    | leaf v => cases hhandle
    | list k ys =>
      obtain rfl : k = c.child := Option.some.inj hhandle
      cases below _ hx with
      | list made =>
        rw [made_child] at made
        cases made
    | dict k ces =>
      obtain rfl : k = c.child := Option.some.inj hhandle
      have := unmade _ ces hx
      rw [made_child] at this
      cases this

/-- The youngest mapping that was made is found in the one that it was made in. -/
theorem find?_parent (hsorted : (older ++ [c]).Pairwise fun a b => a.child < b.child) {n : Node}
    (hnd : n.handles.Nodup) (hsound : Sound (ofCreated (older ++ [c])) n)
    (hne : n.handle? ≠ some c.child) (hmem : c.child ∈ n.handles) :
    ∃ ces, (n.find? c.parent).bind (·.child? (.key c.key)) = some (.dict c.child ces) ∧
      n.find? c.child = some (.dict c.child ces) := by
  induction n using Node.induction with
  | leaf v => cases hmem
  | dict h es ih =>
    obtain ⟨hh, hes⟩ := List.nodup_cons.mp hnd
    have hchild : h ≠ c.child := fun heq => hne (congrArg some heq)
    have hmem' : c.child ∈ handlesOfEntries es := (List.mem_cons.mp hmem).resolve_left hchild.symm
    obtain ⟨e, he, hin⟩ := mem_handlesOfEntries.mp hmem'
    -- the mapping stands in this entry, or deeper in it
    by_cases hhandle : e.2.handle? = some c.child
    · obtain ⟨rfl, -, ces, hfind, heq⟩ := entry_of_handle? hsorted hsound he hhandle
      refine ⟨ces, ?_, ?_⟩
      · rw [Node.find?, if_pos rfl]
        exact hfind
      · rw [Node.find?, if_neg hchild, findInEntries_of_mem hes he hin, heq, Node.find?,
          if_pos rfl]
    · cases hsound with
      | dict gone named placed below =>
        obtain ⟨ces, hparent, hfind⟩ := ih e he (nodup_of_mem_entries hes he) (below e he) hhandle hin
        refine ⟨ces, ?_, ?_⟩
        · obtain ⟨p, hp, -⟩ := Option.bind_eq_some_iff.mp hparent
          have hpmem := mem_of_find?_eq_some hp
          have hnep : h ≠ c.parent := by
            rintro rfl
            exact hh (mem_handlesOfEntries.mpr ⟨e, he, hpmem⟩)
          rw [Node.find?, if_neg hnep, findInEntries_of_mem hes he hpmem]
          exact hparent
        · rw [Node.find?, if_neg hchild, findInEntries_of_mem hes he hin, hfind]
  | list h xs ih =>
    obtain ⟨hh, hxs⟩ := List.nodup_cons.mp hnd
    have hchild : h ≠ c.child := fun heq => hne (congrArg some heq)
    have hmem' : c.child ∈ handlesOfItems xs := (List.mem_cons.mp hmem).resolve_left hchild.symm
    obtain ⟨x, hx, hin⟩ := mem_handlesOfItems.mp hmem'
    have hhandle := item_handle?_ne hsound hx
    cases hsound with
    | list made gone unmade below =>
      obtain ⟨ces, hparent, hfind⟩ := ih x hx (nodup_of_mem_items hxs hx) (below x hx) hhandle hin
      refine ⟨ces, ?_, ?_⟩
      · obtain ⟨p, hp, -⟩ := Option.bind_eq_some_iff.mp hparent
        have hpmem := mem_of_find?_eq_some hp
        have hnep : h ≠ c.parent := by
          rintro rfl
          exact hh (mem_handlesOfItems.mpr ⟨x, hx, hpmem⟩)
        rw [Node.find?, if_neg hnep, findInItems_of_mem hxs hx hpmem]
        exact hparent
      · rw [Node.find?, if_neg hchild, findInItems_of_mem hxs hx hin, hfind]

theorem remains_of_not_mem {n : Node} (hmem : c.child ∉ n.handles) :
    remains (ofCreated (older ++ [c])) n = remains (ofCreated older) n := by
  refine remains_congr (fun _ _ _ => Iff.rfl) fun h hh => made_ofCreated_concat ?_
  rintro rfl
  exact hmem hh

/-- Every part of the youngest mapping that was made remains. -/
theorem remains_ne_none (hsorted : (older ++ [c]).Pairwise fun a b => a.child < b.child)
    (hyounger : ∀ b ∈ older ++ [c], b.parent < b.child) {es : List (Value × Node)}
    (hsound : Sound (ofCreated (older ++ [c])) (.dict c.child es)) {e : Value × Node}
    (he : e ∈ es) : remains (ofCreated (older ++ [c])) e.2 ≠ none := by
  obtain ⟨key, n⟩ := e
  cases n with
  | leaf v => simp [remains]
  | list k xs => simp [remains]
  | dict k ces =>
    cases hsound with
    | dict gone named placed below =>
      have hmade : (ofCreated (older ++ [c])).made k = false := by
        rw [← Bool.not_eq_true]
        intro hk
        obtain ⟨s, rfl⟩ := named.name _ he rfl
        have hmem := (placed s _ (named.find?_of_mem he rfl) hk).1
        have hlt : c.child < k := hyounger _ hmem
        have hle : k ≤ c.child := child_le hsorted hmem
        omega
      rw [remains_dict, hmade]
      simp

/-- A mapping that was made and is not empty may as well not have been made. -/
theorem remains_keep (hsorted : (older ++ [c]).Pairwise fun a b => a.child < b.child)
    (hyounger : ∀ b ∈ older ++ [c], b.parent < b.child) {n : Node} (hnd : n.handles.Nodup)
    (hsound : Sound (ofCreated (older ++ [c])) n)
    (hfull : n.find? c.child ≠ some (.dict c.child [])) :
    remains (ofCreated (older ++ [c])) n = remains (ofCreated older) n := by
  induction n using Node.induction with
  | leaf v => rfl
  | dict h es ih =>
    obtain ⟨hh, hes⟩ := List.nodup_cons.mp hnd
    by_cases hhc : h = c.child
    · subst hhc
      have hes' : Entries.filterValues (remains (ofCreated (older ++ [c]))) es =
          Entries.filterValues (remains (ofCreated older)) es := by
        refine Entries.filterValues_congr fun e he => remains_of_not_mem fun hmem => hh ?_
        exact mem_handlesOfEntries.mpr ⟨e, he, hmem⟩
      -- the mapping has an entry, and what stands in it is older, so that something remains
      have hsome : (Entries.filterValues (remains (ofCreated (older ++ [c]))) es).isEmpty = false := by
        cases es with
        | nil =>
          rw [Node.find?, if_pos rfl] at hfull
          exact absurd rfl hfull
        | cons e es =>
          have hne := remains_ne_none hsorted hyounger hsound (List.mem_cons_self ..)
          obtain ⟨v, hv⟩ := Option.ne_none_iff_exists'.mp hne
          rw [Entries.filterValues, List.filterMap_cons, hv]
          rfl
      rw [remains_dict, remains_dict, ← hes', hsome, Bool.and_false, Bool.and_false]
    · cases hsound with
      | dict gone named placed below =>
        refine remains_dict_congr (made_ofCreated_concat hhc) (Entries.filterValues_congr fun e he => ?_)
        refine ih e he (nodup_of_mem_entries hes he) (below e he) fun hfind => hfull ?_
        rw [Node.find?, if_neg hhc, findInEntries_of_mem hes he (mem_of_find?_eq_some hfind), hfind]
  | list h xs ih =>
    obtain ⟨hh, hxs⟩ := List.nodup_cons.mp hnd
    cases hsound with
    | list made gone unmade below =>
      have hxs' : remainsFrom (ofCreated (older ++ [c])) h 0 xs =
          remainsFrom (ofCreated older) h 0 (xs.map id) := by
        refine remainsFrom_congr (fun j => rfl) fun x hx => ?_
        refine ih x hx (nodup_of_mem_items hxs hx) (below x hx) fun hfind => hfull ?_
        have hmem := mem_of_find?_eq_some hfind
        have hhc : h ≠ c.child := by
          rintro rfl
          exact hh (mem_handlesOfItems.mpr ⟨x, hx, hmem⟩)
        rw [Node.find?, if_neg hhc, findInItems_of_mem hxs hx hmem, hfind]
      rw [remains_list, remains_list, hxs', List.map_id]

/-- Removing the youngest mapping that was made from the mapping where it stands. -/
theorem remains_eraseKey_self (hsorted : (older ++ [c]).Pairwise fun a b => a.child < b.child)
    {es : List (Value × Node)} (hnd : (Node.dict c.parent es).handles.Nodup)
    (hsound : Sound (ofCreated (older ++ [c])) (.dict c.parent es)) (hne : c.parent ≠ c.child)
    (hfind : Entries.find? (.str c.key) es = some (.dict c.child [])) :
    remains (ofCreated older) (.dict c.parent (Entries.erase (.str c.key) es)) =
      remains (ofCreated (older ++ [c])) (.dict c.parent es) := by
  obtain ⟨hh, hes⟩ := List.nodup_cons.mp hnd
  have hmem := Entries.mem_of_find? hfind
  obtain ⟨-, honce, -⟩ := entry_of_handle? hsorted hsound hmem rfl
  have hnone : remains (ofCreated (older ++ [c])) (.dict c.child []) = none := by
    rw [remains_dict, made_child]
    rfl
  refine remains_dict_congr (made_ofCreated_concat hne).symm ?_
  rw [← Entries.filterValues_erase_of_once _ hnone honce hfind]
  -- the mapping stands in no other entry, be it directly or deeper
  refine Entries.filterValues_congr fun e he => (remains_of_not_mem fun hin => ?_).symm
  have hees : e ∈ es := List.mem_of_mem_filter he
  by_cases hhandle : e.2.handle? = some c.child
  · obtain ⟨-, -, ces, -, rfl⟩ := entry_of_handle? hsorted hsound hees hhandle
    have hkey := (List.mem_filter.mp he).2
    rw [(Value.sameKey_str c.key _).mpr rfl] at hkey
    cases hkey
  · cases hsound with
    | dict gone named placed below =>
      obtain ⟨ces, hparent, -⟩ := find?_parent hsorted (nodup_of_mem_entries hes hees)
        (below e hees) hhandle hin
      obtain ⟨p, hp, -⟩ := Option.bind_eq_some_iff.mp hparent
      exact hh (mem_handlesOfEntries.mpr ⟨e, hees, mem_of_find?_eq_some hp⟩)

/-- Removing the youngest mapping that was made, if it is empty. -/
theorem remains_eraseKey (hsorted : (older ++ [c]).Pairwise fun a b => a.child < b.child)
    {n : Node} (hnd : n.handles.Nodup)
    (hsound : Sound (ofCreated (older ++ [c])) n) (hne : n.handle? ≠ some c.child)
    (hempty : ∀ p, n.find? c.parent = some p →
      p.child? (.key c.key) = some (.dict c.child [])) :
    remains (ofCreated older) (n.modify c.parent (Node.eraseKey c.key)) =
      remains (ofCreated (older ++ [c])) n := by
  induction n using Node.induction with
  | leaf v => rfl
  | dict h es ih =>
    obtain ⟨hh, hes⟩ := List.nodup_cons.mp hnd
    have hhc : h ≠ c.child := fun heq => hne (congrArg some heq)
    rw [Node.modify]
    split
    · next heq =>
      subst heq
      refine remains_eraseKey_self hsorted hnd hsound hhc (hempty (.dict c.parent es) ?_)
      rw [Node.find?, if_pos rfl]
    · next hhp =>
      rw [modifyEntries_eq]
      cases id hsound with
      | dict gone named placed below =>
        refine remains_dict_congr (made_ofCreated_concat hhc).symm ?_
        rw [Entries.filterValues_mapValues]
        refine Entries.filterValues_congr fun e he => ?_
        refine ih e he (nodup_of_mem_entries hes he) (below e he) (fun hhandle => ?_) fun p hp => ?_
        · exact hhp (entry_of_handle? hsorted hsound he hhandle).1
        · refine hempty p ?_
          rw [Node.find?, if_neg hhp, findInEntries_of_mem hes he (mem_of_find?_eq_some hp), hp]
  | list h xs ih =>
    obtain ⟨hh, hxs⟩ := List.nodup_cons.mp hnd
    rw [Node.modify]
    split
    · next heq =>
      subst heq
      have hchild := hempty (.list c.parent xs) (by rw [Node.find?, if_pos rfl])
      cases hchild
    · next hhp =>
      cases id hsound with
      | list made gone unmade below =>
        have hxs' : remainsFrom (ofCreated (older ++ [c])) h 0 xs =
            remainsFrom (ofCreated older) h 0
              (xs.map (Node.modify c.parent (Node.eraseKey c.key))) := by
          refine remainsFrom_congr (fun j => rfl) fun x hx => (ih x hx (nodup_of_mem_items hxs hx)
            (below x hx) (item_handle?_ne hsound hx) fun p hp => hempty p ?_).symm
          rw [Node.find?, if_neg hhp, findInItems_of_mem hxs hx (mem_of_find?_eq_some hp), hp]
        rw [modifyItems_eq, remains_list, remains_list, hxs']

end Youngest

end Marks

end ArgumentSchema
