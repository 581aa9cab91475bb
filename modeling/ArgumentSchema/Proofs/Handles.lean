import ArgumentSchema.Proofs.Entries
import ArgumentSchema.Tree.Node
import Mathlib.Data.List.Nodup

/-!
# Containers by their handles

An opened container is found and changed by its handle, wherever it stands. As long as no handle
occurs twice (`Node.handles`), a change reaches one container and nothing else:

> `modify_of_not_mem`: a change of a handle that does not occur changes nothing.
> `modify_child`: a change of a handle below a key is a change of what stands under the key.

The writes of a run only replace values that no path has entered. Such a write leaves the
`skeleton` of a node alone, the opened containers and where they stand, and the skeleton decides
where the next write can go (`aims_skeleton`).
-/

namespace ArgumentSchema.Node

/-- Induction over a node: what holds of all contents of a container holds of the container. -/
theorem induction {p : Node → Prop} (leaf : ∀ v, p (leaf v))
    (dict : ∀ h es, (∀ e ∈ es, p e.2) → p (dict h es))
    (list : ∀ h xs, (∀ x ∈ xs, p x) → p (list h xs)) : ∀ n, p n
  | .leaf v => leaf v
  | .dict h es => dict h es fun e he =>
      have hlt : sizeOf e.2 < sizeOf (Node.dict h es) := by
        have := List.sizeOf_lt_of_mem he
        obtain ⟨k, n⟩ := e
        simp only [Node.dict.sizeOf_spec, Prod.mk.sizeOf_spec] at *
        omega
      induction leaf dict list e.2
  | .list h xs => list h xs fun x hx =>
      have hlt : sizeOf x < sizeOf (Node.list h xs) := by
        have := List.sizeOf_lt_of_mem hx
        simp only [Node.list.sizeOf_spec]
        omega
      induction leaf dict list x
termination_by n => sizeOf n
decreasing_by all_goals exact hlt

mutual

/-- The handles of the opened containers in a node. -/
def handles : Node → List Nat
  | leaf _ => []
  | dict h es => h :: handlesOfEntries es
  | list h xs => h :: handlesOfItems xs

/-- The handles of the opened containers among entries. -/
def handlesOfEntries : List (Value × Node) → List Nat
  | [] => []
  | (_, n) :: es => handles n ++ handlesOfEntries es

/-- The handles of the opened containers among elements. -/
def handlesOfItems : List Node → List Nat
  | [] => []
  | n :: ns => handles n ++ handlesOfItems ns

end

/-- The handle of an opened container. -/
def handle? : Node → Option Nat
  | leaf _ => none
  | dict h _ => some h
  | list h _ => some h

variable {g h k : Nat} {f : Node → Node}

/-- A node without its contents: which value it is, or which container. -/
def shell : Node → Node
  | .leaf v => .leaf v
  | .dict h _ => .dict h []
  | .list h _ => .list h []

theorem handle?_shell (n : Node) : n.shell.handle? = n.handle? := by
  cases n <;> rfl

theorem isOpened_of_handle? {n : Node} (hn : n.handle? = some h) : n.isOpened = true := by
  cases n with
  | leaf v => cases hn
  | dict k es => rfl
  | list k xs => rfl

theorem isOpened_congr {m n : Node} (hn : m.handle? = n.handle?) (hopen : n.isOpened = true) :
    m.isOpened = true := by
  cases n with
  | leaf v => cases hopen
  | dict k es => exact isOpened_of_handle? hn
  | list k xs => exact isOpened_of_handle? hn

theorem handles_of_closed {n : Node} (h : n.isOpened = false) : n.handles = [] := by
  cases n with
  | leaf v => rfl
  | dict k es => cases h
  | list k xs => cases h

theorem mem_handlesOfEntries {es : List (Value × Node)} :
    h ∈ handlesOfEntries es ↔ ∃ e ∈ es, h ∈ e.2.handles := by
  induction es with
  | nil => simp [handlesOfEntries]
  | cons e es ih => simp [handlesOfEntries, ih]

theorem mem_handlesOfItems {xs : List Node} :
    h ∈ handlesOfItems xs ↔ ∃ x ∈ xs, h ∈ x.handles := by
  induction xs with
  | nil => simp [handlesOfItems]
  | cons x xs ih => simp [handlesOfItems, ih]

theorem handlesOfItems_eq (xs : List Node) : handlesOfItems xs = xs.flatMap handles := by
  induction xs with
  | nil => rfl
  | cons x xs ih => rw [handlesOfItems, ih, List.flatMap_cons]

theorem handlesOfEntries_eq (es : List (Value × Node)) :
    handlesOfEntries es = es.flatMap fun e => e.2.handles := by
  induction es with
  | nil => rfl
  | cons e es ih => rw [handlesOfEntries, ih, List.flatMap_cons]

theorem handlesOfItems_append (xs ys : List Node) :
    handlesOfItems (xs ++ ys) = handlesOfItems xs ++ handlesOfItems ys := by
  rw [handlesOfItems_eq, handlesOfItems_eq, handlesOfItems_eq, List.flatMap_append]

theorem handlesOfEntries_append (es es' : List (Value × Node)) :
    handlesOfEntries (es ++ es') = handlesOfEntries es ++ handlesOfEntries es' := by
  induction es with
  | nil => rfl
  | cons e es ih => simp [handlesOfEntries, ih]

theorem modifyEntries_eq (h : Nat) (f : Node → Node) (es : List (Value × Node)) :
    modifyEntries h f es = Entries.mapValues (modify h f) es := by
  induction es with
  | nil => rfl
  | cons e es ih => simp [modifyEntries, Entries.mapValues, ih]

theorem modifyItems_eq (h : Nat) (f : Node → Node) (xs : List Node) :
    modifyItems h f xs = xs.map (modify h f) := by
  induction xs with
  | nil => rfl
  | cons x xs ih => simp [modifyItems, ih]

theorem find?_self {n : Node} (hn : n.handle? = some h) : find? h n = some n := by
  cases n with
  | leaf v => cases hn
  | dict k es => rw [find?, if_pos (Option.some.inj hn)]
  | list k xs => rw [find?, if_pos (Option.some.inj hn)]

theorem modify_self {n : Node} (hn : n.handle? = some h) : modify h f n = f n := by
  cases n with
  | leaf v => cases hn
  | dict k es => rw [modify, if_pos (Option.some.inj hn)]
  | list k xs => rw [modify, if_pos (Option.some.inj hn)]

/-! ## Handles that do not occur -/

/-- A change of a handle that does not occur changes nothing. -/
theorem modify_of_not_mem {n : Node} (hn : h ∉ n.handles) : modify h f n = n := by
  induction n using induction with
  | leaf v => rfl
  | dict k es ih =>
    obtain ⟨hk, hes⟩ := not_or.mp (mt List.mem_cons.mpr hn)
    rw [modify, if_neg (Ne.symm hk), modifyEntries_eq]
    congr 1
    refine Entries.mapValues_eq_self fun e he => ih e he fun hm => hes ?_
    exact mem_handlesOfEntries.mpr ⟨e, he, hm⟩
  | list k xs ih =>
    obtain ⟨hk, hxs⟩ := not_or.mp (mt List.mem_cons.mpr hn)
    rw [modify, if_neg (Ne.symm hk), modifyItems_eq]
    congr 1
    refine (List.map_congr_left fun x hx => ih x hx fun hm => hxs ?_).trans (List.map_id xs)
    exact mem_handlesOfItems.mpr ⟨x, hx, hm⟩

theorem modifyEntries_of_not_mem {es : List (Value × Node)} (h' : h ∉ handlesOfEntries es) :
    modifyEntries h f es = es := by
  rw [modifyEntries_eq]
  refine Entries.mapValues_eq_self fun e he => modify_of_not_mem fun hm => h' ?_
  exact mem_handlesOfEntries.mpr ⟨e, he, hm⟩

theorem modifyItems_of_not_mem {xs : List Node} (h' : h ∉ handlesOfItems xs) :
    modifyItems h f xs = xs := by
  rw [modifyItems_eq]
  refine (List.map_congr_left fun x hx => modify_of_not_mem fun hm => h' ?_).trans (List.map_id xs)
  exact mem_handlesOfItems.mpr ⟨x, hx, hm⟩

theorem findInEntries_of_not_mem {es : List (Value × Node)}
    (ih : ∀ e ∈ es, h ∉ e.2.handles → find? h e.2 = none) (h' : h ∉ handlesOfEntries es) :
    findInEntries h es = none := by
  induction es with
  | nil => rfl
  | cons e es ihes =>
    obtain ⟨h₁, h₂⟩ := not_or.mp (mt List.mem_append.mpr h')
    rw [findInEntries, ih e (List.mem_cons_self ..) h₁,
      ihes (fun e he => ih e (List.mem_cons_of_mem _ he)) h₂]
    rfl

theorem findInItems_of_not_mem {xs : List Node}
    (ih : ∀ x ∈ xs, h ∉ x.handles → find? h x = none) (h' : h ∉ handlesOfItems xs) :
    findInItems h xs = none := by
  induction xs with
  | nil => rfl
  | cons x xs ihxs =>
    obtain ⟨h₁, h₂⟩ := not_or.mp (mt List.mem_append.mpr h')
    rw [findInItems, ih x (List.mem_cons_self ..) h₁,
      ihxs (fun x hx => ih x (List.mem_cons_of_mem _ hx)) h₂]
    rfl

theorem find?_of_not_mem {n : Node} (hn : h ∉ n.handles) : find? h n = none := by
  induction n using induction with
  | leaf v => rfl
  | dict k es ih =>
    obtain ⟨hk, hes⟩ := not_or.mp (mt List.mem_cons.mpr hn)
    rw [find?, if_neg (Ne.symm hk)]
    exact findInEntries_of_not_mem ih hes
  | list k xs ih =>
    obtain ⟨hk, hxs⟩ := not_or.mp (mt List.mem_cons.mpr hn)
    rw [find?, if_neg (Ne.symm hk)]
    exact findInItems_of_not_mem ih hxs

theorem mem_of_find?_eq_some {n c : Node} (hc : find? h n = some c) : h ∈ n.handles := by
  by_contra hn
  rw [find?_of_not_mem hn] at hc
  cases hc

theorem exists_of_findInEntries {es : List (Value × Node)} {c : Node}
    (hc : findInEntries h es = some c) : ∃ e ∈ es, find? h e.2 = some c := by
  induction es with
  | nil => cases hc
  | cons e es ih =>
    rw [findInEntries, Option.or_eq_some_iff] at hc
    rcases hc with hc | ⟨-, hc⟩
    · exact ⟨e, List.mem_cons_self .., hc⟩
    · obtain ⟨d, hd, hfind⟩ := ih hc
      exact ⟨d, List.mem_cons_of_mem _ hd, hfind⟩

theorem exists_of_findInItems {xs : List Node} {c : Node} (hc : findInItems h xs = some c) :
    ∃ x ∈ xs, find? h x = some c := by
  induction xs with
  | nil => cases hc
  | cons x xs ih =>
    rw [findInItems, Option.or_eq_some_iff] at hc
    rcases hc with hc | ⟨-, hc⟩
    · exact ⟨x, List.mem_cons_self .., hc⟩
    · obtain ⟨y, hy, hfind⟩ := ih hc
      exact ⟨y, List.mem_cons_of_mem _ hy, hfind⟩

/-- What is found under a handle has the handle. -/
theorem handle?_of_find? {n c : Node} (hc : find? h n = some c) : c.handle? = some h := by
  induction n using induction with
  | leaf v => cases hc
  | dict k es ih =>
    rw [find?] at hc
    split at hc
    · next hk =>
      obtain rfl := Option.some.inj hc
      exact congrArg some hk
    · obtain ⟨e, he, hfind⟩ := exists_of_findInEntries hc
      exact ih e he hfind
  | list k xs ih =>
    rw [find?] at hc
    split at hc
    · next hk =>
      obtain rfl := Option.some.inj hc
      exact congrArg some hk
    · obtain ⟨x, hx, hfind⟩ := exists_of_findInItems hc
      exact ih x hx hfind

/-- What is found in a node has no other handles than the node. -/
theorem handles_subset_of_find? {n c : Node} (hc : find? h n = some c) :
    ∀ k ∈ c.handles, k ∈ n.handles := by
  induction n using induction with
  | leaf v => cases hc
  | dict k es ih =>
    rw [find?] at hc
    split at hc
    · obtain rfl := Option.some.inj hc
      exact fun _ hg => hg
    · obtain ⟨e, he, hfind⟩ := exists_of_findInEntries hc
      exact fun g hg => List.mem_cons_of_mem _ (mem_handlesOfEntries.mpr ⟨e, he, ih e he hfind g hg⟩)
  | list k xs ih =>
    rw [find?] at hc
    split at hc
    · obtain rfl := Option.some.inj hc
      exact fun _ hg => hg
    · obtain ⟨x, hx, hfind⟩ := exists_of_findInItems hc
      exact fun g hg => List.mem_cons_of_mem _ (mem_handlesOfItems.mpr ⟨x, hx, ih x hx hfind g hg⟩)

theorem mem_handles_of_child? {step : Step} {n c : Node} (hc : n.child? step = some c) :
    ∀ k ∈ c.handles, k ∈ n.handles := by
  cases n with
  | leaf v => cases step <;> cases hc
  | dict k es =>
    cases step with
    | index i => cases hc
    | key s =>
      exact fun g hg => List.mem_cons_of_mem _
        (mem_handlesOfEntries.mpr ⟨_, Entries.mem_of_find? hc, hg⟩)
  | list k xs =>
    cases step with
    | key s => cases hc
    | index i =>
      exact fun g hg => List.mem_cons_of_mem _
        (mem_handlesOfItems.mpr ⟨_, List.mem_of_getElem? hc, hg⟩)

theorem findInEntries_isSome {es : List (Value × Node)} {e : Value × Node} (he : e ∈ es)
    (hfind : (find? h e.2).isSome = true) : (findInEntries h es).isSome = true := by
  induction es with
  | nil => cases he
  | cons d es ih =>
    rw [findInEntries, Option.isSome_or, Bool.or_eq_true]
    rcases List.mem_cons.mp he with rfl | he
    · exact Or.inl hfind
    · exact Or.inr (ih he)

theorem findInItems_isSome {xs : List Node} {x : Node} (hx : x ∈ xs)
    (hfind : (find? h x).isSome = true) : (findInItems h xs).isSome = true := by
  induction xs with
  | nil => cases hx
  | cons y xs ih =>
    rw [findInItems, Option.isSome_or, Bool.or_eq_true]
    rcases List.mem_cons.mp hx with rfl | hx
    · exact Or.inl hfind
    · exact Or.inr (ih hx)

/-- A handle that occurs is found. -/
theorem find?_isSome_of_mem {n : Node} (hn : h ∈ n.handles) : (find? h n).isSome = true := by
  induction n using induction with
  | leaf v => cases hn
  | dict k es ih =>
    rw [find?]
    split
    · rfl
    · next hk =>
      obtain ⟨e, he, hin⟩ := mem_handlesOfEntries.mp ((List.mem_cons.mp hn).resolve_left (Ne.symm hk))
      exact findInEntries_isSome he (ih e he hin)
  | list k xs ih =>
    rw [find?]
    split
    · rfl
    · next hk =>
      obtain ⟨x, hx, hin⟩ := mem_handlesOfItems.mp ((List.mem_cons.mp hn).resolve_left (Ne.symm hk))
      exact findInItems_isSome hx (ih x hx hin)

/-! ## A handle among many -/

/-- A handle that occurs in an entry is found there, if no handle occurs twice. -/
theorem findInEntries_of_mem {es : List (Value × Node)} (hnd : (handlesOfEntries es).Nodup)
    {e : Value × Node} (he : e ∈ es) (hm : h ∈ e.2.handles) :
    findInEntries h es = find? h e.2 := by
  induction es with
  | nil => cases he
  | cons d es ih =>
    obtain ⟨-, hes, hdisj⟩ := List.nodup_append.mp hnd
    rcases List.mem_cons.mp he with rfl | he
    · have hrest : findInEntries h es = none := by
        refine findInEntries_of_not_mem (fun e _ => find?_of_not_mem) fun hr => ?_
        exact hdisj h hm h hr rfl
      rw [findInEntries, hrest, Option.or_none]
    · have hd : find? h d.2 = none := by
        refine find?_of_not_mem fun hd => ?_
        exact hdisj h hd h (mem_handlesOfEntries.mpr ⟨e, he, hm⟩) rfl
      rw [findInEntries, hd, Option.none_or, ih hes he]

/-- A handle that occurs in an element is found there, if no handle occurs twice. -/
theorem findInItems_of_mem {xs : List Node} (hnd : (handlesOfItems xs).Nodup) {x : Node}
    (hx : x ∈ xs) (hm : h ∈ x.handles) : findInItems h xs = find? h x := by
  induction xs with
  | nil => cases hx
  | cons d xs ih =>
    obtain ⟨-, hxs, hdisj⟩ := List.nodup_append.mp hnd
    rcases List.mem_cons.mp hx with rfl | hx
    · have hrest : findInItems h xs = none := by
        refine findInItems_of_not_mem (fun e _ => find?_of_not_mem) fun hr => ?_
        exact hdisj h hm h hr rfl
      rw [findInItems, hrest, Option.or_none]
    · have hd : find? h d = none := by
        refine find?_of_not_mem fun hd => ?_
        exact hdisj h hd h (mem_handlesOfItems.mpr ⟨x, hx, hm⟩) rfl
      rw [findInItems, hd, Option.none_or, ih hxs hx]

theorem nodup_of_mem_entries {es : List (Value × Node)} (hnd : (handlesOfEntries es).Nodup)
    {e : Value × Node} (he : e ∈ es) : e.2.handles.Nodup := by
  induction es with
  | nil => cases he
  | cons d es ih =>
    obtain ⟨hd, hes, -⟩ := List.nodup_append.mp hnd
    rcases List.mem_cons.mp he with rfl | he
    · exact hd
    · exact ih hes he

theorem nodup_of_mem_items {xs : List Node} (hnd : (handlesOfItems xs).Nodup) {x : Node}
    (hx : x ∈ xs) : x.handles.Nodup := by
  induction xs with
  | nil => cases hx
  | cons d xs ih =>
    obtain ⟨hd, hxs, -⟩ := List.nodup_append.mp hnd
    rcases List.mem_cons.mp hx with rfl | hx
    · exact hd
    · exact ih hxs hx

/-- What stands under different names has no handle in common. -/
theorem disjoint_of_find? {s t : String} {es : List (Value × Node)} {m n : Node} (hst : s ≠ t)
    (hnd : (handlesOfEntries es).Nodup) (hm : Entries.find? (.str s) es = some m)
    (hn : Entries.find? (.str t) es = some n) : ∀ h ∈ m.handles, h ∉ n.handles := by
  induction es with
  | nil => cases hm
  | cons e es ih =>
    obtain ⟨key, d⟩ := e
    obtain ⟨-, hes, hdisj⟩ := List.nodup_append.mp hnd
    have hrest : ∀ {u : String} {c : Node}, Entries.find? (.str u) es = some c →
        ∀ h ∈ c.handles, h ∈ handlesOfEntries es :=
      fun hc h hh => mem_handlesOfEntries.mpr ⟨_, Entries.mem_of_find? hc, hh⟩
    by_cases hs : key = .str s
    · have ht : key ≠ .str t := by
        rw [hs]
        simpa using hst
      subst hs
      rw [Entries.find?_cons_self] at hm
      rw [Entries.find?_cons_ne ht] at hn
      obtain rfl : d = m := Option.some.inj hm
      exact fun h hh hh' => hdisj h hh h (hrest hn h hh') rfl
    · rw [Entries.find?_cons_ne hs] at hm
      by_cases ht : key = .str t
      · subst ht
        rw [Entries.find?_cons_self] at hn
        obtain rfl : d = n := Option.some.inj hn
        exact fun h hh hh' => hdisj h hh' h (hrest hm h hh) rfl
      · rw [Entries.find?_cons_ne ht] at hn
        exact ih hes hm hn

/-- A change of a handle below a key is a change of what stands under the key. -/
theorem modifyEntries_child {s : String} {es : List (Value × Node)} {child : Node}
    (hfind : Entries.find? (.str s) es = some child) (hnd : (handlesOfEntries es).Nodup)
    (hm : h ∈ child.handles) :
    modifyEntries h f es = Entries.insert (.str s) (modify h f child) es := by
  induction es with
  | nil => cases hfind
  | cons e es ih =>
    obtain ⟨key, n⟩ := e
    obtain ⟨-, hes, hdisj⟩ := List.nodup_append.mp hnd
    by_cases hkey : key = .str s
    · subst hkey
      rw [Entries.find?_cons_self] at hfind
      obtain rfl : n = child := Option.some.inj hfind
      rw [modifyEntries, Entries.insert_cons_self, modifyEntries_of_not_mem]
      exact fun hr => hdisj h hm h hr rfl
    · rw [Entries.find?_cons_ne hkey] at hfind
      rw [modifyEntries, Entries.insert_cons_ne hkey, ih hfind hes, modify_of_not_mem]
      intro hn
      exact hdisj h hn h
        (mem_handlesOfEntries.mpr ⟨_, Entries.mem_of_find? hfind, hm⟩) rfl

theorem modify_child {s : String} {es : List (Value × Node)} {child : Node}
    (hfind : Entries.find? (.str s) es = some child) (hnd : (dict k es).handles.Nodup)
    (hm : h ∈ child.handles) :
    modify h f (dict k es) = dict k (Entries.insert (.str s) (modify h f child) es) := by
  obtain ⟨hk, hes⟩ := List.nodup_cons.mp hnd
  have hne : k ≠ h := by
    rintro rfl
    exact hk (mem_handlesOfEntries.mpr ⟨_, Entries.mem_of_find? hfind, hm⟩)
  rw [modify, if_neg hne, modifyEntries_child hfind hes hm]

/-! ## Skeletons -/

mutual

/-- A node without the values that no path has entered. Of a list their positions stay. -/
def skeleton : Node → Node
  | leaf _ => leaf .absent
  | dict h es => dict h (skeletonOfEntries es)
  | list h xs => list h (skeletonOfItems xs)

/-- The opened containers among entries. -/
def skeletonOfEntries : List (Value × Node) → List (Value × Node)
  | [] => []
  | (k, n) :: es =>
    if n.isOpened then (k, skeleton n) :: skeletonOfEntries es else skeletonOfEntries es

/-- The opened containers among elements. -/
def skeletonOfItems : List Node → List Node
  | [] => []
  | n :: ns => skeleton n :: skeletonOfItems ns

end

@[simp] theorem isOpened_skeleton (n : Node) : n.skeleton.isOpened = n.isOpened := by
  cases n <;> rfl

@[simp] theorem handle?_skeleton (n : Node) : n.skeleton.handle? = n.handle? := by
  cases n <;> rfl

theorem skeletonOfItems_eq (xs : List Node) : skeletonOfItems xs = xs.map skeleton := by
  induction xs with
  | nil => rfl
  | cons x xs ih => rw [skeletonOfItems, ih, List.map_cons]

theorem mem_skeletonOfEntries {es : List (Value × Node)} {e : Value × Node} :
    e ∈ skeletonOfEntries es ↔ ∃ n, (e.1, n) ∈ es ∧ n.isOpened = true ∧ n.skeleton = e.2 := by
  induction es with
  | nil => simp [skeletonOfEntries]
  | cons d es ih =>
    obtain ⟨k, n⟩ := d
    obtain ⟨k', n'⟩ := e
    cases hn : n.isOpened with
    | false =>
      rw [skeletonOfEntries, hn, if_neg Bool.false_ne_true, ih]
      constructor
      · rintro ⟨m, hm, hopen, heq⟩
        exact ⟨m, List.mem_cons_of_mem _ hm, hopen, heq⟩
      · rintro ⟨m, hm, hopen, heq⟩
        rcases List.mem_cons.mp hm with hm | hm
        · obtain rfl : m = n := (Prod.mk.inj hm).2
          rw [hn] at hopen
          cases hopen
        · exact ⟨m, hm, hopen, heq⟩
    | true =>
      rw [skeletonOfEntries, hn, if_pos rfl, List.mem_cons, ih]
      constructor
      · rintro (heq | ⟨m, hm, hopen, heq⟩)
        · obtain ⟨rfl, rfl⟩ := Prod.mk.inj heq
          exact ⟨n, List.mem_cons_self .., hn, rfl⟩
        · exact ⟨m, List.mem_cons_of_mem _ hm, hopen, heq⟩
      · rintro ⟨m, hm, hopen, heq⟩
        rcases List.mem_cons.mp hm with hm | hm
        · obtain ⟨rfl, rfl⟩ := Prod.mk.inj hm
          exact Or.inl (Prod.ext rfl heq.symm)
        · exact Or.inr ⟨m, hm, hopen, heq⟩

theorem handles_skeleton (n : Node) : n.skeleton.handles = n.handles := by
  induction n using induction with
  | leaf v => rfl
  | dict k es ih =>
    rw [skeleton, handles, handles]
    congr 1
    induction es with
    | nil => rfl
    | cons e es ihes =>
      have hrest := ihes fun e he => ih e (List.mem_cons_of_mem _ he)
      have hhead := ih e (List.mem_cons_self ..)
      cases hopen : e.2.isOpened with
      | true =>
        rw [skeletonOfEntries, hopen, if_pos rfl, handlesOfEntries, handlesOfEntries, hrest, hhead]
      | false =>
        rw [skeletonOfEntries, hopen, if_neg Bool.false_ne_true, handlesOfEntries, hrest,
          handles_of_closed hopen, List.nil_append]
  | list k xs ih =>
    rw [skeleton, handles, handles]
    congr 1
    induction xs with
    | nil => rfl
    | cons x xs ihxs =>
      rw [skeletonOfItems, handlesOfItems, handlesOfItems, ih x (List.mem_cons_self ..),
        ihxs fun x hx => ih x (List.mem_cons_of_mem _ hx)]

theorem handles_eq_of_skeleton {n m : Node} (h : n.skeleton = m.skeleton) :
    n.handles = m.handles := by
  rw [← handles_skeleton n, h, handles_skeleton]

theorem find?_skeleton (h : Nat) (n : Node) : find? h n.skeleton = (find? h n).map skeleton := by
  induction n using induction with
  | leaf v => rfl
  | dict k es ih =>
    by_cases hk : k = h
    · rw [skeleton, find?, if_pos hk, find?, if_pos hk]
      rfl
    · rw [skeleton, find?, if_neg hk, find?, if_neg hk]
      induction es with
      | nil => rfl
      | cons e es ihes =>
        have hrest := ihes fun e he => ih e (List.mem_cons_of_mem _ he)
        have hhead := ih e (List.mem_cons_self ..)
        cases hopen : e.2.isOpened with
        | true =>
          rw [skeletonOfEntries, hopen, if_pos rfl, findInEntries, findInEntries, hrest, hhead,
            Option.map_or]
        | false =>
          have hnone : find? h e.2 = none :=
            find?_of_not_mem (by rw [handles_of_closed hopen]; exact List.not_mem_nil)
          rw [skeletonOfEntries, hopen, if_neg Bool.false_ne_true, findInEntries, hrest, hnone,
            Option.none_or]
  | list k xs ih =>
    by_cases hk : k = h
    · rw [skeleton, find?, if_pos hk, find?, if_pos hk]
      rfl
    · rw [skeleton, find?, if_neg hk, find?, if_neg hk]
      induction xs with
      | nil => rfl
      | cons x xs ihxs =>
        rw [skeletonOfItems, findInItems, findInItems, ih x (List.mem_cons_self ..),
          ihxs (fun x hx => ih x (List.mem_cons_of_mem _ hx)), Option.map_or]

/-- A change of one container that keeps its skeleton keeps the whole skeleton. -/
theorem skeleton_modify {n : Node} (hnd : n.handles.Nodup)
    (hf : ∀ c, find? h n = some c → (f c).skeleton = c.skeleton) :
    (modify h f n).skeleton = n.skeleton := by
  induction n using induction with
  | leaf v => rfl
  | dict k es ih =>
    by_cases hk : k = h
    · rw [modify, if_pos hk]
      exact hf _ (by rw [find?, if_pos hk])
    · obtain ⟨-, hes⟩ := List.nodup_cons.mp hnd
      rw [find?, if_neg hk] at hf
      have hkeep : ∀ e ∈ es, (modify h f e.2).skeleton = e.2.skeleton := by
        intro e he
        refine ih e he (nodup_of_mem_entries hes he) fun c hc => hf c ?_
        rw [findInEntries_of_mem hes he (mem_of_find?_eq_some hc), hc]
      rw [modify, if_neg hk, skeleton, skeleton]
      -- entry by entry: what stands there is open before and after alike
      clear ih hf hes hnd
      congr 1
      induction es with
      | nil => rfl
      | cons e es ihes =>
        have hrest := ihes fun e he => hkeep e (List.mem_cons_of_mem _ he)
        have hhead := hkeep e (List.mem_cons_self ..)
        have hopen : (modify h f e.2).isOpened = e.2.isOpened := by
          rw [← isOpened_skeleton, hhead, isOpened_skeleton]
        rw [modifyEntries, skeletonOfEntries, skeletonOfEntries, hopen, hhead, hrest]
  | list k xs ih =>
    by_cases hk : k = h
    · rw [modify, if_pos hk]
      exact hf _ (by rw [find?, if_pos hk])
    · obtain ⟨-, hxs⟩ := List.nodup_cons.mp hnd
      rw [find?, if_neg hk] at hf
      rw [modify, if_neg hk, skeleton, skeleton, modifyItems_eq, skeletonOfItems_eq,
        skeletonOfItems_eq, List.map_map]
      congr 1
      refine List.map_congr_left fun x hx => ?_
      refine ih x hx (nodup_of_mem_items hxs hx) fun c hc => hf c ?_
      rw [findInItems_of_mem hxs hx (mem_of_find?_eq_some hc), hc]

/-! ## Where a write can go -/

/-- A step of a container leads to a value that no path has entered, or to a missing key. -/
def Meets : Step → Node → Prop
  | .key s, dict _ es => ∀ e ∈ es, e.1 = .str s → e.2.isOpened = false
  | .index i, list _ xs => ∃ x, xs[i]? = some x ∧ x.isOpened = false
  | _, _ => False

/-- There is a container with the handle, and the step meets a value in it. -/
def Aims (h : Nat) (step : Step) (n : Node) : Prop := ∃ c, find? h n = some c ∧ Meets step c

theorem meets_skeleton {step : Step} {c : Node} : Meets step c.skeleton ↔ Meets step c := by
  cases step with
  | key s =>
    cases c with
    | dict k es =>
      constructor
      · intro hmeets e he hkey
        by_contra hopen
        rw [Bool.not_eq_false] at hopen
        have h := hmeets (e.1, e.2.skeleton) (mem_skeletonOfEntries.mpr ⟨e.2, he, hopen, rfl⟩) hkey
        rw [isOpened_skeleton, hopen] at h
        cases h
      · intro hmeets e he hkey
        obtain ⟨n, hn, hopen, -⟩ := mem_skeletonOfEntries.mp he
        rw [hmeets _ hn hkey] at hopen
        cases hopen
    | leaf v => exact Iff.rfl
    | list k xs => exact Iff.rfl
  | index i =>
    cases c with
    | list k xs =>
      simp only [skeleton, Meets, skeletonOfItems_eq, List.getElem?_map, Option.map_eq_some_iff]
      constructor
      · rintro ⟨-, ⟨x, hx, rfl⟩, hclosed⟩
        exact ⟨x, hx, by rw [← isOpened_skeleton, hclosed]⟩
      · rintro ⟨x, hx, hclosed⟩
        exact ⟨_, ⟨x, hx, rfl⟩, by rw [isOpened_skeleton, hclosed]⟩
    | leaf v => exact Iff.rfl
    | dict k es => exact Iff.rfl

theorem aims_skeleton {step : Step} {n : Node} : Aims h step n.skeleton ↔ Aims h step n := by
  rw [Aims, find?_skeleton]
  constructor
  · rintro ⟨d, hd, hmeets⟩
    obtain ⟨c, hfind, rfl⟩ := Option.map_eq_some_iff.mp hd
    exact ⟨c, hfind, meets_skeleton.mp hmeets⟩
  · rintro ⟨c, hc, hmeets⟩
    exact ⟨c.skeleton, by rw [hc]; rfl, meets_skeleton.mpr hmeets⟩

theorem skeletonOfEntries_insert {s : String} {es : List (Value × Node)}
    (hes : ∀ e ∈ es, e.1 = .str s → e.2.isOpened = false) (v : Value) :
    skeletonOfEntries (Entries.insert (.str s) (leaf v) es) = skeletonOfEntries es := by
  induction es with
  | nil => rfl
  | cons e es ih =>
    obtain ⟨key, n⟩ := e
    have ih := ih fun e he => hes e (List.mem_cons_of_mem _ he)
    by_cases hkey : key = .str s
    · have hclosed : n.isOpened = false := hes _ (List.mem_cons_self ..) hkey
      rw [hkey, Entries.insert_cons_self, skeletonOfEntries, skeletonOfEntries, hclosed]
      rfl
    · rw [Entries.insert_cons_ne hkey, skeletonOfEntries, skeletonOfEntries, ih]

theorem skeletonOfEntries_erase {s : String} {es : List (Value × Node)}
    (hes : ∀ e ∈ es, e.1 = .str s → e.2.isOpened = false) :
    skeletonOfEntries (Entries.erase (.str s) es) = skeletonOfEntries es := by
  induction es with
  | nil => rfl
  | cons e es ih =>
    obtain ⟨key, n⟩ := e
    have ih := ih fun e he => hes e (List.mem_cons_of_mem _ he)
    by_cases hkey : key = .str s
    · have hclosed : n.isOpened = false := hes _ (List.mem_cons_self ..) hkey
      rw [hkey, Entries.erase_cons_self, ih, skeletonOfEntries, hclosed]
      rfl
    · rw [Entries.erase_cons_ne hkey, skeletonOfEntries, skeletonOfEntries, ih]

theorem skeleton_setChild {step : Step} {c : Node} (hmeets : Meets step c) (v : Value) :
    (setChild step (leaf v) c).skeleton = c.skeleton := by
  cases step with
  | key s =>
    cases c with
    | dict k es =>
      simp only [setChild, skeleton]
      rw [skeletonOfEntries_insert hmeets]
    | leaf v => cases hmeets
    | list k xs => cases hmeets
  | index i =>
    cases c with
    | list k xs =>
      obtain ⟨x, hx, hclosed⟩ := hmeets
      have hskeleton : x.skeleton = leaf .absent := by
        cases x with
        | leaf v => rfl
        | dict k es => cases hclosed
        | list k xs => cases hclosed
      obtain ⟨hlt, rfl⟩ := List.getElem?_eq_some_iff.mp hx
      simp only [setChild, skeleton, skeletonOfItems_eq, List.map_set]
      rw [← hskeleton, ← List.map_set, List.set_getElem_self]
    | leaf v => cases hmeets
    | dict k es => cases hmeets

theorem skeleton_eraseKey {s : String} {c : Node} (hmeets : Meets (.key s) c) :
    (eraseKey s c).skeleton = c.skeleton := by
  cases c with
  | dict k es =>
    simp only [eraseKey, skeleton]
    rw [skeletonOfEntries_erase hmeets]
  | leaf v => cases hmeets
  | list k xs => cases hmeets

end ArgumentSchema.Node
