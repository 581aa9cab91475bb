import ArgumentSchema.Proofs.Handles
import ArgumentSchema.Tree.Basic
import Mathlib.Data.List.Flatten

/-!
# A tree as its containers

A handle stands for a container wherever it is, so that a tree can be told container by container,
each by its face: its kind, its handle and the shells of its contents. Where a container stands does
not matter then, nor what is in the containers in it. A change of one container is a change of one
face, and what it takes out is not lost if it is kept aside:

> `WorkingTree.face_mem`, `WorkingTree.container?_of_face`: a tree holds a container just if it has
> its face.
> `WorkingTree.faces_change`: a change of one container changes its face, and no other.
-/

namespace ArgumentSchema

open Node

namespace Node

variable {h : Nat} {f : Node → Node} {n c d m : Node} {xs ys ks added : List Node}

/-! ## Contents -/

/-- What stands directly in a container. -/
def contents : Node → List Node
  | leaf _ => []
  | dict _ es => es.map (·.2)
  | list _ xs => xs

/-- Induction over a node: what holds of all contents of a node holds of the node. -/
theorem contents_induction {p : Node → Prop} (step : ∀ n, (∀ x ∈ n.contents, p x) → p n) :
    ∀ n, p n := by
  intro n
  induction n using induction with
  | leaf v => exact step _ (by simp [contents])
  | dict k es ih =>
    refine step _ fun x hx => ?_
    obtain ⟨e, he, rfl⟩ := List.mem_map.mp hx
    exact ih e he
  | list k xs ih => exact step _ ih

theorem eq_leaf_of_handle? (hn : n.handle? = none) : ∃ v, n = leaf v := by
  cases n with
  | leaf v => exact ⟨v, rfl⟩
  | dict k es => cases hn
  | list k xs => cases hn

theorem exists_handle?_of_mem_contents (hc : c ∈ n.contents) : ∃ k, n.handle? = some k := by
  cases n with
  | leaf v => cases hc
  | dict k es => exact ⟨k, rfl⟩
  | list k xs => exact ⟨k, rfl⟩

theorem handlesOfEntries_values (es : List (Value × Node)) :
    handlesOfItems (es.map (·.2)) = handlesOfEntries es := by
  rw [handlesOfItems_eq, handlesOfEntries_eq, List.flatMap_map]

theorem findInItems_values (es : List (Value × Node)) :
    findInItems h (es.map (·.2)) = findInEntries h es := by
  induction es with
  | nil => rfl
  | cons e es ih => rw [List.map_cons, findInItems, findInEntries, ih]

theorem handles_eq_cons (hn : n.handle? = some h) : n.handles = h :: handlesOfItems n.contents := by
  cases n with
  | leaf v => cases hn
  | dict k es =>
    obtain rfl := Option.some.inj hn
    rw [handles, contents, handlesOfEntries_values]
  | list k xs =>
    obtain rfl := Option.some.inj hn
    rfl

theorem find?_of_ne (hn : n.handle? ≠ some h) : find? h n = findInItems h n.contents := by
  cases n with
  | leaf v => rfl
  | dict k es => rw [find?, if_neg fun heq => hn (congrArg some heq), contents, findInItems_values]
  | list k xs => rw [find?, if_neg fun heq => hn (congrArg some heq), contents]

theorem nodup_contents (hnd : n.handles.Nodup) : (handlesOfItems n.contents).Nodup := by
  cases hn : n.handle? with
  | none =>
    obtain ⟨v, rfl⟩ := eq_leaf_of_handle? hn
    exact .nil
  | some k =>
    rw [handles_eq_cons hn] at hnd
    exact (List.nodup_cons.mp hnd).2

/-- A handle that occurs in a part of a node is found there, if no handle occurs twice. -/
theorem find?_of_mem_contents (hnd : n.handles.Nodup) (hm : m ∈ n.contents) (hh : h ∈ m.handles) :
    find? h n = find? h m := by
  have hne : n.handle? ≠ some h := by
    intro hn
    rw [handles_eq_cons hn] at hnd
    exact (List.nodup_cons.mp hnd).1 (mem_handlesOfItems.mpr ⟨m, hm, hh⟩)
  rw [find?_of_ne hne, findInItems_of_mem (nodup_contents hnd) hm hh]

/-! ## Faces -/

/-- A container with the shells of its contents. -/
def face : Node → Node
  | leaf v => leaf v
  | dict h es => dict h (Entries.mapValues shell es)
  | list h xs => list h (xs.map shell)

mutual

/-- The faces of the opened containers in a node. -/
def faces : Node → List Node
  | leaf _ => []
  | dict h es => face (dict h es) :: facesOfEntries es
  | list h xs => face (list h xs) :: facesOfItems xs

/-- The faces of the opened containers among entries. -/
def facesOfEntries : List (Value × Node) → List Node
  | [] => []
  | (_, n) :: es => faces n ++ facesOfEntries es

/-- The faces of the opened containers among elements. -/
def facesOfItems : List Node → List Node
  | [] => []
  | n :: ns => faces n ++ facesOfItems ns

end

theorem facesOfItems_eq (xs : List Node) : facesOfItems xs = xs.flatMap faces := by
  induction xs with
  | nil => rfl
  | cons x xs ih => rw [facesOfItems, ih, List.flatMap_cons]

theorem facesOfItems_append (xs ys : List Node) :
    facesOfItems (xs ++ ys) = facesOfItems xs ++ facesOfItems ys := by
  rw [facesOfItems_eq, facesOfItems_eq, facesOfItems_eq, List.flatMap_append]

theorem facesOfItems_perm (hperm : xs.Perm ys) : (facesOfItems xs).Perm (facesOfItems ys) := by
  rw [facesOfItems_eq, facesOfItems_eq]
  exact hperm.flatMap_right faces

theorem facesOfEntries_eq (es : List (Value × Node)) :
    facesOfEntries es = facesOfItems (es.map (·.2)) := by
  induction es with
  | nil => rfl
  | cons e es ih => rw [facesOfEntries, ih, List.map_cons, facesOfItems]

/-- An opened container has its own face and those of the containers in it. -/
theorem faces_eq (hn : n.handle? = some h) : n.faces = n.face :: facesOfItems n.contents := by
  cases n with
  | leaf v => cases hn
  | dict k es => rw [faces, facesOfEntries_eq, contents]
  | list k xs => rw [faces, contents]

theorem faces_of_closed (hn : n.isOpened = false) : n.faces = [] := by
  cases n with
  | leaf v => rfl
  | dict k es => cases hn
  | list k xs => cases hn

theorem facesOfItems_opened (xs : List Node) :
    facesOfItems (xs.filter isOpened) = facesOfItems xs := by
  induction xs with
  | nil => rfl
  | cons x xs ih =>
    cases hopen : x.isOpened with
    | true => rw [List.filter_cons_of_pos hopen, facesOfItems, facesOfItems, ih]
    | false =>
      rw [List.filter_cons_of_neg (by simp [hopen]), facesOfItems, faces_of_closed hopen, ih,
        List.nil_append]

@[simp] theorem handle?_face (n : Node) : n.face.handle? = n.handle? := by
  cases n <;> rfl

theorem exists_of_face_eq_list (hc : c.face = .list h xs) :
    ∃ ys, c = .list h ys ∧ ys.map shell = xs := by
  cases c with
  | leaf v => cases hc
  | dict k es => cases hc
  | list k ys =>
    obtain ⟨rfl, rfl⟩ := Node.list.inj hc
    exact ⟨ys, rfl, rfl⟩

/-- The handles in a node are those of the faces. -/
theorem handles_eq (n : Node) : n.handles = n.faces.filterMap handle? := by
  induction n using contents_induction with
  | step n ih =>
    cases hn : n.handle? with
    | none =>
      obtain ⟨v, rfl⟩ := eq_leaf_of_handle? hn
      rfl
    | some k =>
      rw [handles_eq_cons hn, faces_eq hn, List.filterMap_cons_some ((handle?_face n).trans hn),
        handlesOfItems_eq, facesOfItems_eq, List.filterMap_flatMap]
      exact congrArg _ (List.flatMap_congr ih)

theorem handlesOfItems_eq_faces (xs : List Node) :
    handlesOfItems xs = (facesOfItems xs).filterMap handle? := by
  rw [handlesOfItems_eq, facesOfItems_eq, List.filterMap_flatMap]
  exact List.flatMap_congr fun x _ => handles_eq x

/-- The face of a container that is found is one of the faces. -/
theorem face_mem_of_find? (hc : find? h n = some c) : c.face ∈ n.faces := by
  induction n using contents_induction with
  | step n ih =>
    by_cases hn : n.handle? = some h
    · obtain rfl : n = c := Option.some.inj ((find?_self hn).symm.trans hc)
      rw [faces_eq hn]
      exact List.mem_cons_self ..
    · rw [find?_of_ne hn] at hc
      obtain ⟨x, hx, hfind⟩ := exists_of_findInItems hc
      obtain ⟨k, hk⟩ := exists_handle?_of_mem_contents hx
      rw [faces_eq hk, facesOfItems_eq]
      exact List.mem_cons_of_mem _ (List.mem_flatMap.mpr ⟨x, hx, ih x hx hfind⟩)

/-- Each face has the handle of a container. -/
theorem exists_handle?_of_mem_faces (hc : c ∈ n.faces) : ∃ k, c.handle? = some k := by
  induction n using contents_induction with
  | step n ih =>
    cases hn : n.handle? with
    | none =>
      obtain ⟨v, rfl⟩ := eq_leaf_of_handle? hn
      cases hc
    | some k =>
      rw [faces_eq hn] at hc
      rcases List.mem_cons.mp hc with rfl | hc
      · exact ⟨k, (handle?_face n).trans hn⟩
      · rw [facesOfItems_eq] at hc
        obtain ⟨x, hx, hcx⟩ := List.mem_flatMap.mp hc
        exact ih x hx hcx

/-- Of faces with different handles, two with one handle are one. -/
theorem eq_of_handle?_eq {F : List Node} (hnd : (F.filterMap handle?).Nodup) (hc : c ∈ F) (hd : d ∈ F)
    (hch : c.handle? = some h) (hdh : d.handle? = some h) : c = d := by
  induction F with
  | nil => cases hc
  | cons e F ih =>
    have hmem : ∀ x ∈ F, x.handle? = some h → h ∈ F.filterMap handle? := fun x hx hh =>
      List.mem_filterMap.mpr ⟨x, hx, hh⟩
    have htail : (F.filterMap handle?).Nodup :=
      hnd.sublist ((List.sublist_cons_self e F).filterMap handle?)
    have hout : e.handle? = some h → h ∉ F.filterMap handle? := by
      intro he
      rw [List.filterMap_cons_some he] at hnd
      exact (List.nodup_cons.mp hnd).1
    rcases List.mem_cons.mp hc with hce | hc
    · rcases List.mem_cons.mp hd with hde | hd
      · rw [hce, hde]
      · exact absurd (hmem d hd hdh) (hout (hce ▸ hch))
    · rcases List.mem_cons.mp hd with hde | hd
      · exact absurd (hmem c hc hch) (hout (hde ▸ hdh))
      · exact ih htail hc hd

/-! ## A change of one container -/

/-- What changes in one element of a row changes in the row, and nothing else does. -/
theorem facesOfItems_replace (pre post : List Node) {a a' x y : Node} {rest gs hs : List Node}
    (ha : a.faces.Perm (x :: rest)) (ha' : (a'.faces ++ gs).Perm (y :: (hs ++ rest))) :
    ∃ rest', (facesOfItems (pre ++ a :: post)).Perm (x :: rest') ∧
      (facesOfItems (pre ++ a' :: post) ++ gs).Perm (y :: (hs ++ rest')) := by
  have hsplit : ∀ b : Node, (facesOfItems (pre ++ b :: post)).Perm
      (b.faces ++ facesOfItems (pre ++ post)) := fun b => facesOfItems_perm List.perm_middle
  refine ⟨rest ++ facesOfItems (pre ++ post), (hsplit a).trans (ha.append_right _), ?_⟩
  calc (facesOfItems (pre ++ a' :: post) ++ gs).Perm
        ((a'.faces ++ facesOfItems (pre ++ post)) ++ gs) := (hsplit a').append_right gs
    List.Perm _ ((a'.faces ++ gs) ++ facesOfItems (pre ++ post)) := by
        rw [List.append_assoc, List.append_assoc]
        exact List.perm_append_comm.append_left _
    List.Perm _ (y :: (hs ++ (rest ++ facesOfItems (pre ++ post)))) := by
        rw [← List.append_assoc hs]
        exact ha'.append_right _

theorem shell_modify (hf : ∀ c, find? h n = some c → (f c).shell = c.shell) :
    (modify h f n).shell = n.shell := by
  by_cases hn : n.handle? = some h
  · rw [modify_self hn]
    exact hf n (find?_self hn)
  · cases n with
    | leaf v => rfl
    | dict k es => rw [modify, if_neg fun heq => hn (congrArg some heq)]; rfl
    | list k xs => rw [modify, if_neg fun heq => hn (congrArg some heq)]; rfl

/-- A change of another container goes on in what stands in a container. -/
theorem contents_modify (hn : n.handle? ≠ some h) :
    (modify h f n).contents = modifyItems h f n.contents := by
  cases n with
  | leaf v => rfl
  | dict k es =>
    rw [modify, if_neg fun heq => hn (congrArg some heq), modifyEntries_eq, contents, contents,
      Entries.mapValues, modifyItems_eq, List.map_map, List.map_map]
    rfl
  | list k xs => rw [modify, if_neg fun heq => hn (congrArg some heq), contents, contents]

/-- A change of another container that leaves all shells leaves the face of a container. -/
theorem face_modify (hn : n.handle? ≠ some h)
    (hshells : ∀ x ∈ n.contents, (modify h f x).shell = x.shell) : (modify h f n).face = n.face := by
  cases n with
  | leaf v => rfl
  | dict k es =>
    rw [modify, if_neg fun heq => hn (congrArg some heq), modifyEntries_eq, face, face,
      Entries.mapValues, Entries.mapValues, Entries.mapValues, List.map_map]
    refine congrArg _ (List.map_congr_left fun e he => ?_)
    exact Prod.ext rfl (hshells e.2 (List.mem_map_of_mem he))
  | list k xs =>
    rw [modify, if_neg fun heq => hn (congrArg some heq), face, face, modifyItems_eq, List.map_map]
    exact congrArg _ (List.map_congr_left hshells)

/-- A container is in one of the elements, and a change of it changes this one. -/
theorem exists_split_of_findInItems (hnd : (handlesOfItems xs).Nodup)
    (hc : findInItems h xs = some c) :
    ∃ pre x post, xs = pre ++ x :: post ∧ x.handles.Nodup ∧ find? h x = some c ∧
      modifyItems h f xs = pre ++ modify h f x :: post := by
  obtain ⟨x, hx, hfind⟩ := exists_of_findInItems hc
  obtain ⟨pre, post, rfl⟩ := List.append_of_mem hx
  rw [handlesOfItems_append, handlesOfItems] at hnd
  obtain ⟨-, hrest, hdisj⟩ := List.nodup_append.mp hnd
  obtain ⟨hxnd, -, hdisj'⟩ := List.nodup_append.mp hrest
  have hh : h ∈ x.handles := mem_of_find?_eq_some hfind
  have hpre : h ∉ handlesOfItems pre := fun hmem => hdisj h hmem h (List.mem_append_left _ hh) rfl
  have hpost : h ∉ handlesOfItems post := fun hmem => hdisj' h hh h hmem rfl
  refine ⟨pre, x, post, rfl, hxnd, hfind, ?_⟩
  rw [modifyItems_eq, List.map_append, List.map_cons, ← modifyItems_eq, ← modifyItems_eq,
    modifyItems_of_not_mem hpre, modifyItems_of_not_mem hpost]

/-- A change leaves the shell of a container, takes nodes out of it and adds others. -/
structure Exchanges (f : Node → Node) (c : Node) (taken added : List Node) : Prop where
  shell : (f c).shell = c.shell
  contents : (facesOfItems (f c).contents ++ facesOfItems taken).Perm
    (facesOfItems added ++ facesOfItems c.contents)

variable {taken : List Node}

/-- A change of one container in a node changes its face, and no other. -/
theorem faces_modify (hf : Exchanges f c taken added) (hnd : n.handles.Nodup)
    (hc : find? h n = some c) :
    ∃ rest, n.faces.Perm (c.face :: rest) ∧
      ((modify h f n).faces ++ facesOfItems taken).Perm
        ((f c).face :: (facesOfItems added ++ rest)) := by
  induction n using contents_induction with
  | step n ih =>
    by_cases hn : n.handle? = some h
    · -- the change is here, and what it takes and adds stands directly in the container
      obtain rfl : n = c := Option.some.inj ((find?_self hn).symm.trans hc)
      have hfn : (f n).handle? = some h := by
        rw [← handle?_shell, hf.shell, handle?_shell, hn]
      rw [modify_self hn, faces_eq hn, faces_eq hfn]
      exact ⟨_, .refl _, hf.contents.cons _⟩
    · -- the container is in one of the contents, and all else stays
      have hcontents := nodup_contents hnd
      rw [find?_of_ne hn] at hc
      have hshells : ∀ x ∈ n.contents, (modify h f x).shell = x.shell := by
        refine fun x hx => shell_modify fun d hd => ?_
        rw [findInItems_of_mem hcontents hx (mem_of_find?_eq_some hd), hd] at hc
        obtain rfl := Option.some.inj hc
        exact hf.shell
      have hface := face_modify hn hshells
      obtain ⟨pre, x, post, hsplit, hx, hfind, hmodify⟩ :=
        exists_split_of_findInItems (f := f) hcontents hc
      have hmem : x ∈ n.contents := by simp [hsplit]
      obtain ⟨k, hk⟩ := exists_handle?_of_mem_contents hmem
      have hk' : (modify h f n).handle? = some k := by rw [← handle?_face, hface, handle?_face, hk]
      obtain ⟨rest, hbefore, hafter⟩ := ih x hmem hx hfind
      obtain ⟨rest', hbefore', hafter'⟩ := facesOfItems_replace pre post hbefore hafter
      -- the face of the node itself comes first in both, and goes to the rest
      rw [faces_eq hk, faces_eq hk', hface, contents_modify hn, hmodify, hsplit]
      refine ⟨n.face :: rest', (hbefore'.cons _).trans (.swap ..), ?_⟩
      refine (hafter'.cons _).trans ((List.Perm.swap ..).trans (List.Perm.cons _ ?_))
      exact List.perm_middle.symm

/-! ## What is taken out and added -/

/-- In a mapping no opened container stands behind another entry of its key, where it would not be
found. -/
def Fronted : Node → Prop
  | dict _ es => es.Pairwise fun a b => a.1 = b.1 → b.2.isOpened = false
  | _ => True

theorem isOpened_shell (n : Node) : n.shell.isOpened = n.isOpened := by
  cases n <;> rfl

theorem fronted_face : n.face.Fronted ↔ n.Fronted := by
  cases n with
  | leaf v => exact Iff.rfl
  | list k xs => exact Iff.rfl
  | dict k es =>
    rw [face, Fronted, Fronted, Entries.mapValues, List.pairwise_map]
    simp only [isOpened_shell]

theorem fronted_closed (k : Nat) (es : Entries Value) : Fronted (dict k (closedEntries es)) :=
  List.pairwise_map.mpr (List.pairwise_of_forall fun _ _ _ => rfl)

/-- A container that is put where one is found stands in front. -/
theorem fronted_insert {k : Nat} {key : Value} {es : List (Value × Node)}
    (hfind : Entries.find? key es = some c) (hes : Fronted (dict k es)) (m : Node) :
    Fronted (dict k (Entries.insert key m es)) := by
  obtain ⟨pre, key', post, rfl, hinsert, hkey', hpre⟩ := Entries.exists_split_of_find? hfind
  have hother : ∀ a ∈ pre, a.1 ≠ key' := by
    intro a ha heq
    have hdiffers := hpre a ha
    rw [heq, hkey'] at hdiffers
    cases hdiffers
  rw [hinsert]
  rw [Fronted, List.pairwise_append, List.pairwise_cons] at hes ⊢
  obtain ⟨hbefore, ⟨hhere, hafter⟩, hacross⟩ := hes
  refine ⟨hbefore, ⟨hhere, hafter⟩, fun a ha b hb => ?_⟩
  rcases List.mem_cons.mp hb with rfl | hb
  · exact fun heq => absurd heq (hother a ha)
  · exact hacross a ha b (List.mem_cons_of_mem _ hb)

/-- A container that is put under a missing name stands in front. -/
theorem fronted_append {k : Nat} {s : String} {es : List (Value × Node)}
    (hnone : Entries.find? (.str s) es = none) (hes : Fronted (dict k es)) (m : Node) :
    Fronted (dict k (es ++ [(.str s, m)])) := by
  rw [Fronted, List.pairwise_append]
  refine ⟨hes, List.pairwise_singleton .., fun a ha b hb heq => ?_⟩
  rw [List.mem_singleton.mp hb] at heq
  exact absurd heq (Entries.key_ne_of_find?_eq_none hnone a ha)

theorem fronted_setName {k : Nat} {es : List (Value × Node)} (hes : Fronted (dict k es)) (s : String)
    (m : Node) : Fronted (dict k (Entries.insert (.str s) m es)) := by
  cases hfind : Entries.find? (.str s) es with
  | none =>
    rw [Entries.insert_of_find?_eq_none hfind]
    exact fronted_append hfind hes m
  | some old => exact fronted_insert hfind hes m

/-- One element in the place of another. -/
theorem replace_perm (pre post : List Node) (m old : Node) :
    ((pre ++ m :: post) ++ [old]).Perm (m :: (pre ++ old :: post)) := by
  calc ((pre ++ m :: post) ++ [old]).Perm (m :: ((pre ++ post) ++ [old])) :=
        List.perm_middle.append_right [old]
    List.Perm _ (m :: old :: (pre ++ post)) := (List.perm_append_singleton old _).cons m
    List.Perm _ (m :: (pre ++ old :: post)) := List.perm_middle.symm.cons m

/-- A position of a list splits the list at its element, and setting it changes this one. -/
theorem exists_split_of_getElem? {i : Nat} {x : Node} (hx : xs[i]? = some x) :
    ∃ pre post, xs = pre ++ x :: post ∧ ∀ y, xs.set i y = pre ++ y :: post := by
  obtain ⟨hi, rfl⟩ := List.getElem?_eq_some_iff.mp hx
  refine ⟨xs.take i, xs.drop (i + 1), ?_, fun y => ?_⟩
  · rw [← List.drop_eq_getElem_cons hi, List.take_append_drop]
  · rw [List.set_eq_take_append_cons_drop, if_pos hi]

/-- What is stored under a name takes the place of what was found there. -/
theorem exchanges_setName (k : Nat) (es : List (Value × Node)) (s : String) (m : Node) :
    Exchanges (setChild (.key s) m) (dict k es) (Entries.find? (.str s) es).toList [m] := by
  refine ⟨rfl, ?_⟩
  rw [← facesOfItems_append, ← facesOfItems_append]
  refine facesOfItems_perm ?_
  rw [setChild, contents, contents]
  cases hfind : Entries.find? (.str s) es with
  | none =>
    rw [Entries.insert_of_find?_eq_none hfind, List.map_append, Option.toList_none, List.append_nil]
    exact List.perm_append_comm
  | some old =>
    obtain ⟨pre, post, rfl, hinsert⟩ := Entries.exists_eq_of_find? hfind
    rw [hinsert, List.map_append, List.map_append, List.map_cons, List.map_cons, Option.toList_some]
    exact replace_perm ..

/-- A value that is put at a step takes the place of what was there. -/
theorem exchanges_setChild (step : Step) (v : Value) (c : Node) :
    Exchanges (setChild step (leaf v)) c (c.child? step).toList [] := by
  cases c with
  | leaf w => cases step <;> exact ⟨rfl, .refl _⟩
  | dict k es =>
    cases step with
    | key s => exact ⟨rfl, (exchanges_setName k es s (leaf v)).contents⟩
    | index i => exact ⟨rfl, .of_eq (List.append_nil _)⟩
  | list k xs =>
    cases step with
    | key s => exact ⟨rfl, .of_eq (List.append_nil _)⟩
    | index i =>
      refine ⟨rfl, ?_⟩
      show (facesOfItems (xs.set i (leaf v)) ++ facesOfItems (xs[i]?).toList).Perm (facesOfItems xs)
      rw [← facesOfItems_append]
      cases hx : xs[i]? with
      | none =>
        rw [List.set_eq_of_length_le (List.getElem?_eq_none_iff.mp hx), Option.toList_none,
          List.append_nil]
      | some old =>
        obtain ⟨pre, post, hxs, hset⟩ := exists_split_of_getElem? hx
        rw [hset, hxs]
        have hreplaced := facesOfItems_perm (replace_perm pre post (leaf v) old)
        exact hreplaced

/-- Erasing a name under which nothing has been opened takes no container out. -/
theorem faces_erase_closed {s : String} {es : List (Value × Node)}
    (hes : ∀ e ∈ es, e.1 = .str s → e.2.isOpened = false) :
    facesOfItems ((Entries.erase (.str s) es).map (·.2)) = facesOfItems (es.map (·.2)) := by
  induction es with
  | nil => rfl
  | cons e es ih =>
    obtain ⟨key, n⟩ := e
    have ih := ih fun d hd => hes d (List.mem_cons_of_mem _ hd)
    by_cases hkey : key = .str s
    · have hclosed : n.isOpened = false := hes _ (List.mem_cons_self ..) hkey
      rw [hkey, Entries.erase_cons_self, ih, List.map_cons, facesOfItems, faces_of_closed hclosed,
        List.nil_append]
    · rw [Entries.erase_cons_ne hkey, List.map_cons, List.map_cons, facesOfItems, facesOfItems, ih]

/-- A name that is erased takes what is found under it along. -/
theorem exchanges_eraseKey (hc : c.Fronted) (s : String) :
    Exchanges (eraseKey s) c (c.child? (.key s)).toList [] := by
  cases c with
  | leaf w => exact ⟨rfl, .refl _⟩
  | list k xs => exact ⟨rfl, .of_eq (List.append_nil _)⟩
  | dict k es =>
    refine ⟨rfl, ?_⟩
    show (facesOfItems ((Entries.erase (.str s) es).map (·.2)) ++
      facesOfItems (Entries.find? (.str s) es).toList).Perm (facesOfItems (es.map (·.2)))
    induction es with
    | nil => exact .refl _
    | cons e es ih =>
      obtain ⟨key, n⟩ := e
      obtain ⟨hhead, htail⟩ := List.pairwise_cons.mp hc
      by_cases hkey : key = .str s
      · subst hkey
        -- what else stands under the name is closed, so that no container is lost with it
        have hrest := faces_erase_closed fun e he hkey => hhead e he hkey.symm
        rw [Entries.erase_cons_self, Entries.find?_cons_self, hrest, List.map_cons, facesOfItems]
        show (_ ++ (n.faces ++ [])).Perm _
        rw [List.append_nil]
        exact List.perm_append_comm
      · rw [Entries.erase_cons_ne hkey, Entries.find?_cons_ne hkey, List.map_cons, List.map_cons,
          facesOfItems, facesOfItems, List.append_assoc]
        exact (ih htail).append_left n.faces

/-- Elements that are dropped are taken out, and no others. -/
theorem exchanges_dropIndexes (indexes : List Nat) (c : Node) :
    Exchanges (dropIndexes indexes) c (c.itemsAt indexes) [] := by
  cases c with
  | leaf w => exact ⟨rfl, .refl _⟩
  | dict k es => exact ⟨rfl, .of_eq (List.append_nil _)⟩
  | list k xs =>
    refine ⟨rfl, ?_⟩
    have hparts := (List.filter_append_perm (fun x : Node × Nat => indexes.contains x.2) xs.zipIdx).map
      (·.1)
    rw [List.zipIdx_map_fst, List.map_append] at hparts
    rw [← facesOfItems_append]
    exact facesOfItems_perm (List.perm_append_comm.trans hparts)

end Node

namespace WorkingTree

variable {t : WorkingTree} {h : Nat} {f : Node → Node} {c : Node} {taken added : List Node}

/-- The faces of all containers that a tree holds, in the document or kept aside. -/
def faces (t : WorkingTree) : List Node := facesOfItems (t.root :: t.detached)

/-- The handles of all containers that a tree holds, in the document or kept aside. -/
def held (t : WorkingTree) : List Nat := t.root.handles ++ handlesOfItems t.detached

/-- A container that a tree holds is found. -/
theorem container?_of_held (hh : h ∈ t.held) : ∃ n, t.container? h = some n := by
  rw [← Option.isSome_iff_exists, container?, Option.isSome_or, Bool.or_eq_true]
  rcases List.mem_append.mp hh with hh | hh
  · exact Or.inl (find?_isSome_of_mem hh)
  · obtain ⟨x, hx, hin⟩ := mem_handlesOfItems.mp hh
    exact Or.inr (findInItems_isSome hx (find?_isSome_of_mem hin))

theorem held_eq (t : WorkingTree) : t.held = t.faces.filterMap handle? :=
  handlesOfItems_eq_faces (t.root :: t.detached)

/-- A handle that the tree does not hold changes nothing. -/
theorem modify_of_container?_none {h : Nat} (hn : t.container? h = none) (f : Node → Node) :
    t.modify h f = t := by
  have hout : h ∉ t.held := by
    intro hh
    obtain ⟨n, hsome⟩ := container?_of_held hh
    rw [hn] at hsome
    cases hsome
  have hroot : h ∉ t.root.handles := fun hh => hout (List.mem_append_left _ hh)
  have hdetached : h ∉ handlesOfItems t.detached := fun hh => hout (List.mem_append_right _ hh)
  rw [WorkingTree.modify, modify_of_not_mem hroot, modifyItems_of_not_mem hdetached]

/-- Where nothing is taken out, nothing is kept aside. -/
theorem detach_nil (t : WorkingTree) : t.detach [] = t := by
  rw [detach, List.filter_nil, List.append_nil]

theorem container?_eq_findInItems (t : WorkingTree) (h : Nat) :
    t.container? h = findInItems h (t.root :: t.detached) :=
  rfl

/-- A container that a tree holds has its face there. -/
theorem face_mem (hc : t.container? h = some c) : c.face ∈ t.faces := by
  rw [container?_eq_findInItems] at hc
  obtain ⟨x, hx, hfind⟩ := exists_of_findInItems hc
  rw [faces, facesOfItems_eq]
  exact List.mem_flatMap.mpr ⟨x, hx, face_mem_of_find? hfind⟩

theorem handle?_of_container? (hc : t.container? h = some c) : c.handle? = some h := by
  rw [container?_eq_findInItems] at hc
  obtain ⟨x, -, hfind⟩ := exists_of_findInItems hc
  exact handle?_of_find? hfind

/-- For each face that is there the tree holds the container. -/
theorem container?_of_face (hnd : t.held.Nodup) (hc : c ∈ t.faces) (hh : c.handle? = some h) :
    ∃ d, t.container? h = some d ∧ d.face = c := by
  have hheld : h ∈ t.held := by
    rw [held_eq]
    exact List.mem_filterMap.mpr ⟨c, hc, hh⟩
  obtain ⟨d, hd⟩ := container?_of_held hheld
  rw [held_eq] at hnd
  refine ⟨d, hd, eq_of_handle?_eq hnd (face_mem hd) hc ?_ hh⟩
  rw [handle?_face]
  exact handle?_of_container? hd

theorem faces_detach (t : WorkingTree) (ns : List Node) :
    (t.detach ns).faces = t.faces ++ facesOfItems ns := by
  show facesOfItems ((t.root :: t.detached) ++ ns.filter isOpened) = _
  rw [facesOfItems_append, facesOfItems_opened]
  rfl

/-- A change of one container changes its face, and no other. -/
theorem faces_change (hf : Exchanges f c taken added) (hnd : t.held.Nodup)
    (hc : t.container? h = some c) :
    ∃ rest, t.faces.Perm (c.face :: rest) ∧
      ((t.modify h f).detach taken).faces.Perm ((f c).face :: (facesOfItems added ++ rest)) := by
  rw [container?_eq_findInItems] at hc
  have hnd : (handlesOfItems (t.root :: t.detached)).Nodup := hnd
  obtain ⟨pre, x, post, hsplit, hx, hfind, hmodify⟩ := exists_split_of_findInItems (f := f) hnd hc
  obtain ⟨rest, hbefore, hafter⟩ := faces_modify hf hx hfind
  obtain ⟨rest', hbefore', hafter'⟩ := facesOfItems_replace pre post hbefore hafter
  refine ⟨rest', ?_, ?_⟩
  · rw [faces, hsplit]
    exact hbefore'
  · have hmodified : (t.modify h f).faces = facesOfItems (modifyItems h f (t.root :: t.detached)) := rfl
    rw [faces_detach, hmodified, hmodify]
    exact hafter'

/-- A change of one container brings the handles that are added, and loses none. -/
theorem held_exchange (hf : Exchanges f c taken added) (hnd : t.held.Nodup)
    (hc : t.container? h = some c) :
    ((t.modify h f).detach taken).held.Perm (handlesOfItems added ++ t.held) := by
  obtain ⟨rest, hbefore, hafter⟩ := faces_change hf hnd hc
  have hch : c.face.handle? = some h := by rw [handle?_face, handle?_of_container? hc]
  have hfh : (f c).face.handle? = some h := by
    rw [handle?_face, ← handle?_shell, hf.shell, handle?_shell, handle?_of_container? hc]
  have hbefore := hbefore.filterMap handle?
  have hafter := hafter.filterMap handle?
  rw [List.filterMap_cons_some hch, ← held_eq] at hbefore
  rw [List.filterMap_cons_some hfh, ← held_eq, List.filterMap_append, ← handlesOfItems_eq_faces]
    at hafter
  calc ((t.modify h f).detach taken).held.Perm
        (h :: (handlesOfItems added ++ rest.filterMap handle?)) := hafter
    List.Perm _ (handlesOfItems added ++ h :: rest.filterMap handle?) := List.perm_middle.symm
    List.Perm _ (handlesOfItems added ++ t.held) := hbefore.symm.append_left _

end WorkingTree

end ArgumentSchema
