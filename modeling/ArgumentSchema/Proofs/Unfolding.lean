import ArgumentSchema.Proofs.Faces
import ArgumentSchema.Proofs.Walk

/-!
# What a way down makes of the containers

On its way down a path opens containers, and so does who goes down by hand, key by key. A container
that was there before stays, with its handle, and a list with as many elements as ever; new containers
come with what is opened or made (`Unfolds`):

> `Walk.follow_unfolds`: what a walk makes of the containers.
> `WorkingTree.descendFrom_unfolds`, `WorkingTree.descendFrom_grows`: what going down key by key makes
> of the containers and of their handles.
-/

namespace ArgumentSchema

open Node

namespace Node

variable {h k : Nat} {n m c d : Node} {F F' G G' : List Node}

/-! ## Containers that stay -/

/-- A container is still there: it has its handle, and a list has as many elements. -/
structure Stays (c d : Node) : Prop where
  handle : d.handle? = c.handle?
  list : ∀ k xs, c = .list k xs → ∃ ys, d = .list k ys ∧ ys.length = xs.length

theorem Stays.refl (c : Node) : Stays c c := ⟨rfl, fun _ xs hc => ⟨xs, hc, rfl⟩⟩

/-- Containers of which more has been opened: all of them are still there, and those in mappings stand
in front. -/
structure Unfolds (F F' : List Node) : Prop where
  stays : ∀ c ∈ F, ∃ d ∈ F', Stays c d
  fronted : (∀ c ∈ F, c.Fronted) → ∀ d ∈ F', d.Fronted

namespace Unfolds

theorem refl (F : List Node) : Unfolds F F := ⟨fun c hc => ⟨c, hc, .refl c⟩, fun hF => hF⟩

theorem append (hF : Unfolds F F') (hG : Unfolds G G') : Unfolds (F ++ G) (F' ++ G') := by
  refine ⟨fun c hc => ?_, fun hall d hd => ?_⟩
  · rcases List.mem_append.mp hc with hc | hc
    · obtain ⟨d, hd, hstays⟩ := hF.stays c hc
      exact ⟨d, List.mem_append_left _ hd, hstays⟩
    · obtain ⟨d, hd, hstays⟩ := hG.stays c hc
      exact ⟨d, List.mem_append_right _ hd, hstays⟩
  · rcases List.mem_append.mp hd with hd | hd
    · exact hF.fronted (fun c hc => hall c (List.mem_append_left _ hc)) d hd
    · exact hG.fronted (fun c hc => hall c (List.mem_append_right _ hc)) d hd

theorem of_perm (hG : Unfolds G G') (hbefore : F.Perm G) (hafter : F'.Perm G') : Unfolds F F' := by
  refine ⟨fun c hc => ?_, fun hall d hd => ?_⟩
  · obtain ⟨d, hd, hstays⟩ := hG.stays c (hbefore.mem_iff.mp hc)
    exact ⟨d, hafter.mem_iff.mpr hd, hstays⟩
  · exact hG.fronted (fun c hc => hall c (hbefore.mem_iff.mpr hc)) d (hafter.mem_iff.mp hd)

/-- A container stays, with more opened in it. -/
theorem cons (hstays : Stays c d) (hfront : c.Fronted → d.Fronted) (hF : Unfolds F F') :
    Unfolds (c :: F) (d :: F') := by
  refine ⟨fun e he => ?_, fun hall e he => ?_⟩
  · rcases List.mem_cons.mp he with rfl | he
    · exact ⟨d, List.mem_cons_self .., hstays⟩
    · obtain ⟨e', he', hstays'⟩ := hF.stays e he
      exact ⟨e', List.mem_cons_of_mem _ he', hstays'⟩
  · rcases List.mem_cons.mp he with rfl | he
    · exact hfront (hall c (List.mem_cons_self ..))
    · exact hF.fronted (fun x hx => hall x (List.mem_cons_of_mem _ hx)) e he

/-- A new container is opened or made. -/
theorem fresh (hF : Unfolds [c] F') (hc : c.Fronted) : Unfolds [] F' :=
  ⟨by simp, fun _ => hF.fronted fun x hx => List.mem_singleton.mp hx ▸ hc⟩

/-- One node of a row unfolds in its place. -/
theorem replace {pre post : List Node} (hn : Unfolds n.faces m.faces) :
    Unfolds (facesOfItems (pre ++ n :: post)) (facesOfItems (pre ++ m :: post)) := by
  rw [facesOfItems_append, facesOfItems_append, facesOfItems, facesOfItems]
  exact (refl _).append (hn.append (refl _))

end Unfolds

/-! ## Lookups -/

/-- Where a lookup finds a child in a container, whatever comes of the child is put in its place. -/
structure Swaps (n c : Node) (put : Node → Node) : Prop where
  stays : ∀ m, Stays n.face (put m).face
  fronted : ∀ m, n.Fronted → (put m).Fronted
  contents : ∃ pre post, n.contents = pre ++ c :: post ∧ ∀ m, (put m).contents = pre ++ m :: post

theorem Swaps.handle {put : Node → Node} (hswaps : Swaps n c put) (m : Node) :
    (put m).handle? = n.handle? := by
  rw [← handle?_face, (hswaps.stays m).handle, handle?_face]

theorem stays_dict (h : Nat) (es es' : List (Value × Node)) : Stays (dict h es).face (dict h es').face :=
  ⟨rfl, fun _ _ hc => by cases hc⟩

theorem stays_list {xs ys : List Node} (hlength : ys.length = xs.length) :
    Stays (list h xs).face (list h ys).face := by
  refine ⟨rfl, fun j zs hc => ?_⟩
  rw [face] at hc
  obtain ⟨rfl, rfl⟩ := Node.list.inj hc
  exact ⟨_, rfl, by rw [List.length_map, List.length_map, hlength]⟩

/-- In a container the child that is found is swapped when another is put back. -/
theorem swaps_putBack {key : Value} (hn : n.handle? = some h)
    (hc : WorkingTree.lookUp n key = .ok c) : Swaps n c fun m => WorkingTree.putBack key m n := by
  cases n with
  | leaf v => cases hn
  | dict h es =>
    unfold WorkingTree.lookUp at hc
    dsimp only at hc
    split at hc
    · next child hfind =>
      obtain rfl := Except.ok.inj hc
      refine ⟨fun m => stays_dict .., fun m hes => fronted_insert hfind hes m, ?_⟩
      obtain ⟨pre, key', post, hes, hinsert, -⟩ := Entries.exists_split_of_find? hfind
      refine ⟨pre.map (·.2), post.map (·.2), ?_, fun m => ?_⟩
      · rw [contents, hes, List.map_append, List.map_cons]
      · rw [WorkingTree.putBack, contents, hinsert, List.map_append, List.map_cons]
    · cases hc
  | list h xs =>
    cases key with
    | int i =>
      unfold WorkingTree.lookUp at hc
      dsimp only at hc
      split at hc
      · next child hget =>
        split at hc
        · cases hc
        · obtain rfl := Except.ok.inj hc
          refine ⟨fun m => stays_list List.length_set, fun _ _ => trivial, ?_⟩
          obtain ⟨pre, post, hxs, hset⟩ := exists_split_of_getElem? hget
          exact ⟨pre, post, hxs, fun m => hset m⟩
      · cases hc
    | _ => cases hc

/-- In a text only texts are found. -/
theorem lookUp_leaf {key v : Value} (hc : WorkingTree.lookUp (leaf v) key = .ok c) :
    ∃ s, c = leaf (.str s) := by
  unfold WorkingTree.lookUp at hc
  split at hc
  · next heq => cases heq
  · next heq => cases heq
  · next heq _ => cases heq
  · dsimp only at hc
    split at hc
    · split at hc
      · cases hc
      · exact ⟨_, (Except.ok.inj hc).symm⟩
    · cases hc
  · cases hc
  · cases hc

/-- What comes of a child takes its place. -/
theorem unfolds_putBack {key : Value} (hc : WorkingTree.lookUp n key = .ok c)
    (hm : Unfolds c.faces m.faces) : Unfolds n.faces (WorkingTree.putBack key m n).faces := by
  cases hn : n.handle? with
  | none =>
    obtain ⟨v, rfl⟩ := eq_leaf_of_handle? hn
    exact .refl _
  | some h =>
    have hswaps := swaps_putBack hn hc
    obtain ⟨pre, post, hbefore, hafter⟩ := hswaps.contents
    rw [faces_eq hn, faces_eq ((hswaps.handle m).trans hn), hbefore, hafter m]
    exact .cons (hswaps.stays m)
      (fun hfront => fronted_face.mpr (hswaps.fronted m (fronted_face.mp hfront))) (.replace hm)

/-- What is made under a missing name is added to a mapping. -/
theorem unfolds_append {s : String} {es : List (Value × Node)}
    (hnone : Entries.find? (.str s) es = none) (hm : Unfolds [] m.faces) :
    Unfolds (dict k es).faces (dict k (Entries.insert (.str s) m es)).faces := by
  rw [Entries.insert_of_find?_eq_none hnone, faces, faces]
  refine .cons (stays_dict ..)
    (fun hes => fronted_face.mpr (fronted_append hnone (fronted_face.mp hes) m)) ?_
  rw [facesOfEntries_eq, facesOfEntries_eq, List.map_append, facesOfItems_append]
  have hboth := (Unfolds.refl (facesOfItems (es.map (·.2)))).append hm
  rw [List.append_nil] at hboth
  rw [List.map_singleton, facesOfItems, facesOfItems, List.append_nil]
  exact hboth

theorem unfolds_list {xs ys : List Node} (hlength : ys.length = xs.length)
    (hxs : Unfolds (facesOfItems xs) (facesOfItems ys)) :
    Unfolds (list k xs).faces (list k ys).faces := by
  rw [faces, faces]
  exact .cons (stays_list hlength) (fun _ => trivial) hxs

/-! ## Opening -/

theorem facesOfItems_closed (xs : List Value) : facesOfItems (xs.map leaf) = [] := by
  induction xs with
  | nil => rfl
  | cons x xs ih => exact ih

theorem faces_closedEntries (h : Nat) (es : Entries Value) :
    (dict h (closedEntries es)).faces = [face (dict h (closedEntries es))] := by
  have hvalues : (closedEntries es).map (·.2) = (es.map (·.2)).map leaf := by
    rw [closedEntries, List.map_map, List.map_map]
    rfl
  rw [faces, facesOfEntries_eq, hvalues, facesOfItems_closed]

/-- A container that is opened is a new one, and any other node stays. -/
theorem unfolds_opened (next : Nat) (n : Node) (hn : Unfolds (n.opened next).1.faces F') :
    Unfolds n.faces F' := by
  rcases Walk.opened_cases next n with ⟨-, heq⟩ | ⟨v, -, -, -, heq⟩ | ⟨_, es, rfl, heq⟩ |
    ⟨v, xs, rfl, -, heq⟩
  · rw [heq] at hn
    exact hn
  · rw [heq] at hn
    exact hn
  · rw [heq, faces_closedEntries] at hn
    exact hn.fresh (fronted_face.mpr (fronted_closed next es))
  · rw [heq, faces, facesOfItems_closed] at hn
    exact hn.fresh (fronted_face.mpr trivial)

end Node

/-! ## Ways down -/

namespace Walk

open Node

variable {blocked : Place → Bool}

theorem enter_unfolds {visit : Place → Node → WalkState → Walked} {place : Place}
    (hvisit : ∀ n st, Unfolds n.faces (visit place n st).node.faces) (n : Node) (st : WalkState) :
    Unfolds n.faces (enter blocked visit place n st).node.faces := by
  unfold enter
  split
  · exact .refl _
  · dsimp only
    refine unfolds_opened st.next n ?_
    split
    · exact hvisit _ _
    · exact .refl _

theorem items_unfolds {visit : Nat → Node → WalkState → Walked}
    (hvisit : ∀ i n st, Unfolds n.faces (visit i n st).node.faces) (xs : List Node) :
    ∀ i st, Unfolds (facesOfItems xs) (facesOfItems (items visit i xs st).1) := by
  induction xs with
  | nil =>
    intro i st
    exact .refl _
  | cons x xs ih =>
    intro i st
    exact (hvisit i x st).append (ih (i + 1) (visit i x st).state)

/-- A walk opens containers, and those that were there stay. -/
theorem follow_unfolds (blocked : Place → Bool) (last : Segment) (steps : List (Segment × Bool)) :
    ∀ place n st, Unfolds n.faces (follow blocked last steps place n st).node.faces := by
  induction steps with
  | nil =>
    intro place n st
    exact .refl _
  | cons step rest ih =>
    obtain ⟨segment, ruled⟩ := step
    intro place n st
    cases n with
    | leaf v => exact .refl _
    | dict h es =>
      cases segment with
      | wildcard => exact .refl _
      | name s =>
        rw [follow]
        cases hfind : Entries.find? (.str s) es with
        | some child =>
          have hchild : WorkingTree.lookUp (.dict h es) (.str s) = .ok child := by
            simp only [WorkingTree.lookUp, hfind]
          exact unfolds_putBack hchild (enter_unfolds (ih _) child st)
        | none =>
          dsimp only
          split
          · exact .refl _
          · have hmade := ih (place ++ [.key s]) (.dict st.next [])
              ⟨st.next + 1, st.created ++ [⟨h, s, st.next⟩]⟩
            exact unfolds_append hfind (hmade.fresh (fronted_face.mpr .nil))
    | list h xs =>
      cases segment with
      | name s => exact .refl _
      | wildcard =>
        exact unfolds_list (length_items ..) (items_unfolds (fun i => enter_unfolds (ih _)) xs 0 st)

end Walk

namespace WorkingTree

variable {t : WorkingTree} {h : Nat} {n m c : Node} {key : Value}

/-- A node grows when the child that a lookup finds grows in its place. -/
theorem putBack_grows {st st' : WalkState} (hc : lookUp n key = .ok c) (hnd : n.handles.Nodup)
    (hlt : ∀ h ∈ n.handles, h < st.next)
    (hchild : c.handles.Nodup → (∀ h ∈ c.handles, h < st.next) → Grows c.handles st m.handles st') :
    Grows n.handles st (putBack key m n).handles st' := by
  cases hn : n.handle? with
  | none =>
    obtain ⟨v, rfl⟩ := eq_leaf_of_handle? hn
    obtain ⟨s, rfl⟩ := lookUp_leaf hc
    have hg := hchild .nil (by simp [handles])
    exact ⟨hg.next_le, by simp [handles], by simp [putBack, handles], .nil, hg.created⟩
  | some h =>
    have hswaps := swaps_putBack hn hc
    obtain ⟨pre, post, hbefore, hafter⟩ := hswaps.contents
    rw [handles_eq_cons hn, hbefore, handlesOfItems_append, handlesOfItems] at hnd hlt ⊢
    rw [handles_eq_cons ((hswaps.handle m).trans hn), hafter m, handlesOfItems_append, handlesOfItems]
    obtain ⟨hh, hnd⟩ := List.nodup_cons.mp hnd
    have hlth : h < st.next := hlt h (List.mem_cons_self ..)
    have hlt : ∀ k ∈ _, k < st.next := fun k hk => hlt k (List.mem_cons_of_mem _ hk)
    refine .cons hh hlth (.inside hnd hlt (hchild ?_ fun k hk => hlt k ?_))
    · exact (List.nodup_append.mp (List.nodup_append.mp hnd).2.1).1
    · exact List.mem_append_right _ (List.mem_append_left _ hk)

theorem descendFrom_of_error {e : Raised} (hm : lookUp n key = .error e) (keys : List Value)
    (next : Nat) : descendFrom (key :: keys) next n = (n, next, .error e) := by
  rw [descendFrom, hm]

theorem descendFrom_of_ok (hm : lookUp n key = .ok m) (keys : List Value) (next : Nat) :
    descendFrom (key :: keys) next n =
      (putBack key (descendFrom keys (m.opened next).2 (m.opened next).1).1 n,
        (descendFrom keys (m.opened next).2 (m.opened next).1).2) := by
  rw [descendFrom, hm]

/-- Going down key by key keeps all handles and gives new ones. -/
theorem descendFrom_grows (made : List Created) (keys : List Value) :
    ∀ next n, n.handles.Nodup → (∀ h ∈ n.handles, h < next) →
      Grows n.handles ⟨next, made⟩ (descendFrom keys next n).1.handles
        ⟨(descendFrom keys next n).2.1, made⟩ := by
  induction keys with
  | nil =>
    intro next n hnd _
    exact .refl hnd _
  | cons key keys ih =>
    intro next n hnd hlt
    cases hm : lookUp n key with
    | error e =>
      rw [descendFrom_of_error hm]
      exact .refl hnd _
    | ok m =>
      rw [descendFrom_of_ok hm]
      refine putBack_grows hm hnd hlt fun hnd hlt => Walk.opened_grows ?_
      obtain ⟨hnd', hlt'⟩ := Walk.opened_numbered hnd hlt
      exact ih _ _ hnd' hlt'

/-- Going down opens containers, and those that were there stay. -/
theorem descendFrom_unfolds (keys : List Value) :
    ∀ next n, Unfolds n.faces (descendFrom keys next n).1.faces := by
  induction keys with
  | nil =>
    intro next n
    exact .refl _
  | cons key keys ih =>
    intro next n
    cases hm : lookUp n key with
    | error e =>
      rw [descendFrom_of_error hm]
      exact .refl _
    | ok m =>
      rw [descendFrom_of_ok hm]
      exact unfolds_putBack hm (unfolds_opened next m (ih _ _))

/-- From a text nothing opened is reached. -/
theorem descendFrom_text (keys : List Value) (next : Nat) :
    ∀ s, (descendFrom keys next (leaf (.str s))).2.2 = .ok c → c.isOpened = false := by
  induction keys with
  | nil =>
    intro s hreached
    obtain rfl := Except.ok.inj hreached
    rfl
  | cons key keys ih =>
    intro s hreached
    cases hm : lookUp (leaf (.str s)) key with
    | error e =>
      rw [descendFrom_of_error hm] at hreached
      cases hreached
    | ok m =>
      rw [descendFrom_of_ok hm] at hreached
      obtain ⟨s', rfl⟩ := lookUp_leaf hm
      exact ih s' hreached

/-- The container that is reached is found by its handle. -/
theorem descendFrom_found (hh : c.handle? = some h) (keys : List Value) :
    ∀ next n, (descendFrom keys next n).1.handles.Nodup →
      (descendFrom keys next n).2.2 = .ok c → find? h (descendFrom keys next n).1 = some c := by
  induction keys with
  | nil =>
    intro next n _ hreached
    obtain rfl := Except.ok.inj hreached
    exact find?_self hh
  | cons key keys ih =>
    intro next n hnd hreached
    cases hm : lookUp n key with
    | error e =>
      rw [descendFrom_of_error hm] at hreached
      cases hreached
    | ok m =>
      rw [descendFrom_of_ok hm] at hnd hreached ⊢
      cases hn : n.handle? with
      | none =>
        -- a closed value in which something is found is a text, and from there on nothing is opened
        obtain ⟨v, rfl⟩ := eq_leaf_of_handle? hn
        obtain ⟨s, rfl⟩ := lookUp_leaf hm
        have hclosed := descendFrom_text keys next s hreached
        rw [isOpened_of_handle? hh] at hclosed
        cases hclosed
      | some k =>
        obtain ⟨pre, post, -, hafter⟩ := (swaps_putBack hn hm).contents
        have hmem : ∀ w, w ∈ (putBack key w n).contents := by
          intro w
          rw [hafter]
          exact List.mem_append_right _ (List.mem_cons_self ..)
        have hfind := ih _ _ (nodup_of_mem_items (nodup_contents hnd) (hmem _)) hreached
        rw [find?_of_mem_contents hnd (hmem _) (mem_of_find?_eq_some hfind), hfind]

theorem descend_found {keys : List Value} (hnd : (t.descend keys).1.held.Nodup)
    (hreached : (t.descend keys).2 = .ok c) (hh : c.handle? = some h) :
    (t.descend keys).1.container? h = some c := by
  have hfind : (t.descend keys).1.root.find? h = some c :=
    descendFrom_found hh keys t.next t.root (List.nodup_append.mp hnd).1 hreached
  rw [container?, hfind]
  rfl

end WorkingTree

end ArgumentSchema
