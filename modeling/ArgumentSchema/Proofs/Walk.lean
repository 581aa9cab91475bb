import ArgumentSchema.Proofs.Handles
import ArgumentSchema.Proofs.Descent

/-!
# What a walk does to a tree

Following a path opens containers and makes mappings where a key is missing. Each gets the next
handle, so that no handle is ever given twice (`Grows`), whatever is blocked on the way:

> `Walk.follow_grows`: a walk keeps all handles and gives new ones from the next one on.
> `Walk.follow_targets`: the places that a walk reaches lie in containers of the tree, below where
> it started.
-/

namespace ArgumentSchema

/-- Handles that have grown from others: those are kept, no handle occurs twice, and the new ones
come from between the two states. Of the mappings that were made, each is younger than the one it
stands in, and they are recorded in the order of their making. -/
structure Grows (hs : List Nat) (st : WalkState) (hs' : List Nat) (st' : WalkState) : Prop where
  next_le : st.next ≤ st'.next
  kept : ∀ h ∈ hs, h ∈ hs'
  fresh : ∀ h ∈ hs', h ∈ hs ∨ (st.next ≤ h ∧ h < st'.next)
  nodup : hs'.Nodup
  created : ∃ new, st'.created = st.created ++ new ∧ (new.Pairwise fun a b => a.child < b.child) ∧
    ∀ c ∈ new, c.parent < c.child ∧ st.next ≤ c.child ∧ c.child < st'.next

namespace Grows

variable {hs hs' ks ks' : List Nat} {st st' st'' : WalkState}

theorem refl (hnd : hs.Nodup) (st : WalkState) : Grows hs st hs st :=
  ⟨Nat.le_refl _, fun _ h => h, fun _ h => Or.inl h, hnd, [], by simp, .nil, by simp⟩

theorem lt (hg : Grows hs st hs' st') (hlt : ∀ h ∈ hs, h < st.next) : ∀ h ∈ hs', h < st'.next := by
  intro h hh
  rcases hg.fresh h hh with hh | ⟨-, hh⟩
  · exact Nat.lt_of_lt_of_le (hlt h hh) hg.next_le
  · exact hh

/-- A handle that was given before is not given again. -/
theorem not_mem (hg : Grows hs st hs' st') {h : Nat} (hlt : h < st.next) (hh : h ∉ hs) :
    h ∉ hs' := by
  intro hmem
  rcases hg.fresh h hmem with hmem | ⟨hfrom, -⟩
  · exact hh hmem
  · omega

/-- The mappings made on two ways, one after the other. -/
theorem created_trans (h₁ : Grows hs st hs' st') (h₂ : Grows ks st' ks' st'') :
    ∃ new, st''.created = st.created ++ new ∧ (new.Pairwise fun a b => a.child < b.child) ∧
      ∀ c ∈ new, c.parent < c.child ∧ st.next ≤ c.child ∧ c.child < st''.next := by
  obtain ⟨new₁, hnew₁, hord₁, hall₁⟩ := h₁.created
  obtain ⟨new₂, hnew₂, hord₂, hall₂⟩ := h₂.created
  have hle₁ := h₁.next_le
  have hle₂ := h₂.next_le
  refine ⟨new₁ ++ new₂, by rw [hnew₂, hnew₁, List.append_assoc], ?_, ?_⟩
  · rw [List.pairwise_append]
    refine ⟨hord₁, hord₂, fun a ha b hb => ?_⟩
    have := (hall₁ a ha).2.2
    have := (hall₂ b hb).2.1
    omega
  · intro c hc
    rcases List.mem_append.mp hc with hc | hc
    · obtain ⟨hparent, hfrom, hto⟩ := hall₁ c hc
      exact ⟨hparent, hfrom, by omega⟩
    · obtain ⟨hparent, hfrom, hto⟩ := hall₂ c hc
      exact ⟨hparent, by omega, hto⟩

/-- What is recorded stays in the order of its making. -/
theorem sorted (hg : Grows hs st hs' st')
    (hsorted : st.created.Pairwise fun a b => a.child < b.child)
    (hlt : ∀ c ∈ st.created, c.child < st.next) :
    st'.created.Pairwise fun a b => a.child < b.child := by
  obtain ⟨new, hnew, hord, hall⟩ := hg.created
  rw [hnew, List.pairwise_append]
  refine ⟨hsorted, hord, fun a ha b hb => ?_⟩
  exact Nat.lt_of_lt_of_le (hlt a ha) (hall b hb).2.1

theorem younger (hg : Grows hs st hs' st') (h : ∀ c ∈ st.created, c.parent < c.child) :
    ∀ c ∈ st'.created, c.parent < c.child := by
  obtain ⟨new, hnew, -, hall⟩ := hg.created
  intro c hc
  rw [hnew] at hc
  rcases List.mem_append.mp hc with hc | hc
  · exact h c hc
  · exact (hall c hc).1

/-- Two parts of a tree grow one after the other. -/
theorem append (hlt : ∀ h ∈ ks, h < st.next) (hdisj : ∀ h ∈ hs, h ∉ ks)
    (hlt' : ∀ h ∈ hs, h < st.next) (h₁ : Grows hs st hs' st') (h₂ : Grows ks st' ks' st'') :
    Grows (hs ++ ks) st (hs' ++ ks') st'' := by
  have hle₁ := h₁.next_le
  have hle₂ := h₂.next_le
  refine ⟨by omega, ?_, ?_, ?_, created_trans h₁ h₂⟩
  · intro h hh
    rcases List.mem_append.mp hh with hh | hh
    · exact List.mem_append_left _ (h₁.kept h hh)
    · exact List.mem_append_right _ (h₂.kept h hh)
  · intro h hh
    rcases List.mem_append.mp hh with hh | hh
    · rcases h₁.fresh h hh with hh | ⟨hfrom, hto⟩
      · exact Or.inl (List.mem_append_left _ hh)
      · exact Or.inr ⟨hfrom, by omega⟩
    · rcases h₂.fresh h hh with hh | ⟨hfrom, hto⟩
      · exact Or.inl (List.mem_append_right _ hh)
      · exact Or.inr ⟨by omega, hto⟩
  · refine List.nodup_append.mpr ⟨h₁.nodup, h₂.nodup, ?_⟩
    rintro h hh _ hk rfl
    refine h₂.not_mem (h₁.lt hlt' h hh) (fun hk => ?_) hk
    exact h₁.not_mem (hlt h hk) (fun hh => hdisj h hh hk) hh

/-- One part of a tree grows, and the parts before and behind it stay. -/
theorem inside (hnd : (ks ++ (hs ++ ks')).Nodup) (hlt : ∀ h ∈ ks ++ (hs ++ ks'), h < st.next)
    (hg : Grows hs st hs' st') : Grows (ks ++ (hs ++ ks')) st (ks ++ (hs' ++ ks')) st' := by
  obtain ⟨hbefore, hrest, hdisj⟩ := List.nodup_append.mp hnd
  obtain ⟨-, hbehind, hdisj'⟩ := List.nodup_append.mp hrest
  have hlt' : ∀ h ∈ hs ++ ks', h < st.next := fun h hh => hlt h (List.mem_append_right _ hh)
  refine append hlt' (fun h hh hh' => hdisj h hh h hh' rfl)
    (fun h hh => hlt h (List.mem_append_left _ hh)) (refl hbefore st) ?_
  exact append (fun h hh => hlt' h (List.mem_append_right _ hh)) (fun h hh hh' => hdisj' h hh h hh' rfl)
    (fun h hh => hlt' h (List.mem_append_left _ hh)) hg (refl hbehind st')

/-- A container grows with its contents. -/
theorem cons {h : Nat} (hh : h ∉ hs) (hlt : h < st.next) (hg : Grows hs st hs' st') :
    Grows (h :: hs) st (h :: hs') st' := by
  refine ⟨hg.next_le, ?_, ?_, ?_, hg.created⟩
  · intro k hk
    rcases List.mem_cons.mp hk with rfl | hk
    · exact List.mem_cons_self ..
    · exact List.mem_cons_of_mem _ (hg.kept k hk)
  · intro k hk
    rcases List.mem_cons.mp hk with rfl | hk
    · exact Or.inl (List.mem_cons_self ..)
    · exact (hg.fresh k hk).imp_left (List.mem_cons_of_mem _)
  · exact List.nodup_cons.mpr ⟨hg.not_mem hlt hh, hg.nodup⟩

/-- A container that is opened or made takes the next handle. -/
theorem fresh_container (made : List Created)
    (hmade : made.Pairwise fun a b => a.child < b.child)
    (hall : ∀ c ∈ made, c.parent < c.child ∧ c.child = st.next)
    (hg : Grows [st.next] ⟨st.next + 1, st.created ++ made⟩ hs' st') : Grows [] st hs' st' := by
  obtain ⟨new, hnew, hord, hnewall⟩ := hg.created
  have hle := hg.next_le
  simp only [] at hle hnew hnewall
  refine ⟨by omega, by simp, ?_, hg.nodup, made ++ new, by rw [hnew, List.append_assoc], ?_, ?_⟩
  · intro h hh
    rcases hg.fresh h hh with hh | ⟨hfrom, hto⟩
    · obtain rfl := List.mem_singleton.mp hh
      exact Or.inr ⟨Nat.le_refl _, by omega⟩
    · exact Or.inr ⟨Nat.le_of_succ_le hfrom, hto⟩
  · refine List.pairwise_append.mpr ⟨hmade, hord, fun a ha b hb => ?_⟩
    have := (hall a ha).2
    have := (hnewall b hb).2.1
    omega
  · intro c hc
    rcases List.mem_append.mp hc with hc | hc
    · obtain ⟨hparent, hchild⟩ := hall c hc
      exact ⟨hparent, by omega, by omega⟩
    · obtain ⟨hparent, hfrom, hto⟩ := hnewall c hc
      exact ⟨hparent, by omega, hto⟩

end Grows

namespace Walk

open Node

/-- Opening gives a container the next handle, unless it has one, and does nothing to a value that
is no container. -/
theorem opened_cases (next : Nat) (n : Node) :
    (n.isOpened = true ∧ n.opened next = (n, next)) ∨
    (∃ v, n = .leaf v ∧ v.entries? = none ∧ v.items? = none ∧ n.opened next = (n, next)) ∨
    (∃ ordered es, n = .leaf (.dict ordered es) ∧
      n.opened next = (.dict next (Node.closedEntries es), next + 1)) ∨
    (∃ v xs, n = .leaf v ∧ v.items? = some xs ∧
      n.opened next = (.list next (xs.map .leaf), next + 1)) := by
  cases n with
  | dict h es => exact Or.inl ⟨rfl, rfl⟩
  | list h xs => exact Or.inl ⟨rfl, rfl⟩
  | leaf v =>
    cases v with
    | dict ordered es => exact Or.inr (Or.inr (Or.inl ⟨ordered, es, rfl, rfl⟩))
    | list xs => exact Or.inr (Or.inr (Or.inr ⟨_, xs, rfl, rfl, rfl⟩))
    | tuple xs => exact Or.inr (Or.inr (Or.inr ⟨_, xs, rfl, rfl, rfl⟩))
    | _ => exact Or.inr (Or.inl ⟨_, rfl, rfl, rfl, rfl⟩)

theorem handlesOfEntries_closed (es : Entries Value) :
    handlesOfEntries (Node.closedEntries es) = [] := by
  induction es with
  | nil => rfl
  | cons e es ih => exact ih

theorem handlesOfItems_closed (xs : List Value) : handlesOfItems (xs.map .leaf) = [] := by
  induction xs with
  | nil => rfl
  | cons x xs ih => exact ih

/-- What is opened has handles of its own, before those that are still to be given. -/
theorem opened_numbered {next : Nat} {n : Node} (hnd : n.handles.Nodup)
    (hlt : ∀ h ∈ n.handles, h < next) :
    (n.opened next).1.handles.Nodup ∧ ∀ h ∈ (n.opened next).1.handles, h < (n.opened next).2 := by
  rcases opened_cases next n with ⟨-, heq⟩ | ⟨v, -, -, -, heq⟩ | ⟨_, es, -, heq⟩ | ⟨v, xs, -, -, heq⟩
  · rw [heq]
    exact ⟨hnd, hlt⟩
  · rw [heq]
    exact ⟨hnd, hlt⟩
  · rw [heq, handles, handlesOfEntries_closed]
    simp
  · rw [heq, handles, handlesOfItems_closed]
    simp

/-- A node grows when it is opened, and what it is then grows. -/
theorem opened_grows {n : Node} {st st' : WalkState} {hs' : List Nat}
    (hg : Grows (n.opened st.next).1.handles { st with next := (n.opened st.next).2 } hs' st') :
    Grows n.handles st hs' st' := by
  rcases opened_cases st.next n with ⟨-, heq⟩ | ⟨v, -, -, -, heq⟩ | ⟨_, es, rfl, heq⟩ |
    ⟨v, xs, rfl, -, heq⟩
  · rw [heq] at hg
    exact hg
  · rw [heq] at hg
    exact hg
  · rw [heq, handles, handlesOfEntries_closed] at hg
    refine Grows.fresh_container [] .nil (by simp) ?_
    rw [List.append_nil]
    exact hg
  · rw [heq, handles, handlesOfItems_closed] at hg
    refine Grows.fresh_container [] .nil (by simp) ?_
    rw [List.append_nil]
    exact hg

variable {blocked : Place → Bool} {visit : Place → Node → WalkState → Walked}

theorem enter_grows {place : Place} {n : Node} {st : WalkState} (hnd : n.handles.Nodup)
    (hlt : ∀ h ∈ n.handles, h < st.next)
    (hvisit : ∀ n st, n.handles.Nodup → (∀ h ∈ n.handles, h < st.next) →
      Grows n.handles st (visit place n st).node.handles (visit place n st).state) :
    Grows n.handles st (enter blocked visit place n st).node.handles
      (enter blocked visit place n st).state := by
  unfold enter
  split
  · exact Grows.refl hnd st
  · dsimp only
    refine opened_grows ?_
    obtain ⟨hnd', hlt'⟩ := opened_numbered hnd hlt
    split
    · exact hvisit _ _ hnd' hlt'
    · exact Grows.refl hnd' _

theorem length_items {visit : Nat → Node → WalkState → Walked} (xs : List Node) :
    ∀ (i : Nat) (st : WalkState), (items visit i xs st).1.length = xs.length := by
  induction xs with
  | nil =>
    intro i st
    rfl
  | cons x xs ih =>
    intro i st
    exact congrArg (· + 1) (ih (i + 1) _)

theorem items_grows {visit : Nat → Node → WalkState → Walked}
    (hvisit : ∀ i n st, n.handles.Nodup → (∀ h ∈ n.handles, h < st.next) →
      Grows n.handles st (visit i n st).node.handles (visit i n st).state) (xs : List Node) :
    ∀ (i : Nat) (st : WalkState), (handlesOfItems xs).Nodup → (∀ h ∈ handlesOfItems xs, h < st.next) →
      Grows (handlesOfItems xs) st (handlesOfItems (items visit i xs st).1)
        (items visit i xs st).2.2 := by
  induction xs with
  | nil =>
    intro i st hnd _
    exact Grows.refl hnd st
  | cons x xs ih =>
    intro i st hnd hlt
    obtain ⟨hx, hxs, hdisj⟩ := List.nodup_append.mp hnd
    have hltx : ∀ h ∈ x.handles, h < st.next := fun h hh => hlt h (List.mem_append_left _ hh)
    have hltxs : ∀ h ∈ handlesOfItems xs, h < st.next :=
      fun h hh => hlt h (List.mem_append_right _ hh)
    have hhead := hvisit i x st hx hltx
    have htail := ih (i + 1) (visit i x st).state hxs
      (fun h hh => Nat.lt_of_lt_of_le (hltxs h hh) hhead.next_le)
    exact Grows.append hltxs (fun h hh hh' => hdisj h hh h hh' rfl) hltx hhead htail

/-- Storing a grown child under its key, or a new child under a new key, grows the entries. -/
theorem insert_grows {s : String} {es : List (Value × Node)} {child : Node} {st st' : WalkState}
    (hnd : (handlesOfEntries es).Nodup) (hlt : ∀ h ∈ handlesOfEntries es, h < st.next)
    (hg : Grows ((Entries.find? (.str s) es).elim [] handles) st child.handles st') :
    Grows (handlesOfEntries es) st (handlesOfEntries (Entries.insert (.str s) child es)) st' := by
  cases hfind : Entries.find? (.str s) es with
  | none =>
    rw [hfind] at hg
    rw [Entries.insert_of_find?_eq_none hfind, handlesOfEntries_append]
    have hnil : ∀ h ∈ ([] : List Nat), h < st.next := by simp
    have hself := Grows.append hnil (by simp) hlt (Grows.refl hnd st) hg
    rw [List.append_nil] at hself
    simpa [handlesOfEntries] using hself
  | some old =>
    rw [hfind] at hg
    obtain ⟨pre, post, rfl, hinsert⟩ := Entries.exists_eq_of_find? hfind
    rw [hinsert]
    rw [handlesOfEntries_append, handlesOfEntries] at hnd hlt ⊢
    rw [handlesOfEntries_append, handlesOfEntries]
    exact Grows.inside hnd hlt hg

/-- A walk keeps all handles and gives new ones from the next one on. -/
theorem follow_grows (blocked : Place → Bool) (last : Segment) (steps : List (Segment × Bool)) :
    ∀ (place : Place) (n : Node) (st : WalkState), n.handles.Nodup →
      (∀ h ∈ n.handles, h < st.next) →
      Grows n.handles st (follow blocked last steps place n st).node.handles
        (follow blocked last steps place n st).state := by
  induction steps with
  | nil =>
    intro place n st hnd _
    exact Grows.refl hnd st
  | cons step rest ih =>
    obtain ⟨segment, ruled⟩ := step
    intro place n st hnd hlt
    cases n with
    | leaf v => exact Grows.refl hnd st
    | dict h es =>
      cases segment with
      | wildcard => exact Grows.refl hnd st
      | name s =>
        obtain ⟨hh, hes⟩ := List.nodup_cons.mp hnd
        have hlth : h < st.next := hlt h (List.mem_cons_self ..)
        have hltes : ∀ k ∈ handlesOfEntries es, k < st.next :=
          fun k hk => hlt k (List.mem_cons_of_mem _ hk)
        rw [follow]
        cases hfind : Entries.find? (.str s) es with
        | some child =>
          have hmem := Entries.mem_of_find? hfind
          refine Grows.cons hh hlth (insert_grows hes hltes ?_)
          rw [hfind]
          exact enter_grows (nodup_of_mem_entries hes hmem)
            (fun k hk => hltes k (mem_handlesOfEntries.mpr ⟨_, hmem, hk⟩))
            (fun n st => ih (place ++ [Step.key s]) n st)
        | none =>
          dsimp only
          split
          · exact Grows.refl hnd st
          · refine Grows.cons hh hlth (insert_grows hes hltes ?_)
            rw [hfind]
            -- the mapping that is made gets the next handle
            refine Grows.fresh_container [⟨h, s, st.next⟩] (by simp) (by simpa using hlth) ?_
            have hg := ih (place ++ [Step.key s]) (.dict st.next [])
              ⟨st.next + 1, st.created ++ [⟨h, s, st.next⟩]⟩ (by simp [handles, handlesOfEntries])
              (by simp [handles, handlesOfEntries])
            exact hg
    | list h xs =>
      cases segment with
      | name s => exact Grows.refl hnd st
      | wildcard =>
        obtain ⟨hh, hxs⟩ := List.nodup_cons.mp hnd
        refine Grows.cons hh (hlt h (List.mem_cons_self ..)) ?_
        exact items_grows (fun i n st hnd hlt => enter_grows hnd hlt fun n st => ih _ n st) xs 0 st
          hxs (fun k hk => hlt k (List.mem_cons_of_mem _ hk))

/-- A walk leaves the container where it starts in place. -/
theorem handle?_follow (blocked : Place → Bool) (last : Segment) (steps : List (Segment × Bool))
    (place : Place) (n : Node) (st : WalkState) :
    (follow blocked last steps place n st).node.handle? = n.handle? := by
  cases steps with
  | nil => rfl
  | cons step rest =>
    obtain ⟨segment, ruled⟩ := step
    cases n with
    | leaf v => rfl
    | dict h es =>
      cases segment with
      | wildcard => rfl
      | name s =>
        rw [follow]
        cases Entries.find? (.str s) es with
        | some child => rfl
        | none =>
          dsimp only
          split <;> rfl
    | list h xs =>
      cases segment with
      | name s => rfl
      | wildcard => rfl

theorem handle?_enter {place : Place} {n : Node} {st : WalkState} (hopen : n.isOpened = true)
    (hvisit : ∀ st, (visit place n st).node.handle? = n.handle?) :
    (enter blocked visit place n st).node.handle? = n.handle? := by
  unfold enter
  split
  · rfl
  · rcases opened_cases st.next n with ⟨-, heq⟩ | ⟨v, rfl, -⟩ | ⟨_, es, rfl, -⟩ | ⟨v, xs, rfl, -⟩
    · simp only [heq, hopen, if_true]
      exact hvisit st
    · cases hopen
    · cases hopen
    · cases hopen

/-! ## Targets -/

theorem enter_targets {p : Node → Target → Prop} {place : Place} {n : Node} {st : WalkState}
    (hvisit : ∀ n st, ∀ x ∈ (visit place n st).targets, p (visit place n st).node x) :
    ∀ x ∈ (enter blocked visit place n st).targets, p (enter blocked visit place n st).node x := by
  intro x hx
  unfold enter at hx ⊢
  split
  · next hb =>
    rw [if_pos hb] at hx
    cases hx
  · next hb =>
    rw [if_neg hb] at hx
    dsimp only at hx ⊢
    split
    · next hopen =>
      rw [if_pos hopen] at hx
      exact hvisit _ _ x hx
    · next hopen =>
      rw [if_neg hopen] at hx
      cases hx

/-- What is so of some element of a list, at its position from a number on, is so of the first or of
one of the others. -/
theorem exists_getElem?_cons {α : Type} (p : Nat → α → Prop) {i : Nat} {x : α} {xs : List α} :
    (∃ j y, (x :: xs)[j]? = some y ∧ p (i + j) y) ↔
      p i x ∨ ∃ j y, xs[j]? = some y ∧ p (i + 1 + j) y := by
  constructor
  · rintro ⟨j, y, hy, hp⟩
    cases j with
    | zero =>
      obtain rfl := Option.some.inj hy
      exact Or.inl hp
    | succ j =>
      rw [show i + (j + 1) = i + 1 + j by omega] at hp
      exact Or.inr ⟨j, y, hy, hp⟩
  · rintro (hp | ⟨j, y, hy, hp⟩)
    · exact ⟨0, x, rfl, hp⟩
    · rw [show i + 1 + j = i + (j + 1) by omega] at hp
      exact ⟨j + 1, y, hy, hp⟩

/-- What is so of all elements of a list, each at its position from a number on, is so of the first
and of the others. -/
theorem forall_getElem?_cons {α : Type} (p : Nat → α → Prop) {i : Nat} {x : α} {xs : List α} :
    (∀ j y, (x :: xs)[j]? = some y → p (i + j) y) ↔
      p i x ∧ ∀ j y, xs[j]? = some y → p (i + 1 + j) y := by
  have h := not_congr (@exists_getElem?_cons α (fun j y => ¬ p j y) i x xs)
  simpa using h

/-- Each target among the elements of a list is one in some element. -/
theorem items_targets {p : Nat → Node → Target → Prop} {visit : Nat → Node → WalkState → Walked}
    (hvisit : ∀ i n st, ∀ x ∈ (visit i n st).targets, p i (visit i n st).node x) (xs : List Node) :
    ∀ (i : Nat) (st : WalkState), ∀ x ∈ (items visit i xs st).2.1,
      ∃ j m, (items visit i xs st).1[j]? = some m ∧ p (i + j) m x := by
  induction xs with
  | nil =>
    intro i st x hx
    cases hx
  | cons n xs ih =>
    intro i st x hx
    refine (exists_getElem?_cons fun j m => p j m x).mpr ?_
    rcases List.mem_append.mp hx with hx | hx
    · exact Or.inl (hvisit i n st x hx)
    · exact Or.inr (ih (i + 1) _ x hx)

/-- What holds of the targets of the last segment in a node, and of those in a container if it holds
of them in what stands at a step, holds of all targets of a walk. -/
theorem forall_targets (blocked : Place → Bool) {last : Segment}
    {p : List Segment → Place → Node → Target → Prop}
    (hlast : ∀ place n, ∀ x ∈ targets last place n, p [last] place n x)
    (hup : ∀ segments place step n m x, n.child? step = some m →
      p segments (place ++ [step]) m x → p (step.segment :: segments) place n x)
    (steps : List (Segment × Bool)) :
    ∀ (place : Place) (n : Node) (st : WalkState),
      ∀ x ∈ (follow blocked last steps place n st).targets,
        p (steps.map (·.1) ++ [last]) place (follow blocked last steps place n st).node x := by
  induction steps with
  | nil =>
    intro place n st
    exact hlast place n
  | cons step rest ih =>
    obtain ⟨segment, ruled⟩ := step
    intro place n st x hx
    cases n with
    | leaf v => cases hx
    | dict h es =>
      cases segment with
      | wildcard => cases hx
      | name s =>
        -- whatever the walk goes on into is stored under the key again
        have hstored : ∀ child : Node, (Node.dict h (Entries.insert (.str s) child es)).child?
            (.key s) = some child := fun child => Entries.find?_insert_self s child es
        rw [follow] at hx ⊢
        cases hfind : Entries.find? (.str s) es with
        | some child =>
          rw [hfind] at hx
          have hx := enter_targets (p := p (rest.map (·.1) ++ [last]) (place ++ [Step.key s]))
            (fun n st => ih _ n st) x hx
          exact hup _ _ _ _ _ x (hstored _) hx
        | none =>
          rw [hfind] at hx
          dsimp only at hx ⊢
          split
          · next hb =>
            rw [if_pos hb] at hx
            cases hx
          · next hb =>
            rw [if_neg hb] at hx
            exact hup _ _ _ _ _ x (hstored _) (ih (place ++ [Step.key s]) _ _ x hx)
    | list h xs =>
      cases segment with
      | name s => cases hx
      | wildcard =>
        obtain ⟨j, m, hm, hx⟩ := items_targets
          (p := fun i => p (rest.map (·.1) ++ [last]) (place ++ [Step.index i]))
          (fun i n st => enter_targets fun n st => ih _ n st) xs 0 st x hx
        rw [Nat.zero_add] at hx
        exact hup _ _ (.index j) _ m x hm hx

/-- A target lies in a container of a node, at a place that goes on from another with the given
segments. -/
def Within (segments : List Segment) (place : Place) (hs : List Nat) (x : Target) : Prop :=
  x.container ∈ hs ∧ ∃ way, x.place = place ++ way ∧ Place.path way = segments

theorem Within.mono {segments : List Segment} {place : Place} {hs hs' : List Nat} {x : Target}
    (h : Within segments place hs x) (hsub : ∀ k ∈ hs, k ∈ hs') : Within segments place hs' x :=
  ⟨hsub _ h.1, h.2⟩

theorem Within.up {segments : List Segment} {place : Place} {step : Step} {hs : List Nat}
    {x : Target} (h : Within segments (place ++ [step]) hs x) :
    Within (step.segment :: segments) place hs x := by
  obtain ⟨hmem, way, hplace, hpath⟩ := h
  exact ⟨hmem, step :: way, by rw [hplace]; simp, by rw [← hpath]; rfl⟩

theorem targets_within (last : Segment) (place : Place) (n : Node) :
    ∀ x ∈ targets last place n, Within [last] place n.handles x := by
  intro x hx
  cases n with
  | leaf v => cases hx
  | dict h es =>
    cases last with
    | wildcard => cases hx
    | name s =>
      obtain rfl := List.mem_singleton.mp hx
      exact ⟨List.mem_cons_self .., [.key s], rfl, rfl⟩
  | list h xs =>
    cases last with
    | name s => cases hx
    | wildcard =>
      obtain ⟨y, -, rfl⟩ := List.mem_map.mp hx
      exact ⟨List.mem_cons_self .., [.index y.2], rfl, rfl⟩

/-- The places that a walk reaches lie in containers of the tree, below where it started. -/
theorem follow_targets (blocked : Place → Bool) (last : Segment) (steps : List (Segment × Bool))
    (place : Place) (n : Node) (st : WalkState) :
    ∀ x ∈ (follow blocked last steps place n st).targets, Within (steps.map (·.1) ++ [last]) place
      (follow blocked last steps place n st).node.handles x :=
  forall_targets blocked (p := fun segments place n => Within segments place n.handles)
    (targets_within last)
    (fun _ _ _ _ _ _ hchild hx => hx.up.mono (mem_handles_of_child? hchild)) steps place n st

end Walk

end ArgumentSchema
