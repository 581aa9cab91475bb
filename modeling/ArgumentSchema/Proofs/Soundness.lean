import ArgumentSchema.Proofs.Remains
import ArgumentSchema.Proofs.Ways

/-!
# Walks keep a tree sound

What a walk does to a tree was told of runs, in which the rules come in their order. Here a walk goes
wherever it likes: below containers that were opened long ago, through mappings that an earlier walk
has made, past elements that are already recorded. A tree that was sound stays so, with the mappings
that the walk has made added to the records, and the elements that it has found are there:

> `Walk.follow_sound`: a walk keeps a tree sound.
> `Walk.follow_holds`: an element that a walk has found is one of a list in the tree.
> `Marks.Sound.found`: positions of such elements may be recorded.
-/

namespace ArgumentSchema

open Marks Node

namespace Marks

variable {m m' : Marks}

/-! ## Other records -/

/-- The same records, with other mappings that were made. -/
def recording (m : Marks) (created : List Created) : Marks := { m with created }

/-- Whether a node is sound depends only on the records about the handles in it. -/
theorem Sound.congr {n : Node} (hsound : Sound m n)
    (hgone : ∀ h ∈ n.handles, ∀ i, (h, i) ∈ m'.gone → (h, i) ∈ m.gone)
    (hmade : ∀ h ∈ n.handles, m'.made h = m.made h)
    (hcreated : ∀ c ∈ m.created, c ∈ m'.created) : Sound m' n := by
  induction hsound with
  | leaf v => exact .leaf v
  | @dict h es gone named placed below ih =>
    have hin : ∀ e ∈ es, ∀ k ∈ e.2.handles, k ∈ (Node.dict h es).handles := fun e he k hk =>
      List.mem_cons_of_mem _ (mem_handlesOfEntries.mpr ⟨e, he, hk⟩)
    refine .dict (fun i hi => gone i (hgone h (List.mem_cons_self ..) i hi)) named
      (fun s n hn => ?_) fun e he =>
        ih e he (fun k hk => hgone k (hin e he k hk)) fun k hk => hmade k (hin e he k hk)
    have hplaced := placed s n hn
    cases n with
    | leaf v => trivial
    | list c xs => trivial
    | dict c ces =>
      intro hc
      rw [hmade c (hin _ (Entries.mem_of_find? hn) c (List.mem_cons_self ..))] at hc
      exact (hplaced hc).imp_left (hcreated _)
  | @list h xs made gone unmade below ih =>
    have hin : ∀ x ∈ xs, ∀ k ∈ x.handles, k ∈ (Node.list h xs).handles := fun x hx k hk =>
      List.mem_cons_of_mem _ (mem_handlesOfItems.mpr ⟨x, hx, hk⟩)
    have hself := List.mem_cons_self (a := h) (l := handlesOfItems xs)
    refine .list ((hmade h hself).trans made) (fun i hi => gone i (hgone h hself i hi))
      (fun c ces hc => ?_) fun x hx =>
        ih x hx (fun k hk => hgone k (hin x hx k hk)) fun k hk => hmade k (hin x hx k hk)
    rw [hmade c (hin _ hc c (List.mem_cons_self ..))]
    exact unmade c ces hc

/-- No list was made because a key was missing, and of the mappings in sound entries one that was
made is recorded. -/
theorem Sound.unmade_or_placed {h : Nat} {es : List (Value × Node)} (hsound : Sound m (.dict h es))
    {s : String} {n : Node} (hn : Entries.find? (.str s) es = some n) {c : Nat}
    (hc : n.handle? = some c) :
    m.made c = false ∨ ⟨h, s, c⟩ ∈ m.created ∧ Entries.Once s es := by
  cases hsound with
  | dict gone named placed below =>
    cases n with
    | leaf v => cases hc
    | dict k ces =>
      obtain rfl := Option.some.inj hc
      cases hmade : m.made k with
      | false => exact .inl rfl
      | true => exact .inr (placed s _ hn hmade)
    | list k xs =>
      obtain rfl := Option.some.inj hc
      cases below _ (Entries.mem_of_find? hn) with
      | list made gone unmade below => exact .inl made

/-- No element of a sound list was made because a key was missing. -/
theorem Sound.unmade_item {h : Nat} {xs : List Node} (hsound : Sound m (.list h xs)) {x : Node}
    (hx : x ∈ xs) {c : Nat} (hc : x.handle? = some c) : m.made c = false := by
  cases hsound with
  | list made gone unmade below =>
    cases x with
    | leaf v => cases hc
    | dict k ces =>
      obtain rfl := Option.some.inj hc
      exact unmade _ ces hx
    | list k ys =>
      obtain rfl := Option.some.inj hc
      cases below _ hx with
      | list made gone unmade below => exact made

/-! ## Sound containers -/

theorem Sound.closedEntries {h : Nat} (hgone : ∀ i, (h, i) ∉ m.gone) (es : Entries Value) :
    Sound m (.dict h (Node.closedEntries es)) := by
  have hleaf : ∀ e ∈ Node.closedEntries es, ∃ v, e.2 = .leaf v := by
    intro e he
    obtain ⟨d, -, rfl⟩ := List.mem_map.mp he
    exact ⟨d.2, rfl⟩
  refine .dict hgone (.closed es) (fun s n hn => ?_) fun e he => ?_
  · obtain ⟨v, rfl⟩ := hleaf _ (Entries.mem_of_find? hn)
    trivial
  · obtain ⟨v, hv⟩ := hleaf e he
    rw [hv]
    exact .leaf v

theorem Sound.closedItems {h : Nat} (hmade : m.made h = false) (hgone : ∀ i, (h, i) ∉ m.gone)
    (vs : List Value) : Sound m (.list h (vs.map .leaf)) := by
  refine .list hmade (fun i hi => absurd hi (hgone i)) (fun c ces hc => ?_) fun x hx => ?_
  · obtain ⟨v, -, hv⟩ := List.mem_map.mp hc
    cases hv
  · obtain ⟨v, -, rfl⟩ := List.mem_map.mp hx
    exact .leaf v

/-! ## Found elements -/

/-- Positions of elements that the lists in a node have may be recorded. -/
theorem Sound.found {n : Node} (hsound : Sound m n) (hnd : n.handles.Nodup)
    {new : List (Nat × Nat)}
    (hnew : ∀ p ∈ new, ∀ c, n.find? p.1 = some c → ∃ xs, c = .list p.1 xs ∧ p.2 < xs.length) :
    Sound { m with gone := m.gone ++ new } n := by
  induction hsound with
  | leaf v => exact .leaf v
  | @dict h es gone named placed below ih =>
    obtain ⟨hh, hes⟩ := List.nodup_cons.mp hnd
    refine .dict (fun i hi => ?_) named placed fun e he => ?_
    · rcases List.mem_append.mp hi with hi | hi
      · exact gone i hi
      · obtain ⟨xs, heq, -⟩ := hnew _ hi _ (by rw [Node.find?, if_pos rfl])
        cases heq
    · refine ih e he (nodup_of_mem_entries hes he) fun p hp c hc => hnew p hp c ?_
      have hmem := mem_of_find?_eq_some hc
      have hne : h ≠ p.1 := by
        intro heq
        exact hh (heq ▸ mem_handlesOfEntries.mpr ⟨e, he, hmem⟩)
      rw [Node.find?, if_neg hne, findInEntries_of_mem hes he hmem, hc]
  | @list h xs made gone unmade below ih =>
    obtain ⟨hh, hxs⟩ := List.nodup_cons.mp hnd
    refine .list made (fun i hi => ?_) unmade fun x hx => ?_
    · rcases List.mem_append.mp hi with hi | hi
      · exact gone i hi
      · obtain ⟨ys, heq, hlt⟩ := hnew _ hi _ (by rw [Node.find?, if_pos rfl])
        cases heq
        exact hlt
    · refine ih x hx (nodup_of_mem_items hxs hx) fun p hp c hc => hnew p hp c ?_
      have hmem := mem_of_find?_eq_some hc
      have hne : h ≠ p.1 := by
        intro heq
        exact hh (heq ▸ mem_handlesOfItems.mpr ⟨x, hx, hmem⟩)
      rw [Node.find?, if_neg hne, findInItems_of_mem hxs hx hmem, hc]

end Marks

/-! ## Growth -/

section Growth

variable {m : Marks} {hs hs' ks : List Nat} {st st' : WalkState} {n : Node}

theorem recording_self (hcreated : m.created = st.created) : m.recording st.created = m := by
  rw [recording, ← hcreated]

/-- A walk elsewhere leaves the records about old containers as they were. -/
theorem Ready.elsewhere (hready : Ready m ks st) (hgrows : Grows hs st hs' st') :
    Ready (m.recording st'.created) ks st' := by
  have hle := hgrows.next_le
  refine ⟨hready.nodup, fun h hh => Nat.lt_of_lt_of_le (hready.lt h hh) hle,
    fun e he => Nat.lt_of_lt_of_le (hready.gone_lt e he) hle,
    fun e he => Nat.lt_of_lt_of_le (hready.shut_lt e he) hle, rfl, fun c hc => ?_⟩
  obtain ⟨new, hnew, -, hall⟩ := hgrows.created
  rw [show (m.recording st'.created).created = st'.created from rfl, hnew] at hc
  rcases List.mem_append.mp hc with hc | hc
  · exact Nat.lt_of_lt_of_le (hready.child_lt c (hready.created ▸ hc)) hle
  · exact (hall c hc).2.2

theorem Ready.grow (hready : Ready m hs st) (hgrows : Grows hs st hs' st') :
    Ready (m.recording st'.created) hs' st' := by
  have h := hready.elsewhere hgrows
  exact ⟨hgrows.nodup, hgrows.lt hready.lt, h.gone_lt, h.shut_lt, h.created, h.child_lt⟩

/-- The next handle goes to a mapping that is made. -/
theorem Ready.making (hready : Ready m ks st) (h : Nat) (s : String) :
    Ready (m.recording (st.created ++ [⟨h, s, st.next⟩])) [st.next]
      ⟨st.next + 1, st.created ++ [⟨h, s, st.next⟩]⟩ := by
  refine ⟨by simp, by simp, fun e he => Nat.lt_succ_of_lt (hready.gone_lt e he),
    fun e he => Nat.lt_succ_of_lt (hready.shut_lt e he), rfl, fun c hc => ?_⟩
  rcases List.mem_append.mp hc with hc | hc
  · exact Nat.lt_succ_of_lt (hready.child_lt c (hready.created ▸ hc))
  · rw [List.mem_singleton.mp hc]
    exact Nat.lt_succ_self _

theorem Ready.made_old (hready : Ready m ks st) (hgrows : Grows hs st hs' st') {g : Nat}
    (hg : g < st.next) : (m.recording st'.created).made g = m.made g :=
  (Walk.made_eq_of_grows hready hgrows hg).symm

theorem Marks.Sound.elsewhere (hsound : Sound m n) (hready : Ready m ks st)
    (hlt : ∀ h ∈ n.handles, h < st.next) (hgrows : Grows hs st hs' st') :
    Sound (m.recording st'.created) n :=
  hsound.congr (fun _ _ _ hi => hi) (fun h hh => hready.made_old hgrows (hlt h hh))
    (Walk.created_subset_of_grows hready hgrows)

end Growth

namespace Walk

variable {m : Marks} {st st' : WalkState}

/-! ## The steps of a walk -/

/-- What is known of a walk from a place on. -/
structure Sounding (visit : Node → WalkState → Walked) : Prop where
  handle : ∀ n st, (visit n st).node.handle? = n.handle?
  grows : ∀ n st, n.handles.Nodup → (∀ h ∈ n.handles, h < st.next) →
    Grows n.handles st (visit n st).node.handles (visit n st).state
  sound : ∀ m n st, Ready m n.handles st → Sound m n →
    Sound (m.recording (visit n st).state.created) (visit n st).node

/-- What a walk that may enter a node has made of it: it is sound, and it is the container that was
there, or one that was not made because a key was missing. -/
structure Entered (m : Marks) (n : Node) (w : Walked) : Prop where
  sound : Sound (m.recording w.state.created) w.node
  same : w.node.handle? = n.handle? ∨
    ∀ c, w.node.handle? = some c → (m.recording w.state.created).made c = false

theorem entered_self {n : Node} (hready : Ready m n.handles st) (hsound : Sound m n) (ts : List Target) :
    Entered m n ⟨n, ts, st⟩ := by
  refine ⟨?_, .inl rfl⟩
  show Sound (m.recording st.created) n
  rw [recording_self hready.created]
  exact hsound

theorem enter_entered {blocked : Place → Bool} {visit : Place → Node → WalkState → Walked}
    {place : Place} (hvisit : Sounding (visit place)) {n : Node} (hready : Ready m n.handles st)
    (hsound : Sound m n) : Entered m n (enter blocked visit place n st) := by
  -- a container that is opened is new, so that it was not made
  have hopened : ∀ n' : Node, n'.handles = [st.next] → n'.handle? = some st.next → Sound m n' →
      Entered m n (visit place n' { st with next := st.next + 1 }) := by
    intro n' hhandles hhandle hsound'
    have hfresh : Ready m n'.handles { st with next := st.next + 1 } := hhandles ▸ hready.fresh
    have hgrows := hvisit.grows n' _ hfresh.nodup hfresh.lt
    refine ⟨hvisit.sound m n' _ hfresh hsound', .inr fun c hc => ?_⟩
    rw [hvisit.handle, hhandle] at hc
    obtain rfl := Option.some.inj hc
    rw [hfresh.made_old hgrows (Nat.lt_succ_self _)]
    exact hready.made_next
  unfold enter
  split
  · exact entered_self hready hsound []
  · rcases opened_cases st.next n with ⟨hopen, heq⟩ | ⟨v, rfl, -, -, heq⟩ | ⟨_, es, rfl, heq⟩ |
      ⟨v, xs, rfl, -, heq⟩
    · simp only [heq, hopen, if_true]
      exact ⟨hvisit.sound m n st hready hsound, .inl (hvisit.handle n st)⟩
    · simp only [heq, isOpened, Bool.false_eq_true, if_false]
      exact entered_self hready hsound []
    · simp only [heq, isOpened, if_true]
      exact hopened _ (by rw [handles, handlesOfEntries_closed]) rfl
        (.closedEntries hready.gone_next es)
    · simp only [heq, isOpened, if_true]
      exact hopened _ (by rw [handles, handlesOfItems_closed]) rfl
        (.closedItems hready.made_next hready.gone_next xs)

/-- What comes of the elements of a list one after the other is sound, and nothing in it was made
because a key was missing. -/
theorem items_entered {visit : Nat → Node → WalkState → Walked}
    (hgrows : ∀ i n st, n.handles.Nodup → (∀ h ∈ n.handles, h < st.next) →
      Grows n.handles st (visit i n st).node.handles (visit i n st).state)
    (hvisit : ∀ i m n st, Ready m n.handles st → Sound m n → Entered m n (visit i n st))
    (xs : List Node) :
    ∀ (i : Nat) (m : Marks) (st : WalkState), Ready m (handlesOfItems xs) st →
      (∀ x ∈ xs, Sound m x) → (∀ x ∈ xs, ∀ c, x.handle? = some c → m.made c = false) →
      ∀ y ∈ (items visit i xs st).1,
        Sound (m.recording (items visit i xs st).2.2.created) y ∧
          ∀ c, y.handle? = some c →
            (m.recording (items visit i xs st).2.2.created).made c = false := by
  induction xs with
  | nil =>
    intro i m st _ _ _ y hy
    cases hy
  | cons x xs ih =>
    intro i m st hready hsound hunmade y hy
    obtain ⟨hx, hxs, hdisj⟩ := List.nodup_append.mp hready.nodup
    have hreadyx : Ready m x.handles st :=
      hready.of_subset hx fun h hh => List.mem_append_left _ hh
    have hreadyxs : Ready m (handlesOfItems xs) st :=
      hready.of_subset hxs fun h hh => List.mem_append_right _ hh
    have hhead := hvisit i m x st hreadyx (hsound x (List.mem_cons_self ..))
    have hfirst := hgrows i x st hx hreadyx.lt
    have hreadyxs' := hreadyxs.elsewhere hfirst
    have hrest := items_grows hgrows xs (i + 1) (visit i x st).state hxs hreadyxs'.lt
    have hreadyx' := hreadyx.grow hfirst
    rcases List.mem_cons.mp hy with rfl | hy
    · refine ⟨hhead.sound.elsewhere hreadyx' hreadyx'.lt hrest, fun c hc => ?_⟩
      have hlt : c < (visit i x st).state.next := hreadyx'.lt c (mem_of_find?_eq_some (find?_self hc))
      have hold := hreadyx'.made_old hrest hlt
      refine hold.trans ?_
      rcases hhead.same with hsame | hnew
      · have hc' : x.handle? = some c := hsame ▸ hc
        rw [hreadyx.made_old hfirst (hreadyx.lt c (mem_of_find?_eq_some (find?_self hc')))]
        exact hunmade x (List.mem_cons_self ..) c hc'
      · exact hnew c hc
    · refine ih (i + 1) (m.recording (visit i x st).state.created) _ hreadyxs' ?_ ?_ y hy
      · intro z hz
        have hlt : ∀ h ∈ z.handles, h < st.next := fun h hh =>
          hreadyxs.lt h (mem_handlesOfItems.mpr ⟨z, hz, hh⟩)
        exact (hsound z (List.mem_cons_of_mem _ hz)).elsewhere hreadyx hlt hfirst
      · intro z hz c hc
        have hlt : c < st.next :=
          hreadyxs.lt c (mem_handlesOfItems.mpr ⟨z, hz, mem_of_find?_eq_some (find?_self hc)⟩)
        rw [hreadyx.made_old hfirst hlt]
        exact hunmade z (List.mem_cons_of_mem _ hz) c hc

/-- If a child was made because its key was missing, it still stands where it is recorded after it was
entered. -/
theorem Entered.placed {hs hs' : List Nat} {h : Nat} {es : List (Value × Node)} {s : String}
    {child : Node} {w : Walked} (hentered : Entered m child w)
    (hready : Ready m (Node.dict h es).handles st) (hgrows : Grows hs st hs' w.state)
    (hsound : Sound m (.dict h es)) (hfind : Entries.find? (.str s) es = some child) :
    Placed (m.recording w.state.created) h s (Entries.insert (.str s) w.node es) w.node := by
  have hsame := hentered.same
  cases hw : w.node with
  | leaf v => trivial
  | list c ys => trivial
  | dict c ces =>
    intro hmade
    rw [hw] at hsame
    rcases hsame with hsame | hnew
    · have hc : child.handle? = some c := hsame.symm
      have hin := mem_of_find?_eq_some (find?_self hc)
      have hlt : c < st.next := hready.lt c (List.mem_cons_of_mem _
        (mem_handlesOfEntries.mpr ⟨_, Entries.mem_of_find? hfind, hin⟩))
      rcases hsound.unmade_or_placed hfind hc with hunmade | ⟨hrecorded, honce⟩
      · rw [hready.made_old hgrows hlt, hunmade] at hmade
        cases hmade
      · exact ⟨created_subset_of_grows hready hgrows _ hrecorded, honce.insert s _⟩
    · rw [hnew c rfl] at hmade
      cases hmade

/-- Storing what a walk has made of a child, or a mapping that it has made, under its key. -/
theorem insert_sound {hs hs' : List Nat} {h : Nat} {es : List (Value × Node)} {s : String}
    {child : Node} (hready : Ready m (Node.dict h es).handles st) (hgrows : Grows hs st hs' st')
    (hsound : Sound m (.dict h es)) (hchild : Sound (m.recording st'.created) child)
    (hplaced : Placed (m.recording st'.created) h s (Entries.insert (.str s) child es) child) :
    Sound (m.recording st'.created) (.dict h (Entries.insert (.str s) child es)) := by
  have hlt : ∀ e ∈ es, ∀ k ∈ e.2.handles, k < st.next := fun e he k hk =>
    hready.lt k (List.mem_cons_of_mem _ (mem_handlesOfEntries.mpr ⟨e, he, hk⟩))
  cases id hsound with
  | dict gone named placed below =>
    refine .dict gone (named.insert child) (fun t n hn => ?_) fun e he => ?_
    · by_cases hst : s = t
      · subst hst
        rw [Entries.find?_insert_self] at hn
        obtain rfl := Option.some.inj hn
        exact hplaced
      · rw [Entries.find?_insert_ne hst] at hn
        cases n with
        | leaf v => trivial
        | list c xs => trivial
        | dict c ces =>
          intro hmade
          have hc : c < st.next :=
            hlt _ (Entries.mem_of_find? hn) c (List.mem_cons_self ..)
          rw [hready.made_old hgrows hc] at hmade
          obtain ⟨hmem, honce⟩ := placed t _ hn hmade
          exact ⟨created_subset_of_grows hready hgrows _ hmem, honce.insert s child⟩
    · rcases Entries.mem_insert he with rfl | he
      · exact hchild
      · exact (below e he).elsewhere hready (hlt e he) hgrows

/-- Going through a key that is there. -/
theorem found_sound {blocked : Place → Bool} {visit : Place → Node → WalkState → Walked}
    {place : Place} (hvisit : Sounding (visit place)) {h : Nat} {s : String}
    {es : List (Value × Node)} {child : Node} (hready : Ready m (Node.dict h es).handles st)
    (hsound : Sound m (.dict h es)) (hfind : Entries.find? (.str s) es = some child) :
    let w := enter blocked visit place child st
    Sound (m.recording w.state.created) (.dict h (Entries.insert (.str s) w.node es)) := by
  intro w
  obtain ⟨hh, hes⟩ := List.nodup_cons.mp hready.nodup
  have hmem := Entries.mem_of_find? hfind
  have hin : ∀ k ∈ child.handles, k ∈ (Node.dict h es).handles := fun k hk =>
    List.mem_cons_of_mem _ (mem_handlesOfEntries.mpr ⟨_, hmem, hk⟩)
  have hreadyc : Ready m child.handles st :=
    hready.of_subset (nodup_of_mem_entries hes hmem) hin
  have hbelow : Sound m child := by
    cases hsound with
    | dict gone named placed below => exact below _ hmem
  have hentered : Entered m child w := enter_entered hvisit hreadyc hbelow
  have hgrows : Grows child.handles st w.node.handles w.state :=
    enter_grows hreadyc.nodup hreadyc.lt hvisit.grows
  exact insert_sound hready hgrows hsound hentered.sound
    (hentered.placed hready hgrows hsound hfind)

/-- Making a mapping under a missing key and going through it: the mapping gets the next handle, and
is recorded. -/
theorem made_sound {visit : Node → WalkState → Walked} (hvisit : Sounding visit) {h : Nat}
    {s : String} {es : List (Value × Node)} (hready : Ready m (Node.dict h es).handles st)
    (hsound : Sound m (.dict h es)) (hfind : Entries.find? (.str s) es = none) :
    let w := visit (.dict st.next []) ⟨st.next + 1, st.created ++ [⟨h, s, st.next⟩]⟩
    Sound (m.recording w.state.created) (.dict h (Entries.insert (.str s) w.node es)) := by
  let made : Created := ⟨h, s, st.next⟩
  let st₁ : WalkState := ⟨st.next + 1, st.created ++ [made]⟩
  have hlth : h < st.next := hready.lt h (List.mem_cons_self ..)
  have hready₁ : Ready (m.recording st₁.created) [st.next] st₁ := hready.making h s
  have hempty : Sound (m.recording st₁.created) (.dict st.next []) :=
    Sound.closedEntries (m := m.recording st₁.created) hready.gone_next []
  have hgrows₁ := hvisit.grows (.dict st.next []) st₁ hready₁.nodup hready₁.lt
  have hgrows := Grows.fresh_container [made] (by simp) (by simpa [made] using hlth) hgrows₁
  have hhandle := hvisit.handle (.dict st.next []) st₁
  refine insert_sound hready hgrows hsound
    (hvisit.sound (m.recording st₁.created) _ st₁ hready₁ hempty) ?_
  generalize visit (.dict st.next []) st₁ = w at hgrows₁ hhandle ⊢
  cases hw : w.node with
  | leaf v => trivial
  | list c ys => trivial
  | dict c ces =>
    rw [hw] at hhandle
    obtain rfl : c = st.next := Option.some.inj hhandle
    intro _
    have hrecorded : made ∈ st₁.created := List.mem_append_right _ (List.mem_singleton_self _)
    exact ⟨created_subset_of_grows hready₁ hgrows₁ made hrecorded,
      Entries.once_insert_of_find?_eq_none hfind _⟩

/-- Going through the elements of a list. -/
theorem items_sound {visit : Nat → Node → WalkState → Walked}
    (hgrows : ∀ i n st, n.handles.Nodup → (∀ h ∈ n.handles, h < st.next) →
      Grows n.handles st (visit i n st).node.handles (visit i n st).state)
    (hvisit : ∀ i m n st, Ready m n.handles st → Sound m n → Entered m n (visit i n st))
    {h : Nat} {xs : List Node} (hready : Ready m (Node.list h xs).handles st)
    (hsound : Sound m (.list h xs)) :
    let w := items visit 0 xs st
    Sound (m.recording w.2.2.created) (.list h w.1) := by
  intro w
  obtain ⟨hh, hxs⟩ := List.nodup_cons.mp hready.nodup
  have hreadyxs : Ready m (handlesOfItems xs) st :=
    hready.of_subset hxs fun k hk => List.mem_cons_of_mem _ hk
  have hgrown := items_grows hgrows xs 0 st hxs hreadyxs.lt
  have hmade := hready.made_old hgrown (hready.lt h (List.mem_cons_self ..))
  have hunmade := fun x hx c hc => hsound.unmade_item (x := x) hx (c := c) hc
  cases hsound with
  | list made gone unmade below =>
    have hitems := items_entered hgrows hvisit xs 0 m st hreadyxs below hunmade
    refine .list (hmade.trans made) (fun i hi => ?_)
      (fun c ces hc => (hitems _ hc).2 c rfl) fun y hy => (hitems y hy).1
    rw [length_items]
    exact gone i hi

/-! ## Whole walks -/

/-- A walk keeps a tree sound. -/
theorem follow_sounding (blocked : Place → Bool) (last : Segment) (steps : List (Segment × Bool)) :
    ∀ place : Place, Sounding (follow blocked last steps place) := by
  induction steps with
  | nil =>
    intro place
    refine ⟨handle?_follow blocked last [] place, follow_grows blocked last [] place, ?_⟩
    intro m n st hready hsound
    exact (entered_self hready hsound (targets last place n)).sound
  | cons step rest ih =>
    intro place
    refine ⟨handle?_follow blocked last _ place, follow_grows blocked last _ place, ?_⟩
    obtain ⟨segment, ruled⟩ := step
    intro m n st hready hsound
    cases n with
    | leaf v => exact (entered_self hready hsound []).sound
    | dict h es =>
      cases segment with
      | wildcard => exact (entered_self hready hsound []).sound
      | name s =>
        rw [follow]
        cases hfind : Entries.find? (.str s) es with
        | some child => exact found_sound (ih _) hready hsound hfind
        | none =>
          dsimp only
          split
          · exact (entered_self hready hsound []).sound
          · exact made_sound (ih _) hready hsound hfind
    | list h xs =>
      cases segment with
      | name s => exact (entered_self hready hsound []).sound
      | wildcard =>
        exact items_sound (fun i n st hnd hlt => enter_grows hnd hlt (ih _).grows)
          (fun i m n st hready hsound => enter_entered (ih _) hready hsound) hready hsound

theorem follow_sound {blocked : Place → Bool} {last : Segment} {steps : List (Segment × Bool)}
    {place : Place} {n : Node} (hready : Ready m n.handles st) (hsound : Sound m n) :
    Sound (m.recording (follow blocked last steps place n st).state.created)
      (follow blocked last steps place n st).node :=
  (follow_sounding blocked last steps place).sound m n st hready hsound

/-! ## What a walk has found -/

/-- A node holds a target: a way leads to its container, which is a list that has the element if the
target is one. -/
def Holds (n : Node) (x : Target) : Prop :=
  ∃ way c, Leads way n c ∧ c.handle? = some x.container ∧
    ∀ i, x.step = .index i → ∃ xs, c = .list x.container xs ∧ i < xs.length

theorem Holds.up {step : Step} {n c : Node} {x : Target} (h : Holds c x)
    (hchild : n.child? step = some c) : Holds n x := by
  obtain ⟨way, d, hleads, hd, hindex⟩ := h
  exact ⟨step :: way, d, .step hchild (hleads.isOpened (isOpened_of_handle? hd)) hleads, hd, hindex⟩

theorem targets_holds (last : Segment) (place : Place) (n : Node) :
    ∀ x ∈ targets last place n, Holds n x := by
  intro x hx
  cases n with
  | leaf v => cases hx
  | dict h es =>
    cases last with
    | wildcard => cases hx
    | name s =>
      obtain rfl := List.mem_singleton.mp hx
      refine ⟨[], _, .here _, rfl, fun i hi => ?_⟩
      cases hi
  | list h xs =>
    cases last with
    | name s => cases hx
    | wildcard =>
      obtain ⟨⟨c, i⟩, hc, rfl⟩ := List.mem_map.mp hx
      obtain ⟨hlt, -⟩ := List.getElem?_eq_some_iff.mp (List.mem_zipIdx_iff_getElem?.mp hc)
      refine ⟨[], _, .here _, rfl, fun j hj => ⟨xs, rfl, ?_⟩⟩
      cases hj
      exact hlt

/-- An element that a walk has found is one of a list in the tree. -/
theorem follow_holds (blocked : Place → Bool) (last : Segment) (steps : List (Segment × Bool))
    (place : Place) (n : Node) (st : WalkState) :
    ∀ x ∈ (follow blocked last steps place n st).targets,
      Holds (follow blocked last steps place n st).node x :=
  forall_targets blocked (p := fun _ _ => Holds) (targets_holds last)
    (fun _ _ _ _ _ _ hchild hx => hx.up hchild) steps place n st

/-- The position of an element is one of the list that is found by its handle. -/
theorem Holds.element {n : Node} {x : Target} (h : Holds n x) (hnd : n.handles.Nodup) {i : Nat}
    (hi : x.step = .index i) {c : Node} (hc : n.find? x.container = some c) :
    ∃ xs, c = .list x.container xs ∧ i < xs.length := by
  obtain ⟨way, d, hleads, hd, hindex⟩ := h
  obtain rfl : d = c := Option.some.inj ((hleads.find? hnd hd).symm.trans hc)
  exact hindex i hi

end Walk

end ArgumentSchema
