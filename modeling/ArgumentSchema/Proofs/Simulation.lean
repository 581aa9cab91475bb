import ArgumentSchema.Proofs.Shows

/-!
# A walk and its targets, seen as a visit of a draft

> `Walk.follow_shows`: after a walk and the deeds at its targets the tree stands for the visited
> draft, the visits are those of the draft, and tree and records still fit.

The induction is on the path. It carries the records from one part of the tree to the next: what a
part stands for depends only on the records about its own handles, and the parts share none.
-/

namespace ArgumentSchema

open Marks Node

namespace Walk

variable {judge : Judge} {r : Rule} {m : Marks} {st : WalkState} {place : Place}

/-! ## Records and growth -/

theorem made_eq_of_grows {hs ks ks' : List Nat} {st' : WalkState} (hready : Ready m hs st)
    (hgrows : Grows ks st ks' st') {g : Nat} (hg : g < st.next) :
    (m.created.any fun c => c.child == g) = st'.created.any fun c => c.child == g := by
  obtain ⟨new, hnew, -, hall⟩ := hgrows.created
  have hnone : (new.any fun c => c.child == g) = false := by
    rw [List.any_eq_false]
    intro c hc
    have := (hall c hc).2.1
    simp only [beq_iff_eq]
    omega
  rw [hnew, List.any_append, hnone, Bool.or_false, hready.created]

/-- A walk elsewhere and its targets do not change the records about an old container. -/
theorem agreesAt_elsewhere {hs ks ks' : List Nat} {st' : WalkState} {ts : List Target}
    (hready : Ready m hs st) (hgrows : Grows ks st ks' st') {g : Nat} (hg : g < st.next)
    (hts : ∀ x ∈ ts, x.container ≠ g) : AgreesAt m (m.after judge r ts st'.created) g :=
  agreesAt_after hts (made_eq_of_grows hready hgrows hg)

theorem created_subset_of_grows {hs ks ks' : List Nat} {st' : WalkState} (hready : Ready m hs st)
    (hgrows : Grows ks st ks' st') : ∀ c ∈ m.created, c ∈ st'.created := by
  obtain ⟨new, hnew, -, -⟩ := hgrows.created
  intro c hc
  rw [hready.created] at hc
  rw [hnew]
  exact List.mem_append_left _ hc

/-- Targets below other steps block nothing at or below a step. -/
theorem blocked_elsewhere {ts : List Target} {created : List Created} {step : Step}
    (hts : ∀ x ∈ ts, ∃ step', step' ≠ step ∧ place ++ [step'] <+: x.place) :
    ∀ q, place ++ [step] <+: q → (q ∈ m.blocked ↔ q ∈ (m.after judge r ts created).blocked) := by
  intro q hq
  rw [mem_after_blocked]
  refine (or_iff_left ?_).symm
  rintro ⟨x, hx, rfl, -⟩
  obtain ⟨step', hne, hpre⟩ := hts x hx
  have heq := (List.prefix_of_prefix_length_le hpre hq (by simp)).eq_of_length (by simp)
  have hstep := List.append_cancel_left heq
  simp only [List.cons.injEq, and_true] at hstep
  exact hne hstep

theorem Within.below {segments : List Segment} {hs : List Nat} {x : Target}
    (h : Within segments place hs x) : place <+: x.place := by
  obtain ⟨-, way, hplace, -⟩ := h
  exact ⟨way, hplace.symm⟩

theorem Within.place_ne {segments : List Segment} {hs : List Nat} {x : Target}
    (h : Within segments place hs x) (hne : segments ≠ []) : x.place ≠ place := by
  obtain ⟨-, way, hplace, rfl⟩ := h
  intro heq
  rw [hplace] at heq
  rw [List.append_right_eq_self.mp heq] at hne
  exact hne rfl

/-- Targets strictly below a place do not block it. -/
theorem blocked_self {ts : List Target} {created : List Created} {segments : List Segment}
    {hs : List Nat} (hne : segments ≠ []) (hts : ∀ x ∈ ts, Within segments place hs x) :
    place ∈ m.blocked ↔ place ∈ (m.after judge r ts created).blocked := by
  rw [mem_after_blocked]
  refine (or_iff_left ?_).symm
  rintro ⟨x, hx, heq, -⟩
  exact (hts x hx).place_ne hne heq

/-! ## Through a key -/

theorem mapValues_view_insert {m' : Marks} {s : String} {n : Node} (es : List (Value × Node))
    (hnd : (handlesOfEntries (Entries.insert (.str s) n es)).Nodup)
    (hagree : ∀ g ∈ handlesOfEntries es, g ∉ n.handles → AgreesAt m m' g) :
    Entries.mapValues (view m') (Entries.insert (.str s) n es) =
      Entries.insert (.str s) (view m' n) (Entries.mapValues (view m) es) := by
  induction es with
  | nil => rfl
  | cons e es ih =>
    obtain ⟨key, d⟩ := e
    by_cases hkey : key = .str s
    · subst hkey
      rw [Entries.insert_cons_self, handlesOfEntries] at hnd
      obtain ⟨-, -, hdisj⟩ := List.nodup_append.mp hnd
      have hrest : Entries.mapValues (view m') es = Entries.mapValues (view m) es := by
        refine List.map_congr_left fun e he => ?_
        have hview : view m e.2 = view m' e.2 := by
          refine view_congr fun g hg => ?_
          have hmem := mem_handlesOfEntries.mpr ⟨e, he, hg⟩
          exact hagree g (List.mem_append_right _ hmem) fun hn => hdisj g hn g hmem rfl
        rw [hview]
      rw [Entries.insert_cons_self]
      simp only [Entries.mapValues, List.map_cons] at hrest ⊢
      rw [Entries.insert_cons_self, hrest]
    · rw [Entries.insert_cons_ne hkey, handlesOfEntries] at hnd
      obtain ⟨-, hes, hdisj⟩ := List.nodup_append.mp hnd
      have hself : ∀ g ∈ n.handles, g ∈ handlesOfEntries (Entries.insert (.str s) n es) :=
        fun g hg => mem_handlesOfEntries.mpr
          ⟨_, Entries.mem_of_find? (Entries.find?_insert_self s n es), hg⟩
      have hd : view m' d = view m d := by
        refine (view_congr fun g hg => ?_).symm
        exact hagree g (List.mem_append_left _ hg) fun hn => hdisj g hg g (hself g hn) rfl
      have ih := ih hes fun g hg => hagree g (List.mem_append_right _ hg)
      rw [Entries.insert_cons_ne hkey]
      simp only [Entries.mapValues, List.map_cons] at ih ⊢
      rw [Entries.insert_cons_ne hkey, ih, hd]

section Insert

variable {m' : Marks} {k h : Nat} {s : String} {es : List (Value × Node)} {n : Node}

/-- What stands under another key is placed as before. -/
theorem placed_insert {t : String} {n' : Node} (hcreated : ∀ c ∈ m.created, c ∈ m'.created)
    (hagree : ∀ g ∈ n.handles, AgreesAt m m' g) (hplaced : Placed m h t es n) :
    Placed m' h t (Entries.insert (.str s) n' es) n := by
  cases n with
  | dict c ces =>
    intro hmade
    rw [← (hagree c (List.mem_cons_self ..)).made] at hmade
    exact ⟨hcreated _ (hplaced hmade).1, (hplaced hmade).2.insert s _⟩
  | leaf v => trivial
  | list c xs => trivial

/-- A mapping fits with what was put under a key of it, if the records have changed below the key
only. -/
theorem fits_insert (hfits : Fits m (k + 1) place (.dict h es))
    (hcreated : ∀ c ∈ m.created, c ∈ m'.created) (hself : AgreesAt m m' h)
    (hclear : ∀ t, s ≠ t → ∀ q, place ++ [Step.key t] <+: q → (q ∈ m.blocked ↔ q ∈ m'.blocked))
    (hagree : ∀ t d, s ≠ t → Entries.find? (.str t) es = some d →
      ∀ g ∈ d.handles, AgreesAt m m' g)
    (hfree : place ++ [Step.key s] ∉ m'.blocked)
    (hplaced : Placed m' h s (Entries.insert (.str s) n es) n)
    (hchild : Fits m' k (place ++ [Step.key s]) n) :
    Fits m' (k + 1) place (.dict h (Entries.insert (.str s) n es)) := by
  obtain ⟨hgone, hnamed, hnone, hsome⟩ := hfits
  refine ⟨fun i hi => hgone i ((hself.gone i).mpr hi), hnamed.insert _, fun t ht => ?_,
    fun t d hd => ?_⟩
  · have hst : s ≠ t := by
      rintro rfl
      rw [Entries.find?_insert_self] at ht
      cases ht
    rw [Entries.find?_insert_ne hst] at ht
    exact (hnone t ht).congr (hclear t hst)
  · by_cases hst : s = t
    · subst hst
      rw [Entries.find?_insert_self] at hd
      obtain rfl := Option.some.inj hd
      exact ⟨hfree, hplaced, hchild⟩
    · rw [Entries.find?_insert_ne hst] at hd
      obtain ⟨hfree', hplaced', hfits'⟩ := hsome t d hd
      have hd' := hagree t d hst hd
      exact ⟨fun hb => hfree' ((hclear t hst _ (List.prefix_refl _)).mpr hb),
        placed_insert hcreated hd' hplaced', hfits'.congr hcreated (hclear t hst) hd'⟩

/-- What a target meets under a key it meets in the mapping. -/
theorem aims_insert {x : Target} (hes : (handlesOfEntries (Entries.insert (.str s) n es)).Nodup)
    (hself : h ∉ n.handles) (hmem : x.container ∈ n.handles) (haim : Aims x.container x.step n) :
    Aims x.container x.step (.dict h (Entries.insert (.str s) n es)) := by
  obtain ⟨c, hc, hmeets⟩ := haim
  have hne : h ≠ x.container := by
    rintro rfl
    exact hself hmem
  refine ⟨c, ?_, hmeets⟩
  rw [find?, if_neg hne, findInEntries_of_mem hes
    (Entries.mem_of_find? (Entries.find?_insert_self s n es)) hmem, hc]

end Insert

/-- A walk below a key, in a container that stands there or was made there. -/
theorem insert_shows (made : List Created) (segments : List Segment) {k h : Nat} {s : String}
    {es : List (Value × Node)} {w : Walked} {d : Draft × List Visit}
    (hready : Ready m (Node.dict h es).handles st) (hfits : Fits m (k + 2) place (.dict h es))
    (hgrows : Grows ((Entries.find? (.str s) es).elim [] handles) st w.node.handles w.state)
    (hne : segments ≠ [])
    (hwithin : ∀ x ∈ w.targets, Within segments (place ++ [Step.key s]) w.node.handles x)
    (hshows : Shows judge r { m with created := made } (k + 1) (place ++ [Step.key s]) w d)
    (hfree : place ++ [Step.key s] ∉ m.blocked)
    (hplaced : Placed (m.after judge r w.targets w.state.created) h s
      (Entries.insert (.str s) (act judge r w.targets w.node) es) (act judge r w.targets w.node)) :
    Shows judge r m (k + 2) place ⟨.dict h (Entries.insert (.str s) w.node es), w.targets, w.state⟩
      (.dict (m.made h) (Entries.insert (.str s) d.1 (Entries.mapValues (view m) es)), d.2) := by
  obtain ⟨hview, hlog, hchild, haims⟩ := hshows
  obtain ⟨hh, hes⟩ := List.nodup_cons.mp hready.nodup
  have hlt : ∀ g ∈ handlesOfEntries es, g < st.next :=
    fun g hg => hready.lt g (List.mem_cons_of_mem _ hg)
  have hlth : h < st.next := hready.lt h (List.mem_cons_self ..)
  have hnd : (Node.dict h (Entries.insert (.str s) w.node es)).handles.Nodup :=
    (Grows.cons hh hlth (insert_grows hes hlt hgrows)).nodup
  obtain ⟨hh', hes'⟩ := List.nodup_cons.mp hnd
  let m' := m.after judge r w.targets w.state.created
  have hhandles : (act judge r w.targets w.node).handles = w.node.handles :=
    handles_act hgrows.nodup haims
  have hact : act judge r w.targets (.dict h (Entries.insert (.str s) w.node es)) =
      .dict h (Entries.insert (.str s) (act judge r w.targets w.node) es) :=
    act_dict hnd hgrows.nodup (fun x hx => (hwithin x hx).1) haims
  have hagree : ∀ g, g < st.next → g ∉ w.node.handles → AgreesAt m m' g := by
    intro g hg hg'
    refine agreesAt_elsewhere hready hgrows hg fun x hx heq => hg' ?_
    exact heq ▸ (hwithin x hx).1
  have hfind := Entries.find?_insert_self s w.node es
  have hself : h ∉ w.node.handles := fun hg =>
    hh' (mem_handlesOfEntries.mpr ⟨_, Entries.mem_of_find? hfind, hg⟩)
  refine ⟨?_, hlog, ?_, fun x hx => aims_insert hes' hself (hwithin x hx).1 (haims x hx)⟩
  · show view m' (act judge r w.targets (.dict h (Entries.insert (.str s) w.node es))) = _
    rw [hact, view_dict, mapValues_view_insert es]
    · rw [(hagree h hlth hself).made]
      exact congrArg (fun c => Draft.dict _ (Entries.insert _ c _)) hview
    · rw [handlesOfEntries_insert_congr hhandles]
      exact hes'
    · intro g hg hg'
      rw [hhandles] at hg'
      exact hagree g (hlt g hg) hg'
  · show Fits m' (k + 2) place (act judge r w.targets (.dict h (Entries.insert (.str s) w.node es)))
    rw [hact]
    refine fits_insert hfits (created_subset_of_grows hready hgrows) (hagree h hlth hself) ?_ ?_
      (fun hb => hfree ((blocked_self hne hwithin).mpr hb)) hplaced hchild
    -- under the other keys nothing has been blocked, and nothing else has been recorded
    · intro t hst
      exact blocked_elsewhere fun x hx => ⟨.key s, by simpa using hst, (hwithin x hx).below⟩
    · intro t n hst hn g hg
      refine hagree g (hlt g (mem_handlesOfEntries.mpr ⟨_, Entries.mem_of_find? hn, hg⟩)) ?_
      intro hg'
      exact disjoint_of_find? hst hes' hfind (by rw [Entries.find?_insert_ne hst, hn]) g hg' hg

/-! ## Through the elements of a list -/

/-- An element stands at a position of a list in a tree with these records. -/
def ItemFits (m : Marks) (k h : Nat) (place : Place) (i : Nat) (n : Node) : Prop :=
  (place ++ [.index i] ∈ m.blocked ↔ (h, i) ∈ m.shut) ∧
    (∀ c ces, n = .dict c ces → m.made c = false) ∧ Fits m k (place ++ [.index i]) n

/-- An element as the records show it. -/
def viewItem (m : Marks) (h i : Nat) (n : Node) : Bool × Draft :=
  (!m.gone.contains (h, i), if m.shut.contains (h, i) then .leaf .absent else view m n)

/-- Records that agree with others about one element of a list: about the containers in it, about
its position, and about the places at or below it. -/
structure AgreesOn (m m' : Marks) (h : Nat) (place : Place) (i : Nat) (hs : List Nat) : Prop where
  created : ∀ c ∈ m.created, c ∈ m'.created
  blocked : ∀ q, place ++ [.index i] <+: q → (q ∈ m.blocked ↔ q ∈ m'.blocked)
  gone : (h, i) ∈ m.gone ↔ (h, i) ∈ m'.gone
  shut : (h, i) ∈ m.shut ↔ (h, i) ∈ m'.shut
  inside : ∀ g ∈ hs, AgreesAt m m' g

theorem viewItem_congr {m m' : Marks} {h i : Nat} {n : Node}
    (ha : AgreesOn m m' h place i n.handles) : viewItem m h i n = viewItem m' h i n := by
  have hgone : m.gone.contains (h, i) = m'.gone.contains (h, i) := by
    rw [Bool.eq_iff_iff, List.contains_iff_mem, List.contains_iff_mem]
    exact ha.gone
  have hshut : m.shut.contains (h, i) = m'.shut.contains (h, i) := by
    rw [Bool.eq_iff_iff, List.contains_iff_mem, List.contains_iff_mem]
    exact ha.shut
  rw [viewItem, viewItem, hgone, hshut, view_congr ha.inside]

theorem ItemFits.congr {m m' : Marks} {k h i : Nat} {n : Node}
    (ha : AgreesOn m m' h place i n.handles) (hfits : ItemFits m k h place i n) :
    ItemFits m' k h place i n := by
  obtain ⟨hblocked, hmade, hfits⟩ := hfits
  refine ⟨?_, ?_, hfits.congr ha.created ha.blocked ha.inside⟩
  · rw [← ha.blocked _ (List.prefix_refl _), hblocked, ha.shut]
  · rintro c ces rfl
    rw [← (ha.inside c (List.mem_cons_self ..)).made]
    exact hmade c ces rfl

theorem isMade_view {m : Marks} {n : Node} {k h i : Nat} (hfits : ItemFits m k h place i n) :
    (view m n).isMade = false := by
  cases n with
  | leaf v => rfl
  | dict c ces => exact hfits.2.1 c ces rfl
  | list c xs => rfl

/-- What a walk into one element and the deeds at its targets come to. -/
structure ItemShows (judge : Judge) (r : Rule) (m : Marks) (k h : Nat) (place : Place) (i : Nat)
    (w : Walked) (d : (Bool × Draft) × List Visit) : Prop where
  view : viewItem (m.after judge r w.targets w.state.created) h i (act judge r w.targets w.node) =
    d.1
  log : w.targets.map (Target.visit judge r) = d.2
  fits : ItemFits (m.after judge r w.targets w.state.created) k h place i
    (act judge r w.targets w.node)
  aims : ∀ x ∈ w.targets, Aims x.container x.step w.node

section Item

variable {k h i : Nat} {n : Node} {dvisit : Draft → Draft × List Visit}

/-- An element whose place is blocked was shut by an earlier rule, and is passed over. -/
theorem item_shows_blocked (hcreated : m.created = st.created) (hitem : ItemFits m k h place i n)
    (hb : place ++ [Step.index i] ∈ m.blocked) :
    ItemShows judge r m k h place i ⟨n, [], st⟩ (Draft.throughItem dvisit (viewItem m h i n)) := by
  have hshut : m.shut.contains (h, i) = true := by
    rw [List.contains_iff_mem]
    exact hitem.1.mp hb
  have hd : Draft.throughItem dvisit (viewItem m h i n) = (viewItem m h i n, []) := by
    rw [viewItem, hshut, if_pos rfl]
    rfl
  rw [hd]
  refine ⟨?_, rfl, ?_, by simp⟩
  · rw [after_nil hcreated]
    rfl
  · rw [after_nil hcreated]
    exact hitem

/-- A walk into an element leaves the records about the element itself: no target is the element. -/
theorem item_shows_free {segments : List Segment} {w : Walked} (hitem : ItemFits m k h place i n)
    (hne : segments ≠ [])
    (hwithin : ∀ x ∈ w.targets, Within segments (place ++ [Step.index i]) w.node.handles x)
    (hself : h ∉ w.node.handles) (hdvisit : ∀ d, (dvisit d).1.isMade = d.isMade)
    (hfree : place ++ [Step.index i] ∉ m.blocked)
    (hshows : Shows judge r m k (place ++ [Step.index i]) w (Draft.enter dvisit (view m n))) :
    ItemShows judge r m k h place i w (Draft.throughItem dvisit (viewItem m h i n)) := by
  obtain ⟨hview, hlog, hfits, haims⟩ := hshows
  have hts : ∀ x ∈ w.targets, x.container ≠ h := by
    rintro x hx rfl
    exact hself (hwithin x hx).1
  have hgone : (m.after judge r w.targets w.state.created).gone.contains (h, i) =
      m.gone.contains (h, i) := by
    rw [Bool.eq_iff_iff, List.contains_iff_mem, List.contains_iff_mem, mem_after_gone]
    exact or_iff_left fun ⟨x, hx, hh, _⟩ => hts x hx hh
  have hopen : (h, i) ∉ m.shut := fun hs => hfree (hitem.1.mpr hs)
  have hopen' : (h, i) ∉ (m.after judge r w.targets w.state.created).shut := by
    rw [mem_after_shut]
    rintro (hs | ⟨x, hx, hh, -⟩)
    · exact hopen hs
    · exact hts x hx hh
  have hd : Draft.throughItem dvisit (viewItem m h i n) =
      ((!m.gone.contains (h, i), (Draft.enter dvisit (view m n)).1),
        (Draft.enter dvisit (view m n)).2) := by
    rw [viewItem, if_neg (mt List.contains_iff_mem.mp hopen)]
    rfl
  rw [hd]
  refine ⟨?_, hlog, ⟨?_, ?_, hfits⟩, haims⟩
  · rw [viewItem, hgone, if_neg (mt List.contains_iff_mem.mp hopen'), hview]
  · rw [← blocked_self hne hwithin]
    exact ⟨fun h => absurd h hfree, fun h => absurd h hopen'⟩
  · intro c ces hc
    have hmade : (view (m.after judge r w.targets w.state.created)
        (act judge r w.targets w.node)).isMade = false := by
      rw [hview, Draft.isMade_enter hdvisit, isMade_view hitem]
    rw [hc] at hmade
    exact hmade

end Item

/-- A walk elsewhere and its targets do not change the records about an element. -/
theorem agreesOn_elsewhere {hs ks ks' gs : List Nat} {st' : WalkState} {ts : List Target} {h i : Nat}
    (hready : Ready m hs st) (hgrows : Grows ks st ks' st') (hlt : ∀ g ∈ gs, g < st.next)
    (hself : ∀ x ∈ ts, x.container ≠ h) (hts : ∀ x ∈ ts, x.container ∉ gs)
    (hplace : ∀ x ∈ ts, ∃ j, j ≠ i ∧ place ++ [Step.index j] <+: x.place) :
    AgreesOn m (m.after judge r ts st'.created) h place i gs := by
  refine ⟨created_subset_of_grows hready hgrows, ?_, ?_, ?_, ?_⟩
  · refine blocked_elsewhere fun x hx => ?_
    obtain ⟨j, hj, hpre⟩ := hplace x hx
    exact ⟨.index j, by simpa using hj, hpre⟩
  · rw [mem_after_gone]
    exact (or_iff_left fun ⟨x, hx, hh, _⟩ => hself x hx hh).symm
  · rw [mem_after_shut]
    exact (or_iff_left fun ⟨x, hx, hh, _⟩ => hself x hx hh).symm
  · intro g hg
    exact agreesAt_elsewhere hready hgrows (hlt g hg) fun x hx heq => hts x hx (heq ▸ hg)

theorem viewItems_congr_of_agreesOn {m m' : Marks} {h : Nat} {xs : List Node} :
    ∀ i, (∀ j n, xs[j]? = some n → AgreesOn m m' h place (i + j) n.handles) →
      viewItems m h i xs = viewItems m' h i xs := by
  induction xs with
  | nil =>
    intro i _
    rfl
  | cons x xs ih =>
    intro i ha
    obtain ⟨hx, hxs⟩ :=
      (forall_getElem?_cons fun j (n : Node) => AgreesOn m m' h place j n.handles).mp ha
    exact congrArg₂ List.cons (viewItem_congr hx) (ih (i + 1) hxs)

/-- What a walk through elements and the deeds at its targets come to. -/
structure ItemsShow (judge : Judge) (r : Rule) (m : Marks) (k h : Nat) (place : Place) (i : Nat)
    (w : List Node × List Target × WalkState) (d : List (Bool × Draft) × List Visit) : Prop where
  view : viewItems (m.after judge r w.2.1 w.2.2.created) h i (actItems judge r w.2.1 w.1) = d.1
  log : w.2.1.map (Target.visit judge r) = d.2
  fits : ∀ j n, (actItems judge r w.2.1 w.1)[j]? = some n →
    ItemFits (m.after judge r w.2.1 w.2.2.created) k h place (i + j) n
  aims : ∀ x ∈ w.2.1, ∃ n ∈ w.1, x.container ∈ n.handles ∧ Aims x.container x.step n
  below : ∀ x ∈ w.2.1, ∃ j, i ≤ j ∧ place ++ [.index j] <+: x.place

theorem after_append (ts ts' : List Target) (created created' : List Created) :
    (m.after judge r ts created).after judge r ts' created' =
      m.after judge r (ts ++ ts') created' := by
  simp [after, positions, List.filterMap_append]

theorem length_actItems (ts : List Target) :
    ∀ ns : List Node, (actItems judge r ts ns).length = ns.length := by
  induction ts with
  | nil =>
    intro ns
    rfl
  | cons x ts ih =>
    intro ns
    rw [actItems, List.foldl_cons, modifyItems_eq]
    exact (ih _).trans (List.length_map _)

/-- What is known of a walk into single elements: it comes to visits of their drafts where the
records are good, and records that agree below an element are as good. -/
structure Entering (judge : Judge) (r : Rule) (k : Nat) (place : Place) (segments : List Segment)
    (visit : Nat → Node → WalkState → Walked) (dvisit : Nat → Draft → Draft × List Visit)
    (good : Nat → Marks → Prop) : Prop where
  further : segments ≠ []
  made : ∀ i d, (dvisit i d).1.isMade = d.isMade
  grows : ∀ i n st, n.handles.Nodup → (∀ g ∈ n.handles, g < st.next) →
    Grows n.handles st (visit i n st).node.handles (visit i n st).state
  within : ∀ i n st, ∀ x ∈ (visit i n st).targets,
    Within segments (place ++ [.index i]) (visit i n st).node.handles x
  congr : ∀ i m m', (∀ q, place ++ [.index i] <+: q → (q ∈ m.blocked ↔ q ∈ m'.blocked)) →
    good i m → good i m'
  blocked : ∀ i m n st, good i m → place ++ [.index i] ∈ m.blocked → visit i n st = ⟨n, [], st⟩
  shows : ∀ i m n st, good i m → Ready m n.handles st → Fits m k (place ++ [.index i]) n →
    place ++ [.index i] ∉ m.blocked →
    Shows judge r m k (place ++ [.index i]) (visit i n st) (Draft.enter (dvisit i) (view m n))

/-- A walk into the first of some elements of a list, seen from outside: it reaches neither the list
nor the other elements. -/
structure Apart (h : Nat) (n : Node) (xs : List Node) (st : WalkState) (w : Walked) : Prop where
  grows : Grows n.handles st w.node.handles w.state
  list : h ∉ w.node.handles
  others : ∀ g ∈ handlesOfItems xs, g ∉ w.node.handles

namespace Apart

variable {h : Nat} {n : Node} {xs : List Node} {w : Walked}

theorem of_grows (hready : Ready m (h :: handlesOfItems (n :: xs)) st)
    (hgrows : Grows n.handles st w.node.handles w.state) : Apart h n xs st w := by
  obtain ⟨hh, hall⟩ := List.nodup_cons.mp hready.nodup
  obtain ⟨-, -, hdisj⟩ := List.nodup_append.mp hall
  refine ⟨hgrows, hgrows.not_mem (hready.lt h (List.mem_cons_self ..)) fun hg => ?_, fun g hg => ?_⟩
  · exact hh (List.mem_append_left _ hg)
  · exact hgrows.not_mem (hready.lt g (List.mem_cons_of_mem _ (List.mem_append_right _ hg)))
      fun hg' => hdisj g hg' g hg rfl

/-- The records are ready for the walk through the other elements. -/
theorem ready (hw : Apart h n xs st w) (hready : Ready m (h :: handlesOfItems (n :: xs)) st)
    (hts : ∀ x ∈ w.targets, x.container ∈ w.node.handles) :
    Ready (m.after judge r w.targets w.state.created) (h :: handlesOfItems xs) w.state := by
  obtain ⟨hh, hall⟩ := List.nodup_cons.mp hready.nodup
  obtain ⟨-, hxs, hdisj⟩ := List.nodup_append.mp hall
  have hlt : ∀ g ∈ n.handles ++ handlesOfItems xs, g < st.next :=
    fun g hg => hready.lt g (List.mem_cons_of_mem _ hg)
  have hgrown : Grows (h :: (n.handles ++ handlesOfItems xs)) st
      (h :: (w.node.handles ++ handlesOfItems xs)) w.state :=
    Grows.cons hh (hready.lt h (List.mem_cons_self ..))
      (Grows.append (fun g hg => hlt g (List.mem_append_right _ hg))
        (fun g hg hg' => hdisj g hg g hg' rfl) (fun g hg => hlt g (List.mem_append_left _ hg))
        hw.grows (Grows.refl hxs w.state))
  refine (hready.after hgrown fun x hx => ?_).of_subset
    (List.nodup_cons.mpr ⟨fun hg => hh (List.mem_append_right _ hg), hxs⟩) fun g hg => ?_
  · exact List.mem_cons_of_mem _ (List.mem_append_left _ (hts x hx))
  · rcases List.mem_cons.mp hg with rfl | hg
    · exact List.mem_cons_self ..
    · exact List.mem_cons_of_mem _ (List.mem_append_right _ hg)

/-- The records about the other elements are as before. -/
theorem agreesOn (hw : Apart h n xs st w) (hready : Ready m (h :: handlesOfItems (n :: xs)) st)
    {segments : List Segment} {i : Nat}
    (hwithin : ∀ x ∈ w.targets, Within segments (place ++ [Step.index i]) w.node.handles x)
    (j : Nat) (y : Node) (hy : xs[j]? = some y) :
    AgreesOn m (m.after judge r w.targets w.state.created) h place (i + 1 + j) y.handles := by
  have hsub : ∀ g ∈ y.handles, g ∈ handlesOfItems xs :=
    fun g hg => mem_handlesOfItems.mpr ⟨y, List.mem_of_getElem? hy, hg⟩
  refine agreesOn_elsewhere hready hw.grows ?_ ?_ ?_ ?_
  · exact fun g hg => hready.lt g (List.mem_cons_of_mem _ (List.mem_append_right _ (hsub g hg)))
  · rintro x hx rfl
    exact hw.list (hwithin x hx).1
  · exact fun x hx hg => hw.others _ (hsub _ hg) (hwithin x hx).1
  · exact fun x hx => ⟨i, by omega, (hwithin x hx).below⟩

/-- The walk through the other elements reaches neither the list nor the first element. -/
theorem rest (hw : Apart h n xs st w) (hready : Ready m (h :: handlesOfItems (n :: xs)) st)
    {ks : List Nat} {st' : WalkState} (hgrows : Grows (handlesOfItems xs) w.state ks st') :
    h ∉ ks ∧ ∀ g ∈ w.node.handles, g ∉ ks := by
  have hlt : h < w.state.next :=
    Nat.lt_of_lt_of_le (hready.lt h (List.mem_cons_self ..)) hw.grows.next_le
  have hnew := hw.grows.lt fun g hg =>
    hready.lt g (List.mem_cons_of_mem _ (List.mem_append_left _ hg))
  refine ⟨hgrows.not_mem hlt fun hg => ?_, fun g hg => ?_⟩
  · exact (List.nodup_cons.mp hready.nodup).1 (List.mem_append_right _ hg)
  · exact hgrows.not_mem (hnew g hg) fun hg' => hw.others g hg' hg

end Apart

namespace ItemsShow

variable {k h i : Nat} {w : Walked} {ws : List Node × List Target × WalkState}
  {d : (Bool × Draft) × List Visit} {ds : List (Bool × Draft) × List Visit}

/-- A walk into the first element, and then one through the others that reaches neither the list nor
the first element. -/
theorem cons {segments : List Segment} (hitem : ItemShows judge r m k h place i w d)
    (hitems : ItemsShow judge r (m.after judge r w.targets w.state.created) k h place (i + 1) ws ds)
    (hnd : w.node.handles.Nodup)
    (hwithin : ∀ x ∈ w.targets, Within segments (place ++ [Step.index i]) w.node.handles x)
    (hhead : ∀ g ∈ w.node.handles, g ∉ handlesOfItems ws.1)
    (hfirst : AgreesOn (m.after judge r w.targets w.state.created)
      (m.after judge r (w.targets ++ ws.2.1) ws.2.2.created) h place i w.node.handles) :
    ItemsShow judge r m k h place i (w.node :: ws.1, w.targets ++ ws.2.1, ws.2.2)
      (d.1 :: ds.1, d.2 ++ ds.2) := by
  have hhandles : (act judge r w.targets w.node).handles = w.node.handles :=
    handles_act hnd hitem.aims
  have hlast : ∀ x ∈ ws.2.1, x.container ∉ w.node.handles := by
    intro x hx hg
    obtain ⟨y, hy, hmem, -⟩ := hitems.aims x hx
    exact hhead _ hg (mem_handlesOfItems.mpr ⟨y, hy, hmem⟩)
  have hact : actItems judge r (w.targets ++ ws.2.1) (w.node :: ws.1) =
      act judge r w.targets w.node :: actItems judge r ws.2.1 ws.1 := by
    rw [actItems_append, actItems_head fun x hx => hhead _ (hwithin x hx).1, actItems_tail]
    rwa [hhandles]
  have hafter : (m.after judge r w.targets w.state.created).after judge r ws.2.1 ws.2.2.created =
      m.after judge r (w.targets ++ ws.2.1) ws.2.2.created := after_append ..
  rw [← hhandles] at hfirst
  refine ⟨?_, ?_, ?_, ?_, ?_⟩
  · show viewItems (m.after judge r (w.targets ++ ws.2.1) ws.2.2.created) h i
      (actItems judge r (w.targets ++ ws.2.1) (w.node :: ws.1)) = _
    rw [hact]
    refine congrArg₂ List.cons ((viewItem_congr hfirst).symm.trans hitem.view) ?_
    rw [← hafter]
    exact hitems.view
  · show (w.targets ++ ws.2.1).map (Target.visit judge r) = d.2 ++ ds.2
    rw [List.map_append, hitem.log, hitems.log]
  · show ∀ j y, (actItems judge r (w.targets ++ ws.2.1) (w.node :: ws.1))[j]? = some y →
      ItemFits (m.after judge r (w.targets ++ ws.2.1) ws.2.2.created) k h place (i + j) y
    rw [hact]
    refine (forall_getElem?_cons (ItemFits _ k h place)).mpr ⟨ItemFits.congr hfirst hitem.fits, ?_⟩
    rw [← hafter]
    exact hitems.fits
  · intro x hx
    rcases List.mem_append.mp hx with hx | hx
    · exact ⟨w.node, List.mem_cons_self .., (hwithin x hx).1, hitem.aims x hx⟩
    · obtain ⟨y, hy, hmem, haim⟩ := hitems.aims x hx
      exact ⟨y, List.mem_cons_of_mem _ hy, hmem, haim⟩
  · intro x hx
    rcases List.mem_append.mp hx with hx | hx
    · exact ⟨i, Nat.le_refl i, (hwithin x hx).below⟩
    · obtain ⟨j, hj, hpre⟩ := hitems.below x hx
      exact ⟨j, by omega, hpre⟩

end ItemsShow

section Items

variable {k h : Nat} {segments : List Segment} {visit : Nat → Node → WalkState → Walked}
  {dvisit : Nat → Draft → Draft × List Visit} {good : Nat → Marks → Prop}

/-- A walk into the first of some elements. -/
theorem Entering.first (he : Entering judge r k place segments visit dvisit good) {i : Nat}
    {n : Node} {xs : List Node} (hgood : good i m)
    (hready : Ready m (h :: handlesOfItems (n :: xs)) st) (hfits : ItemFits m k h place i n) :
    Apart h n xs st (visit i n st) ∧ ItemShows judge r m k h place i (visit i n st)
      (Draft.throughItem (dvisit i) (viewItem m h i n)) := by
  have hsub : ∀ g ∈ n.handles, g ∈ h :: handlesOfItems (n :: xs) :=
    fun g hg => List.mem_cons_of_mem _ (List.mem_append_left _ hg)
  have hn : n.handles.Nodup :=
    (List.nodup_append.mp (List.nodup_cons.mp hready.nodup).2).1
  have hapart : Apart h n xs st (visit i n st) :=
    Apart.of_grows hready (he.grows i n st hn fun g hg => hready.lt g (hsub g hg))
  refine ⟨hapart, ?_⟩
  by_cases hb : place ++ [Step.index i] ∈ m.blocked
  · rw [he.blocked i m n st hgood hb]
    exact item_shows_blocked hready.created hfits hb
  · exact item_shows_free hfits he.further (he.within i n st) hapart.list (he.made i) hb
      (he.shows i m n st hgood (hready.of_subset hn hsub) hfits.2.2 hb)

/-- A walk through the elements of a list, one after the other, and what happens at its targets. -/
theorem items_shows (he : Entering judge r k place segments visit dvisit good) (xs : List Node) :
    ∀ (i : Nat) (st : WalkState) (m : Marks), (∀ j, good (i + j) m) →
      Ready m (h :: handlesOfItems xs) st →
      (∀ j n, xs[j]? = some n → ItemFits m k h place (i + j) n) →
      ItemsShow judge r m k h place i (items visit i xs st)
        (atItems (fun i => Draft.throughItem (dvisit i)) i (viewItems m h i xs)) := by
  induction xs with
  | nil =>
    intro i st m _ hready _
    exact ⟨rfl, rfl, by simp [items, actItems], by simp [items], by simp [items]⟩
  | cons n xs ih =>
    intro i st m hgoods hready hfits
    obtain ⟨hn, hxs⟩ := (forall_getElem?_cons (ItemFits m k h place)).mp hfits
    obtain ⟨hapart, hitem⟩ := he.first (hgoods 0) hready hn
    let w := visit i n st
    let m₁ := m.after judge r w.targets w.state.created
    have hwithin := he.within i n st
    have hready₁ : Ready m₁ (h :: handlesOfItems xs) w.state :=
      hapart.ready hready fun x hx => (hwithin x hx).1
    have hagree : ∀ j y, xs[j]? = some y → AgreesOn m m₁ h place (i + 1 + j) y.handles :=
      hapart.agreesOn hready hwithin
    have hgood₁ : ∀ j, good (i + 1 + j) m₁ := by
      intro j
      refine he.congr _ m _ (blocked_elsewhere fun x hx => ⟨.index i, ?_, (hwithin x hx).below⟩) ?_
      · simp only [ne_eq, Step.index.injEq]
        omega
      · have hj := hgoods (j + 1)
        rwa [show i + (j + 1) = i + 1 + j by omega] at hj
    have hitems := ih (i + 1) w.state m₁ hgood₁ hready₁
      fun j y hy => (hxs j y hy).congr (hagree j y hy)
    rw [← viewItems_congr_of_agreesOn (i + 1) hagree] at hitems
    -- the records about the first element stay as they are
    let ws := items visit (i + 1) xs w.state
    obtain ⟨-, hnd⟩ := List.nodup_cons.mp hready₁.nodup
    have hgrows : Grows (handlesOfItems xs) w.state (handlesOfItems ws.1) ws.2.2 :=
      items_grows he.grows xs (i + 1) w.state hnd fun g hg =>
        hready₁.lt g (List.mem_cons_of_mem _ hg)
    obtain ⟨hlist, hhead⟩ := hapart.rest hready hgrows
    have hlast : ∀ x ∈ ws.2.1, x.container ∈ handlesOfItems ws.1 := by
      intro x hx
      obtain ⟨y, hy, hmem, -⟩ := hitems.aims x hx
      exact mem_handlesOfItems.mpr ⟨y, hy, hmem⟩
    refine ItemsShow.cons hitem hitems hapart.grows.nodup hwithin hhead ?_
    rw [← after_append _ _ w.state.created]
    refine agreesOn_elsewhere hready₁ hgrows ?_ ?_ ?_ ?_
    · exact hapart.grows.lt fun g hg =>
        hready.lt g (List.mem_cons_of_mem _ (List.mem_append_left _ hg))
    · rintro x hx rfl
      exact hlist (hlast x hx)
    · exact fun x hx hg => hhead _ hg (hlast x hx)
    · intro x hx
      obtain ⟨j, hj, hpre⟩ := hitems.below x hx
      exact ⟨j, by omega, hpre⟩

end Items

/-! ## Through a whole path -/

/-- What a walk knows of the blocked places below a place: it can tell them, each has a rule, and
none has the path that the walk follows. -/
structure Bars (table : RuleTable) (blocked : Place → Bool) (path : List Segment) (place : Place)
    (m : Marks) : Prop where
  test : ∀ q, place <+: q → (blocked q = true ↔ q ∈ m.blocked)
  ruled : ∀ q ∈ m.blocked, place <+: q → table.hasPath q.path = true
  other : ∀ q ∈ m.blocked, place <+: q → q.path ≠ path

namespace Bars

variable {table : RuleTable} {blocked : Place → Bool} {path : List Segment} {m m' : Marks}

theorem below (h : Bars table blocked path place m) {place' : Place} (hpre : place <+: place') :
    Bars table blocked path place' m :=
  ⟨fun q hq => h.test q (hpre.trans hq), fun q hb hq => h.ruled q hb (hpre.trans hq),
    fun q hb hq => h.other q hb (hpre.trans hq)⟩

theorem congr (h : Bars table blocked path place m)
    (hm : ∀ q, place <+: q → (q ∈ m.blocked ↔ q ∈ m'.blocked)) :
    Bars table blocked path place m' :=
  ⟨fun q hq => (h.test q hq).trans (hm q hq), fun q hb hq => h.ruled q ((hm q hq).mpr hb) hq,
    fun q hb hq => h.other q ((hm q hq).mpr hb) hq⟩

end Bars

/-- The segments of a path that goes on from another, each with whether the path up to it has a
rule. -/
def stepsFrom (hasPath : List Segment → Bool) :
    List Segment → List Segment → List (Segment × Bool)
  | _, [] => []
  | path, segment :: rest =>
    (segment, hasPath (path ++ [segment])) :: stepsFrom hasPath (path ++ [segment]) rest

theorem map_fst_stepsFrom (hasPath : List Segment → Bool) (path rest : List Segment) :
    (stepsFrom hasPath path rest).map (·.1) = rest := by
  induction rest generalizing path with
  | nil => rfl
  | cons segment rest ih => rw [stepsFrom, List.map_cons, ih]

theorem steps_eq (hasPath : List Segment → Bool) (path : List Segment) :
    steps hasPath path = stepsFrom hasPath [] path.dropLast := by
  have general : ∀ (rest pre : List Segment), pre ++ rest <+: path →
      ((rest.zipIdx pre.length).map fun x => (x.1, hasPath (path.take (x.2 + 1)))) =
        stepsFrom hasPath pre rest := by
    intro rest
    induction rest with
    | nil =>
      intro pre _
      rfl
    | cons segment rest ih =>
      intro pre hpre
      have hnext : (pre ++ [segment]) ++ rest <+: path := by simpa using hpre
      have htake : path.take (pre.length + 1) = pre ++ [segment] := by
        have := List.prefix_iff_eq_take.mp ((List.prefix_append _ rest).trans hnext)
        rw [List.length_append, List.length_singleton] at this
        exact this.symm
      have hrest := ih (pre ++ [segment]) hnext
      rw [List.length_append, List.length_singleton] at hrest
      rw [List.zipIdx_cons, List.map_cons, stepsFrom, hrest, htake]
  exact general path.dropLast [] (List.dropLast_prefix path)

variable {table : RuleTable} {blocked : Place → Bool}

theorem handle?_eq_of_skeleton {n n' : Node} (h : n.skeleton = n'.skeleton) :
    n.handle? = n'.handle? := by
  rw [← handle?_skeleton n, h, handle?_skeleton]

/-- A mapping that was made is placed where a walk has gone on through it. -/
theorem placed_act {h c : Nat} {s : String} {es : List (Value × Node)} {w : Walked}
    (hnd : w.node.handles.Nodup) (haims : ∀ x ∈ w.targets, Aims x.container x.step w.node)
    (hhandle : w.node.handle? = some c)
    (hmem : m.made c = true → ⟨h, s, c⟩ ∈ m.created ∧ Entries.Once s es) :
    Placed m h s es (act judge r w.targets w.node) := by
  have hskeleton : (act judge r w.targets w.node).skeleton = w.node.skeleton :=
    skeleton_act hnd haims
  have heq := handle?_eq_of_skeleton hskeleton
  rw [hhandle] at heq
  cases hact : act judge r w.targets w.node with
  | leaf v => trivial
  | list k xs => trivial
  | dict k es =>
    rw [hact] at heq
    obtain rfl : k = c := Option.some.inj heq
    exact hmem

theorem placed_of_not_made {h : Nat} {s : String} {es : List (Value × Node)} {n : Node}
    (hmade : (view m n).isMade = false) : Placed m h s es n := by
  cases n with
  | leaf v => trivial
  | list k xs => trivial
  | dict k es =>
    intro hk
    rw [view_dict] at hmade
    exact absurd (hk.symm.trans hmade) (by simp)

/-- What is to be shown of walks along some segments and a last one. -/
def Follows (judge : Judge) (r : Rule) (table : RuleTable) (blocked : Place → Bool)
    (last : Segment) (rest : List Segment) : Prop :=
  ∀ (place : Place) (n : Node) (st : WalkState) (m : Marks), n.isOpened = true →
    Ready m n.handles st → Fits m (rest.length + 1) place n →
    Bars table blocked (place.path ++ rest ++ [last]) place m →
    Shows judge r m (rest.length + 1) place
      (follow blocked last (stepsFrom table.hasPath place.path rest) place n st)
      (Draft.visit table judge r (rest ++ [last]) place (view m n))

section Step

variable {last : Segment} {rest : List Segment}

theorem follow_within (place : Place) (n : Node) (st : WalkState) :
    let w := follow blocked last (stepsFrom table.hasPath place.path rest) place n st
    ∀ x ∈ w.targets, Within (rest ++ [last]) place w.node.handles x := by
  have := follow_targets blocked last (stepsFrom table.hasPath place.path rest) place n st
  rwa [map_fst_stepsFrom] at this

/-- A walk through a key that is there. -/
theorem found_shows (hrest : Follows judge r table blocked last rest) {h : Nat} {s : String}
    {es : List (Value × Node)} {child : Node} (hready : Ready m (Node.dict h es).handles st)
    (hfits : Fits m (rest.length + 2) place (.dict h es))
    (hbars : Bars table blocked ((place ++ [Step.key s]).path ++ rest ++ [last])
      (place ++ [Step.key s]) m)
    (hfind : Entries.find? (.str s) es = some child) :
    let below := place ++ [Step.key s]
    let w := enter blocked (follow blocked last (stepsFrom table.hasPath below.path rest)) below
      child st
    let d := Draft.enter (Draft.visit table judge r (rest ++ [last]) below) (view m child)
    Shows judge r m (rest.length + 2) place
      ⟨.dict h (Entries.insert (.str s) w.node es), w.targets, w.state⟩
      (.dict (m.made h) (Entries.insert (.str s) d.1 (Entries.mapValues (view m) es)), d.2) := by
  intro below w d
  obtain ⟨hfree, hplaced, hchild⟩ := hfits.2.2.2 s child hfind
  obtain ⟨hh, hes⟩ := List.nodup_cons.mp hready.nodup
  have hmem := Entries.mem_of_find? hfind
  have hsub : ∀ g ∈ child.handles, g ∈ (Node.dict h es).handles :=
    fun g hg => List.mem_cons_of_mem _ (mem_handlesOfEntries.mpr ⟨_, hmem, hg⟩)
  have hnd : child.handles.Nodup := nodup_of_mem_entries hes hmem
  have hgrows : Grows child.handles st w.node.handles w.state :=
    enter_grows hnd (fun g hg => hready.lt g (hsub g hg)) fun n st hnd hlt =>
      follow_grows _ _ _ _ n st hnd hlt
  have hopen : blocked below = false := by
    rw [← Bool.not_eq_true, hbars.test _ (List.prefix_refl _)]
    exact hfree
  have hshows : Shows judge r m (rest.length + 1) below w d :=
    enter_shows (hready.of_subset hnd hsub) hchild hopen fun n st hopen hready hfits =>
      hrest below n st m hopen hready hfits hbars
  refine insert_shows m.created (rest ++ [last]) hready hfits ?_ (by simp) ?_ hshows hfree ?_
  · rw [hfind]
    exact hgrows
  · exact enter_targets (p := fun n => Within _ below n.handles) fun n st => follow_within below n st
  · by_cases hmade : (view m child).isMade = true
    · cases child with
      | leaf v => cases hmade
      | list c xs => cases hmade
      | dict c ces =>
        have hhandle : w.node.handle? = some c :=
          handle?_enter rfl fun st => handle?_follow ..
        refine placed_act hgrows.nodup hshows.aims hhandle fun _ => ?_
        exact ⟨created_subset_of_grows hready hgrows _ (hplaced hmade).1, (hplaced hmade).2.insert s _⟩
    · refine placed_of_not_made ?_
      rw [hshows.view, Draft.isMade_enter (fun d => Draft.isMade_visit ..), ← Bool.not_eq_true]
      exact hmade

/-- A walk through a missing key, where a mapping is made. -/
theorem made_shows (hrest : Follows judge r table blocked last rest) {h : Nat} {s : String}
    {es : List (Value × Node)} (hready : Ready m (Node.dict h es).handles st)
    (hfits : Fits m (rest.length + 2) place (.dict h es))
    (hbars : Bars table blocked ((place ++ [Step.key s]).path ++ rest ++ [last])
      (place ++ [Step.key s]) m)
    (hfind : Entries.find? (.str s) es = none) (hfree : place ++ [Step.key s] ∉ m.blocked) :
    let below := place ++ [Step.key s]
    let w := follow blocked last (stepsFrom table.hasPath below.path rest) below
      (.dict st.next []) ⟨st.next + 1, st.created ++ [⟨h, s, st.next⟩]⟩
    let d := Draft.visit table judge r (rest ++ [last]) below (.dict true [])
    Shows judge r m (rest.length + 2) place
      ⟨.dict h (Entries.insert (.str s) w.node es), w.targets, w.state⟩
      (.dict (m.made h) (Entries.insert (.str s) d.1 (Entries.mapValues (view m) es)), d.2) := by
  intro below w d
  let made := st.created ++ [⟨h, s, st.next⟩]
  let m₀ : Marks := { m with created := made }
  have hlth : h < st.next := hready.lt h (List.mem_cons_self ..)
  have hhandles : (Node.dict st.next []).handles = [st.next] := rfl
  have hready₀ : Ready m₀ (Node.dict st.next []).handles ⟨st.next + 1, made⟩ := by
    refine ⟨by simp [hhandles], by simp [hhandles], ?_, ?_, rfl, ?_⟩
    · exact fun e he => Nat.lt_succ_of_lt (hready.gone_lt e he)
    · exact fun e he => Nat.lt_succ_of_lt (hready.shut_lt e he)
    · intro c hc
      rcases List.mem_append.mp hc with hc | hc
      · rw [← hready.created] at hc
        exact Nat.lt_succ_of_lt (hready.child_lt c hc)
      · rw [List.mem_singleton.mp hc]
        exact Nat.lt_succ_self _
  have hview : view m₀ (.dict st.next []) = .dict true [] := by
    have hmade : m₀.made st.next = true := by simp [Marks.made, m₀, made]
    rw [view_dict, hmade]
    rfl
  have hgrown := follow_grows blocked last (stepsFrom table.hasPath below.path rest) below
    (.dict st.next []) ⟨st.next + 1, made⟩ hready₀.nodup hready₀.lt
  have hshows : Shows judge r m₀ (rest.length + 1) below w d := by
    have hclear : Clear m₀ below := hfits.2.2.1 s hfind
    have := hrest below (.dict st.next []) ⟨st.next + 1, made⟩ m₀ rfl hready₀
      (fits_fresh_dict hclear hready.gone_next []) (hbars.congr fun _ _ => Iff.rfl)
    rwa [hview] at this
  refine insert_shows made (rest ++ [last]) hready hfits ?_ (by simp) ?_ hshows hfree ?_
  · rw [hfind]
    exact Grows.fresh_container [⟨h, s, st.next⟩] (by simp) (by simpa using hlth) hgrown
  · exact follow_within below _ _
  · refine placed_act hgrown.nodup hshows.aims (handle?_follow ..) fun _ => ?_
    obtain ⟨new, hnew, -⟩ := hgrown.created
    refine ⟨?_, Entries.once_insert_of_find?_eq_none hfind _⟩
    show _ ∈ w.state.created
    rw [hnew]
    simp [made]

/-- A walk through the elements of a list is a walk through the list. -/
theorem list_shows {k h : Nat} {xs : List Node} {w : List Node × List Target × WalkState}
    {d : List (Bool × Draft) × List Visit} (hready : Ready m (Node.list h xs).handles st)
    (hfits : Fits m (k + 1) place (.list h xs)) (hlength : w.1.length = xs.length)
    (hgrown : Grows (handlesOfItems xs) st (handlesOfItems w.1) w.2.2)
    (hshow : ItemsShow judge r m k h place 0 w d) :
    Shows judge r m (k + 1) place ⟨.list h w.1, w.2.1, w.2.2⟩ (.list d.1, d.2) := by
  obtain ⟨hmade, hbound, -⟩ := hfits
  obtain ⟨hview, hlog, hfits', haims, -⟩ := hshow
  obtain ⟨hh, -⟩ := List.nodup_cons.mp hready.nodup
  have hself : ∀ x ∈ w.2.1, x.container ≠ h := by
    rintro x hx rfl
    obtain ⟨n, hn, hmem, -⟩ := haims x hx
    exact hgrown.not_mem (hready.lt _ (List.mem_cons_self ..)) hh
      (mem_handlesOfItems.mpr ⟨n, hn, hmem⟩)
  have hact : act judge r w.2.1 (.list h w.1) = .list h (actItems judge r w.2.1 w.1) :=
    act_items hself
  refine ⟨?_, hlog, ?_, ?_⟩
  · show view _ (act judge r w.2.1 (.list h w.1)) = _
    rw [hact, view]
    exact congrArg Draft.list hview
  · show Fits _ (k + 1) place (act judge r w.2.1 (.list h w.1))
    rw [hact]
    refine ⟨?_, fun i hi => ?_, fun i n hn => ?_⟩
    · exact (made_eq_of_grows hready hgrown (hready.lt h (List.mem_cons_self ..))).symm.trans hmade
    · rw [length_actItems, hlength]
      rcases mem_after_gone.mp hi with hi | ⟨x, hx, hh, -⟩
      · exact hbound i hi
      · exact absurd hh (hself x hx)
    · have := hfits' i n hn
      rwa [Nat.zero_add] at this
  · intro x hx
    obtain ⟨n, hn, hmem, c, hc, hmeets⟩ := haims x hx
    refine ⟨c, ?_, hmeets⟩
    rw [find?, if_neg (Ne.symm (hself x hx)), findInItems_of_mem hgrown.nodup hn hmem, hc]

/-- What is known of a walk along the rest of a path into single elements. -/
theorem follow_entering (place : Place) (hrest : Follows judge r table blocked last rest) :
    let steps := stepsFrom table.hasPath (place.path ++ [Segment.wildcard]) rest
    Entering judge r (rest.length + 1) place (rest ++ [last])
      (fun i child st => enter blocked (follow blocked last steps) (place ++ [Step.index i]) child st)
      (fun i => Draft.visit table judge r (rest ++ [last]) (place ++ [Step.index i]))
      (fun i => Bars table blocked (place.path ++ .wildcard :: rest ++ [last])
        (place ++ [Step.index i])) := by
  intro steps
  have hpath : ∀ i, (place ++ [Step.index i]).path = place.path ++ [Segment.wildcard] := by
    intro i
    simp [Place.path, Step.segment]
  refine ⟨by simp, fun i d => Draft.isMade_visit .., ?_, ?_, ?_, ?_, ?_⟩
  · intro i n st hnd hlt
    exact enter_grows hnd hlt fun n st => follow_grows _ _ _ _ n st
  · intro i n st
    have hfollow : ∀ (n : Node) (st : WalkState),
        let w := follow blocked last (stepsFrom table.hasPath (place ++ [Step.index i]).path rest)
          (place ++ [Step.index i]) n st
        ∀ x ∈ w.targets, Within (rest ++ [last]) (place ++ [Step.index i]) w.node.handles x :=
      follow_within (place ++ [Step.index i])
    rw [hpath] at hfollow
    exact enter_targets (p := fun n => Within _ _ n.handles) hfollow
  · exact fun i m m' hm hbars => hbars.congr hm
  · intro i m n st hbars hb
    have hblocked : blocked (place ++ [Step.index i]) = true :=
      (hbars.test _ (List.prefix_refl _)).mpr hb
    simp only [enter, hblocked, if_true]
  · intro i m n st hbars hready hfits hfree
    have hopen : blocked (place ++ [Step.index i]) = false := by
      rw [← Bool.not_eq_true, hbars.test _ (List.prefix_refl _)]
      exact hfree
    refine enter_shows hready hfits hopen fun n st hopened hready hfits => ?_
    have := hrest (place ++ [Step.index i]) n st m hopened hready hfits
    rw [hpath, List.append_assoc place.path, List.singleton_append] at this
    exact this hbars

/-- A walk through the elements of a list. -/
theorem wildcard_shows (hrest : Follows judge r table blocked last rest) {h : Nat} {xs : List Node}
    (hready : Ready m (Node.list h xs).handles st)
    (hfits : Fits m (rest.length + 2) place (.list h xs))
    (hbars : Bars table blocked (place.path ++ .wildcard :: rest ++ [last]) place m) :
    let steps := stepsFrom table.hasPath (place.path ++ [Segment.wildcard]) rest
    let w := items (fun i child st =>
      enter blocked (follow blocked last steps) (place ++ [Step.index i]) child st) 0 xs st
    let d := atItems (fun i => Draft.throughItem
      (Draft.visit table judge r (rest ++ [last]) (place ++ [Step.index i]))) 0 (viewItems m h 0 xs)
    Shows judge r m (rest.length + 2) place ⟨.list h w.1, w.2.1, w.2.2⟩ (.list d.1, d.2) := by
  intro steps w d
  obtain ⟨-, hxs⟩ := List.nodup_cons.mp hready.nodup
  have he := follow_entering place hrest
  refine list_shows hready hfits (length_items xs 0 st) ?_ ?_
  · exact items_grows he.grows xs 0 st hxs fun g hg => hready.lt g (List.mem_cons_of_mem _ hg)
  · refine items_shows he xs 0 st m (fun j => hbars.below (List.prefix_append ..)) hready ?_
    intro j n hn
    rw [Nat.zero_add]
    exact hfits.2.2 j n hn

/-- A walk with one segment left. -/
theorem last_shows : Follows judge r table blocked last [] := by
  intro place n st m hopen hready hfits hbars
  have hown : ∀ step : Step, step.segment = last → place ++ [step] ∉ m.blocked := by
    rintro step rfl hb
    refine hbars.other _ hb (List.prefix_append ..) ?_
    simp [Place.path]
  cases n with
  | leaf v => cases hopen
  | dict h es =>
    cases last with
    | name s =>
      rw [view_dict]
      exact targets_shows_dict s hready.created hfits (hown (.key s) rfl)
    | wildcard => exact shows_stop hready.created hfits
  | list h xs =>
    cases last with
    | name s => exact shows_stop hready.created hfits
    | wildcard =>
      rw [view]
      exact targets_shows_list hready.created hfits fun i => hown (.index i) rfl

/-- A walk that goes on under a key. -/
theorem key_shows (hrest : Follows judge r table blocked last rest) {h : Nat} (s : String)
    {es : List (Value × Node)} (hready : Ready m (Node.dict h es).handles st)
    (hfits : Fits m (rest.length + 2) place (.dict h es))
    (hbars : Bars table blocked (place.path ++ .name s :: rest ++ [last]) place m) :
    Shows judge r m (rest.length + 2) place
      (follow blocked last (stepsFrom table.hasPath place.path (.name s :: rest)) place (.dict h es)
        st)
      (Draft.visit table judge r (.name s :: rest ++ [last]) place (view m (.dict h es))) := by
  have hpath : (place ++ [Step.key s]).path = place.path ++ [Segment.name s] := by
    simp [Place.path, Step.segment]
  have hbars' : Bars table blocked ((place ++ [Step.key s]).path ++ rest ++ [last])
      (place ++ [Step.key s]) m := by
    rw [hpath, List.append_assoc place.path, List.singleton_append]
    exact hbars.below (List.prefix_append ..)
  rw [stepsFrom, ← hpath, follow, view_dict]
  simp only [List.cons_append, Draft.visit, atKey, Entries.find?_mapValues]
  simp only [List.append_eq_nil_iff, List.cons_ne_nil, and_false, if_false]
  cases hfind : Entries.find? (.str s) es with
  | some child => exact found_shows hrest hready hfits hbars' hfind
  | none =>
    -- a missing key with a rule of its own stops the walk; any other is made
    by_cases hruled : table.hasPath (place ++ [Step.key s]).path = true
    · have hstop : Shows judge r m _ place ⟨.dict h es, [], st⟩ (view m (.dict h es), []) :=
        shows_stop hready.created hfits
      have hmissing : Entries.find? (.str s) (Entries.mapValues (view m) es) = none := by
        rw [Entries.find?_mapValues, hfind]
        rfl
      have herase : Entries.put s none (Entries.mapValues (view m) es) =
          Entries.mapValues (view m) es := Entries.erase_of_find?_eq_none hmissing
      rw [view_dict] at hstop
      simp only [hruled, Bool.true_or, if_true, Option.map_none, Draft.throughKey, herase]
      exact hstop
    · have hfree : place ++ [Step.key s] ∉ m.blocked :=
        fun hb => hruled (hbars'.ruled _ hb (List.prefix_refl _))
      have hopen' : blocked (place ++ [Step.key s]) = false := by
        rw [← Bool.not_eq_true, hbars'.test _ (List.prefix_refl _)]
        exact hfree
      simp only [hruled, hopen', Bool.or_self, Bool.false_eq_true, if_false, Option.map_none,
        Draft.throughKey]
      exact made_shows hrest hready hfits hbars' hfind hfree

end Step

/-- After a walk and the deeds at its targets the tree stands for the visited draft. -/
theorem follow_shows (last : Segment) (rest : List Segment) :
    Follows judge r table blocked last rest := by
  induction rest with
  | nil => exact last_shows
  | cons segment rest ih =>
    intro place n st m hopen hready hfits hbars
    cases n with
    | leaf v => cases hopen
    | dict h es =>
      cases segment with
      | wildcard => exact shows_stop hready.created hfits
      | name s => exact key_shows ih s hready hfits hbars
    | list h xs =>
      cases segment with
      | name s => exact shows_stop hready.created hfits
      | wildcard =>
        rw [stepsFrom, follow, view]
        simp only [List.cons_append, Draft.visit]
        simp only [List.append_eq_nil_iff, List.cons_ne_nil, and_false, if_false]
        exact wildcard_shows ih hready hfits hbars

end Walk

end ArgumentSchema
