import ArgumentSchema.Proofs.Deeds
import ArgumentSchema.Proofs.Settle

/-!
# Where a walk begins and ends

A rule is resolved to targets first, and then each target is judged and written to, or discarded.
`Shows` says that the two together are one visit of a draft: the tree stands for the visited draft,
the visits are those of the draft, and tree and records still fit. Here it is shown for the last
segment of a path (`targets_shows_dict`, `targets_shows_list`) and for the step into what stands at
a place, where a container is opened (`enter_shows`).
-/

namespace ArgumentSchema

open Marks Node

/-- No handle occurs twice, and all handles that occur or that the records tell of were given. -/
structure Ready (m : Marks) (hs : List Nat) (st : WalkState) : Prop where
  nodup : hs.Nodup
  lt : ∀ h ∈ hs, h < st.next
  gone_lt : ∀ e ∈ m.gone, e.1 < st.next
  shut_lt : ∀ e ∈ m.shut, e.1 < st.next
  created : m.created = st.created
  child_lt : ∀ c ∈ m.created, c.child < st.next

namespace Ready

variable {m : Marks} {hs : List Nat} {st : WalkState}

theorem fresh (hready : Ready m hs st) : Ready m [st.next] { st with next := st.next + 1 } :=
  ⟨by simp, by simp, fun e he => Nat.lt_succ_of_lt (hready.gone_lt e he),
    fun e he => Nat.lt_succ_of_lt (hready.shut_lt e he), hready.created,
    fun c hc => Nat.lt_succ_of_lt (hready.child_lt c hc)⟩

theorem of_subset (hready : Ready m hs st) {ks : List Nat} (hnd : ks.Nodup)
    (hsub : ∀ k ∈ ks, k ∈ hs) : Ready m ks st :=
  ⟨hnd, fun k hk => hready.lt k (hsub k hk), hready.gone_lt, hready.shut_lt, hready.created,
    hready.child_lt⟩

/-- A walk gives new handles, and the deeds at its targets record nothing about others. -/
theorem after {judge : Judge} {r : Rule} {hs' : List Nat} {st' : WalkState} {ts : List Target}
    (hready : Ready m hs st) (hgrows : Grows hs st hs' st') (hts : ∀ x ∈ ts, x.container ∈ hs') :
    Ready (m.after judge r ts st'.created) hs' st' := by
  have hle := hgrows.next_le
  have hlt := hgrows.lt hready.lt
  refine ⟨hgrows.nodup, hlt, ?_, ?_, rfl, ?_⟩
  · rintro ⟨h, i⟩ he
    rcases mem_after_gone.mp he with he | ⟨x, hx, rfl, -⟩
    · exact Nat.lt_of_lt_of_le (hready.gone_lt _ he) hle
    · exact hlt _ (hts x hx)
  · rintro ⟨h, i⟩ he
    rcases mem_after_shut.mp he with he | ⟨x, hx, rfl, -⟩
    · exact Nat.lt_of_lt_of_le (hready.shut_lt _ he) hle
    · exact hlt _ (hts x hx)
  · obtain ⟨new, hnew, -, hall⟩ := hgrows.created
    intro c hc
    rw [show (m.after judge r ts st'.created).created = st'.created from rfl, hnew] at hc
    rcases List.mem_append.mp hc with hc | hc
    · rw [← hready.created] at hc
      exact Nat.lt_of_lt_of_le (hready.child_lt c hc) hle
    · exact (hall c hc).2.2

theorem made_next (hready : Ready m hs st) : m.made st.next = false := by
  rw [made, List.any_eq_false]
  intro c hc
  have := hready.child_lt c hc
  simp only [beq_iff_eq]
  omega

theorem gone_next (hready : Ready m hs st) (i : Nat) : (st.next, i) ∉ m.gone :=
  fun hi => absurd (hready.gone_lt _ hi) (Nat.lt_irrefl _)

theorem shut_next (hready : Ready m hs st) (i : Nat) : (st.next, i) ∉ m.shut :=
  fun hi => absurd (hready.shut_lt _ hi) (Nat.lt_irrefl _)

end Ready

/-- A walk and the deeds at its targets come to the visit of a draft. -/
structure Shows (judge : Judge) (r : Rule) (m : Marks) (k : Nat) (place : Place) (w : Walked)
    (d : Draft × List Visit) : Prop where
  view : view (m.after judge r w.targets w.state.created) (Walk.act judge r w.targets w.node) = d.1
  log : w.targets.map (Target.visit judge r) = d.2
  fits : Fits (m.after judge r w.targets w.state.created) k place
    (Walk.act judge r w.targets w.node)
  aims : ∀ x ∈ w.targets, Aims x.container x.step w.node

namespace Walk

variable {judge : Judge} {r : Rule} {m : Marks} {st : WalkState} {place : Place}

theorem after_nil (hcreated : m.created = st.created) :
    m.after judge r [] st.created = m := by
  cases m
  simp only [after, positions, List.filter_nil, List.map_nil, List.reverse_nil, List.nil_append,
    List.filterMap_nil, List.append_nil]
  exact congrArg _ hcreated.symm

/-- A walk that ends before any target changes nothing. -/
theorem shows_stop {k : Nat} {n : Node} (hcreated : m.created = st.created)
    (hfits : Fits m k place n) : Shows judge r m k place ⟨n, [], st⟩ (view m n, []) :=
  ⟨by rw [after_nil hcreated]; rfl, rfl, by rw [after_nil hcreated]; exact hfits, by simp⟩

/-! ## The last segment -/

/-- A target that is a key changes no record about a list. -/
theorem agreesAt_after_key {x : Target} {s : String} (hstep : x.step = .key s)
    (hcreated : m.created = st.created) (h : Nat) :
    AgreesAt m (m.after judge r [x] st.created) h := by
  have hne : ∀ i, ¬ x.step = .index i := by
    intro i hi
    rw [hstep] at hi
    cases hi
  refine ⟨fun i => ?_, fun i => ?_, by rw [made, made, hcreated]; rfl⟩
  · rw [mem_after_gone]
    refine (or_iff_left ?_).symm
    rintro ⟨y, hy, -, hi, -⟩
    exact hne i (List.mem_singleton.mp hy ▸ hi)
  · rw [mem_after_shut]
    refine (or_iff_left ?_).symm
    rintro ⟨y, hy, -, hi, -⟩
    exact hne i (List.mem_singleton.mp hy ▸ hi)

/-- The value that a rule finds under a key. -/
def heldAt (s : String) (es : List (Value × Node)) : Value :=
  match Entries.find? (.str s) es with
  | some n => n.toValue
  | none => .absent

/-- The target that is a key of a mapping. -/
def keyTarget (h : Nat) (place : Place) (s : String) (es : List (Value × Node)) : Target :=
  ⟨h, .key s, place ++ [.key s], heldAt s es⟩

section Key

variable {h : Nat} {es : List (Value × Node)} {s : String}

/-- A draft holds the same under a key whose value is not opened. -/
theorem held_view (m : Marks)
    (hclosed : ∀ n, Entries.find? (.str s) es = some n → n.isOpened = false) :
    ((Entries.find? (.str s) (Entries.mapValues (view m) es)).map Draft.held).getD .absent =
      heldAt s es := by
  rw [Entries.find?_mapValues, heldAt]
  cases hfind : Entries.find? (.str s) es with
  | none => rfl
  | some n => exact (toValue_eq_held m (hclosed n hfind)).symm

theorem act_keyTarget (judge : Judge) (r : Rule) (h : Nat) (place : Place) (s : String)
    (es : List (Value × Node)) : act judge r [keyTarget h place s es] (.dict h es) =
      .dict h (Entries.put s
        ((judge r (place ++ [Step.key s]) (heldAt s es)).kept?.map Node.leaf) es) := by
  rw [act, List.foldl_cons, List.foldl_nil, Node.modify,
    if_pos (show h = (keyTarget h place s es).container from rfl)]
  simp only [Target.deed, Target.visit, keyTarget]
  cases (judge r (place ++ [Step.key s]) (heldAt s es)).kept? with
  | some w => rfl
  | none => rfl

theorem mem_after_keyTarget {created : List Created} {q : Place} :
    q ∈ (m.after judge r [keyTarget h place s es] created).blocked ↔ q ∈ m.blocked ∨
      q = place ++ [Step.key s] ∧
        (judge r (place ++ [Step.key s]) (heldAt s es)).state.succeeded = false := by
  rw [mem_after_blocked]
  refine or_congr Iff.rfl ⟨?_, ?_⟩
  · rintro ⟨x, hx, rfl, hfails⟩
    obtain rfl := List.mem_singleton.mp hx
    exact ⟨rfl, by simpa [Target.fails, Target.visit, keyTarget] using hfails⟩
  · rintro ⟨rfl, hfails⟩
    refine ⟨_, List.mem_singleton_self _, rfl, ?_⟩
    simpa [Target.fails, Target.visit, keyTarget] using hfails

/-- Where a rule ends nothing is opened below a key. -/
theorem closed_of_fits (hfits : Fits m 1 place (.dict h es)) (n : Node)
    (hn : Entries.find? (.str s) es = some n) : n.isOpened = false := by
  obtain ⟨-, v, rfl⟩ := fits_zero.mp (hfits.2.2.2 s n hn).2.2
  rfl

theorem clear_of_fits (hfits : Fits m 1 place (.dict h es)) (t : String) :
    Clear m (place ++ [Step.key t]) := by
  cases hfind : Entries.find? (.str t) es with
  | none => exact hfits.2.2.1 t hfind
  | some n => exact (fits_zero.mp (hfits.2.2.2 t n hfind).2.2).1

/-- A judged key fits: its place is blocked only when nothing is left under it. -/
theorem fits_judged_key (hcreated : m.created = st.created)
    (hfits : Fits m 1 place (.dict h es)) (hown : place ++ [Step.key s] ∉ m.blocked) :
    Fits (m.after judge r [keyTarget h place s es] st.created) 1 place
      (act judge r [keyTarget h place s es] (.dict h es)) := by
  have hagree : AgreesAt m (m.after judge r [keyTarget h place s es] st.created) h :=
    agreesAt_after_key (s := s) rfl hcreated h
  have hclear : ∀ t, Clear (m.after judge r [keyTarget h place s es] st.created)
      (place ++ [Step.key t]) := by
    intro t q hq hpre
    rcases mem_after_keyTarget.mp hq with hq | ⟨rfl, -⟩
    · exact clear_of_fits hfits t q hq hpre
    · exact (hpre.eq_of_length (by simp)).symm
  obtain ⟨hgone, hnamed, -, hsome⟩ := hfits
  rw [act_keyTarget]
  refine ⟨fun i hi => hgone i ((hagree.gone i).mpr hi), ?_, fun t _ => hclear t, fun t n hn => ?_⟩
  · cases (judge r (place ++ [Step.key s]) (heldAt s es)).kept? with
    | some w => exact hnamed.insert _
    | none => exact hnamed.erase
  · by_cases hst : s = t
    · subst hst
      rw [Entries.find?_put_self] at hn
      obtain ⟨w, hkept, rfl⟩ := Option.map_eq_some_iff.mp hn
      refine ⟨fun hb => ?_, trivial, fits_zero.mpr ⟨hclear s, w, rfl⟩⟩
      rcases mem_after_keyTarget.mp hb with hb | ⟨-, hs⟩
      · exact hown hb
      · rw [FieldOutcome.succeeded_of_kept? hkept] at hs
        cases hs
    · rw [Entries.find?_put_ne hst] at hn
      obtain ⟨hfree, -, hfit⟩ := hsome t n hn
      obtain ⟨-, v, rfl⟩ := fits_zero.mp hfit
      refine ⟨fun hb => ?_, trivial, fits_zero.mpr ⟨hclear t, v, rfl⟩⟩
      rcases mem_after_keyTarget.mp hb with hb | ⟨heq, -⟩
      · exact hfree hb
      · have := List.append_cancel_left heq
        simp only [List.cons.injEq, Step.key.injEq, and_true] at this
        exact hst this.symm

end Key

/-- The last segment of a path that ends with a name, at a mapping. -/
theorem targets_shows_dict {h : Nat} {es : List (Value × Node)} (s : String)
    (hcreated : m.created = st.created) (hfits : Fits m 1 place (.dict h es))
    (hown : place ++ [Step.key s] ∉ m.blocked) :
    Shows judge r m 1 place ⟨.dict h es, targets (.name s) place (.dict h es), st⟩
      (let w := atKey s (Draft.judgeKey judge r (place ++ [Step.key s]))
        (Entries.mapValues (view m) es)
      (.dict (m.made h) w.1, w.2)) := by
  have hclosed := closed_of_fits (s := s) hfits
  have hgiven := held_view m hclosed
  -- a deed at a key leaves all records but that of blocked places
  have hagree : ∀ k, AgreesAt m (m.after judge r [keyTarget h place s es] st.created) k :=
    agreesAt_after_key (s := s) rfl hcreated
  have hviews : Marks.view (m.after judge r [keyTarget h place s es] st.created) =
      Marks.view m := by
    funext n
    exact (view_congr fun k _ => hagree k).symm
  refine ⟨?_, ?_, fits_judged_key hcreated hfits hown, ?_⟩
  · show Marks.view (m.after judge r [keyTarget h place s es] st.created)
      (act judge r [keyTarget h place s es] (.dict h es)) = _
    rw [act_keyTarget, view_dict, hviews, Entries.mapValues_put]
    simp only [atKey, Draft.judgeKey, hgiven]
    congr 1
    · exact (hagree h).made.symm
    · rw [Option.map_map]
      rfl
  · simp only [atKey, Draft.judgeKey, hgiven]
    rfl
  · intro y hy
    obtain rfl := List.mem_singleton.mp hy
    refine ⟨.dict h es, by rw [find?, if_pos rfl], ?_⟩
    exact hfits.2.1.closed_of_find? hclosed

/-- The target that is an element of a list. -/
def itemTarget (h : Nat) (place : Place) (x : Node × Nat) : Target :=
  ⟨h, .index x.2, place ++ [.index x.2], x.1.toValue⟩

/-- An element of a list after it was judged. -/
def judgedItem (judge : Judge) (r : Rule) (place : Place) (n : Node) : Node :=
  match (judge r place n.toValue).kept? with
  | some w => .leaf w
  | none => n

theorem judgedItem_kept {n : Node} {w : Value} (h : (judge r place n.toValue).kept? = some w) :
    judgedItem judge r place n = .leaf w := by
  simp only [judgedItem, h]

theorem judgedItem_dropped {n : Node} (h : (judge r place n.toValue).kept? = none) :
    judgedItem judge r place n = n := by
  simp only [judgedItem, h]

/-- What happens at all elements of a list. -/
theorem act_itemTargets (h : Nat) (place : Place) (xs : List Node) :
    ∀ pre : List Node,
      act judge r ((xs.zipIdx pre.length).map (itemTarget h place)) (.list h (pre ++ xs)) =
        .list h (pre ++ (xs.zipIdx pre.length).map fun x =>
          judgedItem judge r (place ++ [Step.index x.2]) x.1) := by
  induction xs with
  | nil =>
    intro pre
    rfl
  | cons x xs ih =>
    intro pre
    have hdeed : (Node.list h (pre ++ x :: xs)).modify h
        ((itemTarget h place (x, pre.length)).deed judge r) =
        .list h ((pre ++ [judgedItem judge r (place ++ [Step.index pre.length]) x]) ++ xs) := by
      rw [Node.modify, if_pos rfl, List.append_assoc, List.singleton_append]
      simp only [Target.deed, Target.visit, itemTarget, judgedItem]
      cases (judge r (place ++ [Step.index pre.length]) x.toValue).kept? with
      | some w => simp [setChild]
      | none => rfl
    have hrest := ih (pre ++ [judgedItem judge r (place ++ [Step.index pre.length]) x])
    rw [List.length_append, List.length_singleton] at hrest
    rw [List.zipIdx_cons, List.map_cons, List.map_cons, act, List.foldl_cons]
    rw [show (itemTarget h place (x, pre.length)).container = h from rfl, hdeed]
    rw [← act, hrest, List.append_assoc, List.singleton_append]

/-- An element that was judged, seen through the records. -/
theorem view_judgedItem (judge : Judge) (r : Rule) (place : Place) (m : Marks) (v : Value)
    {gone gone' shut' : Bool}
    (hgone : gone' = (gone || (judge r place v).kept?.isNone))
    (hshut : shut' = !(judge r place v).state.succeeded) :
    (!gone', if shut' then Draft.leaf .absent
      else Marks.view m (judgedItem judge r place (.leaf v))) =
      (Draft.judgeItem judge r place (!gone, .leaf v)).1 := by
  cases hkept : (judge r place v).kept? with
  | some w =>
    rw [hgone, hshut, FieldOutcome.succeeded_of_kept? hkept, judgedItem_kept hkept,
      Draft.judgeItem_kept hkept, hkept, Option.isNone_some, Bool.or_false]
    rfl
  | none =>
    rw [hgone, hshut, judgedItem_dropped hkept, hkept, Option.isNone_none, Bool.or_true]
    cases hs : (judge r place v).state.succeeded with
    | true =>
      rw [Draft.judgeItem_lingering hkept hs]
      rfl
    | false =>
      rw [Draft.judgeItem_blocked hkept hs]
      rfl

/-- An element where a rule ends, with the records before and after it was judged. -/
structure Judged (judge : Judge) (r : Rule) (m m' : Marks) (h : Nat) (place : Place) (i : Nat)
    (n : Node) : Prop where
  scalar : ∃ v, n = .leaf v
  opened : (h, i) ∉ m.shut
  gone : (h, i) ∈ m'.gone ↔ (h, i) ∈ m.gone ∨ (itemTarget h place (n, i)).drops judge r = true
  shut : (h, i) ∈ m'.shut ↔ (itemTarget h place (n, i)).fails judge r = true
  blocked : place ++ [.index i] ∈ m'.blocked ↔ (itemTarget h place (n, i)).fails judge r = true
  clear : Clear m' (place ++ [.index i])

/-- The elements of a list that was judged, seen through the records. -/
theorem viewItems_judged (judge : Judge) (r : Rule) (m m' : Marks) (h : Nat) (place : Place)
    (xs : List Node) :
    ∀ i, (∀ j n, xs[j]? = some n → Judged judge r m m' h place (i + j) n) →
      let w := atItems (fun i => Draft.judgeItem judge r (place ++ [Step.index i])) i
        (viewItems m h i xs)
      viewItems m' h i
          ((xs.zipIdx i).map fun x => judgedItem judge r (place ++ [Step.index x.2]) x.1) = w.1 ∧
        ((xs.zipIdx i).map (itemTarget h place)).map (Target.visit judge r) = w.2 := by
  induction xs with
  | nil =>
    intro i _
    exact ⟨rfl, rfl⟩
  | cons x xs ih =>
    intro i hxs
    obtain ⟨hx, hrest⟩ := (forall_getElem?_cons (Judged judge r m m' h place)).mp hxs
    obtain ⟨hview, hlog⟩ := ih (i + 1) hrest
    obtain ⟨v, rfl⟩ := hx.scalar
    have hgone : m'.gone.contains (h, i) =
        (m.gone.contains (h, i) || (itemTarget h place (.leaf v, i)).drops judge r) := by
      rw [Bool.eq_iff_iff, List.contains_iff_mem, hx.gone, Bool.or_eq_true, List.contains_iff_mem]
    have hshut : m'.shut.contains (h, i) = (itemTarget h place (.leaf v, i)).fails judge r := by
      rw [Bool.eq_iff_iff, List.contains_iff_mem, hx.shut]
    have hhead := view_judgedItem judge r (place ++ [Step.index i]) m' v hgone hshut
    rw [List.zipIdx_cons, List.map_cons, List.map_cons, List.map_cons, viewItems, viewItems, atItems,
      if_neg (mt List.contains_iff_mem.mp hx.opened), hview, hlog]
    exact ⟨congrArg (· :: _) hhead, rfl⟩

theorem exists_itemTarget {h i : Nat} {place : Place} {xs : List Node} {n : Node}
    (hn : xs[i]? = some n) (p : Target → Bool) :
    (∃ x ∈ xs.zipIdx.map (itemTarget h place), x.container = h ∧ x.step = .index i ∧ p x = true) ↔
      p (itemTarget h place (n, i)) = true := by
  constructor
  · rintro ⟨x, hx, -, hstep, hp⟩
    obtain ⟨⟨n', j⟩, hmem, rfl⟩ := List.mem_map.mp hx
    obtain rfl : j = i := by simpa [itemTarget] using hstep
    obtain rfl : n' = n := Option.some.inj ((List.mk_mem_zipIdx_iff_getElem?.mp hmem).symm.trans hn)
    exact hp
  · intro hp
    exact ⟨_, List.mem_map_of_mem (List.mk_mem_zipIdx_iff_getElem?.mpr hn), rfl, rfl, hp⟩

/-- The elements of a list are judged where a rule ends. -/
theorem judged_of_fits {h : Nat} {xs : List Node} {created : List Created}
    (hfits : Fits m 1 place (.list h xs)) (hown : ∀ i, place ++ [Step.index i] ∉ m.blocked)
    (i : Nat) (n : Node) (hn : xs[i]? = some n) :
    Judged judge r m (m.after judge r (xs.zipIdx.map (itemTarget h place)) created) h place i n := by
  obtain ⟨hshut, -, hleaf⟩ := hfits.2.2 i n hn
  obtain ⟨hclear, hscalar⟩ := fits_zero.mp hleaf
  have hopen : (h, i) ∉ m.shut := fun hs => hown i (hshut.mpr hs)
  refine ⟨hscalar, hopen, ?_, ?_, ?_, ?_⟩
  · rw [mem_after_gone, exists_itemTarget hn]
  · rw [mem_after_shut, exists_itemTarget hn, or_iff_right hopen]
  · rw [mem_after_blocked, or_iff_right (hown i), ← exists_itemTarget hn]
    constructor
    · rintro ⟨x, hx, hplace, hfails⟩
      obtain ⟨y, -, rfl⟩ := List.mem_map.mp hx
      have := List.append_cancel_left hplace
      simp only [List.cons.injEq, Step.index.injEq, and_true] at this
      exact ⟨_, hx, rfl, by rw [← this]; rfl, hfails⟩
    · rintro ⟨x, hx, -, hstep, hfails⟩
      obtain ⟨y, -, rfl⟩ := List.mem_map.mp hx
      simp only [itemTarget, Step.index.injEq] at hstep
      exact ⟨_, hx, by rw [← hstep]; rfl, hfails⟩
  · intro q hq hpre
    rcases mem_after_blocked.mp hq with hq | ⟨x, hx, rfl, -⟩
    · exact hclear q hq hpre
    · obtain ⟨y, -, rfl⟩ := List.mem_map.mp hx
      exact (hpre.eq_of_length (by simp [itemTarget])).symm

/-- A judged element fits: its place is blocked when the element is shut. -/
theorem Judged.fits {m' : Marks} {h i : Nat} {n : Node} (hj : Judged judge r m m' h place i n) :
    let n' := judgedItem judge r (place ++ [Step.index i]) n
    (place ++ [.index i] ∈ m'.blocked ↔ (h, i) ∈ m'.shut) ∧
      (∀ c ces, n' = .dict c ces → m'.made c = false) ∧ Fits m' 0 (place ++ [.index i]) n' := by
  obtain ⟨v, rfl⟩ := hj.scalar
  have hleaf : ∃ v', judgedItem judge r (place ++ [Step.index i]) (.leaf v) = .leaf v' := by
    unfold judgedItem
    split
    · exact ⟨_, rfl⟩
    · exact ⟨v, rfl⟩
  refine ⟨hj.blocked.trans hj.shut.symm, ?_, fits_zero.mpr ⟨hj.clear, hleaf⟩⟩
  obtain ⟨v', hv'⟩ := hleaf
  intro c ces hc
  rw [hv'] at hc
  cases hc

/-- The last segment of a path that ends with the wildcard, at a list. -/
theorem targets_shows_list {h : Nat} {xs : List Node} (hcreated : m.created = st.created)
    (hfits : Fits m 1 place (.list h xs))
    (hown : ∀ i, place ++ [Step.index i] ∉ m.blocked) :
    Shows judge r m 1 place ⟨.list h xs, targets .wildcard place (.list h xs), st⟩
      (let w := atItems (fun i => Draft.judgeItem judge r (place ++ [Step.index i])) 0
        (viewItems m h 0 xs)
      (.list w.1, w.2)) := by
  obtain ⟨hmade, hbound, hitems⟩ := hfits
  let ts := xs.zipIdx.map (itemTarget h place)
  let m' := m.after judge r ts st.created
  have hact : act judge r ts (.list h xs) =
      .list h (xs.zipIdx.map fun x => judgedItem judge r (place ++ [Step.index x.2]) x.1) :=
    act_itemTargets h place xs []
  have hjudged : ∀ i n, xs[i]? = some n → Judged judge r m m' h place i n :=
    judged_of_fits ⟨hmade, hbound, hitems⟩ hown
  obtain ⟨hview, hlog⟩ := viewItems_judged judge r m m' h place xs 0 fun i n hn => by
    rw [Nat.zero_add]
    exact hjudged i n hn
  refine ⟨?_, hlog, ?_, ?_⟩
  · show Marks.view m' (act judge r ts (.list h xs)) = _
    rw [hact, Marks.view]
    exact congrArg Draft.list hview
  · show Fits m' 1 place (act judge r ts (.list h xs))
    rw [hact]
    refine ⟨?_, fun i hi => ?_, fun i n' hn' => ?_⟩
    · rw [made, show m'.created = m.created from hcreated.symm]
      exact hmade
    · rw [List.length_map, List.length_zipIdx]
      rcases mem_after_gone.mp hi with hi | ⟨x, hx, -, hstep, -⟩
      · exact hbound i hi
      · obtain ⟨⟨n, j⟩, hmem, rfl⟩ := List.mem_map.mp hx
        obtain rfl : j = i := by simpa [itemTarget] using hstep
        exact (List.getElem?_eq_some_iff.mp (List.mk_mem_zipIdx_iff_getElem?.mp hmem)).1
    · rw [List.getElem?_map, List.getElem?_zipIdx] at hn'
      simp only [Option.map_map, Option.map_eq_some_iff, Function.comp_apply, Nat.zero_add] at hn'
      obtain ⟨n, hn, rfl⟩ := hn'
      exact (hjudged i n hn).fits
  · intro x hx
    obtain ⟨⟨n, i⟩, hmem, rfl⟩ := List.mem_map.mp (show x ∈ ts from hx)
    have hn := List.mk_mem_zipIdx_iff_getElem?.mp hmem
    obtain ⟨v, rfl⟩ := (hjudged i n hn).scalar
    exact ⟨.list h xs, by rw [show (itemTarget h place _).container = h from rfl, find?, if_pos rfl],
      .leaf v, hn, rfl⟩

/-! ## Going into what stands at a step -/

theorem clear_below {place' : Place} (hclear : Clear m place) (hpre : place <+: place')
    (hne : place ≠ place') : ∀ q ∈ m.blocked, ¬ place' <+: q := by
  intro q hq hq'
  obtain rfl := hclear q hq (hpre.trans hq')
  exact hne (hpre.eq_of_length_le hq'.length_le)

/-- A mapping that was just opened fits, where nothing was blocked below its place. -/
theorem fits_fresh_dict {k h : Nat} (hclear : Clear m place) (hgone : ∀ i, (h, i) ∉ m.gone)
    (es : Entries Value) :
    Fits m (k + 1) place (.dict h (closedEntries es)) := by
  have hfree : ∀ s, ∀ q ∈ m.blocked, ¬ place ++ [Step.key s] <+: q :=
    fun s => clear_below hclear (List.prefix_append ..) (by simp)
  refine ⟨hgone, Named.closed es, fun s _ q hq hpre => absurd hpre (hfree s q hq), fun s n hn => ?_⟩
  obtain ⟨d, -, heq⟩ := List.mem_map.mp (Entries.mem_of_find? hn)
  obtain rfl : Node.leaf d.2 = n := (Prod.mk.inj heq).2
  refine ⟨fun hb => hfree s _ hb (List.prefix_refl _), trivial, fits_leaf.mpr ?_⟩
  exact fun q hq hpre => absurd hpre (hfree s q hq)

/-- A list that was just opened fits, where nothing was blocked below its place and no position of
it is recorded. -/
theorem fits_fresh_list {k h : Nat} (hclear : Clear m place) (hmade : m.made h = false)
    (hgone : ∀ i, (h, i) ∉ m.gone) (hshut : ∀ i, (h, i) ∉ m.shut) (xs : List Value) :
    Fits m (k + 1) place (.list h (xs.map .leaf)) := by
  have hfree : ∀ i, ∀ q ∈ m.blocked, ¬ place ++ [Step.index i] <+: q :=
    fun i => clear_below hclear (List.prefix_append ..) (by simp)
  refine ⟨hmade, fun i hi => absurd hi (hgone i), fun i n hn => ?_⟩
  rw [List.getElem?_map] at hn
  obtain ⟨v, -, rfl⟩ := Option.map_eq_some_iff.mp hn
  refine ⟨⟨fun hb => absurd (List.prefix_refl _) (hfree i _ hb), fun hs => absurd hs (hshut i)⟩,
    ?_, fits_leaf.mpr fun q hq hpre => absurd hpre (hfree i q hq)⟩
  intro c ces hc
  cases hc

theorem viewItems_closed {m : Marks} {h : Nat} (hgone : ∀ i, (h, i) ∉ m.gone)
    (hshut : ∀ i, (h, i) ∉ m.shut) (xs : List Value) :
    ∀ i, viewItems m h i (xs.map .leaf) = xs.map fun v => (true, .leaf v) := by
  induction xs with
  | nil =>
    intro i
    rfl
  | cons x xs ih =>
    intro i
    have hgone' : m.gone.contains (h, i) = false := by simpa using hgone i
    have hshut' : m.shut.contains (h, i) = false := by simpa using hshut i
    rw [List.map_cons, viewItems, ih, hgone', hshut']
    rfl

/-- Going into what stands at a place that is not blocked. -/
theorem enter_shows {blocked : Place → Bool} {visit : Place → Node → WalkState → Walked}
    {dvisit : Draft → Draft × List Visit} {k : Nat} {n : Node} (hready : Ready m n.handles st)
    (hfits : Fits m (k + 1) place n) (hfree : blocked place = false)
    (hvisit : ∀ n st, n.isOpened = true → Ready m n.handles st → Fits m (k + 1) place n →
      Shows judge r m (k + 1) place (visit place n st) (dvisit (view m n))) :
    Shows judge r m (k + 1) place (enter blocked visit place n st)
      (Draft.enter dvisit (view m n)) := by
  unfold enter
  rw [hfree, if_neg Bool.false_ne_true]
  rcases opened_cases st.next n with ⟨hopen, heq⟩ | ⟨v, rfl, hentries, hitems, heq⟩ |
    ⟨_, es, rfl, heq⟩ | ⟨v, xs, rfl, hitems, heq⟩
  · simp only [heq, hopen, if_true]
    rw [Draft.enter_of_isOpened _ (by rw [isOpened_view, hopen])]
    exact hvisit n st hopen hready hfits
  · simp only [heq, isOpened, Bool.false_eq_true, if_false]
    have hd : Draft.enter dvisit (view m (.leaf v)) = (view m (.leaf v), []) := by
      rw [Draft.enter, view, Draft.opened_of_scalar hentries hitems]
      rfl
    rw [hd]
    exact shows_stop hready.created hfits
  · simp only [heq, isOpened, if_true]
    have hhandles : (Node.dict st.next (closedEntries es)).handles = [st.next] := by
      rw [handles, handlesOfEntries_closed]
    have hview : view m (.dict st.next (closedEntries es)) =
        .dict false (Entries.mapValues .leaf es) := by
      rw [view_dict, hready.made_next, viewEntries_closed]
    have hshows := hvisit (.dict st.next (closedEntries es)) { st with next := st.next + 1 } rfl
      (by rw [hhandles]; exact Ready.fresh hready)
      (fits_fresh_dict (fits_leaf.mp hfits) hready.gone_next es)
    rw [hview] at hshows
    exact hshows
  · simp only [heq, isOpened, if_true]
    have hhandles : (Node.list st.next (xs.map .leaf)).handles = [st.next] := by
      rw [handles, handlesOfItems_closed]
    have hview : view m (.list st.next (xs.map .leaf)) = (Draft.leaf v).opened := by
      rw [view, viewItems_closed hready.gone_next hready.shut_next, Draft.opened_of_items? hitems]
    have hd : Draft.enter dvisit (view m (.leaf v)) = dvisit (Draft.leaf v).opened := by
      rw [Draft.enter, view, Draft.opened_of_items? hitems]
      rfl
    have hshows := hvisit (.list st.next (xs.map .leaf)) { st with next := st.next + 1 } rfl
      (by rw [hhandles]; exact Ready.fresh hready)
      (fits_fresh_list (fits_leaf.mp hfits) hready.made_next hready.gone_next hready.shut_next xs)
    rw [hd, ← hview]
    exact hshows

end Walk

end ArgumentSchema
