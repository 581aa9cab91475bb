import ArgumentSchema.Proofs.Marks

/-!
# What happens at the targets of a rule

The targets of a rule are judged one after the other, and each is written to or discarded (`deed`).
The deeds of one rule do not disturb each other. They leave the skeleton of the tree alone, so that
every target stays where it was found (`skeleton_act`), and what happens at targets below a key or
in an element stays there (`act_dict`, `actItems_head`, `actItems_tail`). `Marks.after` is what the
records become.
-/

namespace ArgumentSchema

namespace Target

variable (judge : Judge) (r : Rule) (x : Target)

/-- The visit of a target. -/
def visit : Visit := ⟨r, x.place, x.value, judge r x.place x.value⟩

/-- Whether a target keeps no value. -/
def drops : Bool := (x.visit judge r).outcome.kept?.isNone

/-- Whether a target fails or is left out. -/
def fails : Bool := !(x.visit judge r).outcome.state.succeeded

/-- What happens to the container of a target. -/
def deed : Node → Node :=
  match (x.visit judge r).outcome.kept? with
  | some w => Node.setChild x.step (.leaf w)
  | none =>
    match x.step with
    | .key s => Node.eraseKey s
    | .index _ => id

end Target

namespace Walk

open Node

variable (judge : Judge) (r : Rule)

/-- What happens at targets, one after the other. -/
def act (ts : List Target) (n : Node) : Node :=
  ts.foldl (fun n x => n.modify x.container (x.deed judge r)) n

/-- What happens to the elements of a list at targets among them. -/
def actItems (ts : List Target) (ns : List Node) : List Node :=
  ts.foldl (fun ns x => modifyItems x.container (x.deed judge r) ns) ns

end Walk

namespace Marks

/-- The positions of targets in lists. -/
def positions (p : Target → Bool) (ts : List Target) : List (Nat × Nat) :=
  ts.filterMap fun x =>
    match x.step with
    | .index i => if p x then some (x.container, i) else none
    | .key _ => none

/-- The records after what happens at targets. -/
def after (judge : Judge) (r : Rule) (m : Marks) (ts : List Target) (created : List Created) :
    Marks where
  blocked := ((ts.filter (Target.fails judge r)).map (·.place)).reverse ++ m.blocked
  gone := m.gone ++ positions (Target.drops judge r) ts
  shut := m.shut ++ positions (Target.fails judge r) ts
  created := created

theorem mem_positions {p : Target → Bool} {ts : List Target} {h i : Nat} :
    (h, i) ∈ positions p ts ↔ ∃ x ∈ ts, x.container = h ∧ x.step = .index i ∧ p x = true := by
  rw [positions, List.mem_filterMap]
  constructor
  · rintro ⟨x, hx, heq⟩
    cases hstep : x.step with
    | key s =>
      rw [hstep] at heq
      cases heq
    | index j =>
      rw [hstep] at heq
      dsimp only at heq
      split at heq
      · next hp =>
        obtain ⟨rfl, rfl⟩ := Prod.mk.inj (Option.some.inj heq)
        exact ⟨x, hx, rfl, hstep, hp⟩
      · cases heq
  · rintro ⟨x, hx, rfl, hstep, hp⟩
    exact ⟨x, hx, by rw [hstep]; dsimp only; rw [if_pos hp]⟩

variable {judge : Judge} {r : Rule} {m : Marks} {ts ts' : List Target} {created : List Created}

theorem mem_after_blocked {q : Place} :
    q ∈ (m.after judge r ts created).blocked ↔
      q ∈ m.blocked ∨ ∃ x ∈ ts, x.place = q ∧ x.fails judge r = true := by
  simp only [after, List.mem_append, List.mem_reverse, List.mem_map, List.mem_filter]
  constructor
  · rintro (⟨x, ⟨hx, hfails⟩, rfl⟩ | hq)
    · exact Or.inr ⟨x, hx, rfl, hfails⟩
    · exact Or.inl hq
  · rintro (hq | ⟨x, hx, rfl, hfails⟩)
    · exact Or.inr hq
    · exact Or.inl ⟨x, ⟨hx, hfails⟩, rfl⟩

theorem mem_after_gone {h i : Nat} :
    (h, i) ∈ (m.after judge r ts created).gone ↔ (h, i) ∈ m.gone ∨
      ∃ x ∈ ts, x.container = h ∧ x.step = .index i ∧ x.drops judge r = true := by
  rw [after, List.mem_append, mem_positions]

theorem mem_after_shut {h i : Nat} :
    (h, i) ∈ (m.after judge r ts created).shut ↔ (h, i) ∈ m.shut ∨
      ∃ x ∈ ts, x.container = h ∧ x.step = .index i ∧ x.fails judge r = true := by
  rw [after, List.mem_append, mem_positions]

/-- Targets that are not in a container do not change the records about it. -/
theorem agreesAt_after {h : Nat} (hts : ∀ x ∈ ts, x.container ≠ h)
    (hmade : (m.created.any fun c => c.child == h) = created.any fun c => c.child == h) :
    AgreesAt m (m.after judge r ts created) h := by
  refine ⟨fun i => ?_, fun i => ?_, hmade⟩
  · rw [mem_after_gone]
    exact (or_iff_left fun ⟨x, hx, hh, _⟩ => hts x hx hh).symm
  · rw [mem_after_shut]
    exact (or_iff_left fun ⟨x, hx, hh, _⟩ => hts x hx hh).symm

end Marks

namespace Walk

open Node

variable {judge : Judge} {r : Rule}

/-! ## Deeds -/

theorem skeleton_deed {x : Target} {c : Node} (h : Meets x.step c) :
    (x.deed judge r c).skeleton = c.skeleton := by
  cases hkept : (x.visit judge r).outcome.kept? with
  | some w =>
    simp only [Target.deed, hkept]
    exact skeleton_setChild h w
  | none =>
    cases hstep : x.step with
    | key s =>
      simp only [Target.deed, hkept, hstep]
      rw [hstep] at h
      exact skeleton_eraseKey h
    | index i => simp only [Target.deed, hkept, hstep, id]

theorem skeleton_modify_deed (judge : Judge) (r : Rule) {x : Target} {n : Node} (hnd : n.handles.Nodup)
    (haim : Aims x.container x.step n) :
    (n.modify x.container (x.deed judge r)).skeleton = n.skeleton := by
  obtain ⟨c, hc, hmeets⟩ := haim
  refine skeleton_modify hnd fun c' hc' => ?_
  obtain rfl : c = c' := Option.some.inj (hc.symm.trans hc')
  exact skeleton_deed hmeets

/-- What happens at targets leaves the skeleton alone. -/
theorem skeleton_act {ts : List Target} {n : Node} (hnd : n.handles.Nodup)
    (haim : ∀ x ∈ ts, Aims x.container x.step n) : (act judge r ts n).skeleton = n.skeleton := by
  induction ts generalizing n with
  | nil => rfl
  | cons x ts ih =>
    have hskeleton := skeleton_modify_deed judge r hnd (haim x (List.mem_cons_self ..))
    rw [act, List.foldl_cons]
    refine (ih ?_ fun y hy => ?_).trans hskeleton
    · rw [handles_eq_of_skeleton hskeleton]
      exact hnd
    · rw [← aims_skeleton, hskeleton, aims_skeleton]
      exact haim y (List.mem_cons_of_mem _ hy)

theorem handles_act {ts : List Target} {n : Node} (hnd : n.handles.Nodup)
    (haim : ∀ x ∈ ts, Aims x.container x.step n) : (act judge r ts n).handles = n.handles :=
  handles_eq_of_skeleton (skeleton_act hnd haim)

theorem handlesOfEntries_insert_congr {s : String} {n n' : Node} (h : n.handles = n'.handles)
    (es : List (Value × Node)) : handlesOfEntries (Entries.insert (.str s) n es) =
      handlesOfEntries (Entries.insert (.str s) n' es) := by
  induction es with
  | nil => simp [Entries.insert, handlesOfEntries, h]
  | cons e es ih =>
    obtain ⟨k, d⟩ := e
    by_cases hk : k = .str s
    · rw [hk, Entries.insert_cons_self, Entries.insert_cons_self, handlesOfEntries,
        handlesOfEntries, h]
    · rw [Entries.insert_cons_ne hk, Entries.insert_cons_ne hk, handlesOfEntries, handlesOfEntries,
        ih]

/-- What happens at targets below a key happens to what stands under the key. -/
theorem act_dict {ts : List Target} {h : Nat} {s : String} {es : List (Value × Node)} {n : Node}
    (hnd : (Node.dict h (Entries.insert (.str s) n es)).handles.Nodup) (hn : n.handles.Nodup)
    (hmem : ∀ x ∈ ts, x.container ∈ n.handles) (haim : ∀ x ∈ ts, Aims x.container x.step n) :
    act judge r ts (.dict h (Entries.insert (.str s) n es)) =
      .dict h (Entries.insert (.str s) (act judge r ts n) es) := by
  induction ts generalizing n with
  | nil => rfl
  | cons x ts ih =>
    have hskeleton := skeleton_modify_deed judge r hn (haim x (List.mem_cons_self ..))
    have hhandles := handles_eq_of_skeleton hskeleton
    rw [act, List.foldl_cons, modify_child (Entries.find?_insert_self s n es) hnd
      (hmem x (List.mem_cons_self ..)), Entries.insert_insert_self]
    refine ih ?_ ?_ ?_ ?_
    · rw [handles] at hnd ⊢
      rw [handlesOfEntries_insert_congr hhandles]
      exact hnd
    · rw [hhandles]
      exact hn
    · rw [hhandles]
      exact fun y hy => hmem y (List.mem_cons_of_mem _ hy)
    · intro y hy
      rw [← aims_skeleton, hskeleton, aims_skeleton]
      exact haim y (List.mem_cons_of_mem _ hy)

theorem actItems_append (ts ts' : List Target) (ns : List Node) :
    actItems judge r (ts ++ ts') ns = actItems judge r ts' (actItems judge r ts ns) :=
  List.foldl_append

/-- What happens at targets in the first element leaves the others alone. -/
theorem actItems_head {ts : List Target} {n : Node} {ns : List Node}
    (hts : ∀ x ∈ ts, x.container ∉ handlesOfItems ns) :
    actItems judge r ts (n :: ns) = act judge r ts n :: ns := by
  induction ts generalizing n with
  | nil => rfl
  | cons x ts ih =>
    rw [actItems, List.foldl_cons, modifyItems,
      modifyItems_of_not_mem (hts x (List.mem_cons_self ..))]
    exact ih fun y hy => hts y (List.mem_cons_of_mem _ hy)

/-- What happens at targets in later elements leaves the first one alone. -/
theorem actItems_tail {ts : List Target} {n : Node} {ns : List Node}
    (hts : ∀ x ∈ ts, x.container ∉ n.handles) :
    actItems judge r ts (n :: ns) = n :: actItems judge r ts ns := by
  induction ts generalizing ns with
  | nil => rfl
  | cons x ts ih =>
    rw [actItems, List.foldl_cons, modifyItems, modify_of_not_mem (hts x (List.mem_cons_self ..))]
    exact ih fun y hy => hts y (List.mem_cons_of_mem _ hy)

/-- What happens at targets in the elements of a list happens to the elements. -/
theorem act_items {ts : List Target} {h : Nat} {ns : List Node}
    (hts : ∀ x ∈ ts, x.container ≠ h) :
    act judge r ts (.list h ns) = .list h (actItems judge r ts ns) := by
  induction ts generalizing ns with
  | nil => rfl
  | cons x ts ih =>
    rw [act, List.foldl_cons, Node.modify, if_neg (Ne.symm (hts x (List.mem_cons_self ..)))]
    exact ih fun y hy => hts y (List.mem_cons_of_mem _ hy)

end Walk

end ArgumentSchema
