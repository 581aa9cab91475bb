import ArgumentSchema.Proofs.Matching

/-!
# Mappings where there was nothing

A tree keeps a record of the mappings that were made because a key was missing. Which mappings these
are can be told without the record, by the document before a rule is resolved and the tree after it: a
mapping was made if it stands at a place where nothing stood before (`WorkingTree.Materialized`). A
container that was opened stands where its value has stood, so it was not made, be it ever so empty.

> `Walk.follow_making`: a walk records the mappings that it puts where there was nothing, and no other.
> `WorkingTree.materialized_iff`: in a tree in use, what was made is what is recorded.
-/

namespace ArgumentSchema

open Node

/-- Whether something stands at a place of a value is not changed by opening the value. -/
theorem Value.at?_plained (v : Value) (way : Place) : v.plained.at? way = none ↔ v.at? way = none := by
  cases way with
  | nil => simp [Value.at?]
  | cons step way =>
    have hchild : v.plained.child? step = v.child? step := by cases v <;> cases step <;> rfl
    rw [Value.at?, Value.at?, hchild]

namespace Node

variable {h k : Nat} {s : String} {es : List (Value × Node)} {m n : Node} {way : Place}

/-! ## Ways through new contents -/

theorem isOpened_of_child? {step : Step} (hchild : n.child? step = some m) : n.isOpened = true := by
  cases n with
  | leaf v => cases step <;> cases hchild
  | dict h es => rfl
  | list h xs => rfl

/-- Where containers have been opened, something stands in the document. -/
theorem LeadsTo.at?_ne_none (hleads : LeadsTo way n k) : n.toValue.at? way ≠ none := by
  obtain ⟨c, hleads, -⟩ := hleads
  induction hleads with
  | here n => simp [Value.at?]
  | step child opened rest ih =>
    rw [Value.at?, child?_toValue (isOpened_of_child? child), child]
    exact ih

theorem at?_toValue_key (h : Nat) (s : String) (es : List (Value × Node)) (way : Place) :
    (dict h es).toValue.at? (.key s :: way) =
      (Entries.find? (.str s) es).bind fun n => n.toValue.at? way := by
  rw [Value.at?, child?_toValue rfl, child?]
  cases Entries.find? (.str s) es <;> rfl

theorem at?_toValue_index (h i : Nat) (xs : List Node) (way : Place) :
    (list h xs).toValue.at? (.index i :: way) = xs[i]?.bind fun n => n.toValue.at? way := by
  rw [Value.at?, child?_toValue rfl, child?]
  cases xs[i]? <;> rfl

/-- A way goes one step further up. -/
theorem LeadsTo.up {step : Step} (hleads : LeadsTo way m k) (hchild : n.child? step = some m) :
    LeadsTo (step :: way) n k := by
  obtain ⟨c, hleads, hc⟩ := hleads
  exact ⟨c, .step hchild (hleads.isOpened (isOpened_of_handle? hc)) hleads, hc⟩

/-- With a new node under a key, a way to where nothing was leads through the node. -/
theorem LeadsTo.through_insert (hleads : LeadsTo way (dict h (Entries.insert (.str s) m es)) k)
    (hnone : (dict h es).toValue.at? way = none) : ∃ rest, way = .key s :: rest ∧ LeadsTo rest m k := by
  obtain ⟨c, hleads, hc⟩ := hleads
  cases hleads with
  | here => simp [Value.at?] at hnone
  | @step step rest _ d _ child opened hrest =>
    cases step with
    | index i => cases child
    | key t =>
      rw [child?] at child
      by_cases hst : s = t
      · subst hst
        rw [Entries.find?_insert_self] at child
        obtain rfl := Option.some.inj child
        exact ⟨rest, rfl, c, hrest, hc⟩
      · rw [Entries.find?_insert_ne hst] at child
        have hold : LeadsTo (.key t :: rest) (dict h es) k := .up ⟨c, hrest, hc⟩ child
        exact absurd hnone hold.at?_ne_none

end Node

namespace Walk

variable {blocked : Place → Bool} {st st' : WalkState} {v : Value}

/-! ## Walks -/

/-- What a walk through a value does about mappings: those that stand where nothing stood are recorded,
and of the records that are new, each is one of such a mapping. -/
structure Making (v : Value) (st : WalkState) (n : Node) (st' : WalkState) : Prop where
  kept : ∀ c ∈ st.created, c ∈ st'.created
  recorded : ∀ way k, v.at? way = none → LeadsTo way n k → ∃ c ∈ st'.created, c.child = k
  stands : ∀ c ∈ st'.created, c ∈ st.created ∨ ∃ way, v.at? way = none ∧ LeadsTo way n c.child

theorem making_self (n : Node) (st : WalkState) : Making n.toValue st n st :=
  ⟨fun _ hc => hc, fun _ _ hnone hleads => absurd hnone hleads.at?_ne_none, fun _ hc => .inl hc⟩

theorem making_plained {n : Node} : Making v.plained st n st' ↔ Making v st n st' := by
  constructor
  · intro h
    exact ⟨h.kept, fun way k hnone => h.recorded way k ((v.at?_plained way).mpr hnone), fun c hc =>
      (h.stands c hc).imp_right fun ⟨way, hnone, hleads⟩ => ⟨way, (v.at?_plained way).mp hnone, hleads⟩⟩
  · intro h
    exact ⟨h.kept, fun way k hnone => h.recorded way k ((v.at?_plained way).mp hnone), fun c hc =>
      (h.stands c hc).imp_right fun ⟨way, hnone, hleads⟩ => ⟨way, (v.at?_plained way).mpr hnone, hleads⟩⟩

theorem enter_making {visit : Place → Node → WalkState → Walked} {place : Place}
    (hvisit : ∀ n st, n.isOpened = true →
      Making n.toValue st (visit place n st).node (visit place n st).state) (n : Node) (st : WalkState) :
    Making n.toValue st (enter blocked visit place n st).node
      (enter blocked visit place n st).state := by
  rcases enter_cases blocked visit place n st with hb | ⟨hentries, hitems⟩ |
    ⟨-, m, st₁, hopen, hvalue, hcreated, heq⟩
  · rw [enter_of_blocked visit n st hb]
    exact making_self n st
  · rw [enter_of_scalar visit st hentries hitems]
    exact making_self n st
  · rw [heq]
    have hmaking := hvisit m st₁ hopen
    rw [hvalue, making_plained] at hmaking
    exact ⟨hcreated ▸ hmaking.kept, hmaking.recorded, hcreated ▸ hmaking.stands⟩

/-- What a walk has made of a child is stored under its key. -/
theorem Making.stored {h : Nat} {s : String} {es : List (Value × Node)} {child n : Node}
    (hmaking : Making child.toValue st n st') (hfind : Entries.find? (.str s) es = some child) :
    Making (dict h es).toValue st (.dict h (Entries.insert (.str s) n es)) st' := by
  have hat : ∀ way, (dict h es).toValue.at? (.key s :: way) = child.toValue.at? way := by
    intro way
    rw [at?_toValue_key, hfind, Option.bind_some]
  refine ⟨hmaking.kept, fun way k hnone hleads => ?_, fun c hc => ?_⟩
  · obtain ⟨rest, rfl, hrest⟩ := hleads.through_insert hnone
    exact hmaking.recorded rest k (hat rest ▸ hnone) hrest
  · rcases hmaking.stands c hc with hold | ⟨way, hnone, hleads⟩
    · exact .inl hold
    · exact .inr ⟨.key s :: way, (hat way).trans hnone, hleads.up (Entries.find?_insert_self ..)⟩

/-- A mapping is made under a missing key, and the walk goes on in it. -/
theorem Making.made {h : Nat} {s : String} {es : List (Value × Node)} {n : Node}
    (hmaking : Making (.dict false []) ⟨st.next + 1, st.created ++ [⟨h, s, st.next⟩]⟩ n st')
    (hhandle : n.handle? = some st.next) (hfind : Entries.find? (.str s) es = none) :
    Making (dict h es).toValue st (.dict h (Entries.insert (.str s) n es)) st' := by
  have hat : ∀ way, (dict h es).toValue.at? (.key s :: way) = none := by
    intro way
    rw [at?_toValue_key, hfind, Option.bind_none]
  refine ⟨fun c hc => hmaking.kept c (List.mem_append_left _ hc), fun way k hnone hleads => ?_,
    fun c hc => ?_⟩
  · obtain ⟨rest, rfl, hrest⟩ := hleads.through_insert hnone
    cases rest with
    | nil =>
      -- the way ends at the mapping itself
      obtain ⟨d, hd, hk⟩ := hrest
      cases hd
      obtain rfl := Option.some.inj (hhandle.symm.trans hk)
      exact ⟨_, hmaking.kept _ (List.mem_append_right _ (List.mem_singleton_self _)), rfl⟩
    | cons step rest =>
      refine hmaking.recorded (step :: rest) k ?_ hrest
      cases step <;> rfl
  · rcases hmaking.stands c hc with hold | ⟨way, -, hleads⟩
    · rcases List.mem_append.mp hold with hold | hnew
      · exact .inl hold
      · obtain rfl := List.mem_singleton.mp hnew
        exact .inr ⟨[.key s], hat [], .up ⟨n, .here n, hhandle⟩ (Entries.find?_insert_self ..)⟩
    · exact .inr ⟨.key s :: way, hat way, hleads.up (Entries.find?_insert_self ..)⟩

/-- What walks through the elements of a list do about mappings, one after the other. -/
structure MakingItems (xs : List Node) (st : WalkState) (ys : List Node) (st' : WalkState) :
    Prop where
  length : ys.length = xs.length
  kept : ∀ c ∈ st.created, c ∈ st'.created
  recorded : ∀ (i : Nat) x y, xs[i]? = some x → ys[i]? = some y → ∀ way k, x.toValue.at? way = none →
    LeadsTo way y k → ∃ c ∈ st'.created, c.child = k
  stands : ∀ c ∈ st'.created, c ∈ st.created ∨ ∃ (i : Nat) (x y : Node), xs[i]? = some x ∧
    ys[i]? = some y ∧ ∃ way, x.toValue.at? way = none ∧ LeadsTo way y c.child

theorem items_making {visit : Nat → Node → WalkState → Walked}
    (hvisit : ∀ i n st, Making n.toValue st (visit i n st).node (visit i n st).state)
    (xs : List Node) :
    ∀ i st, MakingItems xs st (items visit i xs st).1 (items visit i xs st).2.2 := by
  induction xs with
  | nil =>
    intro i st
    exact ⟨rfl, fun c hc => hc, by simp, fun c hc => .inl hc⟩
  | cons n xs ih =>
    intro i st
    have hhead := hvisit i n st
    have hrest := ih (i + 1) (visit i n st).state
    refine ⟨length_items .., fun c hc => hrest.kept c (hhead.kept c hc), ?_, fun c hc => ?_⟩
    · intro j x y hx hy way k hnone hleads
      cases j with
      | zero =>
        obtain rfl := Option.some.inj hx
        obtain rfl := Option.some.inj hy
        obtain ⟨c, hc, hk⟩ := hhead.recorded way k hnone hleads
        exact ⟨c, hrest.kept c hc, hk⟩
      | succ j => exact hrest.recorded j x y hx hy way k hnone hleads
    · rcases hrest.stands c hc with hold | ⟨j, x, y, hx, hy, hnew⟩
      · rcases hhead.stands c hold with hold | hnew
        · exact .inl hold
        · exact .inr ⟨0, n, _, rfl, rfl, hnew⟩
      · exact .inr ⟨j + 1, x, y, hx, hy, hnew⟩

theorem MakingItems.list {xs ys : List Node} (hmaking : MakingItems xs st ys st') (h : Nat) :
    Making (Node.list h xs).toValue st (.list h ys) st' := by
  refine ⟨hmaking.kept, fun way k hnone hleads => ?_, fun c hc => ?_⟩
  · obtain ⟨c, hleads, hc⟩ := hleads
    cases hleads with
    | here => simp [Value.at?] at hnone
    | @step step rest _ y _ child opened hrest =>
      cases step with
      | key s => cases child
      | index i =>
        have hy : ys[i]? = some y := child
        obtain ⟨hlt, -⟩ := List.getElem?_eq_some_iff.mp hy
        rw [hmaking.length] at hlt
        rw [at?_toValue_index, List.getElem?_eq_getElem hlt, Option.bind_some] at hnone
        exact hmaking.recorded i _ y (List.getElem?_eq_getElem hlt) hy rest k hnone ⟨c, hrest, hc⟩
  · rcases hmaking.stands c hc with hold | ⟨i, x, y, hx, hy, way, hnone, hleads⟩
    · exact .inl hold
    · refine .inr ⟨.index i :: way, ?_, hleads.up hy⟩
      rw [at?_toValue_index, hx, Option.bind_some, hnone]

/-- A walk records the mappings that it puts where there was nothing, and no other. -/
theorem follow_making (blocked : Place → Bool) (last : Segment) (steps : List (Segment × Bool)) :
    ∀ (place : Place) (n : Node) (st : WalkState),
      Making n.toValue st (follow blocked last steps place n st).node
        (follow blocked last steps place n st).state := by
  induction steps with
  | nil =>
    intro place n st
    exact making_self n st
  | cons step rest ih =>
    obtain ⟨segment, ruled⟩ := step
    intro place n st
    cases n with
    | leaf v => exact making_self _ st
    | dict h es =>
      cases segment with
      | wildcard => exact making_self _ st
      | name s =>
        rw [follow]
        cases hfind : Entries.find? (.str s) es with
        | some child =>
          have hbelow := fun n st (_ : n.isOpened = true) => ih (place ++ [.key s]) n st
          exact (enter_making hbelow child st).stored hfind
        | none =>
          dsimp only
          split
          · -- nothing is made where the key has a rule or is blocked
            exact making_self _ st
          · have hmade := ih (place ++ [.key s]) (.dict st.next [])
              ⟨st.next + 1, st.created ++ [⟨h, s, st.next⟩]⟩
            exact hmade.made (handle?_follow ..) hfind
    | list h xs =>
      cases segment with
      | name s => exact making_self _ st
      | wildcard =>
        have hbelow := fun i n st (_ : n.isOpened = true) => ih (place ++ [.index i]) n st
        exact (items_making (fun i => enter_making (hbelow i)) xs 0 st).list h

end Walk

namespace WorkingTree

variable {table : RuleTable} {t t' : WorkingTree} {tasks : List Task} {task : Task} {k : Nat}

/-! ## Trees in use -/

/-- In a tree in use the mapping with a handle was made: when some rule was resolved, nothing stood in
the document at a place where this mapping stood then. -/
inductive Materialized (table : RuleTable) : WorkingTree → List Task → Nat → Prop
  | here {t : WorkingTree} {tasks : List Task} {r : Rule} {way : Place} {k : Nat}
      (used : InUse table t tasks) (missing : t.toValue.at? way = none)
      (leads : LeadsTo way (t.resolve table r).1.root k) :
      Materialized table (t.resolve table r).1 (tasks ++ (t.resolve table r).2) k
  | resolve {t : WorkingTree} {tasks : List Task} {k : Nat} (h : Materialized table t tasks k)
      (r : Rule) : Materialized table (t.resolve table r).1 (tasks ++ (t.resolve table r).2) k
  | write {t t' : WorkingTree} {tasks : List Task} {task : Task} {v : Value} {k : Nat}
      (h : Materialized table t tasks k) (found : task ∈ tasks) (written : t.write task v = .ok t') :
      Materialized table t' tasks k
  | discard {t : WorkingTree} {tasks : List Task} {task : Task} {k : Nat}
      (h : Materialized table t tasks k) (found : task ∈ tasks) :
      Materialized table (t.discard task) tasks k
  | block {t : WorkingTree} {tasks : List Task} {k : Nat} (h : Materialized table t tasks k)
      (place : Place) : Materialized table (t.block place) tasks k

theorem resolve_making (t : WorkingTree) (table : RuleTable) (r : Rule) :
    Walk.Making t.toValue ⟨t.next, t.created⟩ (t.resolve table r).1.root
      ⟨(t.resolve table r).1.next, (t.resolve table r).1.created⟩ := by
  unfold resolve
  cases r.path.getLast? with
  | none => exact Walk.making_self t.root _
  | some last => exact Walk.follow_making ..

theorem created_discard (t : WorkingTree) (task : Task) : (t.discard task).created = t.created := by
  unfold discard
  split <;> rfl

theorem created_write {v : Value} (hwrite : t.write task v = .ok t') : t'.created = t.created := by
  unfold write at hwrite
  split at hwrite
  · cases hwrite
    exact created_discard t task
  · rcases eq_of_store hwrite with rfl | ⟨n, -, rfl⟩
    · rfl
    · rfl

/-- In a tree in use, what was made is what is recorded. -/
theorem materialized_iff (ht : InUse table t tasks) :
    Materialized table t tasks k ↔ ∃ c ∈ t.created, c.child = k := by
  constructor
  · intro hmade
    clear ht
    induction hmade with
    | here used missing leads => exact (resolve_making _ table _).recorded _ _ missing leads
    | resolve h r ih =>
      obtain ⟨c, hc, hk⟩ := ih
      exact ⟨c, (resolve_making _ table r).kept c hc, hk⟩
    | write h found written ih =>
      rw [created_write written]
      exact ih
    | discard h found ih =>
      rw [created_discard]
      exact ih
    | block h place ih => exact ih
  · intro hrecorded
    obtain ⟨c, hc, rfl⟩ := hrecorded
    induction ht with
    | start es => cases hc
    | resolve h r ih =>
      -- a record is an old one, or one of a mapping that this walk has put somewhere
      rcases (resolve_making _ table r).stands c hc with hold | ⟨way, missing, leads⟩
      · exact (ih hold).resolve r
      · exact .here h missing leads
    | write h found written ih =>
      rw [created_write written] at hc
      exact (ih hc).write found written
    | discard h found ih =>
      rw [created_discard] at hc
      exact (ih hc).discard found
    | block h place ih => exact (ih hc).block place

end WorkingTree

end ArgumentSchema
