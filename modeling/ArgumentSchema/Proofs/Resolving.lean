import ArgumentSchema.Proofs.Matching
import ArgumentSchema.Proofs.Recorded

/-!
# What resolving a rule gives

A rule is resolved in a tree by one walk. The walk leaves the document as it was, apart from what it
has made of the containers on its way (`Value.walked`): these are opened, and where a key is missing
that has no rule there is an empty mapping now. All that is left as it would be left by another walk
for the same rule, so that such a walk finds the same and changes nothing.

> `Walk.follow_value`: what a walk makes of a value.
> `Walk.follow_again`: a second walk finds what the first one has found, and changes nothing.
> `WorkingTree.resolve_matches`: what resolving a rule in a tree in use gives.
-/

namespace ArgumentSchema

namespace Value

/-- What a walk makes of a value at a place, going on with some segments: the containers that it comes
to are opened, and a missing key that has no rule gets an empty mapping. -/
def walked (hasPath : List Segment → Bool) (blocked : List Place) :
    List Segment → Place → Value → Value
  | [], _, v => v.plained
  | segment :: rest, place, v =>
    match v.plained, segment with
    | .dict _ es, .name s =>
      match v.through? hasPath place.path (.key s) with
      | some w =>
        if place ++ [.key s] ∈ blocked then .dict false es
        else .dict false (Entries.insert (.str s) (walked hasPath blocked rest (place ++ [.key s]) w) es)
      | none => .dict false es
    | .list xs, .wildcard =>
      .list (xs.zipIdx.map fun x =>
        if place ++ [.index x.2] ∈ blocked then x.1
        else walked hasPath blocked rest (place ++ [.index x.2]) x.1)
    | w, _ => w

variable {hasPath : List Segment → Bool} {blocked : List Place}

theorem plained_plained (v : Value) : v.plained.plained = v.plained := by
  cases v <;> rfl

/-- It makes no difference to a walk whether a container was plain before. -/
theorem walked_plained (segments : List Segment) (place : Place) (v : Value) :
    v.plained.walked hasPath blocked segments place = v.walked hasPath blocked segments place := by
  cases segments with
  | nil => rw [walked, walked, plained_plained]
  | cons segment rest => simp only [walked, plained_plained, through?_plained]

/-- A walk leaves a value alone that is no container. -/
theorem walked_scalar {v : Value} (hentries : v.entries? = none) (hitems : v.items? = none)
    (segments : List Segment) (place : Place) : v.walked hasPath blocked segments place = v := by
  cases v with
  | dict ordered es => cases hentries
  | list xs => cases hitems
  | tuple xs => cases hitems
  | _ => cases segments <;> rfl

theorem walked_dict (ordered : Bool) (es : Entries Value) (s : String) (rest : List Segment)
    (place : Place) : (dict ordered es).walked hasPath blocked (.name s :: rest) place =
      match (dict ordered es).through? hasPath place.path (.key s) with
      | some w =>
        if place ++ [.key s] ∈ blocked then .dict false es
        else .dict false
          (Entries.insert (.str s) (w.walked hasPath blocked rest (place ++ [.key s])) es)
      | none => .dict false es := rfl

theorem walked_list (xs : List Value) (rest : List Segment) (place : Place) :
    (list xs).walked hasPath blocked (.wildcard :: rest) place = .list (xs.zipIdx.map fun x =>
      if place ++ [.index x.2] ∈ blocked then x.1
      else x.1.walked hasPath blocked rest (place ++ [.index x.2])) := rfl

end Value

namespace Walk

open Node

variable {blocked : Place → Bool} {visit : Place → Node → WalkState → Walked} {place : Place}
  {hasPath : List Segment → Bool} {taken : List Place} {last : Segment}

/-! ## The document -/

theorem enter_value {f : Value → Value}
    (hvisit : ∀ n st, n.isOpened = true → (visit place n st).node.toValue = f n.toValue)
    (hplained : ∀ v, f v.plained = f v)
    (hscalar : ∀ v : Value, v.entries? = none → v.items? = none → f v = v) (n : Node) (st : WalkState) :
    (enter blocked visit place n st).node.toValue =
      if blocked place then n.toValue else f n.toValue := by
  rcases enter_cases blocked visit place n st with hb | ⟨hentries, hitems⟩ |
    ⟨hb, m, st', hopen, hvalue, -, heq⟩
  · rw [enter_of_blocked visit n st hb, if_pos hb]
  · rw [enter_of_scalar visit st hentries hitems, hscalar _ hentries hitems, ite_self]
  · rw [heq, hvisit m st' hopen, hvalue, hplained, hb, if_neg Bool.false_ne_true]

theorem items_value {f : Nat → Value → Value} {visit : Nat → Node → WalkState → Walked}
    (hvisit : ∀ i n st, (visit i n st).node.toValue = f i n.toValue) (xs : List Node) :
    ∀ i st, (items visit i xs st).1.map toValue =
      ((xs.map toValue).zipIdx i).map fun x => f x.2 x.1 := by
  induction xs with
  | nil =>
    intro i st
    rfl
  | cons n xs ih =>
    intro i st
    rw [List.map_cons, List.zipIdx_cons, List.map_cons, ← ih (i + 1) (visit i n st).state,
      ← hvisit i n st]
    rfl

/-- What is to be shown of walks along some segments: they make of a container what its value comes
to. -/
def Makes (hasPath : List Segment → Bool) (taken : List Place) (last : Segment)
    (segments : List Segment) : Prop :=
  ∀ (start : Place) (n : Node) (st : WalkState), n.isOpened = true →
    (follow taken.contains last (stepsFrom hasPath start.path segments) start n st).node.toValue =
      n.toValue.walked hasPath taken segments start

section Makes

variable {rest : List Segment} (hrest : Makes hasPath taken last rest) {start : Place}

include hrest

/-- A walk goes on through what stands at a step unless the step is taken. -/
theorem step_value (step : Step) (n : Node) (st : WalkState) :
    (enter taken.contains (follow taken.contains last
      (stepsFrom hasPath (start.path ++ [step.segment]) rest)) (start ++ [step]) n st).node.toValue =
      if start ++ [step] ∈ taken then n.toValue
      else n.toValue.walked hasPath taken rest (start ++ [step]) := by
  rw [← start.path_step step, enter_value (f := Value.walked hasPath taken rest (start ++ [step]))
      (fun n st => hrest (start ++ [step]) n st)
      (fun v => Value.walked_plained rest (start ++ [step]) v)
      (fun v hentries hitems => Value.walked_scalar hentries hitems rest (start ++ [step]))]
  simp only [List.contains_iff_mem]

theorem key_value (h : Nat) (s : String) (es : List (Value × Node)) (st : WalkState) :
    (follow taken.contains last (stepsFrom hasPath start.path (.name s :: rest)) start (.dict h es)
      st).node.toValue =
      (Node.dict h es).toValue.walked hasPath taken (.name s :: rest) start := by
  -- what is stored under the key is stored there in the document
  have hinsert : ∀ m : Node, (dict h (Entries.insert (.str s) m es)).toValue =
      .dict false (Entries.insert (.str s) m.toValue (entriesToValues es)) := by
    intro m
    rw [toValue, entriesToValues_eq, entriesToValues_eq, Entries.mapValues_insert]
  have hthrough := through?_dict hasPath start.path h s es
  rw [toValue] at hthrough
  rw [stepsFrom, follow, toValue, Value.walked_dict, hthrough]
  cases hfind : Entries.find? (.str s) es with
  | some child =>
    dsimp only
    rw [hinsert]
    refine (congrArg (fun v => Value.dict false (Entries.insert (.str s) v (entriesToValues es)))
      (step_value hrest (.key s) child st)).trans ?_
    by_cases htaken : start ++ [Step.key s] ∈ taken
    · rw [if_pos htaken, if_pos htaken, ← hinsert, Entries.insert_of_find?_eq_some hfind, toValue]
    · rw [if_neg htaken, if_neg htaken]
  | none =>
    dsimp only
    cases hruled : hasPath (start.path ++ [.name s]) with
    | true => rfl
    | false =>
      by_cases htaken : start ++ [Step.key s] ∈ taken
      · simp [htaken, toValue]
      · have hmade := hrest (start ++ [Step.key s]) (.dict st.next [])
          ⟨st.next + 1, st.created ++ [⟨h, s, st.next⟩]⟩ rfl
        rw [Place.path_key] at hmade
        simp only [htaken, List.contains_iff_mem, Bool.false_or, Bool.false_eq_true, if_false,
          hinsert, hmade]
        rfl

end Makes

/-- What a walk makes of an opened container. -/
theorem follow_value (hasPath : List Segment → Bool) (taken : List Place) (last : Segment)
    (segments : List Segment) : Makes hasPath taken last segments := by
  induction segments with
  | nil =>
    intro start n st hopen
    exact (plained_toValue hopen).symm
  | cons segment rest ih =>
    intro start n st hopen
    cases n with
    | leaf v => cases hopen
    | dict h es =>
      cases segment with
      | wildcard => rfl
      | name s => exact key_value ih h s es st
    | list h xs =>
      cases segment with
      | name s => rfl
      | wildcard =>
        rw [stepsFrom, follow, toValue, toValue, Value.walked_list, itemsToValues_eq,
          itemsToValues_eq]
        exact congrArg Value.list (items_value (f := fun i v =>
          if start ++ [.index i] ∈ taken then v
          else v.walked hasPath taken rest (start ++ [.index i]))
          (fun i n st => step_value ih (.index i) n st) xs 0 st)

/-! ## The same walk again -/

/-- Entering what has been entered finds the same and changes nothing, if going through it again
does so. -/
theorem enter_again (hhandle : ∀ n st, (visit place n st).node.handle? = n.handle?)
    (hvisit : ∀ n st st', n.isOpened = true → visit place (visit place n st).node st' =
      ⟨(visit place n st).node, (visit place n st).targets, st'⟩)
    (n : Node) (st st' : WalkState) :
    enter blocked visit place (enter blocked visit place n st).node st' =
      ⟨(enter blocked visit place n st).node, (enter blocked visit place n st).targets, st'⟩ := by
  rcases enter_cases blocked visit place n st with hb | ⟨hentries, hitems⟩ |
    ⟨hb, m, st₁, hopen, -, -, heq⟩
  · rw [enter_of_blocked visit n st hb, enter_of_blocked visit n st' hb]
  · rw [enter_of_scalar visit st hentries hitems, enter_of_scalar visit st' hentries hitems]
  · rw [heq, enter_of_isOpened visit st' hb (isOpened_congr (hhandle m st₁) hopen)]
    exact hvisit m st₁ st' hopen

theorem items_again {visit : Nat → Node → WalkState → Walked}
    (hvisit : ∀ i n st st',
      visit i (visit i n st).node st' = ⟨(visit i n st).node, (visit i n st).targets, st'⟩)
    (xs : List Node) : ∀ i st st', items visit i (items visit i xs st).1 st' =
      ((items visit i xs st).1, (items visit i xs st).2.1, st') := by
  induction xs with
  | nil =>
    intro i st st'
    rfl
  | cons n xs ih =>
    intro i st st'
    simp only [items, hvisit, ih]

/-- A second walk finds what the first one has found, and changes nothing. -/
theorem follow_again (blocked : Place → Bool) (last : Segment) (steps : List (Segment × Bool)) :
    ∀ (place : Place) (n : Node) (st st' : WalkState), n.isOpened = true →
      follow blocked last steps place (follow blocked last steps place n st).node st' =
        ⟨(follow blocked last steps place n st).node,
          (follow blocked last steps place n st).targets, st'⟩ := by
  induction steps with
  | nil =>
    intro place n st st' hopen
    rfl
  | cons step rest ih =>
    obtain ⟨segment, ruled⟩ := step
    intro place n st st' hopen
    have henter : ∀ (step : Step) (m : Node) (st st' : WalkState),
        enter blocked (follow blocked last rest) (place ++ [step])
          (enter blocked (follow blocked last rest) (place ++ [step]) m st).node st' =
        ⟨(enter blocked (follow blocked last rest) (place ++ [step]) m st).node,
          (enter blocked (follow blocked last rest) (place ++ [step]) m st).targets, st'⟩ := by
      intro step
      exact enter_again (handle?_follow blocked last rest (place ++ [step])) (ih (place ++ [step]))
    cases n with
    | leaf v => cases hopen
    | dict h es =>
      cases segment with
      | wildcard => rfl
      | name s =>
        simp only [follow]
        cases hfind : Entries.find? (.str s) es with
        | some child =>
          simp only [Entries.find?_insert_self, henter, Entries.insert_insert_self]
        | none =>
          cases hbarred : ruled || blocked (place ++ [.key s]) with
          | true => simp only [hfind, hbarred, if_true]
          | false =>
            -- the mapping that has been made is entered this time
            have hfree : blocked (place ++ [.key s]) = false := (Bool.or_eq_false_iff.mp hbarred).2
            have hmade : ∀ st₁, (follow blocked last rest (place ++ [.key s]) (.dict st.next [])
                st₁).node.isOpened = true := fun st₁ => isOpened_congr (handle?_follow ..) rfl
            simp only [Bool.false_eq_true, if_false, Entries.find?_insert_self,
              enter_of_isOpened _ _ hfree (hmade _), ih (place ++ [.key s]) (.dict st.next []) _ _ rfl,
              Entries.insert_insert_self]
    | list h xs =>
      cases segment with
      | name s => rfl
      | wildcard => simp only [follow, items_again (fun i n st st' => henter (.index i) n st st')]

end Walk

/-! ## Rules -/

namespace WorkingTree

variable {t : WorkingTree} {table : RuleTable} {r : Rule}

/-- What comes of resolving a rule in a tree: a tree and some tasks. -/
structure Resolves (t : WorkingTree) (table : RuleTable) (r : Rule) (t' : WorkingTree)
    (found : List Task) : Prop where
  /-- There are tasks for the places where the rule applies, and for no others. -/
  places : ∀ place, (∃ task ∈ found, task.place = place) ↔
    Matches table.hasPath t.blocked [] t.toValue r.path place
  once : (found.map (·.place)).Nodup
  sorted : found.Pairwise fun a b => a.place.Before b.place
  /-- A task has the container that its place leads to and the value that stands there. -/
  tasks : ∀ task ∈ found, task.rule = r ∧ task.dotted = task.place.write table.options ∧
    ∃ way c, task.place = way ++ [task.step] ∧ Node.Leads way t'.root c ∧
      t'.container? task.container = some c ∧
      task.value = ((c.child? task.step).map Node.toValue).getD .absent
  document : t'.toValue = t.toValue.walked table.hasPath t.blocked r.path.dropLast []
  frame : t'.blocked = t.blocked ∧ t'.removals = t.removals ∧ t'.detached = t.detached
  again : t'.resolve table r = (t', found)

/-- Without a path there is nothing to resolve. -/
theorem resolves_nil (ht : t.Numbered) (hpath : r.path = []) : Resolves t table r t [] := by
  refine ⟨fun place => ?_, .nil, .nil, by simp, ?_, ⟨rfl, rfl, rfl⟩, ?_⟩
  · constructor
    · rintro ⟨task, htask, -⟩
      cases htask
    · rintro ⟨hway, -, upper, step, c, rfl, -⟩
      rw [hpath, Place.path_append] at hway
      simp [Place.path] at hway
  · rw [hpath]
    exact (Node.plained_toValue ht.opened).symm
  · rw [resolve, hpath]
    rfl

/-- What a walk finds is what comes of resolving a rule. -/
theorem resolves_walk (ht : t.Numbered) {rest : List Segment} {last : Segment}
    (hpath : r.path = rest ++ [last]) :
    Resolves t table r (t.resolve table r).1 (t.resolve table r).2 := by
  let w := Walk.follow t.blocked.contains last (Walk.stepsFrom table.hasPath (Place.path []) rest) []
    t.root ⟨t.next, t.created⟩
  let t' : WorkingTree := { t with root := w.node, next := w.state.next, created := w.state.created }
  have hresolve : t.resolve table r = (t', w.targets.map (Target.task table r)) :=
    resolve_eq t table hpath
  have hagain : t'.resolve table r = (t', w.targets.map (Target.task table r)) := by
    have hsame := Walk.follow_again t.blocked.contains last
      (Walk.stepsFrom table.hasPath (Place.path []) rest) [] t.root ⟨t.next, t.created⟩ w.state ht.opened
    rw [resolve_eq t' table hpath]
    dsimp only
    rw [show Walk.follow t'.blocked.contains last (Walk.stepsFrom table.hasPath (Place.path []) rest) []
      t'.root ⟨t'.next, t'.created⟩ = ⟨w.node, w.targets, w.state⟩ from hsame]
  rw [hresolve]
  have hgrows : Grows t.root.handles ⟨t.next, t.created⟩ w.node.handles w.state :=
    Walk.follow_grows _ _ _ _ _ _ ht.nodup ht.lt
  have hsorted : w.targets.Pairwise fun x y => x.place.Before y.place :=
    Walk.follow_sorted _ _ _ _ _ _
  refine ⟨fun place => ?_, ?_, ?_, ?_, ?_, ⟨rfl, rfl, rfl⟩, hagain⟩
  · have hfound : (∃ x ∈ w.targets, x.place = place) ↔
        Walk.Finds table.hasPath t.blocked [] t.toValue r.path place := by
      rw [hpath]
      exact Walk.exists_target_iff _ _ _ _ _ _ _ _ ht.opened
    simpa [Walk.Finds, Target.task] using hfound
  · rw [List.map_map]
    exact List.pairwise_map.mpr (hsorted.imp Place.Before.ne)
  · exact List.pairwise_map.mpr hsorted
  · intro task htask
    obtain ⟨x, hx, rfl⟩ := List.mem_map.mp htask
    obtain ⟨way, c, hplace, hleads, hc, hvalue⟩ := Walk.follow_points _ _ _ _ _ _ x hx
    refine ⟨rfl, rfl, way, c, hplace, hleads, ?_, hvalue⟩
    have hfind : w.node.find? x.container = some c := hleads.find? hgrows.nodup hc
    show (w.node.find? x.container).or _ = some c
    rw [hfind, Option.some_or]
  · rw [hpath, List.dropLast_concat]
    exact Walk.follow_value _ _ _ _ _ _ _ ht.opened

end WorkingTree

end ArgumentSchema
