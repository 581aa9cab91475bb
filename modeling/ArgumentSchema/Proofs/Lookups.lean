import ArgumentSchema.Proofs.Ways

/-!
# Walks whose lookups can fail

`Walk.follow` is handed the children of a container. A program that walks over mutable containers
looks them up: a key that it has found to be there, and the positions of a list from the first to the
last, each when its turn comes, in the list as it is by then. Here the walk is told in this way, with
lookups that can fail, and what was looked up is put back where it was found:

> `Walk.followLooking_eq`: no lookup of a walk ever fails, and the walk is the same.
> `WorkingTree.resolveLooking_eq`: nor does one fail when a rule is resolved.
-/

namespace ArgumentSchema

open Node WorkingTree

namespace Walk

/-- The places that a last segment names, the elements of a list being looked up by their positions.
A key that is missing is no error here. -/
def targetsLooking (segment : Segment) (place : Place) : Node → Except Raised (List Target)
  | .list h xs =>
    match segment with
    | .wildcard => (List.range' 0 xs.length).mapM fun i =>
        (lookUp (.list h xs) (Step.index i).subscript).map fun x =>
          ⟨h, .index i, place ++ [.index i], x.toValue⟩
    | .name _ => .ok []
  | n => .ok (targets segment place n)

/-- What becomes of a container when a walk through what stands at a step is put back into it. -/
def backInto (n : Node) (step : Step) (w : Walked) : Walked :=
  ⟨putBack step.subscript w.node n, w.targets, w.state⟩

/-- Goes into what stands at a step of a container, unless the place is blocked. It is looked up and
opened, and what becomes of it is put back. -/
def stepInto (blocked : Place → Bool) (visit : Place → Node → WalkState → Except Raised Walked)
    (place : Place) (step : Step) (n : Node) (st : WalkState) : Except Raised Walked :=
  if blocked (place ++ [step]) then .ok ⟨n, [], st⟩
  else
    match lookUp n step.subscript with
    | .error e => .error e
    | .ok child =>
      let (child, next) := child.opened st.next
      if child.isOpened then
        (visit (place ++ [step]) child { st with next }).map (backInto n step)
      else .ok ⟨n, [], { st with next }⟩

/-- Goes through positions of a list in turn, each in the list as it has become by then. -/
def overPositions (go : Nat → Node → WalkState → Except Raised Walked) :
    List Nat → Node → WalkState → Except Raised Walked
  | [], n, st => .ok ⟨n, [], st⟩
  | i :: is, n, st =>
    match go i n st with
    | .error e => .error e
    | .ok w =>
      (overPositions go is w.node w.state).map fun w' =>
        ⟨w'.node, w.targets ++ w'.targets, w'.state⟩

/-- Follows segments from an opened container, as `follow` does, with lookups that can fail. -/
def followLooking (blocked : Place → Bool) (last : Segment) :
    List (Segment × Bool) → Place → Node → WalkState → Except Raised Walked
  | [], place, n, st => (targetsLooking last place n).map fun ts => ⟨n, ts, st⟩
  | (segment, ruled) :: rest, place, n, st =>
    match n, segment with
    | .dict h es, .name s =>
      if Entries.contains (.str s) es then
        stepInto blocked (followLooking blocked last rest) place (.key s) n st
      else if ruled || blocked (place ++ [.key s]) then .ok ⟨n, [], st⟩
      else
        let created := st.created ++ [⟨h, s, st.next⟩]
        (followLooking blocked last rest (place ++ [.key s]) (.dict st.next [])
          ⟨st.next + 1, created⟩).map (backInto n (.key s))
    | .list _ xs, .wildcard =>
      overPositions (fun i => stepInto blocked (followLooking blocked last rest) place (.index i))
        (List.range' 0 xs.length) n st
    | _, _ => .ok ⟨n, [], st⟩

variable {blocked : Place → Bool} {visit : Place → Node → WalkState → Walked}
  {looking : Place → Node → WalkState → Except Raised Walked}

theorem targetsLooking_eq (segment : Segment) (place : Place) (n : Node) :
    targetsLooking segment place n = .ok (targets segment place n) := by
  cases n with
  | leaf v => rfl
  | dict h es => rfl
  | list h xs =>
    cases segment with
    | name s => rfl
    | wildcard =>
      have hgeneral : ∀ pre post : List Node, pre ++ post = xs →
          (List.range' pre.length post.length).mapM (fun i =>
            (lookUp (.list h xs) (Step.index i).subscript).map fun x =>
              (⟨h, .index i, place ++ [.index i], x.toValue⟩ : Target)) =
            .ok ((post.zipIdx pre.length).map fun x =>
              ⟨h, .index x.2, place ++ [.index x.2], x.1.toValue⟩) := by
        intro pre post
        induction post generalizing pre with
        | nil => exact fun _ => rfl
        | cons x post ih =>
          intro hxs
          have hchild : (Node.list h xs).child? (.index pre.length) = some x := by
            rw [child?, ← hxs, List.getElem?_append_right (Nat.le_refl _), Nat.sub_self]
            rfl
          have hrest := ih (pre ++ [x]) (by rw [List.append_assoc]; exact hxs)
          rw [List.length_append, List.length_singleton] at hrest
          rw [List.length_cons, List.range'_succ, List.mapM_cons, lookUp_subscript hchild, hrest,
            List.zipIdx_cons]
          rfl
      exact hgeneral [] xs rfl

/-- Going into what stands at a step, with a lookup that can fail, is going into it. -/
theorem stepInto_eq (hlooking : ∀ place n st, looking place n st = .ok (visit place n st))
    {place : Place} {step : Step} {n child : Node} {st : WalkState}
    (hchild : n.child? step = some child) :
    stepInto blocked looking place step n st =
      .ok (backInto n step (enter blocked visit (place ++ [step]) child st)) := by
  have hback := putBack_subscript hchild
  unfold stepInto enter
  by_cases hblocked : blocked (place ++ [step]) = true
  · rw [if_pos hblocked, if_pos hblocked, backInto, hback]
  · rw [if_neg hblocked, if_neg hblocked, lookUp_subscript hchild]
    dsimp only
    rcases opened_cases st.next child with ⟨hopen, heq⟩ | ⟨v, rfl, -, -, heq⟩ |
      ⟨_, es, rfl, heq⟩ | ⟨v, xs, rfl, -, heq⟩
    · simp only [heq, hopen, if_true, hlooking]
      rfl
    · simp only [heq, isOpened, Bool.false_eq_true, if_false, backInto, hback]
    · simp only [heq, isOpened, if_true, hlooking]
      rfl
    · simp only [heq, isOpened, if_true, hlooking]
      rfl

/-- Going through the positions of a list, with lookups in the list as it has become, is going
through its elements. -/
theorem overPositions_eq {go : Nat → Node → WalkState → Except Raised Walked}
    {visit : Nat → Node → WalkState → Walked} {h : Nat}
    (hgo : ∀ i (n child : Node) st, n.child? (.index i) = some child →
      go i n st = .ok (backInto n (.index i) (visit i child st))) (xs : List Node) :
    ∀ (pre : List Node) (st : WalkState),
      overPositions go (List.range' pre.length xs.length) (.list h (pre ++ xs)) st =
        .ok ⟨.list h (pre ++ (items visit pre.length xs st).1), (items visit pre.length xs st).2.1,
          (items visit pre.length xs st).2.2⟩ := by
  induction xs with
  | nil =>
    intro pre st
    rfl
  | cons x xs ih =>
    intro pre st
    have hchild : (Node.list h (pre ++ x :: xs)).child? (.index pre.length) = some x := by
      rw [child?, List.getElem?_append_right (Nat.le_refl _), Nat.sub_self]
      rfl
    -- the element is replaced where it stands, and the positions after it stay
    have hback : (backInto (.list h (pre ++ x :: xs)) (.index pre.length) (visit pre.length x st)).node =
        .list h ((pre ++ [(visit pre.length x st).node]) ++ xs) := by
      have hpos : ¬ (pre.length : Int) < 0 := by omega
      simp [backInto, putBack, Step.subscript, hpos]
    have hrest := ih (pre ++ [(visit pre.length x st).node]) (visit pre.length x st).state
    rw [List.length_append, List.length_singleton] at hrest
    rw [List.length_cons, List.range'_succ, overPositions, hgo _ _ _ _ hchild]
    dsimp only
    rw [hback, show (backInto (.list h (pre ++ x :: xs)) (.index pre.length)
      (visit pre.length x st)).state = (visit pre.length x st).state from rfl, hrest, items,
      List.append_assoc]
    rfl

/-- No lookup of a walk ever fails, and the walk is the same. -/
theorem followLooking_eq (blocked : Place → Bool) (last : Segment) (steps : List (Segment × Bool)) :
    ∀ (place : Place) (n : Node) (st : WalkState),
      followLooking blocked last steps place n st = .ok (follow blocked last steps place n st) := by
  induction steps with
  | nil =>
    intro place n st
    rw [followLooking, targetsLooking_eq]
    rfl
  | cons step rest ih =>
    obtain ⟨segment, ruled⟩ := step
    intro place n st
    cases n with
    | leaf v => rfl
    | dict h es =>
      cases segment with
      | wildcard => rfl
      | name s =>
        rw [followLooking, follow]
        cases hfind : Entries.find? (.str s) es with
        | some child =>
          have hcontains : Entries.contains (.str s) es = true := by rw [Entries.contains, hfind]; rfl
          have hchild : (Node.dict h es).child? (.key s) = some child := hfind
          rw [if_pos hcontains, stepInto_eq ih hchild]
          rfl
        | none =>
          have hcontains : ¬ Entries.contains (.str s) es = true := by
            rw [Entries.contains, hfind]
            exact Bool.false_ne_true
          rw [if_neg hcontains]
          dsimp only
          split
          · rfl
          · rw [ih]
            rfl
    | list h xs =>
      cases segment with
      | name s => rfl
      | wildcard =>
        rw [followLooking, follow]
        exact @overPositions_eq _
          (fun i => enter blocked (follow blocked last rest) (place ++ [.index i]))
          h (fun i n child st hchild => stepInto_eq ih hchild) xs [] st

end Walk

namespace WorkingTree

/-- The tasks of a rule, found by a walk whose lookups can fail. -/
def resolveLooking (t : WorkingTree) (table : RuleTable) (rule : Rule) :
    Except Raised (WorkingTree × List Task) :=
  match rule.path.getLast? with
  | none => .ok (t, [])
  | some last =>
    (Walk.followLooking t.blocked.contains last (Walk.steps table.hasPath rule.path) [] t.root
      ⟨t.next, t.created⟩).map fun w =>
        ({ t with root := w.node, next := w.state.next, created := w.state.created },
          w.targets.map fun x =>
            ⟨rule, x.container, x.step, x.place, x.value, x.place.write table.options⟩)

/-- No lookup fails when a rule is resolved. -/
theorem resolveLooking_eq (t : WorkingTree) (table : RuleTable) (rule : Rule) :
    t.resolveLooking table rule = .ok (t.resolve table rule) := by
  unfold resolveLooking resolve
  cases rule.path.getLast? with
  | none => rfl
  | some last =>
    dsimp only
    rw [Walk.followLooking_eq]
    rfl

end WorkingTree

end ArgumentSchema
