import ArgumentSchema.Tree.Basic

/-!
# Where a rule applies

`WorkingTree.resolve` follows the path of a rule from the root: a name goes through the key of a
mapping, a wildcard through every element of a list, and every container on the way is opened. A
branch ends, without a task, at a blocked place, at a value that is not a container of the right
kind, and at a missing key that has a rule of its own; a missing key without one is created as an
empty mapping. The last segment only looks: it gives one task for every place it names. Tasks come
in the order of the positions in their places. Main definitions: `Target`, `WorkingTree.resolve`.
-/

namespace ArgumentSchema

/-- One place that a walk has reached. -/
structure Target where
  container : Nat
  step : Step
  place : Place
  value : Value

/-- What a walk carries along: the next handle and the mappings created so far. -/
structure WalkState where
  next : Nat
  created : List Created

/-- The result of a walk through a node. -/
structure Walked where
  node : Node
  targets : List Target
  state : WalkState

namespace Walk

/-- The places that a last segment names in a node. -/
def targets (segment : Segment) (place : Place) : Node → List Target
  | .dict h es =>
    match segment with
    | .name s =>
      let value := match Entries.find? (.str s) es with
        | some n => n.toValue
        | none => .absent
      [⟨h, .key s, place ++ [.key s], value⟩]
    | .wildcard => []
  | .list h xs =>
    match segment with
    | .wildcard =>
      xs.zipIdx.map fun x => ⟨h, .index x.2, place ++ [.index x.2], x.1.toValue⟩
    | .name _ => []
  | .leaf _ => []

/-- Goes through the elements of a list in turn, from a given position on. -/
def items (visit : Nat → Node → WalkState → Walked) :
    Nat → List Node → WalkState → List Node × List Target × WalkState
  | _, [], st => ([], [], st)
  | i, n :: ns, st =>
    let w := visit i n st
    let (ns, ts, st) := items visit (i + 1) ns w.state
    (w.node :: ns, w.targets ++ ts, st)

/-- Enters the child of a container at a place: nothing happens if the place is blocked or the
child is no container. -/
def enter (blocked : Place → Bool) (visit : Place → Node → WalkState → Walked) (place : Place)
    (child : Node) (st : WalkState) : Walked :=
  if blocked place then ⟨child, [], st⟩
  else
    let (child, next) := child.opened st.next
    if child.isOpened then visit place child { st with next } else ⟨child, [], { st with next }⟩

/-- Follows segments from an opened container. With each segment before the last comes whether the
path up to it has a rule of its own. -/
def follow (blocked : Place → Bool) (last : Segment) :
    List (Segment × Bool) → Place → Node → WalkState → Walked
  | [], place, n, st => ⟨n, targets last place n, st⟩
  | (segment, ruled) :: rest, place, n, st =>
    match n, segment with
    | .dict h es, .name s =>
      let below := place ++ [.key s]
      match Entries.find? (.str s) es with
      | some child =>
        let w := enter blocked (follow blocked last rest) below child st
        ⟨.dict h (Entries.insert (.str s) w.node es), w.targets, w.state⟩
      | none =>
        if ruled || blocked below then ⟨n, [], st⟩
        else
          let created := st.created ++ [⟨h, s, st.next⟩]
          let w := follow blocked last rest below (.dict st.next []) ⟨st.next + 1, created⟩
          ⟨.dict h (Entries.insert (.str s) w.node es), w.targets, w.state⟩
    | .list h xs, .wildcard =>
      let visit := fun i child st =>
        enter blocked (follow blocked last rest) (place ++ [.index i]) child st
      let (xs, ts, st) := items visit 0 xs st
      ⟨.list h xs, ts, st⟩
    | _, _ => ⟨n, [], st⟩

/-- The segments of a path before the last, each with whether the path up to it has a rule. -/
def steps (hasPath : List Segment → Bool) (path : List Segment) : List (Segment × Bool) :=
  path.dropLast.zipIdx.map fun x => (x.1, hasPath (path.take (x.2 + 1)))

end Walk

namespace WorkingTree

/-- The tasks of a rule, and the tree with everything on their way opened. -/
def resolve (t : WorkingTree) (table : RuleTable) (rule : Rule) : WorkingTree × List Task :=
  match rule.path.getLast? with
  | none => (t, [])
  | some last =>
    let w := Walk.follow t.blocked.contains last (Walk.steps table.hasPath rule.path) [] t.root
      ⟨t.next, t.created⟩
    let tasks := w.targets.map fun x =>
      ⟨rule, x.container, x.step, x.place, x.value, x.place.write table.options⟩
    ({ t with root := w.node, next := w.state.next, created := w.state.created }, tasks)

/-- What a container, or a text, holds under a key given as a value. -/
def lookUp (n : Node) (key : Value) : Except Raised Node :=
  match n, key with
  | .dict _ es, k =>
    match Entries.find? k es with
    | some child => .ok child
    | none => .error ⟨.keyError, [k]⟩
  | .list _ xs, .int i =>
    match xs[(if i < 0 then i + xs.length else i).toNat]? with
    | some child =>
      if i + xs.length < 0 then .error (.ofText .indexError "list index out of range")
      else .ok child
    | none => .error (.ofText .indexError "list index out of range")
  | .list _ _, k =>
    .error (.ofText .typeError ("list indices must be integers or slices, not " ++ k.className))
  | .leaf (.str s), .int i =>
    let cs := s.toList
    match cs[(if i < 0 then i + cs.length else i).toNat]? with
    | some c =>
      if i + cs.length < 0 then .error (.ofText .indexError "string index out of range")
      else .ok (.leaf (.str (String.singleton c)))
    | none => .error (.ofText .indexError "string index out of range")
  | .leaf (.str _), k =>
    .error (.ofText .typeError ("string indices must be integers, not '" ++ k.className ++ "'"))
  | .leaf v, _ =>
    .error (.ofText .typeError ("'" ++ v.className ++ "' object is not subscriptable"))

/-- Puts a child back under the key where `lookUp` found it. -/
def putBack (key : Value) (child : Node) : Node → Node
  | .dict h es => .dict h (Entries.insert key child es)
  | .list h xs =>
    match key with
    | .int i => .list h (xs.set (if i < 0 then i + xs.length else i).toNat child)
    | _ => .list h xs
  | n => n

/-- Goes down from a node key by key, opening every container that is entered. -/
def descendFrom : List Value → Nat → Node → Node × Nat × Except Raised Node
  | [], next, n => (n, next, .ok n)
  | k :: ks, next, n =>
    match lookUp n k with
    | .error e => (n, next, .error e)
    | .ok child =>
      let (child, next) := child.opened next
      let (child, next, reached) := descendFrom ks next child
      (putBack k child n, next, reached)

/-- Goes down from the root key by key. -/
def descend (t : WorkingTree) (keys : List Value) : WorkingTree × Except Raised Node :=
  let (root, next, reached) := descendFrom keys t.next t.root
  ({ t with root, next }, reached)

/-- Creates an empty mapping under a key of the container that a row of keys leads to. -/
def create (t : WorkingTree) (keys : List Value) (key : String) :
    WorkingTree × Except Raised Value :=
  match t.descend keys with
  | (t, .error e) => (t, .error e)
  | (t, .ok (.dict h es)) =>
    let made : WorkingTree := { t.modify h (Node.setChild (.key key) (.dict t.next [])) with
      next := t.next + 1
      created := t.created ++ [⟨h, key, t.next⟩] }
    (made.detach (Entries.find? (.str key) es).toList, .ok (.dict false []))
  | (t, .ok (.list _ _)) =>
    (t, .error (.ofText .typeError "list indices must be integers or slices, not str"))
  | (t, .ok (.leaf v)) =>
    (t, .error (.ofText .typeError
      ("'" ++ v.className ++ "' object does not support item assignment")))

end WorkingTree

end ArgumentSchema
