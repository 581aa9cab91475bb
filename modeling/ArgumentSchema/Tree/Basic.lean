import ArgumentSchema.Callback
import ArgumentSchema.RuleTable
import ArgumentSchema.Tree.Node

/-!
# The working tree of a run

The output of a run grows from the input by opening the containers on the way of the rules,
writing results into them and discarding what failed. Keys are discarded at once. The elements of a
list keep their positions while the run goes on: a discarded element is only recorded, and
`WorkingTree.finalize` removes all recorded positions together, prunes the mappings that were
created on the way and are still empty, and drops the keys that the schema never mentions. A
container that is overwritten while a task still refers to it leaves the document and is kept aside,
so that a later write through that task changes it and nothing else. Main definitions:
`WorkingTree`, `WorkingTree.write`, `WorkingTree.discard`, `WorkingTree.finalize`.
-/

namespace ArgumentSchema

/-- A mapping that was created because a path led through a missing key. -/
structure Created where
  parent : Nat
  key : String
  child : Nat
deriving DecidableEq, Repr

/-- The output of a run under construction. The root has the handle zero. -/
structure WorkingTree where
  root : Node
  /-- The next handle to give. -/
  next : Nat
  /-- The places that no rule may go through. -/
  blocked : List Place
  created : List Created
  /-- Positions to remove from the list with a handle, in the order in which they were recorded. -/
  removals : List (Nat × Nat)
  /-- Opened containers that have left the document. -/
  detached : List Node

/-- One place that a rule applies to. -/
structure Task where
  rule : Rule
  container : Nat
  step : Step
  place : Place
  value : Value
  /-- The place as the schema would write it. -/
  dotted : String

namespace WorkingTree

/-- The tree over the entries of an input. -/
def ofEntries (es : Entries Value) : WorkingTree where
  root := .dict 0 (Node.closedEntries es)
  next := 1
  blocked := []
  created := []
  removals := []
  detached := []

/-- The document as it stands. -/
def toValue (t : WorkingTree) : Value := t.root.toValue

/-- The opened container with a handle. -/
def container? (t : WorkingTree) (h : Nat) : Option Node :=
  (t.root.find? h).or (Node.findInItems h t.detached)

/-- Changes the opened container with a handle. -/
def modify (t : WorkingTree) (h : Nat) (f : Node → Node) : WorkingTree :=
  { t with root := t.root.modify h f, detached := Node.modifyItems h f t.detached }

/-- Keeps the opened containers among some nodes aside. -/
def detach (t : WorkingTree) (ns : List Node) : WorkingTree :=
  { t with detached := t.detached ++ ns.filter Node.isOpened }

/-- Forbids the way through a place. -/
def block (t : WorkingTree) (place : Place) : WorkingTree :=
  { t with blocked := place :: t.blocked }

/-- A position that an element was to be written to, or removed from, does not exist. -/
def badPosition : Raised := .ofText .indexError "list assignment index out of range"

/-- Puts a value at a step of a container. -/
def store (t : WorkingTree) (h : Nat) (step : Step) (v : Value) : Except Raised WorkingTree :=
  match t.container? h with
  | none => .ok t
  | some n =>
    let old := n.child? step
    match n, step, old with
    | .list _ _, .index _, none => .error badPosition
    | _, _, _ => .ok ((t.modify h (Node.setChild step (.leaf v))).detach old.toList)

/-- Removes a key of a container at once, or records the position of an element. -/
def discard (t : WorkingTree) (task : Task) : WorkingTree :=
  match task.step with
  | .index i => { t with removals := t.removals ++ [(task.container, i)] }
  | .key s =>
    let old := (t.container? task.container).bind (·.child? task.step)
    (t.modify task.container (Node.eraseKey s)).detach old.toList

/-- Writes the result of a task; a missing result discards the field. -/
def write (t : WorkingTree) (task : Task) (v : Value) : Except Raised WorkingTree :=
  if v.isAbsent then .ok (t.discard task) else t.store task.container task.step v

/-- The recorded positions, gathered by list in the order of first mention. -/
def removalGroups (removals : List (Nat × Nat)) : List (Nat × List Nat) :=
  (removals.map Prod.fst).eraseDups.map fun h =>
    (h, (removals.filter fun r => r.1 == h).map Prod.snd)

/-- Removes the recorded positions of the given lists. A position that does not exist stops the
removal at its list, and the lists before it have lost theirs. -/
def compact : WorkingTree → List (Nat × List Nat) → WorkingTree × Option Raised
  | t, [] => (t, none)
  | t, (h, indexes) :: rest =>
    match t.container? h with
    | none => compact t rest
    | some n =>
      if indexes.all (· < n.size) then
        compact ((t.modify h (Node.dropIndexes indexes)).detach (n.itemsAt indexes)) rest
      else (t, some badPosition)

/-- Removes a created mapping from its parent if it is still there and still empty. -/
def pruneOne (t : WorkingTree) (c : Created) : WorkingTree :=
  match (t.container? c.parent).bind (·.child? (.key c.key)) with
  | some (.dict h []) =>
    if h = c.child then (t.modify c.parent (Node.eraseKey c.key)).detach [.dict h []] else t
  | _ => t

/-- Removes created mappings that are still empty, the latest first, so that a chain of them goes
from its inner end. -/
def prune (t : WorkingTree) : WorkingTree := t.created.reverse.foldl pruneOne t

/-- Drops the entries of the root whose key is none of the given names. -/
def keepRoots (t : WorkingTree) (roots : List String) : WorkingTree :=
  match t.root with
  | .dict h es =>
    let declared (e : Value × Node) : Bool := roots.any fun s => (Value.str s).sameKey e.1
    { t with root := .dict h (es.filter declared) }.detach
      ((es.filter fun e => !declared e).map Prod.snd)
  | _ => t

/-- Ends a run: recorded positions go, then created mappings that stayed empty, then undeclared
keys. The tree is given back also when a recorded position does not exist. -/
def finalize (t : WorkingTree) (roots : List String) : WorkingTree × Except Raised Value :=
  match compact t (removalGroups t.removals) with
  | (t, some e) => (t, .error e)
  | (t, none) =>
    let t := t.prune.keepRoots roots
    (t, .ok t.toValue)

end WorkingTree

end ArgumentSchema
