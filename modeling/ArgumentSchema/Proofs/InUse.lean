import ArgumentSchema.Proofs.Remains
import ArgumentSchema.Proofs.Ways

/-!
# Trees in use

Between the input and the end of a run a tree is used in four ways: rules are resolved, the results of
tasks are written, their fields are discarded, and places are blocked. `InUse` says that a tree has
come about so, in whatever order, and which tasks have been found in it on the way. A task can be old:
its container may have left the document since. What is written is a value of its own, which shares no
container with the tree.
-/

namespace ArgumentSchema

namespace WorkingTree

/-- A tree in use, and the tasks that have been found in it so far. -/
inductive InUse (table : RuleTable) : WorkingTree → List Task → Prop
  | start (es : Entries Value) : InUse table (.ofEntries es) []
  | resolve {t : WorkingTree} {tasks : List Task} (h : InUse table t tasks) (r : Rule) :
      InUse table (t.resolve table r).1 (tasks ++ (t.resolve table r).2)
  | write {t t' : WorkingTree} {tasks : List Task} {task : Task} {v : Value}
      (h : InUse table t tasks) (found : task ∈ tasks) (written : t.write task v = .ok t') :
      InUse table t' tasks
  | discard {t : WorkingTree} {tasks : List Task} {task : Task} (h : InUse table t tasks)
      (found : task ∈ tasks) : InUse table (t.discard task) tasks
  | block {t : WorkingTree} {tasks : List Task} (h : InUse table t tasks) (place : Place) :
      InUse table (t.block place) tasks

/-- Storing changes a container that the tree holds, and nothing if it holds none. -/
theorem eq_of_store {t : WorkingTree} {h : Nat} {step : Step} {v : Value} {t' : WorkingTree}
    (hstore : t.store h step v = .ok t') :
    t' = t ∨ ∃ n, t.container? h = some n ∧
      t' = (t.modify h (Node.setChild step (.leaf v))).detach (n.child? step).toList := by
  unfold WorkingTree.store at hstore
  cases hn : t.container? h with
  | none =>
    rw [hn] at hstore
    exact .inl (Except.ok.inj hstore).symm
  | some n =>
    rw [hn] at hstore
    dsimp only at hstore
    split at hstore
    · cases hstore
    · exact .inr ⟨_, rfl, (Except.ok.inj hstore).symm⟩

/-- The root is an opened container, and the containers of the document have different handles, which
have all been given. -/
structure Numbered (t : WorkingTree) : Prop where
  opened : t.root.isOpened = true
  nodup : t.root.handles.Nodup
  lt : ∀ h ∈ t.root.handles, h < t.next

end WorkingTree

end ArgumentSchema
