import ArgumentSchema.Proofs.Accounts
import ArgumentSchema.Proofs.Refinement

/-!
# When runs come to an end

A run is over before its time if a callback raises. Otherwise it ends as if callbacks could only
answer, with the report of the descent; and it does so exactly if the evaluation of every visit of
the descent comes to an end.

> `Run.finish_reaches`: the last stage of a run is finished with the report of the descent.
> `Run.ends_iff`: a run comes to an end exactly if the fields of all visits do.

How a field ends depends on its key only through the recovery, which is told the key
(`Field.evaluate_like`).
-/

namespace ArgumentSchema

/-- How a field has ended, without its key: the state, the value and the type. -/
def FieldOutcome.ending (o : FieldOutcome) : FieldState × Value × Option String :=
  (o.state, o.value, o.type)

theorem FieldOutcome.state_of_ending {o o' : FieldOutcome} (h : o.ending = o'.ending) :
    o.state = o'.state := (Prod.mk.inj h).1

theorem FieldOutcome.kept?_of_ending {o o' : FieldOutcome} (h : o.ending = o'.ending) :
    o.kept? = o'.kept? := by
  obtain ⟨hstate, hrest⟩ := Prod.mk.inj h
  have hvalue : o.value = o'.value := (Prod.mk.inj hrest).1
  unfold FieldOutcome.kept?
  rw [hstate, hvalue]

namespace Traced

variable {α β γ δ : Type}

/-- Two ends that are alike: both are values that are related, or the same was raised. -/
inductive LikeEnd (R : α → β → Prop) : Except Raised α → Except Raised β → Prop where
  | ok {a : α} {b : β} : R a b → LikeEnd R (.ok a) (.ok b)
  | error (e : Raised) : LikeEnd R (.error e) (.error e)

/-- Computations that have like ends, whatever was called before. -/
def Like (R : α → β → Prop) (t : Traced α) (t' : Traced β) : Prop :=
  ∀ calls calls', LikeEnd R (t calls).1 (t' calls').1

theorem Like.pure {R : α → β → Prop} {a : α} {b : β} (h : R a b) :
    Like R (Pure.pure a : Traced α) (Pure.pure b) := fun _ _ => .ok h

theorem Like.bind {R : α → β → Prop} {S : γ → δ → Prop} {t : Traced α} {t' : Traced β}
    {f : α → Traced γ} {f' : β → Traced δ} (ht : Like R t t')
    (hf : ∀ a b, R a b → Like S (f a) (f' b)) : Like S (t >>= f) (t' >>= f') := by
  intro calls calls'
  have hlike := ht calls calls'
  obtain ⟨end?, after, hend⟩ : ∃ end? after, t calls = (end?, after) := ⟨_, _, rfl⟩
  obtain ⟨end?', after', hend'⟩ : ∃ end? after, t' calls' = (end?, after) := ⟨_, _, rfl⟩
  rw [bind_apply, bind_apply]
  rw [hend, hend'] at hlike ⊢
  cases hlike with
  | ok hrel => exact hf _ _ hrel after after'
  | error e => exact .error e

theorem like_invoke {cb : Callbacks} {call call' : Call} (h : cb call = cb call') :
    Like Eq (cb.invoke call) (cb.invoke call') := by
  intro calls calls'
  rw [invoke_apply, invoke_apply, ← h]
  cases cb call with
  | ok v => exact .ok rfl
  | error e => exact .error e

end Traced

namespace Field

open Traced

variable {registry : Registry} {cb : Callbacks} {c : Contract} {key key' : String}

/-- Outcomes that end alike. -/
def SameEnding (o o' : FieldOutcome) : Prop := o.ending = o'.ending

theorem succeed_like (state : FieldState) (v : Value) (type : String) :
    Like SameEnding (succeed cb c key state v type) (succeed cb c key' state v type) := by
  unfold succeed
  cases c.transform with
  | none => exact Like.pure rfl
  | some f =>
    refine (like_invoke rfl).bind ?_
    rintro w _ rfl
    exact Like.pure rfl

theorem fail_like (v : Value) : SameEnding (fail registry c key v) (fail registry c key' v) := by
  unfold fail SameEnding
  split <;> rfl

theorem recover_like (hcatch : ∀ f, c.catch? = some f → ∀ v t,
      cb ⟨f, v, t, some key⟩ = cb ⟨f, v, t, some key'⟩) (v : Value) (rejected : Option String) :
    Like SameEnding (recover registry cb c key v rejected) (recover registry cb c key' v rejected) := by
  unfold recover
  cases c.default with
  | some d => exact succeed_like .defaulted d _
  | none =>
    cases hf : c.catch? with
    | none => exact Like.pure (fail_like v)
    | some f =>
      refine (like_invoke (hcatch f hf v _)).bind ?_
      rintro answer _ rfl
      split
      · exact Like.pure (fail_like v)
      · exact succeed_like .caught answer _

/-- A field ends alike under two keys that its recovery does not tell apart. -/
theorem evaluate_like (hcatch : ∀ f, c.catch? = some f → ∀ v t,
      cb ⟨f, v, t, some key⟩ = cb ⟨f, v, t, some key'⟩) (v : Value) :
    Like SameEnding (evaluate registry cb c key v) (evaluate registry cb c key' v) := by
  unfold evaluate
  cases matchType registry c v with
  | none => exact recover_like hcatch v none
  | some type =>
    refine Like.bind (R := Eq) ?_ ?_
    · unfold accepts
      cases c.validate with
      | none => exact Like.pure rfl
      | some check =>
        cases check with
        | regex p f => exact Like.pure rfl
        | callable f =>
          refine (like_invoke rfl).bind ?_
          rintro answer _ rfl
          exact Like.pure rfl
    · rintro passes _ rfl
      cases passes with
      | true => exact succeed_like .matched v type
      | false => exact recover_like hcatch v (some type)

/-- Callbacks answer all calls of a field. -/
def Answered (registry : Registry) (cb : Callbacks) (c : Contract) (key : String) (v : Value) :
    Prop := ∃ calls o calls', evaluate registry cb c key v calls = (.ok o, calls')

theorem Answered.of_like (hcatch : ∀ f, c.catch? = some f → ∀ v t,
      cb ⟨f, v, t, some key⟩ = cb ⟨f, v, t, some key'⟩) {v : Value}
    (h : Answered registry cb c key v) (calls : List Call) :
    ∃ o calls', evaluate registry cb c key' v calls = (.ok o, calls') := by
  obtain ⟨calls₀, o, calls₁, hend⟩ := h
  have hlike := @evaluate_like registry cb c key key' hcatch v calls₀ calls
  obtain ⟨end?, after, hend'⟩ : ∃ end? after, evaluate registry cb c key' v calls = (end?, after) :=
    ⟨_, _, rfl⟩
  rw [hend, hend'] at hlike
  cases hlike with
  | ok _ => exact ⟨_, _, hend'⟩

end Field

namespace Run

open WorkingTree

variable {registry : Registry} {cb : Callbacks} {table : RuleTable} {es : Entries Value}
  {before : List Call}

/-- What the descent of a document leaves, under the answers of callbacks. -/
def settledEnd (registry : Registry) (cb : Callbacks) (table : RuleTable) (es : Entries Value) :
    Finished :=
  let judge := Field.judge registry cb.calm table
  ⟨Descent.report table judge true es,
    (Descent.visits table judge true es).map fun w => (w.place, w.outcome)⟩

/-- The last stage of a run is finished with the report of the descent. -/
theorem finish_reaches (ht : table.Compiled) {s : RunState} {calls : List Call}
    (h : Reaches registry cb table es before ⟨s, [], [], calls⟩) :
    finish table s = .ok (settledEnd registry cb table es) := by
  obtain ⟨done, r, ts, seen, k, shut, hstanding⟩ := h.standing ht
  let judge := Field.judge registry cb.calm table
  obtain rfl : ts = [] := List.map_eq_nil_iff.mp hstanding.tasks.symm
  obtain rfl : done = table.byDepth := by
    have horder := hstanding.order
    rwa [List.append_nil] at horder
  obtain ⟨hfinal, hvisits⟩ := @Draft.settles table judge ht es
  have hstands := hstanding.stands
  rw [acted_nil] at hstands
  have hseen : seen = Descent.visits table judge true es := by
    have hall := hstanding.visits
    rw [List.map_nil, List.append_nil] at hall
    rw [hall]
    exact hvisits
  have htells := hstanding.tells
  rw [hseen] at htells
  exact finish_eq htells (finalize_stands hstands hfinal)

/-- A run that comes to an end leaves the report of the descent. -/
theorem execute_eq_ok (ht : table.Compiled) {finished : Finished} {calls : List Call}
    (h : execute registry cb table es before = (.ok finished, calls)) :
    finished = settledEnd registry cb table es := by
  obtain ⟨s, hreaches, hfinish⟩ := exists_reaches_of_execute h
  rw [finish_reaches ht hreaches] at hfinish
  exact (Except.ok.inj hfinish).symm

/-- A task that was evaluated was once to be evaluated. -/
theorem History.yields {done : List Task} {stage : Stage}
    (h : History registry cb table es before done stage) :
    ∀ t ∈ done, Yields registry cb table es t := by
  induction h with
  | start =>
    intro t ht
    cases ht
  | resolve _ ih => exact ih
  | @evaluate done s s' t ts rs calls calls' hhistory hend ih =>
    intro t' ht'
    rcases List.mem_append.mp ht' with ht' | ht'
    · exact ih t' ht'
    · obtain rfl := List.mem_singleton.mp ht'
      exact ⟨_, _, hhistory.reaches, List.mem_cons_self ..⟩

/-- Where callbacks have answered, filing what a task ended with goes well. -/
theorem Standing.task_ok {done : List Rule} {r : Rule} {ts : List Target} {seen : List Visit}
    {k : Nat} {shut : List (Nat × Nat)} {s : RunState} {t : Task} {tasks : List Task}
    {rs : List Rule} {calls : List Call}
    (h : Standing registry cb.calm table es before done r ts seen k shut ⟨s, t :: tasks, rs, calls⟩)
    {o : FieldOutcome} {calls' : List Call}
    (hevaluate : Field.evaluate registry cb t.rule.toContract t.dotted t.value calls =
      (.ok o, calls')) :
    ∃ s', task registry cb s t calls = (.ok s', calls') := by
  cases ts with
  | nil => cases h.tasks
  | cons x ts => exact ⟨_, h.task_eq hevaluate⟩

/-- A visit of a run that comes to an end is one of its tasks, and its outcome is how the task has
ended. -/
theorem exists_task_of_visit (ht : table.Compiled) {finished : Finished} {calls : List Call}
    (hend : execute registry cb table es before = (.ok finished, calls)) {w : Visit}
    (hw : w ∈ Descent.visits table (Field.judge registry cb.calm table) true es) :
    ∃ t, Yields registry cb table es t ∧ Ends registry cb t w.outcome ∧ t.rule = w.rule ∧
      t.place = w.place ∧ t.value = w.given ∧ t.dotted = w.place.write table.options := by
  obtain ⟨s, hreaches, hfinish⟩ := exists_reaches_of_execute hend
  obtain ⟨done, hhistory⟩ := hreaches.history
  obtain ⟨-, houtcomes, -⟩ := finish_eq_ok hfinish
  rw [execute_eq_ok ht hend] at houtcomes
  have hmem : (w.place, w.outcome) ∈ s.outcomes := by
    rw [← houtcomes]
    exact List.mem_map_of_mem hw
  obtain ⟨t, ht', hsettles⟩ := exists_of_mem_forall₂ hhistory.settles hmem
  have hyields := hhistory.yields t ht'
  obtain ⟨w', hw', hrule, hplace, hgiven, hdotted⟩ := hyields.visit ht
  -- no place is visited twice, so the visit of the task is the one we started from
  obtain rfl : w' = w := by
    refine List.inj_on_of_nodup_map (Descent.visits_spread ht _ es).once hw' hw ?_
    exact hplace.trans hsettles.place.symm
  exact ⟨t, hyields, hsettles.ends, hrule.symm, hplace.symm, hgiven.symm, hdotted.symm⟩

/-- A run comes to an end exactly if the fields of all visits do. -/
theorem ends_iff (ht : table.Compiled) :
    (∃ finished calls, execute registry cb table es before = (.ok finished, calls)) ↔
      ∀ w ∈ Descent.visits table (Field.judge registry cb.calm table) true es,
        Field.Answered registry cb w.rule.toContract (w.place.write table.options) w.given := by
  constructor
  · rintro ⟨finished, calls, hend⟩ w hw
    obtain ⟨t, -, ⟨calls₁, calls₂, hevaluate⟩, hrule, -, hgiven, hdotted⟩ :=
      exists_task_of_visit ht hend hw
    rw [← hrule, ← hdotted, ← hgiven]
    exact ⟨_, _, _, hevaluate⟩
  · -- a run ends at its last stage, or a callback raises at a task
    intro hanswered
    rcases execute_reaches registry cb table es before with ⟨s, calls, hreaches, hend⟩ | hraised
    · rw [finish_reaches ht hreaches] at hend
      exact ⟨_, _, hend⟩
    · -- the task that raised is one of the visits, whose field has been answered
      obtain ⟨s, t, ts, rs, calls, calls', e, hreaches, hraises, -⟩ := hraised
      obtain ⟨w, hw, hrule, -, hgiven, hdotted⟩ := (show Yields registry cb table es t from
        ⟨_, _, hreaches, List.mem_cons_self ..⟩).visit ht
      have hanswer := hanswered w hw
      rw [hrule, hgiven, hdotted] at hanswer
      obtain ⟨o, calls₁, hevaluate⟩ := hanswer.of_like (fun _ _ _ _ => rfl) calls
      obtain ⟨done, r, ts', seen, k, shut, hstanding⟩ := hreaches.standing ht
      obtain ⟨s', htask⟩ := hstanding.task_ok hevaluate
      rw [htask] at hraises
      cases hraises

end Run

end ArgumentSchema
