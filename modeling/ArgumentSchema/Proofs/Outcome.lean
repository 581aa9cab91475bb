import ArgumentSchema.Proofs.Compiled

/-!
# How a field ends

A field is evaluated inside a computation that keeps the calls of callbacks and ends with the first
one that raises. If the callbacks answer, the evaluation has an end and a list of calls that do not
depend on what was called before (`Field.outcome`, `Field.calls`), so that it is a judgement on a
value (`Field.judge`):

> `Field.evaluate_answering`: where callbacks answer, an evaluation ends with the outcome of the
> field and adds its calls.
> `Field.evaluate_of_ok`: an evaluation in which no callback raised ends as if none could.
-/

namespace ArgumentSchema

/-- Callbacks that answer. -/
def Callbacks.answering (answer : Call → Value) : Callbacks := fun call => .ok (answer call)

/-- The answers of callbacks, with nothing in place of what they raise. -/
def Callbacks.calm (cb : Callbacks) : Call → Value := fun call =>
  match cb call with
  | .ok v => v
  | .error _ => .null

namespace Traced

variable {α β : Type}

theorem bind_apply (t : Traced α) (f : α → Traced β) (calls : List Call) :
    (t >>= f) calls = match t calls with
      | (.ok a, calls) => f a calls
      | (.error e, calls) => (.error e, calls) := by
  show (ExceptT.bind t f : ExceptT _ _ _) calls = _
  simp only [ExceptT.bind, ExceptT.mk]
  show (StateT.bind t _ : StateM _ _) calls = _
  simp only [StateT.bind]
  generalize t calls = w
  obtain ⟨a | a, calls⟩ := w <;> rfl

theorem pure_apply (a : α) (calls : List Call) : (pure a : Traced α) calls = (.ok a, calls) := rfl

theorem bind_ok {t : Traced α} {f : α → Traced β} {calls calls' : List Call} {a : α}
    (h : t calls = (.ok a, calls')) : (t >>= f) calls = f a calls' := by
  rw [bind_apply, h]

theorem bind_error {t : Traced α} {f : α → Traced β} {calls calls' : List Call} {e : Raised}
    (h : t calls = (.error e, calls')) : (t >>= f) calls = (.error e, calls') := by
  rw [bind_apply, h]

/-- What comes after a computation was reached if the whole came to an end. -/
theorem of_bind_ok {t : Traced α} {f : α → Traced β} {calls calls' : List Call} {b : β}
    (h : (t >>= f) calls = (.ok b, calls')) :
    ∃ a calls₁, t calls = (.ok a, calls₁) ∧ f a calls₁ = (.ok b, calls') := by
  rw [bind_apply] at h
  split at h
  · next a calls₁ ht => exact ⟨a, calls₁, ht, h⟩
  · cases h

/-- A call is noted, and ends as the callback does. -/
theorem invoke_apply (cb : Callbacks) (call : Call) (calls : List Call) :
    cb.invoke call calls = (cb call, calls ++ [call]) := by
  unfold Callbacks.invoke
  rw [bind_apply]
  cases cb call <;> rfl

/-- A computation that ends with a value and adds calls, whatever was called before. -/
def Adds (t : Traced α) (a : α) (made : List Call) : Prop :=
  ∀ calls, t calls = (.ok a, calls ++ made)

theorem Adds.pure (a : α) : Adds (Pure.pure a : Traced α) a [] := by
  intro calls
  rw [pure_apply, List.append_nil]

theorem Adds.bind {t : Traced α} {f : α → Traced β} {a : α} {b : β} {made made' : List Call}
    (h : Adds t a made) (h' : Adds (f a) b made') : Adds (t >>= f) b (made ++ made') := by
  intro calls
  rw [bind_ok (h calls), h', List.append_assoc]

theorem invoke_answering (answer : Call → Value) (call : Call) :
    Adds ((Callbacks.answering answer).invoke call) (answer call) [call] := fun _ => rfl

end Traced

namespace Field

open Traced

variable (registry : Registry) (answer : Call → Value) (c : Contract) (key : String)

/-- The value of a field that succeeded, after the transformation of its contract. -/
def transformed (v : Value) (type : String) : Value :=
  match c.transform with
  | none => v
  | some f => answer ⟨f, v, type, none⟩

theorem fail_not_succeeded {registry : Registry} {c : Contract} {key : String} {v : Value} :
    (fail registry c key v).state.succeeded = false := by
  unfold fail
  split <;> rfl

/-- The ways in which a field can end: it has failed or was left out, or it succeeded with what was
given, with a default or with what a recovery chose, transformed. -/
inductive Ends (v : Value) : FieldOutcome → Prop where
  | dropped : Ends v (fail registry c key v)
  | kept {state : FieldState} {base : Value} {type : String} (succeeded : state.succeeded = true)
      (origin : base = v ∨ c.default = some base ∨ base.isAbsent = false) :
      Ends v ⟨key, state, transformed answer c base type, some type, none⟩

theorem exists_adds_succeed {v : Value} (state : FieldState) (hstate : state.succeeded = true)
    (base : Value) (type : String) (horigin : base = v ∨ c.default = some base ∨ base.isAbsent = false) :
    ∃ o made, Adds (succeed (.answering answer) c key state base type) o made ∧
      Ends registry answer c key v o := by
  have hkept : Ends registry answer c key v
      ⟨key, state, transformed answer c base type, some type, none⟩ := .kept hstate horigin
  unfold succeed
  unfold transformed at hkept
  cases htransform : c.transform with
  | none =>
    rw [htransform] at hkept
    exact ⟨_, _, Adds.pure _, hkept⟩
  | some f =>
    rw [htransform] at hkept
    exact ⟨_, _, (invoke_answering answer _).bind (Adds.pure _), hkept⟩

theorem exists_adds_recover (v : Value) (rejected : Option String) :
    ∃ o made, Adds (recover registry (.answering answer) c key v rejected) o made ∧
      Ends registry answer c key v o := by
  have hfail : ∃ o made, Adds (pure (fail registry c key v)) o made ∧
      Ends registry answer c key v o := ⟨_, _, Adds.pure _, .dropped⟩
  unfold recover
  cases hdefault : c.default with
  | some d =>
    exact exists_adds_succeed registry answer c key .defaulted rfl d _ (Or.inr (Or.inl hdefault))
  | none =>
    cases c.catch? with
    | none => exact hfail
    | some f =>
      have hrest : ∀ told : Value, ∃ o made, Adds (if told.isAbsent then
            pure (fail registry c key v)
          else succeed (.answering answer) c key .caught told (registry.typeName told)) o made ∧
          Ends registry answer c key v o := by
        intro told
        split
        · exact hfail
        · next htold =>
          exact exists_adds_succeed registry answer c key .caught rfl told _
            (Or.inr (Or.inr (Bool.eq_false_iff.mpr htold)))
      obtain ⟨o, made, h, hends⟩ := hrest (answer _)
      exact ⟨o, _, (invoke_answering answer _).bind h, hends⟩

theorem exists_adds_accepts (v : Value) (type : String) :
    ∃ passes made, Adds (accepts (.answering answer) c v type) passes made := by
  unfold accepts
  cases c.validate with
  | none => exact ⟨_, _, Adds.pure _⟩
  | some check =>
    cases check with
    | regex p f => exact ⟨_, _, Adds.pure _⟩
    | callable f => exact ⟨_, _, (invoke_answering answer _).bind (Adds.pure _)⟩

theorem exists_adds_evaluate (v : Value) :
    ∃ o made, Adds (evaluate registry (.answering answer) c key v) o made ∧
      Ends registry answer c key v o := by
  unfold evaluate
  cases matchType registry c v with
  | none => exact exists_adds_recover registry answer c key v none
  | some type =>
    obtain ⟨passes, made, hpasses⟩ := exists_adds_accepts answer c v type
    cases hp : passes with
    | true =>
      subst hp
      obtain ⟨o, made', h, hends⟩ :=
        exists_adds_succeed registry answer c key .matched rfl v type (Or.inl rfl)
      exact ⟨o, _, hpasses.bind h, hends⟩
    | false =>
      subst hp
      obtain ⟨o, made', h, hends⟩ := exists_adds_recover registry answer c key v (some type)
      exact ⟨o, _, hpasses.bind h, hends⟩

/-- How a field ends where callbacks answer. -/
def outcome (v : Value) : FieldOutcome :=
  match (evaluate registry (.answering answer) c key v []).1 with
  | .ok o => o
  | .error _ => fail registry c key v

/-- The calls that the evaluation of a field makes where callbacks answer. -/
def calls (v : Value) : List Call := (evaluate registry (.answering answer) c key v []).2

theorem evaluate_ends (v : Value) :
    Adds (evaluate registry (.answering answer) c key v) (outcome registry answer c key v)
        (calls registry answer c key v) ∧
      Ends registry answer c key v (outcome registry answer c key v) := by
  obtain ⟨o, made, h, hends⟩ := exists_adds_evaluate registry answer c key v
  have h₀ := h []
  rw [List.nil_append] at h₀
  have houtcome : outcome registry answer c key v = o := by rw [outcome, h₀]
  have hcalls : calls registry answer c key v = made := by rw [calls, h₀]
  rw [houtcome, hcalls]
  exact ⟨h, hends⟩

/-- An evaluation ends with the outcome of the field and adds its calls. -/
theorem evaluate_answering (v : Value) :
    Adds (evaluate registry (.answering answer) c key v) (outcome registry answer c key v)
      (calls registry answer c key v) := (evaluate_ends registry answer c key v).1

/-- A field ends in one of the ways in which a field can end. -/
theorem outcome_ends (v : Value) : Ends registry answer c key v (outcome registry answer c key v) :=
  (evaluate_ends registry answer c key v).2

/-- The judgement of a registry and callbacks on the fields of a table. -/
def judge (table : RuleTable) : Judge := fun r place v =>
  outcome registry answer r.toContract (place.write table.options) v

/-- The calls of the evaluation of a place. -/
def callsAt (table : RuleTable) (v : Visit) : List Call :=
  calls registry answer v.rule.toContract (v.place.write table.options) v.given

/-! ## What a field keeps and reports -/

variable {registry answer c key} {v : Value}

/-- The value of a field with a transformation is an answer of that transformation, where the field
succeeds. -/
theorem exists_value_eq_answer {f : Value} (htransform : c.transform = some f)
    (hs : (outcome registry answer c key v).state.succeeded = true) :
    ∃ base type, (outcome registry answer c key v).value = answer ⟨f, base, type, none⟩ := by
  have hends := outcome_ends registry answer c key v
  generalize outcome registry answer c key v = o at hends hs
  cases hends with
  | dropped => exact absurd hs (by simp [fail_not_succeeded])
  | @kept state base type =>
    refine ⟨base, type, ?_⟩
    dsimp only [transformed]
    rw [htransform]

/-- The transformation of a contract does not answer with the marker for a missing value: where a field
with a transformation succeeds, it has a value. -/
def Transforms (registry : Registry) (answer : Call → Value) (c : Contract) (key : String) : Prop :=
  c.transform ≠ none → ∀ v, (outcome registry answer c key v).state.succeeded = true →
    (outcome registry answer c key v).value.isAbsent = false

/-- A field that succeeded without a value was given none, unless its transformation answers with
the marker for a missing value. -/
theorem absent_of_kept?_eq_none (hpresent : c.Present)
    (htransforms : Transforms registry answer c key)
    (hkept : (outcome registry answer c key v).kept? = none)
    (hs : (outcome registry answer c key v).state.succeeded = true) : v = .absent := by
  have habsent : (outcome registry answer c key v).value.isAbsent = true := by
    rw [FieldOutcome.kept?, hs] at hkept
    simpa using hkept
  have htransform : c.transform = none := by
    by_contra hsome
    rw [htransforms hsome v hs] at habsent
    cases habsent
  have hends := outcome_ends registry answer c key v
  generalize outcome registry answer c key v = o at hends habsent hs
  cases hends with
  | dropped => exact absurd hs (by simp [fail_not_succeeded])
  | @kept state base type hstate horigin =>
    have hbase : base.isAbsent = true := by simpa [transformed, htransform] using habsent
    obtain rfl : base = .absent := by
      cases base with
      | absent => rfl
      | _ => cases hbase
    rcases horigin with rfl | hdefault | hbase'
    · rfl
    · exact absurd hdefault hpresent
    · cases hbase'

/-- A field that adds an error to the report has failed, and the error has its key. -/
theorem failed_of_failure? {e : FieldError}
    (h : (outcome registry answer c key v).failure? = some e) :
    (outcome registry answer c key v).state = .failed ∧ e.key = key := by
  generalize ho : outcome registry answer c key v = o at h
  have hends := outcome_ends registry answer c key v
  rw [ho] at hends
  cases hends with
  | dropped =>
    rw [FieldOutcome.failure?, fail_not_succeeded] at h
    unfold fail at h ⊢
    by_cases hoptional : c.optional = true
    · rw [if_pos hoptional] at h
      cases h
    · rw [if_neg hoptional] at h ⊢
      cases h
      exact ⟨rfl, rfl⟩
  | kept hstate horigin =>
    rw [FieldOutcome.failure?, hstate] at h
    cases h

/-! ## Callbacks that may raise -/

end Field

namespace Traced

variable {α β : Type}

/-- Computations that are made of calls to callbacks, and in which nothing else can raise. -/
inductive Asks (cb : Callbacks) : {α : Type} → Traced α → Prop where
  | pure {α : Type} (a : α) : Asks cb (Pure.pure a : Traced α)
  | invoke (call : Call) : Asks cb (cb.invoke call)
  | bind {α β : Type} {t : Traced α} {f : α → Traced β} :
      Asks cb t → (∀ a, Asks cb (f a)) → Asks cb (t >>= f)

/-- A computation that ends as another one does whenever that one comes to an end. -/
def Calms (t t' : Traced α) : Prop :=
  ∀ calls a calls', t calls = (.ok a, calls') → t' calls = (.ok a, calls')

theorem Calms.refl (t : Traced α) : Calms t t := fun _ _ _ h => h

theorem Calms.bind {t t' : Traced α} {f f' : α → Traced β} (ht : Calms t t')
    (hf : ∀ a, Calms (f a) (f' a)) : Calms (t >>= f) (t' >>= f') := by
  intro calls b calls' h
  obtain ⟨a, calls₁, ha, hb⟩ := of_bind_ok h
  rw [bind_ok (ht _ _ _ ha)]
  exact hf a _ _ _ hb

theorem calms_invoke (cb : Callbacks) (call : Call) :
    Calms (cb.invoke call) ((Callbacks.answering cb.calm).invoke call) := by
  intro calls a calls' h
  rw [invoke_apply] at h ⊢
  obtain ⟨hcb, hcalls⟩ := Prod.mk.inj h
  rw [Callbacks.answering, Callbacks.calm, hcb, hcalls]

end Traced

namespace Field

open Traced

variable (registry : Registry) (cb : Callbacks) (c : Contract) (key : String)

theorem accepts_asks (v : Value) (type : String) : Asks cb (accepts cb c v type) := by
  unfold accepts
  cases c.validate with
  | none => exact .pure _
  | some check =>
    cases check with
    | regex p f => exact .pure _
    | callable f => exact .bind (.invoke _) fun _ => .pure _

theorem succeed_asks (state : FieldState) (v : Value) (type : String) :
    Asks cb (succeed cb c key state v type) := by
  unfold succeed
  cases c.transform with
  | none => exact .pure _
  | some f => exact .bind (.invoke _) fun _ => .pure _

theorem recover_asks (v : Value) (rejected : Option String) :
    Asks cb (recover registry cb c key v rejected) := by
  unfold recover
  cases c.default with
  | some d => exact succeed_asks cb c key .defaulted d _
  | none =>
    cases c.catch? with
    | none => exact .pure _
    | some f =>
      refine .bind (.invoke _) fun answer => ?_
      split
      · exact .pure _
      · exact succeed_asks cb c key .caught answer _

/-- The evaluation of a field is made of calls to the callbacks of its rule. -/
theorem evaluate_asks (v : Value) : Asks cb (evaluate registry cb c key v) := by
  unfold evaluate
  cases matchType registry c v with
  | none => exact recover_asks registry cb c key v none
  | some type =>
    refine .bind (accepts_asks cb c v type) fun passes => ?_
    split
    · exact succeed_asks cb c key .matched v type
    · exact recover_asks registry cb c key v (some type)

theorem calms_succeed (state : FieldState) (v : Value) (type : String) :
    Calms (succeed cb c key state v type) (succeed (.answering cb.calm) c key state v type) := by
  unfold succeed
  cases c.transform with
  | none => exact Calms.refl _
  | some f => exact (calms_invoke cb _).bind fun _ => Calms.refl _

theorem calms_recover (v : Value) (rejected : Option String) :
    Calms (recover registry cb c key v rejected)
      (recover registry (.answering cb.calm) c key v rejected) := by
  unfold recover
  cases c.default with
  | some d => exact calms_succeed cb c key .defaulted d _
  | none =>
    cases c.catch? with
    | none => exact Calms.refl _
    | some f =>
      refine (calms_invoke cb _).bind fun answer => ?_
      split
      · exact Calms.refl _
      · exact calms_succeed cb c key .caught answer _

theorem calms_evaluate (v : Value) :
    Calms (evaluate registry cb c key v) (evaluate registry (.answering cb.calm) c key v) := by
  unfold evaluate
  cases matchType registry c v with
  | none => exact calms_recover registry cb c key v none
  | some type =>
    refine Calms.bind ?_ fun passes => ?_
    · unfold accepts
      cases c.validate with
      | none => exact Calms.refl _
      | some check =>
        cases check with
        | regex p f => exact Calms.refl _
        | callable f => exact (calms_invoke cb _).bind fun _ => Calms.refl _
    · cases passes with
      | true => exact calms_succeed cb c key .matched v type
      | false => exact calms_recover registry cb c key v (some type)

/-- An evaluation in which no callback raised ends as if none could. -/
theorem evaluate_of_ok {v : Value} {before after : List Call} {o : FieldOutcome}
    (h : evaluate registry cb c key v before = (.ok o, after)) :
    o = outcome registry cb.calm c key v ∧ after = before ++ calls registry cb.calm c key v := by
  have hcalm := calms_evaluate registry cb c key v before o after h
  rw [evaluate_answering registry cb.calm c key v before] at hcalm
  obtain ⟨ho, hafter⟩ := Prod.mk.inj hcalm
  exact ⟨(Except.ok.inj ho).symm, hafter.symm⟩

end Field

end ArgumentSchema
