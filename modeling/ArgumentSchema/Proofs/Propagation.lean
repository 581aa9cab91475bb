import ArgumentSchema.Proofs.Delegation
import ArgumentSchema.Proofs.Operations

/-!
# Where what a callback raises ends up

Nothing in the evaluation of fields catches what a callback raises. The first call that raises is the
last one of the whole run, and what it has raised is what the run ends in:

> `Run.execute_stops`: a run stops at the first call that raises.
> `Validator.raised_reaches_caller`: what a callback has raised reaches the caller of a check, of a
> parse and of a wrapped handler as it was raised, and neither a handler nor a listener is called on
> the way. It reaches the caller of the operation that checks an input exactly if it is no error of a
> wrong type: such an error is taken for one about the kind of the input.
-/

namespace ArgumentSchema

/-! ## Computations that stop -/

/-- Calls in the order in which they are made, up to the first one that raises, and what it has
raised; nothing if all of them were answered. -/
inductive Callbacks.Raises (cb : Callbacks) : List Call → Option Raised → Prop where
  | none : Raises cb [] .none
  | answered {call : Call} {v : Value} {calls : List Call} {raised : Option Raised} :
      cb call = .ok v → Raises cb calls raised → Raises cb (call :: calls) raised
  | raised {call : Call} {e : Raised} : cb call = .error e → Raises cb [call] (some e)

namespace Callbacks.Raises

variable {cb : Callbacks} {made made' : List Call} {raised : Option Raised}

/-- Calls that were all answered can be followed by others. -/
theorem append (h : cb.Raises made .none) (h' : cb.Raises made' raised) :
    cb.Raises (made ++ made') raised := by
  induction made with
  | nil => exact h'
  | cons call made ih =>
    cases h with
    | answered hanswer hrest => exact .answered hanswer (ih hrest)

/-- A call that raises is the last one, after calls that were answered. -/
theorem last (h : cb.Raises made raised) {call : Call} {e : Raised} (hcall : call ∈ made)
    (he : cb call = .error e) :
    raised = some e ∧ ∃ pre last, made = pre ++ [last] ∧ cb last = .error e ∧
      ∀ c ∈ pre, ∃ v, cb c = .ok v := by
  induction h with
  | none => cases hcall
  | @answered call' v calls raised hanswer hrest ih =>
    rcases List.mem_cons.mp hcall with rfl | hcall
    · rw [hanswer] at he
      cases he
    · obtain ⟨hraised, pre, last, rfl, hlast, hpre⟩ := ih hcall
      exact ⟨hraised, call' :: pre, last, rfl, hlast, List.forall_mem_cons.mpr ⟨⟨v, hanswer⟩, hpre⟩⟩
  | @raised call' e' he' =>
    obtain rfl := List.mem_singleton.mp hcall
    obtain rfl := Except.error.inj (he.symm.trans he')
    exact ⟨rfl, [], call, rfl, he, fun c hc => by cases hc⟩

end Callbacks.Raises

namespace Traced

variable {α β : Type} {cb : Callbacks}

/-- A computation stops at the first call that raises and ends in what was raised. It does the same
whatever was called before. -/
def Stops (cb : Callbacks) (t : Traced α) : Prop :=
  ∃ result made raised, (∀ calls, t calls = (result, calls ++ made)) ∧ cb.Raises made raised ∧
    ∀ e, raised = some e → result = .error e

theorem Stops.of_result {t : Traced α} {result : Except Raised α}
    (h : ∀ calls, t calls = (result, calls)) : Stops cb t := by
  refine ⟨result, [], none, fun calls => ?_, .none, fun e he => by cases he⟩
  rw [h, List.append_nil]

theorem Stops.pure (a : α) : Stops cb (Pure.pure a) := .of_result fun calls => pure_apply a calls

theorem lift_stops (x : Except Raised α) : Stops cb (Run.lift x) := by
  cases x with
  | ok a => exact .pure a
  | error e => exact .of_result fun calls => rfl

theorem invoke_stops (cb : Callbacks) (call : Call) : Stops cb (cb.invoke call) := by
  cases hanswer : cb call with
  | ok v =>
    refine ⟨.ok v, [call], none, fun calls => ?_, .answered hanswer .none, fun e he => by cases he⟩
    rw [invoke_apply, hanswer]
  | error e =>
    refine ⟨.error e, [call], some e, fun calls => ?_, .raised hanswer, fun e' he => ?_⟩
    · rw [invoke_apply, hanswer]
    · rw [Option.some.inj he]

theorem Stops.bind {t : Traced α} {f : α → Traced β} (ht : Stops cb t) (hf : ∀ a, Stops cb (f a)) :
    Stops cb (t >>= f) := by
  obtain ⟨result, made, raised, hmade, hraises, hends⟩ := ht
  cases result with
  | error e =>
    refine ⟨.error e, made, raised, fun calls => bind_error (hmade calls), hraises, fun e' he' => ?_⟩
    exact congrArg Except.error (Except.error.inj (hends e' he'))
  | ok a =>
    -- where there is a value, all calls were answered
    have hnone : raised = none := by
      cases raised with
      | none => rfl
      | some e => cases hends e rfl
    subst hnone
    obtain ⟨result', made', raised', hmade', hraises', hends'⟩ := hf a
    refine ⟨result', made ++ made', raised', fun calls => ?_, hraises.append hraises', hends'⟩
    rw [bind_ok (hmade calls), hmade', List.append_assoc]

/-- What is made of calls stops at the first of them that raises. -/
theorem Asks.stops {t : Traced α} (h : Asks cb t) : Stops cb t := by
  induction h with
  | pure a => exact .pure a
  | invoke call => exact invoke_stops cb call
  | bind _ _ ih ih' => exact ih.bind ih'

theorem foldlM_stops {f : β → α → Traced β} (hf : ∀ b a, Stops cb (f b a)) (as : List α) :
    ∀ b, Stops cb (as.foldlM f b) := by
  induction as with
  | nil => exact fun b => .pure b
  | cons a as ih =>
    intro b
    rw [List.foldlM_cons]
    exact (hf b a).bind ih

end Traced

/-- A run stops at the first call that raises. -/
theorem Run.execute_stops (registry : Registry) (cb : Callbacks) (table : RuleTable)
    (es : Entries Value) : Traced.Stops cb (execute registry cb table es) := by
  have htask : ∀ s t, Traced.Stops cb (task registry cb s t) := fun s t =>
    (Field.evaluate_asks registry cb _ _ _).stops.bind fun o => Traced.lift_stops _
  have hrule : ∀ s r, Traced.Stops cb (rule registry cb table s r) := fun s r =>
    Traced.foldlM_stops htask _ _
  exact (Traced.foldlM_stops hrule _ _).bind fun s => Traced.lift_stops _

namespace Validator

/-- Where a callback has raised, a check makes that call last and ends in what was raised. -/
theorem check_stops {v : Validator} {cb : Callbacks} {data : Value} {keywords : Entries Value}
    {e : Raised} (hraised : ∃ call ∈ (v.check cb data keywords []).2, cb call = .error e) :
    ∃ made last, (∀ call ∈ made, ∃ answer, cb call = .ok answer) ∧ cb last = .error e ∧
      (∀ calls, v.check cb data keywords calls = (.error (.raised e), calls ++ made ++ [last])) ∧
      (v.run cb data keywords []).1 = .error (.raised e) := by
  obtain ⟨call, hmade, hcall⟩ := hraised
  cases hes : Input.entries v.table.topLevelKeys data keywords with
  | error wrong =>
    -- nothing is called for an input of the wrong kind
    have hrun : v.run cb data keywords [] = (.error (.input wrong), []) := by
      unfold run
      rw [hes]
      rfl
    rw [check, Outcome.bind_error hrun] at hmade
    cases hmade
  | ok es =>
    obtain ⟨result, made, raised, hrun, hraises, hends⟩ :=
      Run.execute_stops v.registry cb v.table es
    have hin : call ∈ made := by
      cases result with
      | ok finished =>
        rw [check_of_execute hes (hrun [])] at hmade
        exact hmade
      | error e' =>
        rw [check_of_raised hes (hrun [])] at hmade
        exact hmade
    obtain ⟨rfl, pre, last, rfl, hlast, hpre⟩ := hraises.last hin hcall
    obtain rfl := hends e rfl
    refine ⟨pre, last, hpre, hlast, fun calls => ?_, ?_⟩
    · rw [check_of_raised hes (hrun calls), List.append_assoc]
    · rw [run_of_raised hes (hrun [])]

/-- What a callback raises ends a check: the callbacks called before it have answered, and it is the
last one that is called. Parsing and wrapped calls then end the same way, so that no handler and no
listener is called. So does the operation that checks an input, unless the class of what was raised is
that of errors of a wrong type or extends it, directly or not: such an error makes the operation
answer that the input is of the wrong kind. -/
theorem raised_reaches_caller {registry : Registry} {o : PathOptions} {schema : Value}
    {v : Validator} (hv : compile registry o schema = .ok v) {cb : Callbacks} {data : Value}
    {keywords : Entries Value} {e : Raised}
    (hraised : ∃ call ∈ (v.check cb data keywords []).2, cb call = .error e) :
    ∃ made last, (∀ call ∈ made, ∃ answer, cb call = .ok answer) ∧ cb last = .error e ∧
      (∀ calls, v.check cb data keywords calls = (.error (.raised e), calls ++ made ++ [last])) ∧
      (keywords = [] → ∀ (α : Type) (onInvalid : Option (Report → Outcome α)) calls,
        v.parse cb onInvalid data calls = (.error (.raised e), calls ++ made ++ [last])) ∧
      (∀ args, data = .tuple args → ∀ (α ρ : Type) (w : Wrapper α ρ) (receiver : Option ρ),
        w.validator = v → w.invoke = none → w.boundCall = none →
        (Binding.ofReceiver receiver).taken? keywords = none → ∀ calls,
          w.call cb receiver args keywords calls = (.error (.raised e), calls ++ made ++ [last])) ∧
      (keywords = [] →
        ((Service.check registry cb o schema data).2 = .error (.raised e) ↔
          Class.builtin .typeError ∉ e.kind.cls.lineage) ∧
        (Class.builtin .typeError ∈ e.kind.cls.lineage →
          (Service.check registry cb o schema data).2 =
            .ok (.failure "check" "BAD_INPUT" e.message []))) := by
  obtain ⟨made, last, hmade, hlast, hcheck, hrun⟩ := check_stops hraised
  refine ⟨made, last, hmade, hlast, hcheck, ?_, ?_, ?_⟩
  · rintro rfl α onInvalid calls
    exact Outcome.bind_error (hcheck calls)
  · rintro args rfl α ρ w receiver rfl hinvoke hbound hfree calls
    rw [Wrapper.call_of_methods hinvoke hbound, Wrapped.call_of_free hfree]
    exact Outcome.bind_error (hcheck calls)
  · rintro rfl
    obtain ⟨-, hregistry⟩ := compile_compiled hv
    rw [← hregistry] at hv ⊢
    rw [Service.check_of_failure (compile_table hv) hrun]
    simp only [Service.isTypeFailure, ExceptionKind.isBelow, Class.isBelow_iff]
    by_cases hkind : Class.builtin .typeError ∈ e.kind.cls.lineage
    · simp [hkind, Failure.message]
    · simp [hkind]

/-- A transformation that raises an error of a class declared below those of a wrong type: a check, a
parse and a wrapped call end in it, and the operation takes it for one about the input. -/
theorem raised_reaches_caller_transform :
    let schema : Value := .dict false [(.str "a", .dict false [(.str "type", .str "number"),
      (.str "transform", .callback "boom" [])])]
    let data : Value := .tuple [.int 1]
    let kind : ExceptionKind :=
      ⟨.user (.declare "WrongUnit" (.builtin ⟨.typeError, rfl⟩ .none) false), rfl, none⟩
    let e : Raised := .ofText kind "boom"
    let cb : Callbacks := fun _ => .error e
    ∃ v made, compile Registry.default .default schema = .ok v ∧
      (∃ call ∈ (v.check cb data [] []).2, cb call = .error e) ∧
      v.check cb data [] [] = (.error (.raised e), made) ∧
      v.parse cb (some fun _ => pure ()) data [] = (.error (.raised e), made) ∧
      (v.wrap ({ call := fun _ _ => pure () } : Handler Unit Unit) (some fun _ => pure ())).call cb none
        [.int 1] [] [] = (.error (.raised e), made) ∧
      (Service.check Registry.default cb .default schema data).2 =
        .ok (.failure "check" "BAD_INPUT" "boom" []) := by
  intro schema data kind e cb
  let r : Rule := ⟨{ Contract.ofTypes ["number"] with transform := some (.callback "boom" []) },
    [.name "a"]⟩
  let v : Validator := ⟨⟨.default, [("a", r)]⟩, Registry.default⟩
  have hv : compile Registry.default .default schema = .ok v := by cbv
  have hcalls : (v.check cb data [] []).2 = [⟨.callback "boom" [], .int 1, "number", none⟩] := by cbv
  have hraised : ∃ call ∈ (v.check cb data [] []).2, cb call = .error e := by
    rw [hcalls]
    exact ⟨_, List.mem_singleton_self _, rfl⟩
  have hkind : Class.builtin .typeError ∈ e.kind.cls.lineage := by decide
  obtain ⟨made, last, -, -, hcheck, hparse, hcall, hservice⟩ := raised_reaches_caller hv hraised
  exact ⟨v, _, hv, hraised, hcheck [], hparse rfl Unit _ [],
    hcall [.int 1] rfl Unit Unit (v.wrap _ _) none rfl rfl rfl rfl [], (hservice rfl).2 hkind⟩

end Validator

end ArgumentSchema
