import ArgumentSchema.Proofs.Silent

/-!
# What a wrapped handler does with its arguments

A wrapped handler checks its arguments and then does one of three things, once: it calls the handler
with the output, tells the listener the report, or fails with the report. Keyword arguments may have
any name that the schema declares, but for the names that a wrapped call keeps for its own
parameters. Those make the call fail before anything is checked:

> `Wrapped.call_of_free`: without such a name, a wrapped call is the check of its arguments, and then
> what the report decides.
> `Wrapped.call_of_taken`: with such a name, nothing is called and the call fails.
> `Wrapper.updated_attributes`: a handler that is itself wrapped puts its own validator, handler and
> listener in the place of those that it is wrapped with.
> `Wrapper.call_delegates_iff`: so the arguments of a wrapped call are checked, and the report decides
> who is called, for every handler and listener exactly if no keyword has such a name; and by which
> validator, handler and listener.
-/

namespace ArgumentSchema

/-- A text is the same key as nothing but itself, also as the second of two keys. -/
theorem Value.sameKey_str_right (v : Value) (s : String) : sameKey v (.str s) = true ↔ v = .str s := by
  cases v with
  | str t => simp [sameKey]
  | _ => simp [sameKey]

/-- Keyword arguments: each under its name. -/
def Entries.ofNames {α : Type} (fields : List (String × α)) : Entries α :=
  fields.map fun f => (.str f.1, f.2)

namespace Binding

/-- What a handler is given in front of the output: its receiver, if it is reached through one. -/
def receiver? {ρ : Type} (receiver : ρ) : Binding → Option ρ
  | plain => none
  | bound => some receiver

theorem ofReceiver_receiver? {ρ : Type} (receiver : ρ) (binding : Binding) :
    ofReceiver (binding.receiver? receiver) = binding := by
  cases binding <;> rfl

variable {binding : Binding} {kwargs : List (String × Value)} {p : String}

theorem taken?_eq_none_iff : binding.taken? (Entries.ofNames kwargs) = none ↔
    ∀ p ∈ binding.ownParameters, p ∉ kwargs.map Prod.fst := by
  rw [taken?, Entries.ofNames, List.findSome?_map, List.findSome?_eq_none_iff]
  constructor
  · intro h p hp hname
    obtain ⟨f, hf, rfl⟩ := List.mem_map.mp hname
    have hnone := List.find?_eq_none.mp (h f hf) f.1 hp
    exact hnone ((Value.sameKey_str_right _ _).mpr rfl)
  · intro h f hf
    refine List.find?_eq_none.mpr fun p hp hsame => ?_
    obtain rfl : f.1 = p := by simpa [Value.sameKey] using hsame
    exact h _ hp (List.mem_map_of_mem hf)

theorem mem_of_taken? (h : binding.taken? (Entries.ofNames kwargs) = some p) :
    p ∈ binding.ownParameters ∧ p ∈ kwargs.map Prod.fst := by
  obtain ⟨e, he, hfind⟩ := List.exists_of_findSome?_eq_some h
  obtain ⟨f, hf, rfl⟩ := List.mem_map.mp he
  have hsame := List.find?_some hfind
  obtain rfl : f.1 = p := by simpa [Value.sameKey] using hsame
  exact ⟨List.mem_of_find?_eq_some hfind, List.mem_map_of_mem hf⟩

end Binding

namespace Wrapped

variable {α : Type}

/-- What a report decides: the handler gets the output if all fields are good; otherwise the listener
gets the report, or the call fails with it. -/
inductive Decides (handler : Value → Outcome α) (onInvalid : Option (Report → Outcome α))
    (r : Report) : Outcome α → Prop where
  | accepted : r.ok = true → Decides handler onInvalid r (handler r.value)
  | told {tell : Report → Outcome α} : r.ok = false → onInvalid = some tell →
      Decides handler onInvalid r (tell r)
  | rejected : r.ok = false → onInvalid = none →
      Decides handler onInvalid r (throw (.invalidArguments r))

/-- A wrapped call is the check of its arguments, which ends it if it raises, and then the one thing
that the report decides: what this comes to, and the calls that it makes, end the whole. -/
structure Delegates (v : Validator) (cb : Callbacks) (args : List Value) (kwargs : Entries Value)
    (handler : Value → Outcome α) (onInvalid : Option (Report → Outcome α))
    (whole : Outcome α) : Prop where
  reports : ∀ calls r after, v.check cb (.tuple args) kwargs calls = (.ok r, after) →
    ∃ next, Decides handler onInvalid r next ∧ whole calls = next after
  raises : ∀ calls f after, v.check cb (.tuple args) kwargs calls = (.error f, after) →
    whole calls = (.error f, after)

/-- Without a keyword that has a name of its own parameters, a wrapped call is the check of its
arguments and then what the report decides. -/
theorem call_of_free {w : Wrapped α} {cb : Callbacks} {binding : Binding} {args : List Value}
    {kwargs : Entries Value} (h : binding.taken? kwargs = none) :
    w.call cb binding args kwargs = (w.validator.check cb (.tuple args) kwargs >>= fun r =>
      if r.ok then w.handler binding r.value else Validator.reject w.onInvalid r) := by
  unfold call
  rw [h]

/-- With a keyword that has a name of its own parameters, a wrapped call fails before anything is
checked. -/
theorem call_of_taken {w : Wrapped α} {cb : Callbacks} {binding : Binding} {args : List Value}
    {kwargs : Entries Value} {p : String} (h : binding.taken? kwargs = some p) (calls : List Call) :
    w.call cb binding args kwargs calls = (.error (.raised (.ofText .typeError
      (binding.callName ++ " got multiple values for argument '" ++ p ++ "'"))), calls) := by
  unfold call
  rw [h]
  rfl

theorem decides (w : Wrapped α) (binding : Binding) (r : Report) :
    Decides (w.handler binding) w.onInvalid r
      (if r.ok then w.handler binding r.value else Validator.reject w.onInvalid r) := by
  cases hok : r.ok with
  | true => exact .accepted hok
  | false =>
    rw [if_neg Bool.false_ne_true]
    unfold Validator.reject
    cases htell : w.onInvalid with
    | some tell => exact .told hok rfl
    | none => exact .rejected hok rfl

theorem delegates_of_free {w : Wrapped α} {cb : Callbacks} {binding : Binding} {args : List Value}
    {kwargs : Entries Value} (h : binding.taken? kwargs = none) :
    Delegates w.validator cb args kwargs (w.handler binding) w.onInvalid
      (w.call cb binding args kwargs) := by
  constructor
  · intro calls r after hcheck
    refine ⟨_, w.decides binding r, ?_⟩
    rw [call_of_free h, Outcome.bind_ok hcheck]
  · intro calls f after hcheck
    rw [call_of_free h, Outcome.bind_error hcheck]

/-- Whatever the report is, a handler and a listener that answer are not made to fail. -/
theorem Decides.answers {a : α} {r : Report} {next : Outcome α}
    (h : Decides (fun _ => pure a) (some fun _ => pure a) r next) (calls : List Call) :
    next calls = (.ok a, calls) := by
  cases h with
  | accepted => rfl
  | told _ htell =>
    obtain rfl := Option.some.inj htell
    rfl
  | rejected _ hnone => cases hnone

end Wrapped

namespace Wrapper

open Wrapped

variable {α ρ : Type}

/-- A wrapped handler of which no method is hidden is called as what it is for the receiver. -/
theorem call_of_methods {w : Wrapper α ρ} (hinvoke : w.invoke = none) (hbound : w.boundCall = none)
    (cb : Callbacks) (receiver : Option ρ) (args : List Value) (kwargs : Entries Value) :
    w.call cb receiver args kwargs =
      (w.reached receiver).call cb (.ofReceiver receiver) args kwargs := by
  unfold call
  rw [hinvoke, hbound]
  cases receiver <;> cases (Binding.ofReceiver _).taken? kwargs <;> rfl

/-- A keyword that has a name of its own parameters makes a call fail, also if what it calls next was
hidden. -/
theorem call_of_taken {w : Wrapper α ρ} (hbound : w.boundCall = none) {cb : Callbacks}
    {receiver : Option ρ} {args : List Value} {kwargs : Entries Value} {p : String}
    (h : (Binding.ofReceiver receiver).taken? kwargs = some p) (calls : List Call) :
    w.call cb receiver args kwargs calls = (.error (.raised (.ofText .typeError
      ((Binding.ofReceiver receiver).callName ++ " got multiple values for argument '" ++ p ++
        "'"))), calls) := by
  have hreached : w.call cb receiver args kwargs =
      (w.reached receiver).call cb (.ofReceiver receiver) args kwargs := by
    unfold call
    rw [hbound, h]
    cases receiver <;> rfl
  rw [hreached, Wrapped.call_of_taken h]

theorem delegates_of_free {w : Wrapper α ρ} (hinvoke : w.invoke = none) (hbound : w.boundCall = none)
    {cb : Callbacks} {receiver : Option ρ} {args : List Value} {kwargs : Entries Value}
    (h : (Binding.ofReceiver receiver).taken? kwargs = none) :
    Delegates w.validator cb args kwargs (w.handler receiver) w.onInvalid
      (w.call cb receiver args kwargs) := by
  rw [call_of_methods hinvoke hbound]
  exact Wrapped.delegates_of_free (w := w.reached receiver) h

theorem invoke_wrap (v : Validator) (handler : Handler α ρ) (onInvalid : Option (Report → Outcome α)) :
    (v.wrap handler onInvalid).invoke = handler.attributes.invoke := by
  show (handler.attributes.invoke <|> none) = _
  cases handler.attributes.invoke <;> rfl

theorem boundCall_wrap (v : Validator) (handler : Handler α ρ)
    (onInvalid : Option (Report → Outcome α)) :
    (v.wrap handler onInvalid).boundCall = handler.attributes.boundCall := by
  show (handler.attributes.boundCall <|> none) = _
  cases handler.attributes.boundCall <;> rfl

/-- Of a wrapped handler nothing is left when the attributes of another one are copied over it. -/
theorem updated_attributes (w inner : Wrapper α ρ) (hinvoke : w.invoke = none)
    (hbound : w.boundCall = none) : w.updated inner.attributes = inner := by
  obtain ⟨_, _, _, invoke, boundCall⟩ := inner
  unfold updated attributes
  rw [hinvoke, hbound]
  cases invoke <;> cases boundCall <;> rfl

/-- The arguments of a wrapped call are checked, and the report decides whether the handler gets the
output behind its receiver or the listener gets the report, exactly if no keyword has the name of a
parameter of the wrapped call itself: for any handler, listener, receiver and callbacks. A keyword
of such a name makes the call fail before anything is checked or called. Validator, handler and
listener are those given to the wrapping unless the handler has attributes of their names: then it
is what the handler has. A handler that is itself wrapped has all of them, so that wrapping it again
changes nothing. -/
theorem call_delegates_iff {registry : Registry} {o : PathOptions} {schema : Value} {v : Validator}
    (hv : Validator.compile registry o schema = .ok v) (binding : Binding) (args : List Value)
    (kwargs : List (String × Value)) :
    ((∀ (α ρ : Type) cb (handler : Handler α ρ) onInvalid receiver,
      handler.attributes.invoke = none → handler.attributes.boundCall = none →
      Delegates (handler.attributes.validator.getD v) cb args (.ofNames kwargs)
        (handler.attributes.handler.getD handler.call (binding.receiver? receiver))
        (handler.attributes.onInvalid.getD onInvalid)
        ((v.wrap handler onInvalid).call cb (binding.receiver? receiver) args (.ofNames kwargs))) ↔
      ∀ p ∈ binding.ownParameters, p ∉ kwargs.map Prod.fst) ∧
    (∀ p ∈ binding.ownParameters, p ∈ kwargs.map Prod.fst →
      ∃ q ∈ binding.ownParameters, q ∈ kwargs.map Prod.fst ∧
        ∀ (α ρ : Type) cb (handler : Handler α ρ) onInvalid receiver calls,
          handler.attributes.boundCall = none →
          (v.wrap handler onInvalid).call cb (binding.receiver? receiver) args (.ofNames kwargs) calls =
            (.error (.raised (.ofText .typeError
              (binding.callName ++ " got multiple values for argument '" ++ q ++ "'"))), calls)) ∧
    ∀ (α : Type) cb (inner : Wrapper α Value) onInvalid,
      v.wrap (inner.toHandler cb) onInvalid = inner := by
  have htaken : ∀ p ∈ binding.ownParameters, p ∈ kwargs.map Prod.fst →
      ∃ q, binding.taken? (Entries.ofNames kwargs) = some q := by
    intro p hp hname
    refine Option.ne_none_iff_exists'.mp fun hnone => ?_
    exact Binding.taken?_eq_none_iff.mp hnone p hp hname
  refine ⟨⟨fun h p hp hname => ?_, fun h α ρ cb handler onInvalid receiver hinvoke hbound => ?_⟩,
    fun p hp hname => ?_, fun α cb inner onInvalid => ?_⟩
  · -- callbacks, handler and listener all answer, and still the call fails
    obtain ⟨q, hq⟩ := htaken p hp hname
    let answer : Call → Value := fun _ => .null
    obtain ⟨ht, -⟩ := Validator.compile_compiled hv
    have hitems : (Value.tuple args).items?.isSome = true := rfl
    obtain ⟨es, hes⟩ := Input.exists_entries v.table.topLevelKeys (.inr hitems) (.ofNames kwargs)
    have hcheck := Validator.check_of_execute hes (Run.execute_answering ht v.registry answer es [])
    let handler : Handler Unit Unit := { call := fun _ _ => pure () }
    obtain ⟨next, hdecides, hcall⟩ :=
      (h Unit Unit (.answering answer) handler (some fun _ => pure ()) () rfl rfl).reports
        [] _ _ hcheck
    rw [← Binding.ofReceiver_receiver? () binding] at hq
    rw [call_of_taken rfl hq, hdecides.answers] at hcall
    cases hcall
  · rw [← Binding.ofReceiver_receiver? receiver binding] at h
    have hfree := Binding.taken?_eq_none_iff.mpr h
    exact delegates_of_free ((invoke_wrap v handler onInvalid).trans hinvoke)
      ((boundCall_wrap v handler onInvalid).trans hbound) hfree
  · obtain ⟨q, hq⟩ := htaken p hp hname
    obtain ⟨hown, hqname⟩ := Binding.mem_of_taken? hq
    refine ⟨q, hown, hqname, fun α ρ cb handler onInvalid receiver calls hbound => ?_⟩
    rw [← Binding.ofReceiver_receiver? receiver binding] at hq
    rw [call_of_taken ((boundCall_wrap v handler onInvalid).trans hbound) hq,
      Binding.ofReceiver_receiver?]
  · exact updated_attributes _ inner rfl rfl

/-- A schema that declares a field named as a parameter: the argument is good, and the call fails.
With that validator around a handler that is already wrapped, the arguments are checked by the other
one only. -/
theorem call_delegates_iff_self :
    let schema : Value := .dict false [(.str "self", .str "number")]
    let kwargs : List (String × Value) := [("self", .int 1)]
    let cb : Callbacks := fun _ => .error (.ofText .runtimeError "called")
    ∃ v r, Validator.compile Registry.default .default schema = .ok v ∧
      v.check cb (.tuple []) (.ofNames kwargs) [] = (.ok r, []) ∧ r.ok = true ∧
      r.value = .dict false [(.str "self", .int 1)] ∧
      (¬ ∀ (α ρ : Type) cb (handler : Handler α ρ) onInvalid receiver,
        handler.attributes.invoke = none → handler.attributes.boundCall = none →
        Delegates (handler.attributes.validator.getD v) cb [] (.ofNames kwargs)
          (handler.attributes.handler.getD handler.call (Binding.plain.receiver? receiver))
          (handler.attributes.onInvalid.getD onInvalid)
          ((v.wrap handler onInvalid).call cb none [] (.ofNames kwargs))) ∧
      (∀ (α ρ : Type) cb (handler : Handler α ρ) onInvalid (_ : ρ) calls,
        handler.attributes.boundCall = none →
        (v.wrap handler onInvalid).call cb none [] (.ofNames kwargs) calls =
          (.error (.raised (.ofText .typeError
            "WrappedHandler.__call__() got multiple values for argument 'self'")), calls)) ∧
      ∃ v', Validator.compile Registry.default .default (.dict false [(.str "b", .str "string")]) =
          .ok v' ∧
        let inner : Wrapper Value Value := v'.wrap { call := fun _ output => pure output } none
        (∃ r', v.check cb (.tuple [.str "x"]) [] [] = (.ok r', []) ∧ r'.ok = false) ∧
        (v.wrap (inner.toHandler cb) none).call cb none [.str "x"] [] [] =
          (.ok (.dict false [(.str "b", .str "x")]), []) := by
  intro schema kwargs cb
  let r : Rule := ⟨.ofTypes ["number"], [.name "self"]⟩
  let v : Validator := ⟨⟨.default, [("self", r)]⟩, Registry.default⟩
  have hv : Validator.compile Registry.default .default schema = .ok v := by cbv
  have hcheck : v.check cb (.tuple []) (.ofNames kwargs) [] =
      (.ok ⟨.dict false [(.str "self", .int 1)], [("self", .int 1)], [], []⟩, []) := by cbv
  obtain ⟨hiff, hclash, hagain⟩ := call_delegates_iff hv .plain [] kwargs
  have hown : "self" ∈ Binding.plain.ownParameters := List.mem_singleton_self _
  have hname : "self" ∈ kwargs.map Prod.fst := List.mem_singleton_self _
  obtain ⟨q, hq, -, hcall⟩ := hclash "self" hown hname
  obtain rfl : q = "self" := List.mem_singleton.mp hq
  let r' : Rule := ⟨.ofTypes ["string"], [.name "b"]⟩
  let v' : Validator := ⟨⟨.default, [("b", r')]⟩, Registry.default⟩
  have hv' : Validator.compile Registry.default .default (.dict false [(.str "b", .str "string")]) =
      .ok v' := by cbv
  refine ⟨v, _, hv, hcheck, rfl, rfl, fun h => hiff.mp h "self" hown hname, hcall, v', hv', ?_, ?_⟩
  · exact ⟨⟨.dict false [], [], [("self", .str "x")], [⟨"self", .str "x", "string", ["number"]⟩]⟩,
      by cbv, rfl⟩
  · have hcheck' : v'.check cb (.tuple [.str "x"]) [] [] =
        (.ok ⟨.dict false [(.str "b", .str "x")], [("b", .str "x")], [], []⟩, []) := by cbv
    rw [hagain, call_of_methods rfl rfl, Wrapped.call_of_free rfl]
    exact (Outcome.bind_ok hcheck').trans rfl

end Wrapper

end ArgumentSchema
