import ArgumentSchema.Failure
import ArgumentSchema.Run

/-!
# Validators

A validator is a compiled schema with the registry that it was compiled with. `check` gives the full
report of an input and `parse` its output. `Wrapped` puts the validator in front of a handler: the
handler is called with the output if all fields are good, and otherwise the listener is told the
report, or the call fails with it. A callback that raises ends any of them. A handler is an object
with attributes of its own, and wrapping it copies them to the object that stands in front of it, so
that a handler which is itself wrapped brings its validator, handler and listener along. Main
definitions: `Validator.compile`, `Validator.check`, `Validator.parse`, `Wrapped.call`,
`Validator.wrap`, `Wrapper.call`.
-/

namespace ArgumentSchema

/-- A compiled schema and its registry. -/
structure Validator where
  table : RuleTable
  registry : Registry

/-- A computation of the library: it may call callbacks and may fail. -/
abbrev Outcome (α : Type) := ExceptT Failure (StateM (List Call)) α

/-- A traced computation as one that may fail. -/
def Traced.outcome {α : Type} (t : Traced α) : Outcome α := fun calls =>
  match t calls with
  | (.ok a, calls) => (.ok a, calls)
  | (.error e, calls) => (.error (.raised e), calls)

namespace Validator

/-- Compiles a schema. -/
def compile (registry : Registry) (o : PathOptions) (schema : Value) :
    Except CompileError Validator :=
  (RuleTable.compile registry o schema).map fun table => ⟨table, registry⟩

/-- Validates an input and keeps the outcomes of all fields beside the report. -/
def run (v : Validator) (cb : Callbacks) (data : Value) (keywords : Entries Value) :
    Outcome Run.Finished :=
  match Input.entries v.table.topLevelKeys data keywords with
  | .error e => throw (.input e)
  | .ok es => (Run.execute v.registry cb v.table es).outcome

/-- Validates an input and gives the full report. -/
def check (v : Validator) (cb : Callbacks) (data : Value) (keywords : Entries Value) :
    Outcome Report := do
  let finished ← v.run cb data keywords
  pure finished.report

/-- What happens to a report with failed fields: the listener is told, or the call fails. -/
def reject {α : Type} (onInvalid : Option (Report → Outcome α)) (r : Report) : Outcome α :=
  match onInvalid with
  | some tell => tell r
  | none => throw (.invalidArguments r)

/-- Validates an input and gives the output, which is partial when a listener was told of failed
fields. -/
def parse {α : Type} (v : Validator) (cb : Callbacks) (onInvalid : Option (Report → Outcome α))
    (data : Value) : Outcome Value := do
  let r ← v.check cb data []
  if !r.ok then
    let _ ← reject onInvalid r
  pure r.value

end Validator

/-- How a wrapped handler is reached: as a plain function, or through an instance that it then
receives first. -/
inductive Binding where
  | plain
  | bound
deriving DecidableEq, Repr

/-- The parameters of a wrapped call that have names of their own, which no keyword argument may
take: a keyword of that name gives the parameter a second value. -/
def Binding.ownParameters : Binding → List String
  | plain => ["self"]
  | bound => ["self", "receiver"]

/-- The name under which a wrapped call reports a parameter that got two values. -/
def Binding.callName : Binding → String
  | plain => "WrappedHandler.__call__()"
  | bound => "WrappedHandler._bound_call()"

/-- The first keyword argument that has the name of a parameter of the wrapped call itself. -/
def Binding.taken? (binding : Binding) (kwargs : Entries Value) : Option String :=
  kwargs.findSome? fun e => binding.ownParameters.find? fun p => e.1.sameKey (.str p)

/-- A handler behind a validator. The handler is told whether it is bound to a receiver. -/
structure Wrapped (α : Type) where
  validator : Validator
  handler : Binding → Value → Outcome α
  onInvalid : Option (Report → Outcome α)

namespace Wrapped

/-- Calls a wrapped handler. Positional arguments go to the top-level keys and keyword arguments to
the keys of their names. -/
def call {α : Type} (w : Wrapped α) (cb : Callbacks) (binding : Binding) (args : List Value)
    (kwargs : Entries Value) : Outcome α := do
  match binding.taken? kwargs with
  | some p =>
    throw (.raised (.ofText .typeError
      (binding.callName ++ " got multiple values for argument '" ++ p ++ "'")))
  | none =>
    let r ← w.validator.check cb (.tuple args) kwargs
    if r.ok then w.handler binding r.value else Validator.reject w.onInvalid r

end Wrapped

/-! ## Wrapping -/

section Wrapping

variable {α ρ : Type}

/-- What the attribute dictionary of an object has under the names that a wrapped handler uses: for
its validator, its handler and its listener, and for its two methods, which a dictionary hides. -/
structure Attributes (α ρ : Type) where
  validator : Option Validator := none
  handler : Option (Option ρ → Value → Outcome α) := none
  onInvalid : Option (Option (Report → Outcome α)) := none
  invoke : Option (Option ρ → List Value → Entries Value → Outcome α) := none
  boundCall : Option (ρ → List Value → Entries Value → Outcome α) := none

/-- Something to call with an output, behind a receiver if there is one, and its attributes. -/
structure Handler (α ρ : Type) where
  call : Option ρ → Value → Outcome α
  attributes : Attributes α ρ := {}

/-- The object that wrapping a handler gives: its attributes, and what hides its methods. -/
structure Wrapper (α ρ : Type) where
  validator : Validator
  handler : Option ρ → Value → Outcome α
  onInvalid : Option (Report → Outcome α)
  invoke : Option (Option ρ → List Value → Entries Value → Outcome α) := none
  boundCall : Option (ρ → List Value → Entries Value → Outcome α) := none

/-- Whether a call goes through an instance, which it has for a receiver. -/
def Binding.ofReceiver : Option ρ → Binding
  | none => .plain
  | some _ => .bound

namespace Wrapper

/-- A wrapped handler after other attributes were copied over its own. -/
def updated (w : Wrapper α ρ) (a : Attributes α ρ) : Wrapper α ρ where
  validator := a.validator.getD w.validator
  handler := a.handler.getD w.handler
  onInvalid := a.onInvalid.getD w.onInvalid
  invoke := a.invoke <|> w.invoke
  boundCall := a.boundCall <|> w.boundCall

/-- The attributes of a wrapped handler. -/
def attributes (w : Wrapper α ρ) : Attributes α ρ :=
  ⟨some w.validator, some w.handler, some w.onInvalid, w.invoke, w.boundCall⟩

/-- What a wrapped handler is for one receiver. -/
def reached (w : Wrapper α ρ) (receiver : Option ρ) : Wrapped α where
  validator := w.validator
  handler _ output := w.handler receiver output
  onInvalid := w.onInvalid

/-- Calls a wrapped handler by itself or through a receiver. What hides a method is called in its
place: the one for a bound call at once, the other behind the parameters of the call. -/
def call (w : Wrapper α ρ) (cb : Callbacks) (receiver : Option ρ) (args : List Value)
    (kwargs : Entries Value) : Outcome α :=
  match receiver, w.boundCall with
  | some r, some f => f r args kwargs
  | _, _ =>
    match (Binding.ofReceiver receiver).taken? kwargs, w.invoke with
    | none, some f => f receiver args kwargs
    | _, _ => (w.reached receiver).call cb (.ofReceiver receiver) args kwargs

/-- A wrapped handler as a handler: a receiver is then the first of its positional arguments. -/
def toHandler (w : Wrapper α Value) (cb : Callbacks) : Handler α Value where
  call receiver output := w.call cb none (receiver.toList ++ [output]) []
  attributes := w.attributes

end Wrapper

/-- Wraps a handler. The wrapped handler looks like the handler: once its own attributes are set,
those of the handler are copied over them. -/
def Validator.wrap (v : Validator) (handler : Handler α ρ)
    (onInvalid : Option (Report → Outcome α)) : Wrapper α ρ :=
  Wrapper.updated ⟨v, handler.call, onInvalid, none, none⟩ handler.attributes

end Wrapping

end ArgumentSchema
