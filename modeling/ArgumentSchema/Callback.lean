import ArgumentSchema.Value.Text

/-!
# Callbacks and what they raise

A callback is told a value and the name of its type, and a recovery also the key of the field. It
answers with a value or raises something, which is of any class below that of what can be raised.
What callbacks mean is given by a `Callbacks`, a function from the callable value and the call to the
answer, so everything here holds for any meaning. A computation that calls them keeps the calls in
order (`Traced`); the first call that raises ends it. Main definitions: `ExceptionKind`,
`Raised`, `Call`, `Callbacks`, `Traced`, `Callbacks.invoke`.
-/

namespace ArgumentSchema

/-- A class of what can be raised. A declared class may have a way of its own to read what was
raised. -/
structure ExceptionKind where
  cls : Class
  raisable : cls.isBelow .baseException = true
  reading : Option (List Value → String) := none

namespace ExceptionKind

/-- Whether a class of what can be raised is a built-in class or below it. -/
def isBelow (k : ExceptionKind) (b : BuiltinClass) : Bool := k.cls.isBelow b

/-- The name of an exception class. -/
def name (k : ExceptionKind) : String := k.cls.name

/-- A built-in class of what can be raised. -/
def ofBuiltin (b : BuiltinClass) (h : (Class.builtin b).isBelow .baseException = true) :
    ExceptionKind :=
  ⟨.builtin b, h, none⟩

def exception : ExceptionKind := ofBuiltin .exception rfl

def valueError : ExceptionKind := ofBuiltin .valueError rfl

def typeError : ExceptionKind := ofBuiltin .typeError rfl

def keyError : ExceptionKind := ofBuiltin .keyError rfl

def indexError : ExceptionKind := ofBuiltin .indexError rfl

def runtimeError : ExceptionKind := ofBuiltin .runtimeError rfl

/-- A class that a user declared right below the exceptions. -/
def user (name : String) : ExceptionKind :=
  ⟨.user (.declare name (.builtin ⟨.exception, rfl⟩ .none) false), rfl, none⟩

/-- The class above all those that this library declares. -/
def libraryClass : DeclaredClass :=
  .declare "ArgshapeError" (.builtin ⟨.exception, rfl⟩ .none) false

/-- A class that this library declares, under the given name. -/
def library (name : String) : ExceptionKind :=
  if name = libraryClass.name then ⟨.user libraryClass, rfl, none⟩
  else ⟨.user (.declare name (.declared libraryClass .none) false), rfl, none⟩

end ExceptionKind

/-- Something raised: its class and what it was built from. -/
structure Raised where
  kind : ExceptionKind
  args : List Value

/-- Something raised with a message. -/
def Raised.ofText (kind : ExceptionKind) (message : String) : Raised := ⟨kind, [.str message]⟩

/-- The message of something raised: what its class reads it as, or else nothing, its one argument,
or all of them. A missing key is shown as inside a message. -/
def Raised.message (e : Raised) : String :=
  match e.kind.reading, e.args with
  | some read, args => read args
  | none, [] => ""
  | none, [v] => if e.kind.isBelow .keyError then v.shown else v.text
  | none, vs => (Value.tuple vs).shown

/-- What a callback is told. Recoveries are told the key of the field. -/
structure Call where
  callee : Value
  value : Value
  type : String
  key : Option String

/-- What callbacks mean. -/
abbrev Callbacks := Call → Except Raised Value

/-- A computation that calls callbacks: it carries the calls made so far, the latest last. -/
abbrev Traced (α : Type) := ExceptT Raised (StateM (List Call)) α

/-- Makes a call and remembers it. -/
def Callbacks.invoke (cb : Callbacks) (call : Call) : Traced Value := do
  modify (· ++ [call])
  match cb call with
  | .ok v => pure v
  | .error e => throw e

end ArgumentSchema
