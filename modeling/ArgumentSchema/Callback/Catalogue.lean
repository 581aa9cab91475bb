import ArgumentSchema.Callback
import ArgumentSchema.Text.Blank
import ArgumentSchema.Text.Case
import ArgumentSchema.Value.Key

/-!
# A catalogue of callbacks

Schemas are plain data, so the callbacks in them are named: a name and the values that complete its
meaning. This module fixes what the names mean. A name that works on some kinds of values only
refuses the others. Beside the callbacks stand the predicates that a declared type can use. Main
definitions: `Catalogue.callbacks`, `Catalogue.predicate?`.
-/

namespace ArgumentSchema.Catalogue

/-- What a callback of this catalogue raises on a value that it does not work on. -/
def refusal : ExceptionKind := .user "CallbackError"

/-- Refuses a value. -/
def unsupported (name : String) : Except Raised Value :=
  .error (.ofText refusal (name ++ ": unsupported value"))

/-- The exception class of a name. -/
def exceptionKind : String → ExceptionKind
  | "Exception" => .exception
  | "ValueError" => .valueError
  | "TypeError" => .typeError
  | "KeyError" => .keyError
  | "IndexError" => .indexError
  | "RuntimeError" => .runtimeError
  | other => .user other

/-- Whether a value is a number greater than zero. -/
def isPositive : Value → Bool
  | .int i => 0 < i
  | .float x => x.isPositive
  | _ => false

/-- Whether a value is an integer, where truth values count as zero and one. -/
def isInteger : Value → Bool
  | .int _ | .bool _ => true
  | _ => false

/-- Whether a value is an even integer, where truth values count as zero and one. -/
def isEven : Value → Bool
  | .int i => i % 2 == 0
  | .bool b => !b
  | _ => false

/-- The number of characters, elements or entries of a value. -/
def size? : Value → Option Nat
  | .str s => some s.length
  | .list xs | .tuple xs => some xs.length
  | .dict _ es => some es.length
  | _ => none

/-- A number, text or list taken twice. -/
def doubled? : Value → Option Value
  | .int i => some (.int (2 * i))
  | .float x => some (.float x.double)
  | .str s => some (.str (s ++ s))
  | .list xs => some (.list (xs ++ xs))
  | _ => none

/-- A text changed character by character, or refused if the value is no text. -/
def onText (name : String) (f : List Char → List Char) : Value → Except Raised Value
  | .str s => .ok (.str (String.ofList (f s.toList)))
  | _ => unsupported name

/-- The key of a call as a value. -/
def keyValue (call : Call) : Value := call.key.elim .null .str

/-- What a name means, given the values that complete it. -/
def answer (name : String) (args : List Value) (call : Call) : Except Raised Value :=
  let v := call.value
  let type := Value.str call.type
  match name, args with
  | "true", _ => .ok (.bool true)
  | "false", _ => .ok (.bool false)
  | "truthy", _ | "ident", _ => .ok v
  | "pos", _ => .ok (.bool (isPositive v))
  | "type_is", x :: _ => .ok (.bool (type.sameKey x))
  | "const", x :: _ => .ok x
  | "absent", _ => .ok .absent
  | "str", _ => .ok (.str v.text)
  | "upper", _ => onText name Text.upper v
  | "strip", _ => onText name Text.trim v
  | "double", _ => (doubled? v).elim (unsupported name) .ok
  | "len", _ => (size? v).elim (unsupported name) fun n => .ok (.int n)
  | "wrap", k :: _ => .ok (.dict false [(k, v)])
  | "list", _ => .ok (.list [v])
  | "pair", _ => .ok (.list [type, v])
  | "wrap_string", _ => .ok (if call.type = "string" then Value.record [("n", v)] else v)
  | "ctx", _ => .ok (Value.record [("key", keyValue call), ("value", v), ("type", type)])
  | "absent_if_type", x :: _ => .ok (if type.sameKey x then .absent else v)
  | "raise", kind :: rest => .error ⟨exceptionKind kind.text, rest⟩
  | _, _ => .error (.ofText refusal ("no callback is named " ++ name))

/-- The callbacks of the catalogue. Classes and objects are not called by it. -/
def callbacks : Callbacks := fun call =>
  match call.callee with
  | .callback name args => answer name args call
  | other => .error (.ofText refusal (other.shown ++ " is not in the catalogue"))

/-- The predicates for declared types. -/
def predicate? : String → Option (Value → Bool)
  | "even" => some isEven
  | "positive" => some isPositive
  | "int" => some isInteger
  | "nonempty_str" => some fun v => match v with | .str s => !s.isEmpty | _ => false
  | "truthy" => some Value.truth
  | "widget" => some fun v => v.classOf.lineage.any (·.name == "Widget")
  | "any" => some fun _ => true
  | "none" => some fun _ => false
  | _ => none

end ArgumentSchema.Catalogue
