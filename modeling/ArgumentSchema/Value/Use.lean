import ArgumentSchema.Value.Key
import ArgumentSchema.Value.Text

/-!
# What is asked of a value

Data from outside is used before it is known what it holds: its elements are gone through, one of
its entries is taken, its elements are joined to one text, or it is taken for a text itself. Each
use gives what is asked for or says which value cannot be used so. Main definitions: `Misuse`,
`Value.elements`, `Value.entry`, `Value.joined`, `Value.asText`, `Value.asCell`.
-/

namespace ArgumentSchema

/-- A value that cannot be used as it was. -/
inductive Misuse where
  | noElements (c : Class)
  | noEntries (v : Value)
  | missingEntry (name : String)
  | notJoinable
  | elementNotText (index : Nat) (c : Class)
  | notText (v : Value)
  | notCell (c : Class)

namespace Misuse

/-- The name of the class of a misuse. -/
def className : Misuse → String
  | missingEntry _ => "KeyError"
  | notText (.bytes _ _) | notText (.classRef (.builtin .str)) => "TypeError"
  | notText (.classRef (.builtin .bytes)) | notText (.classRef (.builtin .bytearray)) => "TypeError"
  | notText _ => "AttributeError"
  | notCell _ => "NotRenderableError"
  | _ => "TypeError"

/-- Why a value has no entry under a name. -/
def noEntriesMessage : Value → String
  | .str _ => "string indices must be integers, not 'str'"
  | .list _ => "list indices must be integers or slices, not str"
  | .tuple _ => "tuple indices must be integers or slices, not str"
  | .bytes false _ => "byte indices must be integers or slices, not str"
  | .bytes true _ => "bytearray indices must be integers or slices, not str"
  | .classRef c => "type '" ++ c.qualifiedName ++ "' is not subscriptable"
  | v => "'" ++ v.classOf.qualifiedName ++ "' object is not subscriptable"

/-- Why a value is no text. -/
def notTextMessage : Value → String
  | .bytes _ _ => "a bytes-like object is required, not 'dict'"
  | .classRef c =>
    if c = .builtin .str ∨ c = .builtin .bytes ∨ c = .builtin .bytearray then
      "descriptor 'translate' for '" ++ c.name ++ "' objects doesn't apply to a 'dict' object"
    else "type object '" ++ c.ownName ++ "' has no attribute 'translate'"
  | v => "'" ++ v.classOf.qualifiedName ++ "' object has no attribute 'translate'"

/-- The message for a misuse. -/
def message : Misuse → String
  | noElements c => "'" ++ c.qualifiedName ++ "' object is not iterable"
  | noEntries v => noEntriesMessage v
  | missingEntry name => Text.quoted name
  | notJoinable => "can only join an iterable"
  | elementNotText index c =>
    "sequence item " ++ toString index ++ ": expected str instance, " ++ c.qualifiedName ++ " found"
  | notText v => notTextMessage v
  | notCell c =>
    "unable to render " ++ c.name ++ "; a string or other renderable object is required"

end Misuse

namespace Value

/-- What going through a value meets: the elements of a container, the keys of a mapping, the
characters of a text, the numbers of bytes. -/
def elements? : Value → Option (List Value)
  | list xs | tuple xs | set xs => some xs
  | dict _ es => some (es.map Prod.fst)
  | str s => some (s.toList.map fun c => str (String.singleton c))
  | bytes _ data => some (data.map fun b => int b.toNat)
  | _ => none

/-- The elements of a value. -/
def elements (v : Value) : Except Misuse (List Value) :=
  match v.elements? with
  | some xs => .ok xs
  | none => .error (.noElements v.classOf)

/-- The entry of a value under a name. A class that takes parameters takes the name for one. -/
def entry (v : Value) (name : String) : Except Misuse Value :=
  match v with
  | dict _ es =>
    match Value.field? name es with
    | some w => .ok w
    | none => .error (.missingEntry name)
  | classRef c => if c.takesParameters then .ok v else .error (.noEntries v)
  | v => .error (.noEntries v)

/-- Elements as texts, the first of them at the given place. -/
def textsFrom (index : Nat) : List Value → Except Misuse (List String)
  | [] => .ok []
  | str s :: xs => (textsFrom (index + 1) xs).map (s :: ·)
  | x :: _ => .error (.elementNotText index x.classOf)

/-- The elements of a value as one text. -/
def joined (separator : String) (v : Value) : Except Misuse String :=
  match v.elements? with
  | some xs => (textsFrom 0 xs).map separator.intercalate
  | none => .error .notJoinable

/-- A value that is a text. -/
def asText : Value → Except Misuse String
  | str s => .ok s
  | v => .error (.notText v)

/-- A value that can stand in a table; null leaves its place empty. -/
def asCell : Value → Except Misuse String
  | str s => .ok s
  | null => .ok ""
  | v => .error (.notCell v.classOf)

end Value

end ArgumentSchema
