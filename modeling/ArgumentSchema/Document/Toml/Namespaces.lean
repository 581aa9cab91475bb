import ArgumentSchema.Document.Toml.Fault
import ArgumentSchema.Value.Key

/-!
# Which tables a TOML document may still open

Declaring a table, dotted keys and values in brackets all restrict what may follow. `Marks` lists
the restrictions: a key is `declared` when no header may open it again, and `frozen` when nothing
may be added to it or below it. `update` enters the table behind a key, creating tables on the way;
through an array of tables the way goes by its last element. Main definitions: `Mark`,
`Marks.declared`, `Marks.frozen`, `Toml.update`.
-/

namespace ArgumentSchema.Toml

/-- A restriction on a key. -/
structure Mark where
  key : Key
  /-- A frozen key freezes also everything below it. -/
  frozen : Bool
deriving DecidableEq, Repr

/-- The restrictions in force. -/
abbrev Marks := List Mark

namespace Marks

/-- Whether no header may open a key again. -/
def declared (ms : Marks) (key : Key) : Bool := ms.any fun m => !m.frozen && m.key == key

/-- Whether nothing may be added to a key. -/
def frozen (ms : Marks) (key : Key) : Bool := ms.any fun m => m.frozen && m.key.isPrefixOf key

/-- Declares a key. -/
def declare (ms : Marks) (key : Key) : Marks := ⟨key, false⟩ :: ms

/-- Freezes a key. -/
def freeze (ms : Marks) (key : Key) : Marks := ⟨key, true⟩ :: ms

/-- Lifts the restrictions on a key and on everything below it. -/
def release (ms : Marks) (key : Key) : Marks := ms.filter fun m => !key.isPrefixOf m.key

end Marks

/-- Changes the table behind a key. Missing tables are created; what is no table is not entered,
and an array is entered only if that is allowed. -/
def update (arrays : Bool) (change : Entries Value → Except Fault (Entries Value)) :
    Key → Entries Value → Except Fault (Entries Value)
  | [], es => change es
  | name :: rest, es =>
    let put (v : Value) : Entries Value := Entries.insert (.str name) v es
    match Value.field? name es with
    | none => (update arrays change rest []).map fun t => put (.dict false t)
    | some (.dict _ inner) => (update arrays change rest inner).map fun t => put (.dict false t)
    | some (.list items) =>
      match arrays, items.getLast? with
      | true, some (.dict _ inner) =>
        (update arrays change rest inner).map fun t =>
          put (.list (items.dropLast ++ [.dict false t]))
      | _, _ => .error .overwritten
    | some _ => .error .overwritten

/-- Adds an entry to a table; `taken` is the fault if there is one of that name. -/
def addEntry (taken : Fault) (name : String) (v : Value) (es : Entries Value) :
    Except Fault (Entries Value) :=
  if Entries.contains (.str name) es then .error taken else .ok (es ++ [(.str name, v)])

/-- Adds an empty table at the end of an array of tables. -/
def addTable (name : String) (es : Entries Value) : Except Fault (Entries Value) :=
  match Value.field? name es with
  | none => .ok (es ++ [(.str name, .list [.dict false []])])
  | some (.list items) =>
    .ok (Entries.insert (.str name) (.list (items ++ [.dict false []])) es)
  | some _ => .error .overwritten

end ArgumentSchema.Toml
