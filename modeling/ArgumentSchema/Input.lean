import ArgumentSchema.Value.Key

/-!
# Inputs

Arguments come as a mapping, which is taken as it is, or as a list or tuple of positional values,
which go to the top-level keys of the schema in order. Missing positions stay unset and surplus
ones are ignored. Keyword arguments are stored over both. Main definition: `Input.entries`.
-/

namespace ArgumentSchema.Input

/-- An input that is neither a mapping nor a row of positional values; `className` says what it
is. -/
structure WrongKind where
  className : String
deriving DecidableEq, Repr

/-- The message for an input of the wrong kind. -/
def WrongKind.message (e : WrongKind) : String :=
  "expected a mapping or a sequence of arguments, got " ++ e.className

/-- Positional values under the keys that they go to. -/
def positional (keys : List String) (values : List Value) : Entries Value :=
  Entries.ofPairs (List.zipWith (fun k v => (.str k, v)) keys values)

/-- The keyed arguments of a call. -/
def entries (positionalKeys : List String) (data : Value) (keywords : Entries Value) :
    Except WrongKind (Entries Value) :=
  match data with
  | .dict _ es => .ok (Entries.update es keywords)
  | .list values | .tuple values =>
    .ok (Entries.update (positional positionalKeys values) keywords)
  | v => .error ⟨v.className⟩

end ArgumentSchema.Input
