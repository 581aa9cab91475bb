import ArgumentSchema.Value.Basic

/-!
# Keys of mappings

Two values are the same key when they are equal as data: numbers by their value, so that `1`, `1.0`
and `true` are one key, texts and byte strings by content, tuples element by element. A name is the
same key as nothing but the text itself (`sameKey_str`). Entries are looked up, replaced in place
and erased by key; a new key goes to the end. Main definitions: `Value.sameKey`, `Entries.find?`,
`Entries.insert`, `Entries.erase`, `Entries.ofPairs`.
-/

namespace ArgumentSchema

namespace Value

mutual

/-- Whether two values are one key of a mapping. -/
def sameKey : Value → Value → Bool
  | absent, absent => true
  | wildcard, wildcard => true
  | null, null => true
  | bool a, bool b => a == b
  | bool a, int j => j == (if a then 1 else 0)
  | bool a, float y => y.equalsInt (if a then 1 else 0)
  | int i, bool b => i == (if b then 1 else 0)
  | int i, int j => i == j
  | int i, float y => y.equalsInt i
  | float x, bool b => x.equalsInt (if b then 1 else 0)
  | float x, int j => x.equalsInt j
  | float x, float y => x.sameValue y
  | str s, str t => s == t
  | bytes _ a, bytes _ b => a == b
  | regex p f, regex q g => p == q && decide (f = g)
  | date a, date b => decide (a = b)
  | moment a, moment b => decide (a = b)
  | clock a, clock b => decide (a = b)
  | tuple xs, tuple ys => sameKeys xs ys
  | classRef a, classRef b => decide (a = b)
  | _, _ => false

/-- Whether two lists are the same keys, place by place. -/
def sameKeys : List Value → List Value → Bool
  | [], [] => true
  | x :: xs, y :: ys => sameKey x y && sameKeys xs ys
  | _, _ => false

end

theorem sameKey_str (s : String) (v : Value) : sameKey (str s) v = true ↔ v = str s := by
  cases v with
  | str t => simp [sameKey]; exact eq_comm
  | _ => simp [sameKey]

end Value

/-- Entries of a mapping, in order, over any type of contents. -/
abbrev Entries (α : Type) := List (Value × α)

namespace Entries

variable {α : Type}

/-- What is stored under a key. -/
def find? (k : Value) : Entries α → Option α
  | [] => none
  | (k', v) :: es => if k.sameKey k' then some v else find? k es

/-- Whether a key occurs. -/
def contains (k : Value) (es : Entries α) : Bool := (find? k es).isSome

/-- Stores under a key: in the place of the key if it occurs, and the stored key stays; at the end
otherwise. -/
def insert (k : Value) (v : α) : Entries α → Entries α
  | [] => [(k, v)]
  | (k', v') :: es => if k.sameKey k' then (k', v) :: es else (k', v') :: insert k v es

/-- Removes a key. -/
def erase (k : Value) (es : Entries α) : Entries α := es.filter fun e => !k.sameKey e.1

/-- Stores one list of entries after another. -/
def update (es : Entries α) (more : Entries α) : Entries α :=
  more.foldl (fun acc e => insert e.1 e.2 acc) es

/-- The mapping that a list of pairs describes: a repeated key keeps its first place and takes the
last value. -/
def ofPairs (ps : Entries α) : Entries α := update [] ps

end Entries

/-- What a mapping stores under a name. -/
def Value.field? (name : String) (es : Entries Value) : Option Value := Entries.find? (.str name) es

/-- The set that a list of elements describes: of equal elements the first stays. -/
def Value.distinct (xs : List Value) : List Value :=
  xs.foldl (fun acc x => if acc.any x.sameKey then acc else acc ++ [x]) []

end ArgumentSchema
