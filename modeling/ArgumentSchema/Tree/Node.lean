import ArgumentSchema.Path
import ArgumentSchema.Value.Key

/-!
# Documents under construction

A `Node` is a value of which the containers on the way of some path have been opened for change. An
opened container carries a handle, a number of its own, by which it is found again wherever it
stands; everything below it that no path has entered yet is still a plain value, a leaf. Opening
turns any mapping into a plain mapping and a tuple into a list. Main definitions: `Node`,
`Node.toValue`, `Node.opened`, `Node.find?`, `Node.modify`.
-/

namespace ArgumentSchema

/-- A value with opened containers. -/
inductive Node where
  | leaf (v : Value)
  | dict (handle : Nat) (entries : List (Value × Node))
  | list (handle : Nat) (items : List Node)
deriving Inhabited

namespace Node

mutual

/-- The value that a node stands for. -/
def toValue : Node → Value
  | leaf v => v
  | dict _ es => .dict false (entriesToValues es)
  | list _ xs => .list (itemsToValues xs)

/-- The values that entries stand for. -/
def entriesToValues : List (Value × Node) → List (Value × Value)
  | [] => []
  | (k, n) :: es => (k, toValue n) :: entriesToValues es

/-- The values that elements stand for. -/
def itemsToValues : List Node → List Value
  | [] => []
  | n :: ns => toValue n :: itemsToValues ns

end

/-- Whether a node is an opened container. -/
def isOpened : Node → Bool
  | leaf _ => false
  | _ => true

/-- The entries of a mapping, all of them closed. -/
def closedEntries (es : Entries Value) : Entries Node := es.map fun e => (e.1, leaf e.2)

/-- Opens a container with the next handle; any other node stays. The second part is the next
handle after that. -/
def opened (next : Nat) : Node → Node × Nat
  | leaf (.dict _ es) => (dict next (closedEntries es), next + 1)
  | leaf (.list xs) => (list next (xs.map leaf), next + 1)
  | leaf (.tuple xs) => (list next (xs.map leaf), next + 1)
  | n => (n, next)

/-- What an opened container holds at a step. -/
def child? : Node → Step → Option Node
  | dict _ es, .key s => Entries.find? (.str s) es
  | list _ xs, .index i => xs[i]?
  | _, _ => none

/-- Puts a node at a step of an opened container: under a key, or in the place of an element. -/
def setChild (step : Step) (n : Node) : Node → Node
  | dict h es =>
    match step with
    | .key s => dict h (Entries.insert (.str s) n es)
    | .index _ => dict h es
  | list h xs =>
    match step with
    | .index i => list h (xs.set i n)
    | .key _ => list h xs
  | leaf v => leaf v

/-- Removes a key from an opened mapping. -/
def eraseKey (s : String) : Node → Node
  | dict h es => dict h (Entries.erase (.str s) es)
  | n => n

/-- Keeps the elements of an opened list whose positions are not among those given. -/
def dropIndexes (indexes : List Nat) : Node → Node
  | list h xs => list h ((xs.zipIdx.filter fun x => !indexes.contains x.2).map (·.1))
  | n => n

/-- The elements of an opened list at the given positions. -/
def itemsAt (indexes : List Nat) : Node → List Node
  | list _ xs => (xs.zipIdx.filter fun x => indexes.contains x.2).map (·.1)
  | _ => []

/-- The number of elements of an opened list. -/
def size : Node → Nat
  | list _ xs => xs.length
  | dict _ es => es.length
  | leaf _ => 0

mutual

/-- The opened container with a handle, in a node. -/
def find? (h : Nat) : Node → Option Node
  | leaf _ => none
  | dict k es => if k = h then some (dict k es) else findInEntries h es
  | list k xs => if k = h then some (list k xs) else findInItems h xs

/-- The opened container with a handle, among entries. -/
def findInEntries (h : Nat) : List (Value × Node) → Option Node
  | [] => none
  | (_, n) :: es => (find? h n).or (findInEntries h es)

/-- The opened container with a handle, among elements. -/
def findInItems (h : Nat) : List Node → Option Node
  | [] => none
  | n :: ns => (find? h n).or (findInItems h ns)

end

mutual

/-- Changes the opened container with a handle, wherever it stands in a node. -/
def modify (h : Nat) (f : Node → Node) : Node → Node
  | leaf v => leaf v
  | dict k es => if k = h then f (dict k es) else dict k (modifyEntries h f es)
  | list k xs => if k = h then f (list k xs) else list k (modifyItems h f xs)

/-- Changes the opened container with a handle, wherever it stands among entries. -/
def modifyEntries (h : Nat) (f : Node → Node) : List (Value × Node) → List (Value × Node)
  | [] => []
  | (k, n) :: es => (k, modify h f n) :: modifyEntries h f es

/-- Changes the opened container with a handle, wherever it stands among elements. -/
def modifyItems (h : Nat) (f : Node → Node) : List Node → List Node
  | [] => []
  | n :: ns => modify h f n :: modifyItems h f ns

end

end Node

end ArgumentSchema
