import ArgumentSchema.Value.Basic

/-!
# The type registry

A registry answers what the type of a value is called and whether a value is of the type with a
given name. It holds an ordered list of named predicates, where the first predicate that accepts a
value names it, and a table from classes to names, so that a schema may name a type by its class.
A name without a predicate means a class: the values of that class and of the classes below it.
Registries are never changed; `Registry.extend` gives a new one, in which a known name keeps its
place and a new name goes to the end. Main definitions: `Registry.typeName`, `Registry.isOfType`,
`Registry.nameFor`, `Registry.extend`, `Registry.default`.
-/

namespace ArgumentSchema

/-- A named predicate on values. -/
structure TypePredicate where
  name : String
  accepts : Value → Bool

/-- Named predicates in order, and the names that classes stand for. -/
structure Registry where
  predicates : List TypePredicate
  classNames : List (Class × String)

namespace Registry

/-- The predicate registered under a name. -/
def predicate? (r : Registry) (name : String) : Option TypePredicate :=
  r.predicates.find? (·.name == name)

/-- Whether a predicate is registered under a name. -/
def knows (r : Registry) (name : String) : Bool := r.predicates.any (·.name == name)

/-- The names that have a predicate, in order. -/
def names (r : Registry) : List String := r.predicates.map (·.name)

/-- What the type of a value is called: the name of the first predicate that accepts it, or the
name of its class if none does. -/
def typeName (r : Registry) (v : Value) : String :=
  match r.predicates.find? (·.accepts v) with
  | some p => p.name
  | none => v.className

/-- Whether a value is of the type with a given name: accepted by its predicate or, if the name
has none, an instance of a class of that name. -/
def isOfType (r : Registry) (v : Value) (name : String) : Bool :=
  match r.predicate? name with
  | some p => p.accepts v
  | none => v.classOf.lineage.any (·.name == name)

/-- The name that a class stands for: that of the nearest class of its lineage in the table, or
its own name if there is none. -/
def nameFor (r : Registry) (c : Class) : String :=
  (c.lineage.findSome? (r.classNames.lookup ·)).getD c.name

/-- Replaces the predicate of a name in its place, or adds it at the end. -/
def setPredicate (p : TypePredicate) (ps : List TypePredicate) : List TypePredicate :=
  if ps.any (·.name == p.name) then ps.map fun q => if q.name == p.name then p else q
  else ps ++ [p]

/-- Lets a class stand for a name. -/
def setClassName (c : Class) (name : String) : List (Class × String) → List (Class × String)
  | [] => [(c, name)]
  | (d, n) :: rest => if d = c then (d, name) :: rest else (d, n) :: setClassName c name rest

/-- A registry with one more type, or with one type replaced. -/
def extend (r : Registry) (name : String) (accepts : Value → Bool) (classes : List Class) :
    Registry where
  predicates := setPredicate ⟨name, accepts⟩ r.predicates
  classNames := classes.foldl (fun t c => setClassName c name t) r.classNames

/-- Numbers; truth values are none. -/
def isNumber (c : Class) : Bool := c.isBelowAny [.int, .float] && !c.isBelow .bool

/-- The types that are told by the class of a value, in order. -/
def classTypes : List (String × (Class → Bool)) := [
  ("null", (·.isBelow .noneType)),
  ("boolean", (·.isBelow .bool)),
  ("number", isNumber),
  ("string", (·.isBelow .str)),
  ("bytes", (·.isBelowAny [.bytes, .bytearray])),
  ("regexp", (·.isBelow .pattern)),
  ("date", (·.isBelow .date)),
  ("array", (·.isBelowAny [.list, .tuple])),
  ("object", Class.isMapping),
  ("function", Class.isCallable)]

/-- The types that every schema knows, in order. A later one names only what no earlier one
accepts. -/
def basePredicates : List TypePredicate :=
  ⟨"undefined", Value.isAbsent⟩ :: classTypes.map fun t => ⟨t.1, fun v => t.2 v.classOf⟩

/-- The names that the built-in classes stand for. -/
def baseClassNames : List (Class × String) := [
  (.builtin .noneType, "null"),
  (.builtin .bool, "boolean"),
  (.builtin .int, "number"),
  (.builtin .float, "number"),
  (.builtin .str, "string"),
  (.builtin .bytes, "bytes"),
  (.builtin .bytearray, "bytes"),
  (.builtin .pattern, "regexp"),
  (.builtin .date, "date"),
  (.builtin .list, "array"),
  (.builtin .tuple, "array"),
  (.builtin .sequence, "array"),
  (.builtin .dict, "object"),
  (.builtin .mapping, "object")]

/-- The registry of the types that every schema knows. -/
def default : Registry := ⟨basePredicates, baseClassNames⟩

end Registry

end ArgumentSchema
