/-!
# Classes of values

Every value belongs to a class, and a class has a line of ancestors, the nearest first, that ends
in `object`. The built-in classes are listed; any other class is described by its name, the classes
that it extends, built-in or declared, whether it lets its instances be called, and whether it is
registered as a class of mappings. Where a class extends several others, their lines are merged so
that a class stands before those that it extends. Main definitions: `Class.lineage`, `Class.isBelow`,
`Class.name`, `Class.qualifiedName`.
-/

namespace ArgumentSchema

/-- The classes that need no declaration. -/
inductive BuiltinClass where
  | noneType | bool | int | float | str | bytes | bytearray | pattern | date | datetime | time
  | list | tuple | dict | orderedDict | set | object | type | complex | function
  | sequence | mapping | reversible | collection | sized | iterable | container
  | sentinel | enum | abstractType | enumType
  | baseException | exception | valueError | typeError | lookupError | keyError | indexError
  | runtimeError
deriving DecidableEq, Repr

namespace BuiltinClass

/-- The name of a built-in class. -/
def name : BuiltinClass → String
  | noneType => "NoneType" | bool => "bool" | int => "int" | float => "float" | str => "str"
  | bytes => "bytes" | bytearray => "bytearray" | pattern => "Pattern" | date => "date"
  | datetime => "datetime" | time => "time" | list => "list" | tuple => "tuple" | dict => "dict"
  | orderedDict => "OrderedDict" | set => "set" | object => "object" | type => "type"
  | complex => "complex" | function => "function" | sequence => "Sequence" | mapping => "Mapping"
  | reversible => "Reversible" | collection => "Collection" | sized => "Sized"
  | iterable => "Iterable" | container => "Container" | sentinel => "Sentinel" | enum => "Enum"
  | abstractType => "ABCMeta" | enumType => "EnumType" | baseException => "BaseException"
  | exception => "Exception" | valueError => "ValueError" | typeError => "TypeError"
  | lookupError => "LookupError" | keyError => "KeyError" | indexError => "IndexError"
  | runtimeError => "RuntimeError"

/-- The name of a built-in class with the library part that it comes from. -/
def qualifiedName : BuiltinClass → String
  | pattern => "re.Pattern"
  | date => "datetime.date"
  | datetime => "datetime.datetime"
  | time => "datetime.time"
  | orderedDict => "collections.OrderedDict"
  | c@sequence | c@mapping | c@reversible | c@collection | c@sized | c@iterable | c@container =>
    "collections.abc." ++ c.name
  | c => c.name

/-- The ancestors of a built-in class between itself and `object`. -/
def ancestors : BuiltinClass → List BuiltinClass
  | bool => [int]
  | datetime => [date]
  | orderedDict => [dict]
  | sequence => [reversible, collection, sized, iterable, container]
  | mapping => [collection, sized, iterable, container]
  | sentinel => [enum]
  | abstractType | enumType => [type]
  | exception => [baseException]
  | valueError | typeError | lookupError | runtimeError => [exception, baseException]
  | keyError | indexError => [lookupError, exception, baseException]
  | _ => []

/-- A built-in class and its ancestors, the nearest first. -/
def lineage : BuiltinClass → List BuiltinClass
  | object => [object]
  | c => c :: (c.ancestors ++ [object])

/-- Whether a built-in class belongs to the class of classes with abstract methods. -/
def isAbstract : BuiltinClass → Bool
  | sequence | mapping | reversible | collection | sized | iterable | container => true
  | _ => false

/-- Whether a built-in class takes parameters: a class with parameters stands for that class. -/
def takesParameters : BuiltinClass → Bool
  | list | dict | tuple | set | type | orderedDict | pattern => true
  | c => c.isAbstract

/-- Whether a declaration may extend a built-in class. It may not extend those that are closed, nor
the markers, which are all there. -/
def isOpen : BuiltinClass → Bool
  | noneType | bool | pattern | function | sentinel => false
  | _ => true

end BuiltinClass

/-- A built-in class that a declaration may extend. -/
abbrev OpenClass := {c : BuiltinClass // c.isOpen = true}

mutual

/-- A class that was declared, by a user or by a library: its name, the classes that it extends,
whether it lets its instances be called, and whether it is registered as a class of mappings, which it
can be without extending one. -/
inductive DeclaredClass where
  | declare (name : String) (bases : Bases) (callable : Bool) (mapping : Bool := false)

/-- The classes that a declaration extends, in order. -/
inductive Bases where
  | none
  | builtin (c : OpenClass) (more : Bases)
  | declared (c : DeclaredClass) (more : Bases)

end

deriving instance DecidableEq, Repr for DeclaredClass, Bases

/-- A class of values. -/
inductive Class where
  | builtin (c : BuiltinClass)
  | user (c : DeclaredClass)
deriving DecidableEq, Repr

/-! ## Lines of ancestors -/

namespace Class

/-- The class that comes first when lines are merged: the first class at the head of a line that
stands behind no other class in any of them. Where each head does, which a declaration is refused
for, it is the first head. -/
def next? (lines : List (List Class)) : Option Class :=
  let heads := lines.filterMap List.head?
  (heads.find? fun c => lines.all fun line => !line.tail.contains c).or heads.head?

/-- A line without the class at its head, if that is the given one. -/
def dropHead (c : Class) (line : List Class) : List Class :=
  if line.head? = some c then line.tail else line

/-- Merges lines, one class a round. -/
def mergeRounds : Nat → List (List Class) → List Class
  | 0, lines => lines.flatten
  | n + 1, lines =>
    match next? lines with
    | none => []
    | some c => c :: mergeRounds n (lines.map (dropHead c))

/-- One line for several. Each round takes a class from one of them at least. -/
def merge (lines : List (List Class)) : List Class := mergeRounds lines.flatten.length lines

section Merge

variable {a c : Class} {lines : List (List Class)} {line : List Class}

theorem flatten_of_next?_none (h : next? lines = none) : lines.flatten = [] := by
  have hheads : lines.filterMap List.head? = [] :=
    List.head?_eq_none_iff.mp (Option.or_eq_none_iff.mp h).2
  refine List.flatten_eq_nil_iff.mpr fun line hline => ?_
  exact List.head?_eq_none_iff.mp (List.filterMap_eq_nil_iff.mp hheads line hline)

theorem exists_of_next? (h : next? lines = some c) : ∃ line ∈ lines, line.head? = some c := by
  refine List.mem_filterMap.mp ?_
  rcases Option.or_eq_some_iff.mp h with hfind | ⟨-, hhead⟩
  · exact List.mem_of_find?_eq_some hfind
  · exact List.mem_of_mem_head? hhead

theorem mem_of_mem_dropHead (h : a ∈ dropHead c line) : a ∈ line := by
  unfold dropHead at h
  split at h
  · exact List.mem_of_mem_tail h
  · exact h

theorem eq_or_mem_dropHead (h : a ∈ line) : a = c ∨ a ∈ dropHead c line := by
  unfold dropHead
  cases line with
  | nil => cases h
  | cons b line =>
    by_cases hb : b = c
    · subst hb
      simpa using h
    · rw [if_neg (by simpa using hb)]
      exact .inr h

/-- Merging keeps exactly the classes that stand in some line, however long it goes on. -/
theorem mem_mergeRounds (n : Nat) : a ∈ mergeRounds n lines ↔ a ∈ lines.flatten := by
  induction n generalizing lines with
  | zero => exact Iff.rfl
  | succ n ih =>
    cases hnext : next? lines with
    | none => rw [mergeRounds, hnext, flatten_of_next?_none hnext]
    | some c =>
      rw [mergeRounds, hnext, List.mem_cons, ih, List.mem_flatten, List.mem_flatten]
      constructor
      · rintro (rfl | ⟨line, hline, ha⟩)
        · obtain ⟨line, hline, hhead⟩ := exists_of_next? hnext
          exact ⟨line, hline, List.mem_of_mem_head? hhead⟩
        · obtain ⟨whole, hwhole, rfl⟩ := List.mem_map.mp hline
          exact ⟨whole, hwhole, mem_of_mem_dropHead ha⟩
      · rintro ⟨line, hline, ha⟩
        rcases eq_or_mem_dropHead (c := c) ha with rfl | ha
        · exact .inl rfl
        · exact .inr ⟨_, List.mem_map_of_mem hline, ha⟩

theorem mem_merge : a ∈ merge lines ↔ ∃ line ∈ lines, a ∈ line :=
  (mem_mergeRounds _).trans List.mem_flatten

end Merge

end Class

/-- The classes that a declaration extends, as a list. -/
def Bases.classes : Bases → List Class
  | .none => []
  | .builtin c more => .builtin c.1 :: more.classes
  | .declared c more => .user c :: more.classes

mutual

/-- A declared class and its ancestors, the nearest first: the lines of the classes that it extends
are merged with one another and with the order in which it names them. -/
def DeclaredClass.lineage : DeclaredClass → List Class
  | c@(.declare _ bases _ _) =>
    .user c :: Class.merge (bases.lines ++ [bases.classes, [.builtin .object]])

/-- The lines of the classes that a declaration extends. -/
def Bases.lines : Bases → List (List Class)
  | .none => []
  | .builtin c more => c.1.lineage.map .builtin :: more.lines
  | .declared c more => c.lineage :: more.lines

end

namespace DeclaredClass

/-- The name that a class was declared with. -/
def name : DeclaredClass → String
  | declare n _ _ _ => n

/-- The classes that a class was declared to extend. -/
def bases : DeclaredClass → Bases
  | declare _ bs _ _ => bs

/-- Whether a class itself lets its instances be called. -/
def callable : DeclaredClass → Bool
  | declare _ _ k _ => k

/-- Whether a class itself is registered as a class of mappings. -/
def mapping : DeclaredClass → Bool
  | declare _ _ _ m => m

end DeclaredClass

/-- A class and its ancestors, the nearest first. -/
def Class.lineage : Class → List Class
  | builtin c => c.lineage.map .builtin
  | user c => c.lineage

theorem Bases.lines_eq : ∀ bases : Bases, bases.lines = bases.classes.map Class.lineage
  | .none => rfl
  | .builtin c more => congrArg ((Class.builtin c.1).lineage :: ·) more.lines_eq
  | .declared c more => congrArg ((Class.user c).lineage :: ·) more.lines_eq

namespace Class

/-- Whether a built-in class is a class itself or one of its ancestors. -/
def isBelow (c : Class) (b : BuiltinClass) : Bool := c.lineage.contains (.builtin b)

theorem mem_lineage_builtin {c b : BuiltinClass} :
    .builtin b ∈ (builtin c).lineage ↔ b ∈ c.lineage := by
  simp [lineage]

theorem user_not_mem_lineage_builtin {c : BuiltinClass} {d : DeclaredClass} :
    .user d ∉ (builtin c).lineage := by
  simp [lineage]

/-- Every class begins its own lineage. -/
theorem self_mem_lineage (c : Class) : c ∈ c.lineage := by
  cases c with
  | builtin b => exact mem_lineage_builtin.mpr (by cases b <;> decide)
  | user d =>
    cases d
    exact List.mem_cons_self ..

/-- The lineage of a declared class: itself, those of the classes that it extends, and `object`. -/
theorem mem_lineage_user {d : DeclaredClass} {a : Class} :
    a ∈ (user d).lineage ↔ a = .user d ∨ (∃ b ∈ d.bases.classes, a ∈ b.lineage) ∨
      a = .builtin .object := by
  cases d with
  | declare name bases callable mapping =>
    show a ∈ Class.user _ :: merge (bases.lines ++ [bases.classes, [.builtin .object]]) ↔ _
    rw [List.mem_cons, mem_merge, Bases.lines_eq]
    refine or_congr_right ⟨?_, ?_⟩
    · rintro ⟨line, hline, ha⟩
      rcases List.mem_append.mp hline with hline | hline
      · obtain ⟨b, hb, rfl⟩ := List.mem_map.mp hline
        exact .inl ⟨b, hb, ha⟩
      · rcases List.mem_cons.mp hline with rfl | hline
        · exact .inl ⟨a, ha, self_mem_lineage a⟩
        · obtain rfl := List.mem_singleton.mp hline
          exact .inr (List.mem_singleton.mp ha)
    · rintro (⟨b, hb, ha⟩ | rfl)
      · exact ⟨b.lineage, List.mem_append_left _ (List.mem_map_of_mem hb), ha⟩
      · exact ⟨[.builtin .object], List.mem_append_right _ (by simp), List.mem_singleton_self _⟩

theorem isBelow_iff {c : Class} {b : BuiltinClass} : c.isBelow b = true ↔ .builtin b ∈ c.lineage :=
  List.contains_iff_mem

/-- The name of a class. -/
def name : Class → String
  | builtin c => c.name
  | user c => c.name

/-- The name of a class with the library part that it comes from. -/
def qualifiedName : Class → String
  | builtin c => c.qualifiedName
  | user c => c.name

/-- The name that a class itself goes by: an abstract one does not tell where it comes from. -/
def ownName : Class → String
  | builtin c => if c.isAbstract then c.name else c.qualifiedName
  | user c => c.name

/-- Whether some built-in class of the line of a class has a property. -/
def inherits (p : BuiltinClass → Bool) (c : Class) : Bool :=
  c.lineage.any fun a => match a with
    | builtin b => p b
    | user _ => false

/-- Whether a class takes parameters. Classes of classes do not take over from `type` that it does. -/
def takesParameters : Class → Bool
  | builtin c => c.takesParameters
  | user c => (user c).inherits fun b => b.takesParameters && b != .type

/-- The class that a class, taken as a value, belongs to. -/
def classOf (c : Class) : Class :=
  .builtin (if c.inherits BuiltinClass.isAbstract then .abstractType
    else if c.isBelow .enum then .enumType else .type)

/-- Whether a class is one of several built-in ones or below one of them. -/
def isBelowAny (c : Class) (bs : List BuiltinClass) : Bool := bs.any c.isBelow

/-- Whether a class in a line lets instances be called: those of functions and of classes are, and
where it is declared. -/
def bringsCalls : Class → Bool
  | builtin c => c == .function || c == .type
  | user c => c.callable

/-- Whether the instances of a class can be called. -/
def isCallable (c : Class) : Bool := c.lineage.any bringsCalls

/-- Whether a class in a line makes instances mappings: dictionaries and `Mapping` do, and what is
registered as such. -/
def bringsEntries : Class → Bool
  | builtin c => c == .dict || c == .mapping
  | user c => c.mapping

/-- Whether the instances of a class are mappings. -/
def isMapping (c : Class) : Bool := c.lineage.any bringsEntries

/-- Whether a class in a line makes instances texts, containers or classes. -/
def bringsContents (c : Class) : Bool :=
  c.bringsEntries || [.builtin .str, .builtin .list, .builtin .tuple, .builtin .type].contains c

/-- Whether the instances of a class are texts, containers or classes. -/
def isData (c : Class) : Bool := c.lineage.any bringsContents

end Class

/-! ## Classes with plain instances -/

/-- A declared class whose instances are no texts, no containers and no classes, so that nothing has to
be known of them but their class. -/
structure UserClass where
  declared : DeclaredClass
  plain : (Class.user declared).isData = false
deriving DecidableEq, Repr

namespace UserClass

instance : Coe UserClass DeclaredClass := ⟨declared⟩

/-- The name that a class was declared with. -/
def name (c : UserClass) : String := c.declared.name

/-- A class that extends no other. -/
def root (name : String) (callable : Bool) : UserClass :=
  ⟨.declare name .none callable, rfl⟩

/-- A class that extends one with plain instances. -/
def extend (name : String) (parent : UserClass) (callable : Bool) : UserClass where
  declared := .declare name (.declared parent .none) callable
  plain := by
    refine List.any_eq_false.mpr fun a ha hcontents => ?_
    rcases Class.mem_lineage_user.mp ha with rfl | ⟨p, hp, hmem⟩ | rfl
    · cases hcontents
    · obtain rfl : p = .user parent := List.mem_singleton.mp hp
      exact List.any_eq_false.mp parent.plain a hmem hcontents
    · cases hcontents

end UserClass

end ArgumentSchema
