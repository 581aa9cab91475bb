import ArgumentSchema.Field
import ArgumentSchema.Pattern
import ArgumentSchema.Proofs.Extensions
import ArgumentSchema.Proofs.Lineage

/-!
# Instances of the class in a pattern

A pattern that is a class goes through two lookups. When it is read, the class and its ancestors are
looked up among the classes that stand for a type, which gives a name; when a value is matched, the
name is looked up among the types, or among the class of the value and its ancestors if no type has
it. The lookups meet in an instance of the class, but for two kinds of classes. A class that stands
for no type, nor has an ancestor that does, may happen to be called like one: among the built-in
classes `object` is such a namesake, since as a type it means mappings, not everything there is; among
the declared ones it is up to their names. And a class below `Sequence` is taken for one of arrays,
which only lists and tuples are:

> `Registry.isOfType_of_standsFor`: what the classes that stand for a type do for those below them.
> `Registry.isOfType_nameFor_iff`: the instances of a class are of the type that it stands for unless it
> is misnamed for them.
> `Registry.matchType_class_pattern`: which instances a class matches as a pattern.

Only the class of an instance decides, so this is settled for all classes, whether or not their
instances are among the values.
-/

namespace ArgumentSchema

/-! ## Types and classes -/

/-- Whether the instances of a class are of the type with a given name, among the types that every
schema knows. What is missing is the only value with a type that its class does not tell. -/
def Class.isOfType (d : Class) (name : String) : Bool :=
  match Registry.classTypes.lookup name with
  | some p => p d
  | none => name != "undefined" && d.lineage.any (·.name == name)

theorem Class.isBelowAny_iff {c : Class} {bs : List BuiltinClass} :
    c.isBelowAny bs = true ↔ ∃ b ∈ bs, .builtin b ∈ c.lineage := by
  simp [isBelowAny, isBelow_iff]

/-- The first of the types that a contract asks for which the instances of a class are of. -/
def Class.matchType (d : Class) (c : Contract) : Option String := c.types.find? d.isOfType

theorem Class.matchType_ofTypes_singleton {d : Class} {name : String} :
    d.matchType (Contract.ofTypes [name]) = if d.isOfType name = true then some name else none := by
  show [name].find? d.isOfType = _
  rw [List.find?_singleton]

/-- Instances of a class are instances of each class of its lineage, if no type has taken the name. -/
theorem Class.isOfType_of_free {c d : Class} (hinstance : c ∈ d.lineage)
    (hfree : c.name ∉ Registry.default.names) : d.isOfType c.name = true := by
  have hnone : Registry.classTypes.lookup c.name = none := by
    refine List.lookup_eq_none_iff.mpr fun t ht => bne_iff_ne.mpr fun heq => hfree ?_
    rw [heq]
    exact List.mem_cons_of_mem _ (List.mem_map_of_mem (List.mem_map_of_mem ht))
  have hundefined : c.name ≠ "undefined" := fun heq => hfree (heq ▸ List.mem_cons_self ..)
  rw [isOfType, hnone, Bool.and_eq_true, bne_iff_ne]
  exact ⟨hundefined, List.any_eq_true.mpr ⟨c, hinstance, beq_self_eq_true _⟩⟩

namespace Registry

variable {c d : Class} {v : Value} {name : String} {r : Registry}

theorem find?_classTypes (ts : List (String × (Class → Bool))) :
    (ts.map fun t => (⟨t.1, fun v => t.2 v.classOf⟩ : TypePredicate)).find? (·.name == name) =
      (ts.lookup name).map fun p => ⟨name, fun v => p v.classOf⟩ := by
  induction ts with
  | nil => rfl
  | cons t ts ih =>
    rw [List.map_cons, List.find?_cons, List.lookup_cons, ih]
    by_cases ht : name = t.1
    · subst ht
      simp
    · rw [beq_eq_false_iff_ne.mpr ht, beq_eq_false_iff_ne.mpr (Ne.symm ht)]

/-- The class of a value tells its types, unless it is missing. -/
theorem isOfType_default (h : v.isAbsent = false ∨ name ≠ "undefined") :
    default.isOfType v name = v.classOf.isOfType name := by
  have hpredicate : default.predicate? name =
      if name = "undefined" then some ⟨"undefined", Value.isAbsent⟩
      else (classTypes.lookup name).map fun p => ⟨name, fun v => p v.classOf⟩ := by
    rw [predicate?, default, basePredicates, List.find?_cons, find?_classTypes]
    by_cases hname : name = "undefined"
    · subst hname
      rfl
    · rw [if_neg hname, beq_eq_false_iff_ne.mpr (Ne.symm hname)]
  rw [isOfType, hpredicate, Class.isOfType]
  by_cases hname : name = "undefined"
  · subst hname
    rw [if_pos rfl]
    exact h.resolve_right (fun hne => hne rfl)
  · rw [if_neg hname]
    cases classTypes.lookup name with
    | some p => rfl
    | none => simp [hname]

/-! ## Classes that stand for a type -/

/-- The nearest class of a lineage that stands for a type. -/
def nearest? (c : Class) : Option Class :=
  c.lineage.find? fun a => (default.classNames.lookup a).isSome

theorem nameFor_of_nearest {a : Class} (h : nearest? c = some a) :
    default.classNames.lookup a = some (default.nameFor c) := by
  obtain ⟨ha, before, after, hlineage, hbefore⟩ := List.find?_eq_some_iff_append.mp h
  obtain ⟨name, hname⟩ := Option.isSome_iff_exists.mp ha
  have hfound : c.lineage.findSome? (default.classNames.lookup ·) = some name := by
    refine List.findSome?_eq_some_iff.mpr ⟨before, a, after, hlineage, hname, fun x hx => ?_⟩
    simpa using hbefore x hx
  rw [nameFor, hfound, hname]
  rfl

theorem nameFor_of_free (h : nearest? c = none) : default.nameFor c = c.name := by
  have hnone : c.lineage.findSome? (default.classNames.lookup ·) = none := by
    refine List.findSome?_eq_none_iff.mpr fun a ha => ?_
    exact Option.not_isSome_iff_eq_none.mp (List.find?_eq_none.mp h a ha)
  rw [nameFor, hnone]
  rfl

/-- What the built-in classes that stand for a type do for those below them: their instances are of
the type, truth values apart, which are no numbers, and those of sequences that are neither lists nor
tuples. -/
theorem isOfType_of_standsFor {b : BuiltinClass}
    (hname : default.classNames.lookup (.builtin b) = some name) (hbelow : .builtin b ∈ d.lineage)
    (hbool : b = .int ∨ b = .float → .builtin .bool ∉ d.lineage) :
    d.isOfType name = true ↔ (b = .sequence → d.isBelowAny [.list, .tuple] = true) := by
  have hmem : (.builtin b, name) ∈ baseClassNames := by
    obtain ⟨before, after, hnames, -⟩ := List.lookup_eq_some_iff.mp hname
    rw [show baseClassNames = _ from hnames]
    exact List.mem_append_cons_self
  have hnumber : b = .int ∨ b = .float → isNumber d = true := by
    intro hb
    rw [isNumber, Bool.and_eq_true, Bool.not_eq_true', Class.isBelowAny_iff]
    refine ⟨⟨b, by rcases hb with rfl | rfl <;> simp, hbelow⟩, ?_⟩
    rw [← Bool.not_eq_true, Class.isBelow_iff]
    exact hbool hb
  have hone : d.isBelow b = true := Class.isBelow_iff.mpr hbelow
  have hmapping : b = .dict ∨ b = .mapping → d.isMapping = true := by
    rintro (rfl | rfl) <;> exact List.any_eq_true.mpr ⟨_, hbelow, rfl⟩
  have hany : ∀ bs, b ∈ bs → d.isBelowAny bs = true := fun bs hb =>
    Class.isBelowAny_iff.mpr ⟨b, hb, hbelow⟩
  simp only [baseClassNames, List.mem_cons, Prod.mk.injEq, Class.builtin.injEq, List.not_mem_nil,
    or_false] at hmem
  rcases hmem with ⟨rfl, rfl⟩ | ⟨rfl, rfl⟩ | ⟨rfl, rfl⟩ | ⟨rfl, rfl⟩ | ⟨rfl, rfl⟩ | ⟨rfl, rfl⟩ |
    ⟨rfl, rfl⟩ | ⟨rfl, rfl⟩ | ⟨rfl, rfl⟩ | ⟨rfl, rfl⟩ | ⟨rfl, rfl⟩ | ⟨rfl, rfl⟩ | ⟨rfl, rfl⟩ |
    ⟨rfl, rfl⟩
  all_goals
    first
    | exact iff_of_true hone nofun
    | exact iff_of_true (hany _ (by decide)) nofun
    | exact iff_of_true (hnumber (by decide)) nofun
    | exact iff_of_true (hmapping (by decide)) nofun
    | exact ⟨fun h _ => h, fun h => h rfl⟩

/-! ## Namesakes -/

/-- A class that instances are not of as a type, although they are instances of it: `object` for what
is no mapping, a class below `Sequence` for what is neither a list nor a tuple, and a declared class
that stands for no type, but has the name of one, which the instances are not of. -/
inductive Misnamed (d : Class) : Class → Prop
  | top : d.isMapping = false → Misnamed d (.builtin .object)
  | sequence {c : Class} : nearest? c = some (.builtin .sequence) →
      d.isBelowAny [.list, .tuple] = false → Misnamed d c
  | declared {u : DeclaredClass} : nearest? (.user u) = none → u.name ∈ default.names →
      d.isOfType u.name = false → Misnamed d (.user u)

/-- A class with a built-in class above it that stands for a type is misnamed only as a sequence. -/
theorem misnamed_iff_of_nearest {b : BuiltinClass} (h : nearest? c = some (.builtin b)) :
    Misnamed d c ↔ b = .sequence ∧ d.isBelowAny [.list, .tuple] = false := by
  constructor
  · intro hmisnamed
    cases hmisnamed with
    | top _ => cases h
    | sequence hsequence hother =>
      exact ⟨Class.builtin.inj (Option.some.inj (h.symm.trans hsequence)), hother⟩
    | declared hfree _ _ => exact nomatch h.symm.trans hfree
  · rintro ⟨rfl, hother⟩
    exact .sequence h hother

/-- A built-in class that stands for no type is misnamed only as `object`. -/
theorem misnamed_builtin_iff {b : BuiltinClass} (h : nearest? (.builtin b) = none) :
    Misnamed d (.builtin b) ↔ b = .object ∧ d.isMapping = false := by
  constructor
  · intro hmisnamed
    cases hmisnamed with
    | top hother => exact ⟨rfl, hother⟩
    | sequence hsequence _ => exact nomatch h.symm.trans hsequence
  · rintro ⟨rfl, hother⟩
    exact .top hother

/-- A declared class that stands for no type is misnamed only if a type has its name. -/
theorem misnamed_user_iff {u : DeclaredClass} (h : nearest? (.user u) = none) :
    Misnamed d (.user u) ↔ u.name ∈ default.names ∧ d.isOfType u.name = false := by
  constructor
  · intro hmisnamed
    cases hmisnamed with
    | sequence hsequence _ => exact nomatch h.symm.trans hsequence
    | declared _ htaken hother => exact ⟨htaken, hother⟩
  · rintro ⟨htaken, hother⟩
    exact .declared h htaken hother

/-- Nothing is below a closed class but itself. -/
theorem eq_builtin_of_closed {b : BuiltinClass} (hclosed : b.isOpen = false)
    (h : .builtin b ∈ d.lineage) : d = .builtin b := by
  cases d with
  | user u =>
    rw [Class.isOpen_of_mem_user h] at hclosed
    cases hclosed
  | builtin e =>
    have hall : ∀ a ∈ e.lineage, a.isOpen = false → e = a := by
      cases e <;> decide
    rw [hall b (Class.mem_lineage_builtin.mp h) hclosed]

/-- Where the nearest class that stands for a type is one of numbers, an instance that is a truth value
is an instance of `int` itself. -/
theorem eq_int_of_bool {b : BuiltinClass} (hnearest : nearest? c = some (.builtin b))
    (hb : b = .int ∨ b = .float) (hinstance : c ∈ (Class.builtin .bool).lineage) :
    c = .builtin .int := by
  rcases List.mem_cons.mp hinstance with rfl | hinstance
  · rcases hb with rfl | rfl <;> cases hnearest
  · rcases List.mem_cons.mp hinstance with rfl | hinstance
    · rfl
    · obtain rfl := List.mem_singleton.mp hinstance
      cases hnearest

/-- A built-in class without a type of its own is called like none, but for `object` and for
functions. -/
theorem name_free_of_nearest_none {b : BuiltinClass} (h : nearest? (.builtin b) = none)
    (hobject : b ≠ .object) (hfunction : b ≠ .function) :
    (Class.builtin b).name ∉ default.names := by
  revert h hobject hfunction
  cases b <;> decide

/-- The instances of a built-in class that stands for no type are of the type of its name, but for
`object`. -/
theorem isOfType_name_of_builtin {b : BuiltinClass} (h : nearest? (.builtin b) = none)
    (hinstance : .builtin b ∈ d.lineage) (hobject : b ≠ .object) :
    d.isOfType (Class.builtin b).name = true := by
  by_cases hfunction : b = .function
  · subst hfunction
    rw [eq_builtin_of_closed rfl hinstance]
    rfl
  · exact Class.isOfType_of_free hinstance (name_free_of_nearest_none h hobject hfunction)

/-- The instances of a class are of the type that it stands for unless it is misnamed for them, truth
values under numbers apart. -/
theorem isOfType_nameFor_iff (hinstance : c ∈ d.lineage)
    (hbool : ¬ (c = .builtin .int ∧ d = .builtin .bool)) :
    d.isOfType (default.nameFor c) = true ↔ ¬ Misnamed d c := by
  cases hnearest : nearest? c with
  | some a =>
    have hname := nameFor_of_nearest hnearest
    have hbelow : a ∈ d.lineage := Class.lineage_subset hinstance (List.mem_of_find?_eq_some hnearest)
    cases a with
    | user u => cases hname
    | builtin b =>
      have hnumber : b = .int ∨ b = .float → .builtin .bool ∉ d.lineage := by
        intro hb hmem
        obtain rfl := eq_builtin_of_closed rfl hmem
        exact hbool ⟨eq_int_of_bool hnearest hb hinstance, rfl⟩
      rw [isOfType_of_standsFor hname hbelow hnumber, misnamed_iff_of_nearest hnearest, not_and,
        Bool.not_eq_false]
  | none =>
    rw [nameFor_of_free hnearest]
    cases c with
    | builtin b =>
      rw [misnamed_builtin_iff hnearest, not_and, Bool.not_eq_false]
      by_cases hobject : b = .object
      · subst hobject
        exact ⟨fun hmapping _ => hmapping, fun hnamed => hnamed rfl⟩
      · exact iff_of_true (isOfType_name_of_builtin hnearest hinstance hobject)
          fun heq => absurd heq hobject
    | user u =>
      rw [misnamed_user_iff hnearest, not_and, Bool.not_eq_false]
      by_cases htaken : u.name ∈ default.names
      · exact ⟨fun htype _ => htype, fun hnamed => hnamed htaken⟩
      · exact iff_of_true (Class.isOfType_of_free hinstance htaken) fun hmem => absurd hmem htaken

/-! ## Patterns -/

theorem matchType_ofTypes_singleton :
    Field.matchType r (Contract.ofTypes [name]) v =
      if r.isOfType v name = true then some name else none := by
  show [name].find? (r.isOfType v) = _
  rw [List.find?_singleton]

theorem nameFor_ne_undefined (h : c ∈ (Class.builtin .sentinel).lineage) :
    default.nameFor c ≠ "undefined" := by
  have hall : ∀ c ∈ (Class.builtin .sentinel).lineage, default.nameFor c ≠ "undefined" := by
    decide
  exact hall c h

/-- The class of a value tells whether the value is of the type of any class that it is an instance
of. -/
theorem isOfType_nameFor (hinstance : c ∈ v.classOf.lineage) :
    default.isOfType v (default.nameFor c) = v.classOf.isOfType (default.nameFor c) := by
  refine isOfType_default ?_
  cases v with
  | absent => exact .inr (nameFor_ne_undefined hinstance)
  | _ => exact .inl rfl

/-- A class as a pattern matches each of its instances, truth values under numbers apart, unless it is
misnamed for the class of the instance. This holds of every value, and of the instances of every
class, those below the classes of texts and containers too. -/
theorem matchType_class_pattern (c : Class) :
    ∃ contract, Pattern.read default (.classRef c) = .ok contract ∧
      (∀ v : Value, c ∈ v.classOf.lineage →
        ¬ (c = .builtin .int ∧ v.classOf = .builtin .bool) →
        (¬ Misnamed v.classOf c → Field.matchType default contract v = some (default.nameFor c)) ∧
        (Misnamed v.classOf c → Field.matchType default contract v = none)) ∧
      ∀ d : Class, c ∈ d.lineage → ¬ (c = .builtin .int ∧ d = .builtin .bool) →
        (¬ Misnamed d c → d.matchType contract = some (default.nameFor c)) ∧
        (Misnamed d c → d.matchType contract = none) := by
  have hclass : ∀ d : Class, c ∈ d.lineage → ¬ (c = .builtin .int ∧ d = .builtin .bool) →
      (¬ Misnamed d c → d.matchType (Contract.ofTypes [default.nameFor c]) =
        some (default.nameFor c)) ∧
      (Misnamed d c → d.matchType (Contract.ofTypes [default.nameFor c]) = none) := by
    intro d hinstance hbool
    have hiff := isOfType_nameFor_iff hinstance hbool
    rw [Class.matchType_ofTypes_singleton]
    exact ⟨fun hnamed => if_pos (hiff.mpr hnamed),
      fun hmisnamed => if_neg fun h => hiff.mp h hmisnamed⟩
  refine ⟨Contract.ofTypes [default.nameFor c], rfl, fun v hinstance hbool => ?_, hclass⟩
  rw [matchType_ofTypes_singleton, isOfType_nameFor hinstance, ← Class.matchType_ofTypes_singleton]
  exact hclass v.classOf hinstance hbool

/-- Everything is an instance of `object`, but as a pattern this class matches mappings only, those of
a class that is registered as one of mappings too. A class below `Sequence` that is neither a list nor a tuple is not even matched by its own instances, and one
below `int` is taken for the numbers. -/
theorem matchType_object_pattern :
    let object : Class := .builtin .object
    let proxy : Class := .user (.declare "mappingproxy" .none false true)
    let row : UserClass := ⟨.declare "Row" (.builtin ⟨.sequence, rfl⟩ .none) false, rfl⟩
    let age : UserClass := ⟨.declare "Age" (.builtin ⟨.int, rfl⟩ .none) false, rfl⟩
    (∃ contract, Pattern.read default (.classRef object) = .ok contract ∧
      object ∈ (Value.int 5).classOf.lineage ∧ Misnamed (Value.int 5).classOf object ∧
      Field.matchType default contract (.int 5) = none ∧
      proxy.matchType contract = some "object") ∧
    (∃ contract, Pattern.read default (.classRef (.user row)) = .ok contract ∧
      Misnamed (.user row) (.user row) ∧
      Field.matchType default contract (.object row) = none) ∧
    ∃ contract, Pattern.read default (.classRef (.user age)) = .ok contract ∧
      Field.matchType default contract (.object age) = some "number" := by
  refine ⟨?_, ?_, ?_⟩
  · obtain ⟨contract, hread, hvalue, hclass⟩ := matchType_class_pattern (.builtin .object)
    have hinstance : Class.builtin .object ∈ (Value.int 5).classOf.lineage := by decide
    have hmisnamed : Misnamed (Value.int 5).classOf (.builtin .object) := .top rfl
    let proxy : Class := .user (.declare "mappingproxy" .none false true)
    have hproxy : Class.builtin .object ∈ proxy.lineage := by decide
    have hnamed : ¬ Misnamed proxy (.builtin .object) := fun h =>
      Bool.noConfusion ((misnamed_builtin_iff rfl).mp h).2
    exact ⟨contract, hread, hinstance, hmisnamed, (hvalue _ hinstance (by decide)).2 hmisnamed,
      (hclass proxy hproxy (by decide)).1 hnamed⟩
  · let row : UserClass := ⟨.declare "Row" (.builtin ⟨.sequence, rfl⟩ .none) false, rfl⟩
    obtain ⟨contract, hread, hvalue, -⟩ := matchType_class_pattern (.user row)
    have hmisnamed : Misnamed (.user row) (.user row) := .sequence (by decide) (by decide)
    exact ⟨contract, hread, hmisnamed,
      (hvalue (.object row) (Class.self_mem_lineage _) nofun).2 hmisnamed⟩
  · let age : UserClass := ⟨.declare "Age" (.builtin ⟨.int, rfl⟩ .none) false, rfl⟩
    obtain ⟨contract, hread, hvalue, -⟩ := matchType_class_pattern (.user age)
    have hnamed : ¬ Misnamed (.user age) (.user age) := by
      have hnearest : nearest? (.user age) = some (.builtin .int) := by decide
      intro hmisnamed
      cases ((misnamed_iff_of_nearest hnearest).mp hmisnamed).1
    exact ⟨contract, hread,
      (hvalue (.object age) (Class.self_mem_lineage _) nofun).1 hnamed⟩

end Registry

end ArgumentSchema
