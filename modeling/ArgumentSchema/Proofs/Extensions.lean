import ArgumentSchema.Proofs.Chain
import ArgumentSchema.Registry

/-!
# Extended registries

A registry is asked in two ways. `Registry.typeName` goes by the first predicate that accepts a value,
and `Registry.isOfType` by the first predicate with a name. The two agree as long as each name has one
predicate. The types that every schema knows have different names, and extending a registry gives a
known name another predicate in its place and a new name a place behind all others, so that names
never double and keep their order:

> `Registry.names_extendAll`: the names of a registry that was extended, in their order.
> `Registry.isOfType_extendBy_ne`: an extension is about one name.
> `Registry.isOfType_typeName`: a value is of the type that names it.
> `Registry.extendAll_consistent`: what a registry answers, however it was extended.
-/

namespace ArgumentSchema

namespace Registry

/-- A type to add or to replace: its name, its predicate, and the classes that stand for it. -/
structure Extension where
  name : String
  accepts : Value → Bool
  classes : List Class

/-- The predicate of an extension, under its name. -/
def Extension.predicate (x : Extension) : TypePredicate := ⟨x.name, x.accepts⟩

/-- A registry with one extension. -/
def extendBy (r : Registry) (x : Extension) : Registry := r.extend x.name x.accepts x.classes

/-- A registry with extensions, one after the other. -/
def extendAll (r : Registry) (xs : List Extension) : Registry := xs.foldl extendBy r

variable {r : Registry} {x : Extension} {v : Value} {name : String}

/-! ## One extension -/

theorem any_name_iff {ps : List TypePredicate} :
    (ps.any (·.name == name)) = true ↔ name ∈ ps.map (·.name) := by
  rw [List.any_eq_true, List.mem_map]
  simp only [beq_iff_eq]

/-- A known name gets the predicate in its place. -/
theorem predicates_extendBy_known (hknown : x.name ∈ r.names) : (r.extendBy x).predicates =
    r.predicates.map fun p => if p.name == x.name then x.predicate else p :=
  if_pos (any_name_iff.mpr hknown)

/-- A new name goes behind all others. -/
theorem predicates_extendBy_new (hnew : x.name ∉ r.names) :
    (r.extendBy x).predicates = r.predicates ++ [x.predicate] :=
  if_neg (mt any_name_iff.mp hnew)

theorem names_extendBy :
    (r.extendBy x).names = if x.name ∈ r.names then r.names else r.names ++ [x.name] := by
  by_cases hknown : x.name ∈ r.names
  · rw [if_pos hknown, names, predicates_extendBy_known hknown, List.map_map]
    refine List.map_congr_left fun p _ => ?_
    show (if p.name == x.name then x.predicate else p).name = p.name
    split
    · next h => exact (beq_iff_eq.mp h).symm
    · rfl
  · rw [if_neg hknown, names, predicates_extendBy_new hknown, List.map_append]
    rfl

theorem find?_replace_ne {ps : List TypePredicate} {q : TypePredicate} (hq : name ≠ q.name) :
    (ps.map fun p => if p.name == q.name then q else p).find? (·.name == name) =
      ps.find? (·.name == name) := by
  have hother : (q.name == name) = false := by simpa using Ne.symm hq
  induction ps with
  | nil => rfl
  | cons p ps ih =>
    rw [List.map_cons, List.find?_cons, List.find?_cons, ih]
    by_cases hp : p.name = q.name
    · rw [if_pos (beq_iff_eq.mpr hp), hp, hother]
    · rw [if_neg (mt beq_iff_eq.mp hp)]

/-- The predicate of another name stays. -/
theorem predicate?_extendBy_ne (hname : name ≠ x.name) :
    (r.extendBy x).predicate? name = r.predicate? name := by
  by_cases hknown : x.name ∈ r.names
  · rw [predicate?, predicates_extendBy_known hknown]
    exact find?_replace_ne (q := x.predicate) hname
  · have hother : (x.predicate.name == name) = false := beq_eq_false_iff_ne.mpr (Ne.symm hname)
    rw [predicate?, predicates_extendBy_new hknown, List.find?_append, List.find?_singleton, hother]
    exact Option.or_none

/-- Being of a type with another name stays as it was. -/
theorem isOfType_extendBy_ne (hname : name ≠ x.name) :
    (r.extendBy x).isOfType v name = r.isOfType v name := by
  rw [isOfType, isOfType, predicate?_extendBy_ne hname]

/-- A new type names no value that a predicate has named before. -/
theorem typeName_extendBy_new (hnew : x.name ∉ r.names)
    (haccepted : ∃ p ∈ r.predicates, p.accepts v = true) :
    (r.extendBy x).typeName v = r.typeName v := by
  obtain ⟨p, hfirst⟩ := Option.isSome_iff_exists.mp (List.find?_isSome.mpr haccepted)
  rw [typeName, typeName, predicates_extendBy_new hnew, List.find?_append, hfirst]
  rfl

/-! ## Any number of extensions -/

/-- The names are those that were there and the new ones, in the order of their first extension. -/
theorem names_extendAll (xs : List Extension) :
    (r.extendAll xs).names =
      r.names ++ ((xs.map (·.name)).filter (· ∉ r.names)).eraseDups := by
  induction xs using List.reverseRecOn with
  | nil => simp [extendAll]
  | append_singleton xs x ih =>
    have hlast : r.extendAll (xs ++ [x]) = (r.extendAll xs).extendBy x :=
      List.foldl_concat extendBy r x xs
    have hmem : x.name ∈ (r.extendAll xs).names ↔
        x.name ∈ r.names ∨ x.name ∈ (xs.map (·.name)).filter (· ∉ r.names) := by
      rw [ih, List.mem_append, List.mem_eraseDups]
    rw [hlast, names_extendBy, List.map_append, List.filter_append, List.map_singleton]
    by_cases hold : x.name ∈ r.names
    · have hnone : [x.name].filter (· ∉ r.names) = [] := by simpa using hold
      rw [if_pos (hmem.mpr (.inl hold)), hnone, List.append_nil, ih]
    · have hall : [x.name].filter (· ∉ r.names) = [x.name] := by simpa using hold
      rw [hall, eraseDups_concat]
      by_cases hmet : x.name ∈ (xs.map (·.name)).filter (· ∉ r.names)
      · rw [if_pos (hmem.mpr (.inr hmet)), if_pos hmet, ih]
      · rw [if_neg fun h => (hmem.mp h).elim hold hmet, if_neg hmet, ih, List.append_assoc]

theorem nodup_names_extendAll (hnodup : r.names.Nodup) (xs : List Extension) :
    (r.extendAll xs).names.Nodup := by
  rw [names_extendAll, List.nodup_append]
  refine ⟨hnodup, nodup_eraseDups _, ?_⟩
  rintro n hn m hm rfl
  have hnew := (List.mem_filter.mp (List.mem_eraseDups.mp hm)).2
  exact of_decide_eq_true hnew hn

/-! ## The two lookups -/

/-- Where names do not double, a predicate is found by its name. -/
theorem predicate?_name_of_mem (hnodup : r.names.Nodup) {p : TypePredicate} (hp : p ∈ r.predicates) :
    r.predicate? p.name = some p := by
  obtain ⟨before, after, hsplit⟩ := List.append_of_mem hp
  refine List.find?_eq_some_iff_append.mpr ⟨beq_self_eq_true _, before, after, hsplit, fun q hq => ?_⟩
  rw [names, hsplit, List.map_append, List.nodup_append] at hnodup
  have hne : q.name ≠ p.name :=
    hnodup.2.2 _ (List.mem_map_of_mem hq) _ (List.mem_map_of_mem List.mem_cons_self)
  simpa using hne

theorem isOfType_of_predicate? {p : TypePredicate} (hname : r.predicate? name = some p) :
    r.isOfType v name = p.accepts v := by
  rw [isOfType, hname]

/-- A value that some predicate accepts is of the type that names it. -/
theorem isOfType_typeName (hnodup : r.names.Nodup) (haccepted : ∃ p ∈ r.predicates, p.accepts v = true) :
    r.isOfType v (r.typeName v) = true := by
  obtain ⟨p, hfirst⟩ := Option.isSome_iff_exists.mp (List.find?_isSome.mpr haccepted)
  have hname : r.typeName v = p.name := by rw [typeName, hfirst]
  have haccepts : p.accepts v = true := by simpa using List.find?_some hfirst
  have hfound := predicate?_name_of_mem hnodup (List.mem_of_find?_eq_some hfirst)
  rw [hname, isOfType_of_predicate? hfound, haccepts]

/-- A value that no predicate accepts is named after its class. -/
theorem typeName_of_none (hnone : ∀ p ∈ r.predicates, p.accepts v = false) :
    r.typeName v = v.className := by
  have hfind : r.predicates.find? (·.accepts v) = none :=
    List.find?_eq_none.mpr fun p hp => Bool.eq_false_iff.mp (hnone p hp)
  rw [typeName, hfind]

/-- A value that no predicate accepts is of the type named after its class unless a predicate has
taken this name. -/
theorem isOfType_className_iff (hnone : ∀ p ∈ r.predicates, p.accepts v = false) :
    r.isOfType v v.className = true ↔ v.className ∉ r.names := by
  cases hfind : r.predicate? v.className with
  | none =>
    have hfree : v.className ∉ r.names := by
      intro hmem
      obtain ⟨p, hp, hname⟩ := List.mem_map.mp hmem
      exact List.find?_eq_none.mp hfind p hp (beq_iff_eq.mpr hname)
    have hown : v.classOf.lineage.any (·.name == v.className) = true :=
      List.any_eq_true.mpr ⟨v.classOf, v.classOf.self_mem_lineage, beq_self_eq_true _⟩
    rw [isOfType, hfind]
    exact iff_of_true hown hfree
  | some p =>
    have hp : p ∈ r.predicates := List.mem_of_find?_eq_some hfind
    have hname : p.name = v.className := by simpa using List.find?_some hfind
    rw [isOfType_of_predicate? hfind]
    refine iff_of_false (Bool.eq_false_iff.mp (hnone p hp)) fun hfree => ?_
    exact hfree (hname ▸ List.mem_map_of_mem hp)

/-! ## What extended registries answer -/

/-- What is asked of a registry that came from the types that every schema knows by extensions. -/
structure Consistent (xs : List Extension) (r : Registry) : Prop where
  distinct : r.names.Nodup
  order : r.names = default.names ++ ((xs.map (·.name)).filter (· ∉ default.names)).eraseDups
  others : ∀ (x : Extension) (v : Value) (name : String), name ≠ x.name →
    (r.extendBy x).isOfType v name = r.isOfType v name
  named : ∀ (x : Extension) (v : Value), x.name ∉ r.names →
    (∃ p ∈ r.predicates, p.accepts v = true) → (r.extendBy x).typeName v = r.typeName v
  accepted : ∀ v : Value, (∃ p ∈ r.predicates, p.accepts v = true) →
    r.isOfType v (r.typeName v) = true
  unaccepted : ∀ v : Value, (∀ p ∈ r.predicates, p.accepts v = false) →
    r.typeName v = v.className ∧
      (r.isOfType v (r.typeName v) = true ↔ r.typeName v ∉ r.names)

theorem nodup_names_default : default.names.Nodup := by decide

/-- However the types that every schema knows were extended, names are distinct and in their order,
a further extension is about its own name, and the two lookups agree. -/
theorem extendAll_consistent (xs : List Extension) : Consistent xs (default.extendAll xs) := by
  have hnodup := nodup_names_extendAll nodup_names_default xs
  refine ⟨hnodup, names_extendAll xs, fun x v name hname => isOfType_extendBy_ne hname,
    fun x v hnew haccepted => typeName_extendBy_new hnew haccepted,
    fun v haccepted => isOfType_typeName hnodup haccepted, fun v hnone => ?_⟩
  rw [typeName_of_none hnone]
  exact ⟨rfl, isOfType_className_iff hnone⟩

/-- A type of numbers that was replaced, and one that was added and replaced: the name of the first
keeps its place, and the other comes last. -/
example :
    let even : Extension := ⟨"even", fun v => match v with | .int n => n % 2 == 0 | _ => false, []⟩
    let whole : Extension := ⟨"number", fun v => match v with | .int _ => true | _ => false, []⟩
    let r := default.extendAll [even, whole, even]
    r.names = default.names ++ ["even"] ∧ r.typeName (.int 4) = "number" ∧
      r.isOfType (.int 4) "even" = true := by
  decide

end Registry

end ArgumentSchema
