import ArgumentSchema.Proofs.InUse
import ArgumentSchema.Proofs.Places
import Mathlib.Data.List.Lex

/-!
# Where a rule applies

The places at which a rule applies are told by the document alone, without the handles of the
containers and the order of the walk: the steps of a place follow the path of the rule, through
mappings and lists that are there or, where a key is missing that has no rule, through mappings as good
as empty; and no step on the way is blocked (`Matches`). A walk finds these places, each once and in the
order of their positions.

> `Walk.exists_target_iff`: which places a walk comes to.
> `Walk.follow_sorted`: in which order it comes to them.
-/

namespace ArgumentSchema

/-! ## Places in values -/

namespace Value

/-- What a walk comes to one step into a value: what stands there, or an empty mapping in place of a
missing key that has no rule. -/
def through? (hasPath : List Segment → Bool) (path : List Segment) (v : Value) :
    Step → Option Value
  | .key s => v.entries?.bind fun es =>
    match Entries.find? (.str s) es with
    | some w => some w
    | none => if hasPath (path ++ [.name s]) then none else some (.dict false [])
  | .index i => v.child? (.index i)

/-- What a walk comes to some steps into a value. -/
def reach? (hasPath : List Segment → Bool) : List Segment → Value → Place → Option Value
  | _, v, [] => some v
  | path, v, step :: rest =>
    (v.through? hasPath path step).bind fun w => reach? hasPath (path ++ [step.segment]) w rest

/-- Whether a step is one into a value: a key into a mapping, which may be missing, or a position in a
list. -/
def Offers (v : Value) : Step → Prop
  | .key _ => v.entries?.isSome = true
  | .index i => (v.child? (.index i)).isSome = true

/-- A container that has been opened: a plain mapping, or a list. -/
def plained : Value → Value
  | .dict _ es => .dict false es
  | .tuple xs => .list xs
  | v => v

end Value

/-- A place that matches a path, from a value at a starting place: its steps follow the path, none of
the places on the way is blocked, and they lead to a container that has the last step. -/
structure Matches (hasPath : List Segment → Bool) (blocked : List Place) (start : Place) (v : Value)
    (path : List Segment) (way : Place) : Prop where
  path : way.path = path
  free : ∀ upper, upper <+: way → upper ≠ [] → upper ≠ way → start ++ upper ∉ blocked
  reached : ∃ upper step c, way = upper ++ [step] ∧ v.reach? hasPath start.path upper = some c ∧
    c.Offers step

namespace Value

variable {hasPath : List Segment → Bool} {path : List Segment}

theorem through?_plained (v : Value) (step : Step) :
    v.plained.through? hasPath path step = v.through? hasPath path step := by
  cases v <;> cases step <;> rfl

theorem offers_plained (v : Value) (step : Step) : v.plained.Offers step ↔ v.Offers step := by
  cases v <;> cases step <;> exact Iff.rfl

/-- A value that is no container is no way to anything. -/
theorem through?_scalar {v : Value} (hentries : v.entries? = none) (hitems : v.items? = none)
    (step : Step) : v.through? hasPath path step = none ∧ ¬ v.Offers step := by
  cases step with
  | key s => simp [through?, Offers, hentries]
  | index i => simp [through?, Offers, child?, hitems]

end Value

namespace Matches

variable {hasPath : List Segment → Bool} {blocked : List Place} {start way : Place} {v : Value}
  {segment : Segment} {segments : List Segment}

/-- One segment is matched by the steps that a container has. -/
theorem singleton_iff : Matches hasPath blocked start v [segment] way ↔
    ∃ step, way = [step] ∧ step.segment = segment ∧ v.Offers step := by
  constructor
  · rintro ⟨hpath, -, upper, step, c, rfl, hreached, hoffers⟩
    have hlength : upper.length + 1 = 1 := by
      simpa [Place.path] using congrArg List.length hpath
    obtain rfl : upper = [] := List.length_eq_zero_iff.mp (by omega)
    cases hreached
    refine ⟨step, rfl, ?_, hoffers⟩
    exact List.singleton_inj.mp hpath
  · rintro ⟨step, rfl, rfl, hoffers⟩
    refine ⟨rfl, fun upper hupper hne hother => ?_, [], step, v, rfl, rfl, hoffers⟩
    rcases List.prefix_cons_iff.mp hupper with rfl | ⟨rest, rfl, hrest⟩
    · exact absurd rfl hne
    · exact absurd (by rw [List.prefix_nil.mp hrest]) hother

/-- A longer path is matched by a step to a place that is not blocked, and by a match from there. -/
theorem cons_iff (hsegments : segments ≠ []) :
    Matches hasPath blocked start v (segment :: segments) way ↔
      ∃ step rest w, way = step :: rest ∧ step.segment = segment ∧ start ++ [step] ∉ blocked ∧
        v.through? hasPath start.path step = some w ∧
        Matches hasPath blocked (start ++ [step]) w segments rest := by
  constructor
  · rintro ⟨hpath, hfree, upper, last, c, rfl, hreached, hoffers⟩
    cases upper with
    | nil => exact absurd (List.cons.inj hpath).2.symm hsegments
    | cons step upper =>
      obtain ⟨hstep, hrest⟩ := List.cons.inj hpath
      rw [Value.reach?, Option.bind_eq_some_iff] at hreached
      obtain ⟨w, hw, hreached⟩ := hreached
      refine ⟨step, upper ++ [last], w, rfl, hstep, ?_, hw, hrest, ?_, upper, last, c, rfl, ?_, hoffers⟩
      · exact hfree [step] ⟨upper ++ [last], rfl⟩ (List.cons_ne_nil _ _) (by simp)
      · intro upper' hupper' hne hother
        rw [List.append_assoc]
        refine hfree (step :: upper') ?_ (List.cons_ne_nil _ _) fun heq => hother (List.cons.inj heq).2
        exact (List.prefix_cons_inj step).mpr hupper'
      · rw [Place.path_append]
        exact hreached
  · rintro ⟨step, rest, w, rfl, rfl, hopen, hw, rfl, hfree, upper, last, c, rfl, hreached, hoffers⟩
    refine ⟨rfl, fun upper' hupper' hne hother => ?_, step :: upper, last, c, rfl, ?_, hoffers⟩
    · rcases List.prefix_cons_iff.mp hupper' with rfl | ⟨rest', rfl, hrest'⟩
      · exact absurd rfl hne
      · by_cases hnil : rest' = []
        · rw [hnil]
          exact hopen
        · have hnot := hfree rest' hrest' hnil fun heq => hother (by rw [heq])
          rwa [List.append_assoc] at hnot
    · rw [Value.reach?, hw, Option.bind_some]
      rw [Place.path_append] at hreached
      exact hreached

theorem plained_iff {path : List Segment} (hpath : path ≠ []) :
    Matches hasPath blocked start v.plained path way ↔ Matches hasPath blocked start v path way := by
  cases path with
  | nil => exact absurd rfl hpath
  | cons segment segments =>
    cases segments with
    | nil => simp only [singleton_iff, Value.offers_plained]
    | cons next rest => simp only [cons_iff (List.cons_ne_nil _ _), Value.through?_plained]

/-- Nothing below a value that is no container matches. -/
theorem not_scalar {path : List Segment} (hpath : path ≠ []) (hentries : v.entries? = none)
    (hitems : v.items? = none) : ¬ Matches hasPath blocked start v path way := by
  have hscalar : ∀ step, v.through? hasPath start.path step = none ∧ ¬ v.Offers step :=
    Value.through?_scalar hentries hitems
  cases path with
  | nil => exact absurd rfl hpath
  | cons segment segments =>
    cases segments with
    | nil =>
      rw [singleton_iff]
      rintro ⟨step, -, -, hoffers⟩
      exact (hscalar step).2 hoffers
    | cons next rest =>
      rw [cons_iff (List.cons_ne_nil _ _)]
      rintro ⟨step, -, w, -, -, -, hw, -⟩
      rw [(hscalar step).1] at hw
      cases hw

end Matches

/-! ## Values of opened containers -/

namespace Node

theorem entriesToValues_eq (es : List (Value × Node)) :
    entriesToValues es = Entries.mapValues toValue es := by
  induction es with
  | nil => rfl
  | cons e es ih => rw [entriesToValues, ih, Entries.mapValues, Entries.mapValues, List.map_cons]

theorem itemsToValues_eq (xs : List Node) : itemsToValues xs = xs.map toValue := by
  induction xs with
  | nil => rfl
  | cons x xs ih => rw [itemsToValues, ih, List.map_cons]

/-- An opened container is plain. -/
theorem plained_toValue {n : Node} (hopen : n.isOpened = true) : n.toValue.plained = n.toValue := by
  cases n with
  | leaf v => cases hopen
  | dict h es => rfl
  | list h xs => rfl

theorem child?_toValue {n : Node} (hopen : n.isOpened = true) (step : Step) :
    n.toValue.child? step = (n.child? step).map toValue := by
  cases n with
  | leaf v => cases hopen
  | dict h es =>
    cases step with
    | index i => rfl
    | key s =>
      show Entries.find? (.str s) (entriesToValues es) = (Entries.find? (.str s) es).map toValue
      rw [entriesToValues_eq, Entries.find?_mapValues]
  | list h xs =>
    cases step with
    | key s => rfl
    | index i =>
      show (itemsToValues xs)[i]? = xs[i]?.map toValue
      rw [itemsToValues_eq, List.getElem?_map]

theorem entriesToValues_closed (es : Entries Value) : entriesToValues (closedEntries es) = es := by
  rw [entriesToValues_eq, Entries.mapValues, closedEntries, List.map_map]
  exact List.map_id es

theorem itemsToValues_closed (xs : List Value) : itemsToValues (xs.map leaf) = xs := by
  rw [itemsToValues_eq, List.map_map]
  exact List.map_id xs

end Node

namespace Walk

open Node

variable {blocked : Place → Bool} {visit : Place → Node → WalkState → Walked} {place : Place}

theorem enter_of_isOpened (visit : Place → Node → WalkState → Walked) {n : Node} (st : WalkState)
    (hblocked : blocked place = false) (hopen : n.isOpened = true) :
    enter blocked visit place n st = visit place n st := by
  have hsame : n.opened st.next = (n, st.next) := by
    cases n with
    | leaf v => cases hopen
    | dict h es => rfl
    | list h xs => rfl
  simp only [enter, hblocked, hsame, hopen, if_true, Bool.false_eq_true, if_false]

theorem enter_of_blocked (visit : Place → Node → WalkState → Walked) (n : Node) (st : WalkState)
    (hblocked : blocked place = true) : enter blocked visit place n st = ⟨n, [], st⟩ := by
  rw [enter, if_pos hblocked]

/-- A value that is no container is left alone. -/
theorem enter_of_scalar (visit : Place → Node → WalkState → Walked) {n : Node} (st : WalkState)
    (hentries : n.toValue.entries? = none) (hitems : n.toValue.items? = none) :
    enter blocked visit place n st = ⟨n, [], st⟩ := by
  cases n with
  | dict h es => cases hentries
  | list h xs => cases hitems
  | leaf v =>
    have hsame : (leaf v).opened st.next = (leaf v, st.next) := by
      cases v with
      | dict ordered es => cases hentries
      | list xs => cases hitems
      | tuple xs => cases hitems
      | _ => rfl
    simp only [enter, hsame, isOpened, Bool.false_eq_true, if_false, ite_self]

/-- Entering a node: it is left alone, since it is blocked or since it is no container, or it is gone
through as an opened container. -/
theorem enter_cases (blocked : Place → Bool) (visit : Place → Node → WalkState → Walked)
    (place : Place) (n : Node) (st : WalkState) :
    blocked place = true ∨
    (n.toValue.entries? = none ∧ n.toValue.items? = none) ∨
    (blocked place = false ∧ ∃ m st', m.isOpened = true ∧ m.toValue = n.toValue.plained ∧
      st'.created = st.created ∧ enter blocked visit place n st = visit place m st') := by
  cases hblocked : blocked place with
  | true => exact Or.inl rfl
  | false =>
    right
    rcases opened_cases st.next n with ⟨hopen, -⟩ | ⟨v, rfl, hentries, hitems, -⟩ |
      ⟨ordered, es, rfl, heq⟩ | ⟨v, xs, rfl, hitems, heq⟩
    · exact Or.inr ⟨rfl, n, st, hopen, (plained_toValue hopen).symm, rfl,
        enter_of_isOpened visit st hblocked hopen⟩
    · exact Or.inl ⟨hentries, hitems⟩
    · refine Or.inr ⟨rfl, .dict st.next (closedEntries es), { st with next := st.next + 1 }, rfl, ?_,
        rfl, ?_⟩
      · show Value.dict false (entriesToValues (closedEntries es)) = .dict false es
        rw [entriesToValues_closed]
      · simp only [enter, hblocked, heq, isOpened, Bool.false_eq_true, if_false, if_true]
    · refine Or.inr ⟨rfl, .list st.next (xs.map leaf), { st with next := st.next + 1 }, rfl, ?_,
        rfl, ?_⟩
      · show Value.list (itemsToValues (xs.map leaf)) = v.plained
        rw [itemsToValues_closed]
        cases v <;> cases hitems <;> rfl
      · simp only [enter, hblocked, heq, isOpened, Bool.false_eq_true, if_false, if_true]

/-- The targets in a node that is entered are those in its value, if the node is not blocked. -/
theorem exists_enter_iff {p : Target → Prop} {q : Value → Prop}
    (hvisit : ∀ n st, n.isOpened = true → ((∃ x ∈ (visit place n st).targets, p x) ↔ q n.toValue))
    (hplained : ∀ v, q v.plained ↔ q v)
    (hscalar : ∀ v : Value, v.entries? = none → v.items? = none → ¬ q v) (n : Node) (st : WalkState) :
    (∃ x ∈ (enter blocked visit place n st).targets, p x) ↔ blocked place = false ∧ q n.toValue := by
  rcases enter_cases blocked visit place n st with hb | ⟨hentries, hitems⟩ |
    ⟨hb, m, st', hopen, hvalue, -, heq⟩
  · rw [enter_of_blocked visit n st hb, hb]
    simp
  · rw [enter_of_scalar visit st hentries hitems]
    simp [hscalar _ hentries hitems]
  · rw [heq, hvisit m st' hopen, hvalue, hplained]
    simp [hb]

/-- The targets among the elements of a list are those of each element. -/
theorem exists_items_iff {p : Target → Prop} {q : Nat → Value → Prop}
    {visit : Nat → Node → WalkState → Walked}
    (hvisit : ∀ i n st, (∃ x ∈ (visit i n st).targets, p x) ↔ q i n.toValue) (xs : List Node) :
    ∀ i st, (∃ x ∈ (items visit i xs st).2.1, p x) ↔
      ∃ j n, xs[j]? = some n ∧ q (i + j) n.toValue := by
  induction xs with
  | nil =>
    intro i st
    simp [items]
  | cons n xs ih =>
    intro i st
    rw [items]
    dsimp only
    have hsplit : ∀ ys zs : List Target,
        (∃ x ∈ ys ++ zs, p x) ↔ (∃ x ∈ ys, p x) ∨ ∃ x ∈ zs, p x := by
      intro ys zs
      simp only [List.mem_append, or_and_right, exists_or]
    rw [hsplit, hvisit, ih]
    exact (exists_getElem?_cons fun j (m : Node) => q j m.toValue).symm

variable {hasPath : List Segment → Bool} {taken : List Place} {last : Segment}

/-- A place that is found by a walk on from a start: it matches from there. -/
def Finds (hasPath : List Segment → Bool) (taken : List Place) (start : Place) (v : Value)
    (path : List Segment) (place : Place) : Prop :=
  ∃ way, place = start ++ way ∧ Matches hasPath taken start v path way

theorem finds_singleton {start place : Place} {v : Value} {segment : Segment} :
    Finds hasPath taken start v [segment] place ↔
      ∃ step, place = start ++ [step] ∧ step.segment = segment ∧ v.Offers step := by
  unfold Finds
  simp only [Matches.singleton_iff]
  constructor
  · rintro ⟨way, rfl, step, rfl, hstep, hoffers⟩
    exact ⟨step, rfl, hstep, hoffers⟩
  · rintro ⟨step, rfl, hstep, hoffers⟩
    exact ⟨[step], rfl, step, rfl, hstep, hoffers⟩

theorem finds_cons {start place : Place} {v : Value} {segment : Segment} {path : List Segment}
    (hpath : path ≠ []) : Finds hasPath taken start v (segment :: path) place ↔
      ∃ step w, step.segment = segment ∧ v.through? hasPath start.path step = some w ∧
        start ++ [step] ∉ taken ∧ Finds hasPath taken (start ++ [step]) w path place := by
  unfold Finds
  simp only [Matches.cons_iff hpath]
  constructor
  · rintro ⟨way, rfl, step, rest, w, rfl, hstep, hopen, hw, hrest⟩
    exact ⟨step, w, hstep, hw, hopen, rest, by simp, hrest⟩
  · rintro ⟨step, w, hstep, hw, hopen, rest, rfl, hrest⟩
    exact ⟨step :: rest, by simp, step, rest, w, rfl, hstep, hopen, hw, hrest⟩

theorem finds_name {start place : Place} {v : Value} {s : String} {path : List Segment}
    (hpath : path ≠ []) : Finds hasPath taken start v (.name s :: path) place ↔
      ∃ w, v.through? hasPath start.path (.key s) = some w ∧
        start ++ [.key s] ∉ taken ∧ Finds hasPath taken (start ++ [.key s]) w path place := by
  rw [finds_cons hpath]
  constructor
  · rintro ⟨step, w, hstep, hrest⟩
    cases step with
    | key s' =>
      cases hstep
      exact ⟨w, hrest⟩
    | index i => cases hstep
  · rintro ⟨w, hrest⟩
    exact ⟨.key s, w, rfl, hrest⟩

theorem finds_wildcard {start place : Place} {v : Value} {path : List Segment}
    (hpath : path ≠ []) : Finds hasPath taken start v (.wildcard :: path) place ↔
      ∃ i w, v.child? (.index i) = some w ∧
        start ++ [.index i] ∉ taken ∧ Finds hasPath taken (start ++ [.index i]) w path place := by
  rw [finds_cons hpath]
  constructor
  · rintro ⟨step, w, hstep, hrest⟩
    cases step with
    | key s => cases hstep
    | index i => exact ⟨i, w, hrest⟩
  · rintro ⟨i, w, hrest⟩
    exact ⟨.index i, w, rfl, hrest⟩

theorem through?_dict (hasPath : List Segment → Bool) (path : List Segment) (h : Nat) (s : String)
    (es : List (Value × Node)) : Value.through? hasPath path (Node.dict h es).toValue (.key s) =
      match Entries.find? (.str s) es with
      | some m => some m.toValue
      | none => if hasPath (path ++ [.name s]) then none else some (.dict false []) := by
  have hfind : Entries.find? (.str s) (entriesToValues es) =
      (Entries.find? (.str s) es).map toValue := by
    rw [entriesToValues_eq, Entries.find?_mapValues]
  unfold Value.through?
  show ((some (entriesToValues es)).bind _ : Option Value) = _
  rw [Option.bind_some, hfind]
  cases Entries.find? (.str s) es <;> rfl

/-- The places that the last segment names are those that match it. -/
theorem exists_last_iff {n : Node} (hopen : n.isOpened = true) (start place : Place) :
    (∃ x ∈ targets last start n, x.place = place) ↔
      Finds hasPath taken start n.toValue [last] place := by
  rw [finds_singleton]
  cases n with
  | leaf v => cases hopen
  | dict h es =>
    cases last with
    | wildcard =>
      constructor
      · rintro ⟨x, hx, -⟩
        cases hx
      · rintro ⟨step, -, hstep, hoffers⟩
        cases step with
        | key s => cases hstep
        | index i => cases hoffers
    | name s =>
      constructor
      · rintro ⟨x, hx, rfl⟩
        obtain rfl := List.mem_singleton.mp hx
        exact ⟨.key s, rfl, rfl, rfl⟩
      · rintro ⟨step, rfl, hstep, -⟩
        cases step with
        | index i => cases hstep
        | key s' =>
          cases hstep
          exact ⟨_, List.mem_singleton_self _, rfl⟩
  | list h xs =>
    have hchild : ∀ i, (Value.child? (Node.list h xs).toValue (.index i)).isSome = true ↔
        i < xs.length := by
      intro i
      show ((itemsToValues xs)[i]?).isSome = true ↔ _
      rw [itemsToValues_eq]
      simp
    cases last with
    | name s =>
      constructor
      · rintro ⟨x, hx, -⟩
        cases hx
      · rintro ⟨step, -, hstep, hoffers⟩
        cases step with
        | key s => cases hoffers
        | index i => cases hstep
    | wildcard =>
      constructor
      · rintro ⟨x, hx, rfl⟩
        obtain ⟨⟨m, i⟩, hm, rfl⟩ := List.mem_map.mp hx
        have hget : xs[i]? = some m := List.mem_zipIdx_iff_getElem?.mp hm
        exact ⟨.index i, rfl, rfl, (hchild i).mpr (List.getElem?_eq_some_iff.mp hget).1⟩
      · rintro ⟨step, rfl, hstep, hoffers⟩
        cases step with
        | key s => cases hstep
        | index i =>
          have hlt := (hchild i).mp hoffers
          refine ⟨_, List.mem_map.mpr ⟨(xs[i], i), ?_, rfl⟩, rfl⟩
          exact List.mem_zipIdx_iff_getElem?.mpr (List.getElem?_eq_getElem hlt)

/-- What is to be shown of walks along some segments and a last one: they come to the places that
match. -/
def Comes (hasPath : List Segment → Bool) (taken : List Place) (last : Segment)
    (segments : List Segment) : Prop :=
  ∀ (start : Place) (n : Node) (st : WalkState) (place : Place), n.isOpened = true →
    ((∃ x ∈ (follow taken.contains last (stepsFrom hasPath start.path segments) start n st).targets,
        x.place = place) ↔ Finds hasPath taken start n.toValue (segments ++ [last]) place)

section Comes

variable {rest : List Segment} (hrest : Comes hasPath taken last rest) {start place : Place}
  {st : WalkState} {h : Nat}

include hrest

/-- A walk goes on through what stands at a step unless the step is taken. -/
theorem exists_step_iff (step : Step) (n : Node) (st : WalkState) :
    (∃ x ∈ (enter taken.contains (follow taken.contains last
      (stepsFrom hasPath (start.path ++ [step.segment]) rest)) (start ++ [step]) n st).targets,
        x.place = place) ↔ start ++ [step] ∉ taken ∧
      Finds hasPath taken (start ++ [step]) n.toValue (rest ++ [last]) place := by
  have hne : rest ++ [last] ≠ [] := by simp
  rw [← start.path_step step, exists_enter_iff
      (q := fun v => Finds hasPath taken (start ++ [step]) v (rest ++ [last]) place)
      (fun n st => hrest (start ++ [step]) n st place)]
  · simp
  · exact fun v => exists_congr fun way => and_congr_right fun _ => Matches.plained_iff hne
  · rintro v hentries hitems ⟨way, -, hway⟩
    exact Matches.not_scalar hne hentries hitems hway

theorem exists_key_iff (s : String) (es : List (Value × Node)) :
    (∃ x ∈ (follow taken.contains last (stepsFrom hasPath start.path (.name s :: rest)) start
      (.dict h es) st).targets, x.place = place) ↔
      Finds hasPath taken start (Node.dict h es).toValue (.name s :: rest ++ [last]) place := by
  rw [List.cons_append, finds_name (by simp), through?_dict, stepsFrom, follow]
  cases hfind : Entries.find? (.str s) es with
  | some child =>
    dsimp only
    refine (exists_step_iff hrest (.key s) child st).trans ?_
    simp
  | none =>
    dsimp only
    cases hruled : hasPath (start.path ++ [.name s]) with
    | true => simp
    | false =>
      by_cases htaken : start ++ [Step.key s] ∈ taken
      · simp [htaken]
      · have hmade := hrest (start ++ [Step.key s]) (.dict st.next [])
          ⟨st.next + 1, st.created ++ [⟨h, s, st.next⟩]⟩ place rfl
        rw [Place.path_key, show (Node.dict st.next []).toValue = .dict false [] from rfl] at hmade
        simpa [htaken] using hmade

theorem exists_wildcard_iff (xs : List Node) :
    (∃ x ∈ (follow taken.contains last (stepsFrom hasPath start.path (.wildcard :: rest)) start
      (.list h xs) st).targets, x.place = place) ↔
      Finds hasPath taken start (Node.list h xs).toValue (.wildcard :: rest ++ [last]) place := by
  rw [List.cons_append, finds_wildcard (by simp), stepsFrom, follow]
  refine (exists_items_iff (q := fun i v => start ++ [.index i] ∉ taken ∧
    Finds hasPath taken (start ++ [.index i]) v (rest ++ [last]) place)
    (fun i n st => exists_step_iff hrest (.index i) n st) xs 0 st).trans ?_
  simp only [Nat.zero_add, child?_toValue (show (Node.list h xs).isOpened = true from rfl), child?,
    Option.map_eq_some_iff]
  constructor
  · rintro ⟨i, m, hm, hfinds⟩
    exact ⟨i, m.toValue, ⟨m, hm, rfl⟩, hfinds⟩
  · rintro ⟨i, _, ⟨m, hm, rfl⟩, hfinds⟩
    exact ⟨i, m, hm, hfinds⟩

end Comes

/-- The places that a walk comes to are those that match its path. -/
theorem exists_target_iff (hasPath : List Segment → Bool) (taken : List Place) (last : Segment)
    (segments : List Segment) : Comes hasPath taken last segments := by
  induction segments with
  | nil =>
    intro start n st place hopen
    exact exists_last_iff hopen start place
  | cons segment rest ih =>
    intro start n st place hopen
    have hne : rest ++ [last] ≠ [] := by simp
    cases n with
    | leaf v => cases hopen
    | dict h es =>
      cases segment with
      | wildcard =>
        rw [List.cons_append, finds_wildcard hne, stepsFrom]
        constructor
        · rintro ⟨x, hx, -⟩
          cases hx
        · rintro ⟨i, w, hw, -⟩
          cases hw
      | name s => exact exists_key_iff ih s es
    | list h xs =>
      cases segment with
      | name s =>
        rw [List.cons_append, finds_name hne, stepsFrom]
        constructor
        · rintro ⟨x, hx, -⟩
          cases hx
        · rintro ⟨w, hw, -⟩
          cases hw
      | wildcard => exact exists_wildcard_iff ih xs

end Walk

/-! ## Order -/

/-- The positions of lists that the steps of a place go through. -/
def Place.indexes (place : Place) : List Nat :=
  place.filterMap fun
    | .key _ => none
    | .index i => some i

/-- A place comes before another if its positions do, in lexicographic order. -/
def Place.Before (place place' : Place) : Prop := List.Lex (· < ·) place.indexes place'.indexes

theorem Place.Before.ne {place place' : Place} (h : place.Before place') : place ≠ place' := by
  rintro rfl
  exact List.lex_irrefl Nat.lt_irrefl _ h

/-- Of two elements of a list, everything in the first comes before everything in the other. -/
theorem Place.before_of_index (start : Place) {i j : Nat} (hlt : i < j) (way way' : Place) :
    Place.Before (start ++ [.index i] ++ way) (start ++ [.index j] ++ way') := by
  have hindexes : ∀ (k : Nat) (way : Place),
      Place.indexes (start ++ [.index k] ++ way) = start.indexes ++ k :: Place.indexes way := by
    intro k way
    rw [Place.indexes, List.append_assoc, List.filterMap_append]
    rfl
  unfold Place.Before
  rw [hindexes, hindexes]
  exact List.Lex.append_left _ (List.Lex.rel hlt) _

namespace Walk

variable {blocked : Place → Bool} {visit : Place → Node → WalkState → Walked}

/-- Entering a node comes to targets in order, if going through it does. -/
theorem enter_sorted {R : Target → Target → Prop} {place : Place} {n : Node} {st : WalkState}
    (hvisit : ∀ n st, (visit place n st).targets.Pairwise R) :
    (enter blocked visit place n st).targets.Pairwise R := by
  rcases enter_cases blocked visit place n st with hb | ⟨hentries, hitems⟩ | ⟨-, m, st', -, -, -, heq⟩
  · rw [enter_of_blocked visit n st hb]
    exact .nil
  · rw [enter_of_scalar visit st hentries hitems]
    exact .nil
  · rw [heq]
    exact hvisit m st'

/-- The elements of a list are gone through in order. -/
theorem items_sorted {R : Target → Target → Prop} {p : Nat → Target → Prop}
    {visit : Nat → Node → WalkState → Walked}
    (hvisit : ∀ i n st, (visit i n st).targets.Pairwise R)
    (hat : ∀ i n st, ∀ x ∈ (visit i n st).targets, p i x)
    (hbefore : ∀ i j x y, i < j → p i x → p j y → R x y) (xs : List Node) :
    ∀ (i : Nat) (st : WalkState), (items visit i xs st).2.1.Pairwise R := by
  induction xs with
  | nil =>
    intro i st
    exact .nil
  | cons n xs ih =>
    intro i st
    refine List.pairwise_append.mpr ⟨hvisit i n st, ih (i + 1) _, fun x hx y hy => ?_⟩
    obtain ⟨j, -, -, hj⟩ := items_targets (p := fun i _ => p i) hat xs (i + 1) _ y hy
    exact hbefore i (i + 1 + j) x y (by omega) (hat i n st x hx) hj

theorem targets_sorted (last : Segment) (place : Place) (n : Node) :
    (targets last place n).Pairwise fun x y => x.place.Before y.place := by
  cases n with
  | leaf v => exact .nil
  | dict h es =>
    cases last with
    | wildcard => exact .nil
    | name s => exact List.pairwise_singleton _ _
  | list h xs =>
    cases last with
    | name s => exact .nil
    | wildcard =>
      have hpositions : (xs.zipIdx.map Prod.snd).Pairwise (· < ·) := by
        rw [List.zipIdx_map_snd]
        exact List.pairwise_lt_range'
      refine List.pairwise_map.mpr ((List.pairwise_map.mp hpositions).imp fun {x y} hlt => ?_)
      have := Place.before_of_index place hlt [] []
      rwa [List.append_nil, List.append_nil] at this

/-- A walk comes to its targets in the order of their positions. -/
theorem follow_sorted (blocked : Place → Bool) (last : Segment) (steps : List (Segment × Bool)) :
    ∀ (place : Place) (n : Node) (st : WalkState),
      (follow blocked last steps place n st).targets.Pairwise fun x y => x.place.Before y.place := by
  induction steps with
  | nil => exact fun place n st => targets_sorted last place n
  | cons step rest ih =>
    obtain ⟨segment, ruled⟩ := step
    intro place n st
    cases n with
    | leaf v => exact .nil
    | dict h es =>
      cases segment with
      | wildcard => exact .nil
      | name s =>
        rw [follow]
        cases Entries.find? (.str s) es with
        | some child => exact enter_sorted (ih (place ++ [.key s]))
        | none =>
          dsimp only
          split
          · exact .nil
          · exact ih (place ++ [.key s]) _ _
    | list h xs =>
      cases segment with
      | name s => exact .nil
      | wildcard =>
        refine items_sorted (p := fun i x => ∃ way, x.place = place ++ [.index i] ++ way)
          (fun i n st => enter_sorted (ih (place ++ [.index i])))
          (fun i n st => enter_targets (p := fun _ x => ∃ way, x.place = place ++ [.index i] ++ way)
            fun n st x hx => ?_) ?_ xs 0 st
        · obtain ⟨-, way, hway, -⟩ := follow_targets blocked last rest (place ++ [.index i]) n st x hx
          exact ⟨way, hway⟩
        · rintro i j x y hlt ⟨way, hx⟩ ⟨way', hy⟩
          rw [hx, hy]
          exact Place.before_of_index place hlt way way'

end Walk

end ArgumentSchema
