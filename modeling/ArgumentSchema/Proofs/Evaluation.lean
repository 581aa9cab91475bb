import ArgumentSchema.Proofs.Outcome

/-!
# The course of an evaluation

A value that is given to a field goes by the first declared type that it is of, and has to pass the
check of the field under this type. For a value that does neither, the default stands in or, without
a default, what a recovery chooses; if it chooses nothing, the field is left out or has failed. What
was kept is transformed in the end. So the check, the recovery and the transformation are called in
this order, each at most once:

> `Field.matchType_eq_iff`: the type under which a value is matched is the first declared one that it
> is of.
> `Field.evaluate_course`: in which state an evaluation ends and with what, and which calls it makes.
-/

namespace ArgumentSchema.Field

open Traced

/-! ## The type of a value -/

/-- The type that a value goes by under a contract, if it goes by one: the first declared type that
it is of. Where no types are declared, every value that is there goes by the name of its own type. -/
inductive GoesBy (registry : Registry) (c : Contract) (v : Value) : Option String → Prop
  | declared {before after : List String} {t : String} (types : c.types = before ++ t :: after)
      (earlier : ∀ s ∈ before, registry.isOfType v s = false)
      (fits : registry.isOfType v t = true) : GoesBy registry c v (some t)
  | foreign (types : c.types ≠ []) (other : ∀ s ∈ c.types, registry.isOfType v s = false) :
      GoesBy registry c v none
  | own (types : c.types = []) (present : v ≠ .absent) :
      GoesBy registry c v (some (registry.typeName v))
  | missing (types : c.types = []) (absent : v = .absent) : GoesBy registry c v none

section Types

variable {registry : Registry} {c : Contract} {v : Value} {type : Option String}

theorem matchType_of_nil (htypes : c.types = []) :
    matchType registry c v = if v.isAbsent then none else some (registry.typeName v) := by
  rw [matchType, htypes]
  rfl

theorem matchType_of_ne_nil (htypes : c.types ≠ []) :
    matchType registry c v = c.types.find? (registry.isOfType v) := by
  rw [matchType, if_neg (by simpa using htypes)]

/-- A value goes by the type under which it is matched. -/
theorem goesBy_matchType : GoesBy registry c v (matchType registry c v) := by
  by_cases htypes : c.types = []
  · rw [matchType_of_nil htypes]
    by_cases habsent : v = .absent
    · rw [if_pos (Value.isAbsent_iff.mpr habsent)]
      exact .missing htypes habsent
    · rw [if_neg (mt Value.isAbsent_iff.mp habsent)]
      exact .own htypes habsent
  · rw [matchType_of_ne_nil htypes]
    cases hfind : c.types.find? (registry.isOfType v) with
    | none =>
      refine .foreign htypes fun s hs => ?_
      exact Bool.eq_false_iff.mpr (List.find?_eq_none.mp hfind s hs)
    | some t =>
      obtain ⟨hfits, before, after, hsplit, hearlier⟩ := List.find?_eq_some_iff_append.mp hfind
      exact .declared hsplit (fun s hs => by simpa using hearlier s hs) hfits

/-- A value goes by one type at most, and is matched under it. -/
theorem GoesBy.matchType_eq (h : GoesBy registry c v type) : matchType registry c v = type := by
  cases h with
  | @declared before after t types earlier fits =>
    rw [matchType_of_ne_nil (by simp [types])]
    refine List.find?_eq_some_iff_append.mpr ⟨fits, before, after, types, fun s hs => ?_⟩
    rw [earlier s hs]
    rfl
  | foreign types other =>
    rw [matchType_of_ne_nil types]
    exact List.find?_eq_none.mpr fun s hs => Bool.eq_false_iff.mp (other s hs)
  | own types present =>
    rw [matchType_of_nil types, if_neg (mt Value.isAbsent_iff.mp present)]
  | missing types absent =>
    rw [matchType_of_nil types, if_pos (Value.isAbsent_iff.mpr absent)]

theorem matchType_eq_iff : matchType registry c v = type ↔ GoesBy registry c v type := by
  constructor
  · rintro rfl
    exact goesBy_matchType
  · exact GoesBy.matchType_eq

end Types

/-! ## What the stages do -/

section Course

variable (registry : Registry) (answer : Call → Value) (c : Contract) (key : String) (v : Value)
  (type : Option String)

/-- Whether a value passes the check of a contract under a type. -/
def passes (t : String) : Bool :=
  match c.validate with
  | none => true
  | some (.regex p f) => Regex.searches p f v.text
  | some (.callable f) => (answer ⟨f, v, t, none⟩).truth

/-- The call to the check, if the value goes by a type and the check is to be called. -/
def checkCall? : Option Call :=
  match type, c.validate with
  | some t, some (.callable f) => some ⟨f, v, t, none⟩
  | _, _ => none

/-- A value that fits goes by a type and passes the check under it. -/
def fits : Bool := type.any (passes answer c v)

/-- The call to the recovery, if there is one. It is told the type that the value goes by, or that of
the value itself if it goes by none. -/
def recoveryCall? : Option Call :=
  c.catch?.map fun f => ⟨f, v, type.getD (registry.typeName v), some key⟩

/-- What the recovery chooses, if it chooses anything. -/
def recovered? : Option Value :=
  ((recoveryCall? registry c key v type).map answer).filter fun w => !w.isAbsent

/-- What is kept in a state before it is transformed, with its type. -/
def kept? : FieldState → Option (Value × String)
  | .matched => type.map fun t => (v, t)
  | .defaulted => c.default.map fun d => (d, registry.typeName d)
  | .caught => (recovered? registry answer c key v type).map fun w => (w, registry.typeName w)
  | .omitted | .failed => none

/-- The call to the transformation, if there is one. -/
def transformCall? (base : Value × String) : Option Call :=
  c.transform.map fun f => ⟨f, base.1, base.2, none⟩

/-- The course of the evaluation of a value that goes by the given type, if any: the state in which it
ends and what it ends with, and the calls that were made. -/
structure Course (o : FieldOutcome) (made : List Call) : Prop where
  matched : o.state = .matched ↔ fits answer c v type = true
  defaulted : o.state = .defaulted ↔ fits answer c v type = false ∧ c.default ≠ none
  caught : o.state = .caught ↔ fits answer c v type = false ∧ c.default = none ∧
    recovered? registry answer c key v type ≠ none
  omitted : o.state = .omitted ↔ fits answer c v type = false ∧ c.default = none ∧
    recovered? registry answer c key v type = none ∧ c.optional = true
  failed : o.state = .failed ↔ fits answer c v type = false ∧ c.default = none ∧
    recovered? registry answer c key v type = none ∧ c.optional = false
  key_eq : o.key = key
  kept : o.state.succeeded = true → ∃ w t, kept? registry answer c key v type o.state = some (w, t) ∧
    o.value = transformed answer c w t ∧ o.type = some t
  dropped : o.state.succeeded = false → o.value = v ∧ o.type = none
  error : o.error =
    if o.state = .failed then some ⟨key, v, registry.typeName v, c.types⟩ else none
  calls : made = (checkCall? c v type).toList ++
    (if fits answer c v type || c.default.isSome then []
      else (recoveryCall? registry c key v type).toList) ++
    ((kept? registry answer c key v type o.state).bind (transformCall? c)).toList

end Course

/-! ## Evaluations -/

section Evaluations

variable {registry : Registry} {answer : Call → Value} {c : Contract} {key : String} {v : Value}
  {type : Option String}

theorem accepts_adds (t : String) : Adds (accepts (.answering answer) c v t) (passes answer c v t)
    (checkCall? c v (some t)).toList := by
  unfold accepts passes checkCall?
  cases c.validate with
  | none => exact Adds.pure _
  | some check =>
    cases check with
    | regex p f => exact Adds.pure _
    | callable f => exact (invoke_answering answer _).bind (Adds.pure _)

theorem succeed_adds (state : FieldState) (w : Value) (t : String) :
    Adds (succeed (.answering answer) c key state w t)
      ⟨key, state, transformed answer c w t, some t, none⟩ (transformCall? c (w, t)).toList := by
  unfold succeed transformed transformCall?
  cases c.transform with
  | none => exact Adds.pure _
  | some f => exact (invoke_answering answer _).bind (Adds.pure _)

/-- A value that fits is kept as it was given. -/
theorem course_matched {t : String} (hpasses : passes answer c v t = true) :
    Course registry answer c key v (some t) ⟨key, .matched, transformed answer c v t, some t, none⟩
      ((checkCall? c v (some t)).toList ++ (transformCall? c (v, t)).toList) := by
  have hfits : fits answer c v (some t) = true := hpasses
  refine ⟨?_, ?_, ?_, ?_, ?_, rfl, fun _ => ⟨v, t, rfl, rfl, rfl⟩, ?_, rfl, ?_⟩ <;>
    simp [hfits, kept?, FieldState.succeeded]

/-- For a value that does not fit, the default stands in. -/
theorem course_defaulted {d : Value} (hfits : fits answer c v type = false)
    (hdefault : c.default = some d) :
    Course registry answer c key v type
      ⟨key, .defaulted, transformed answer c d (registry.typeName d), some (registry.typeName d), none⟩
      ((checkCall? c v type).toList ++ (transformCall? c (d, registry.typeName d)).toList) := by
  refine ⟨?_, ?_, ?_, ?_, ?_, rfl, fun _ => ⟨d, registry.typeName d, ?_, rfl, rfl⟩, ?_, rfl, ?_⟩ <;>
    simp [hfits, hdefault, kept?, FieldState.succeeded]

/-- Without a default, what the recovery chooses stands in. -/
theorem course_caught {w : Value} (hfits : fits answer c v type = false) (hdefault : c.default = none)
    (hrecovered : recovered? registry answer c key v type = some w) :
    Course registry answer c key v type
      ⟨key, .caught, transformed answer c w (registry.typeName w), some (registry.typeName w), none⟩
      ((checkCall? c v type).toList ++ (recoveryCall? registry c key v type).toList ++
        (transformCall? c (w, registry.typeName w)).toList) := by
  refine ⟨?_, ?_, ?_, ?_, ?_, rfl, fun _ => ⟨w, registry.typeName w, ?_, rfl, rfl⟩, ?_, rfl, ?_⟩ <;>
    simp [hfits, hdefault, hrecovered, kept?, FieldState.succeeded]

/-- If it chooses nothing, the field is left out or has failed. -/
theorem course_fail (hfits : fits answer c v type = false) (hdefault : c.default = none)
    (hrecovered : recovered? registry answer c key v type = none) :
    Course registry answer c key v type (fail registry c key v)
      ((checkCall? c v type).toList ++ (recoveryCall? registry c key v type).toList) := by
  cases hoptional : c.optional with
  | true =>
    have hfail : fail registry c key v = ⟨key, .omitted, v, none, none⟩ := by
      rw [fail, if_pos hoptional]
    rw [hfail]
    refine ⟨?_, ?_, ?_, ?_, ?_, rfl, ?_, fun _ => ⟨rfl, rfl⟩, rfl, ?_⟩ <;>
      simp [hfits, hdefault, hrecovered, hoptional, kept?, FieldState.succeeded]
  | false =>
    have hfail : fail registry c key v =
        ⟨key, .failed, v, none, some ⟨key, v, registry.typeName v, c.types⟩⟩ := by
      rw [fail, if_neg (by simp [hoptional])]
    rw [hfail]
    refine ⟨?_, ?_, ?_, ?_, ?_, rfl, ?_, fun _ => ⟨rfl, rfl⟩, rfl, ?_⟩ <;>
      simp [hfits, hdefault, hrecovered, hoptional, kept?, FieldState.succeeded]

/-- What happens when a recovery is asked. -/
theorem recovery_course {f : Value} {told : String} (hfits : fits answer c v type = false)
    (hdefault : c.default = none) (hcatch : c.catch? = some f)
    (htold : told = type.getD (registry.typeName v)) :
    ∃ o made, Adds (do
        let w ← (Callbacks.answering answer).invoke ⟨f, v, told, some key⟩
        if w.isAbsent then pure (fail registry c key v)
          else succeed (.answering answer) c key .caught w (registry.typeName w)) o made ∧
      Course registry answer c key v type o ((checkCall? c v type).toList ++ made) := by
  let call : Call := ⟨f, v, told, some key⟩
  have hcall : recoveryCall? registry c key v type = some call := by
    rw [recoveryCall?, hcatch, ← htold]
    rfl
  by_cases habsent : (answer call).isAbsent = true
  · have hrecovered : recovered? registry answer c key v type = none := by
      simp [recovered?, hcall, habsent]
    have hcourse := course_fail hfits hdefault hrecovered
    rw [hcall] at hcourse
    refine ⟨_, [call] ++ [], (invoke_answering answer call).bind ?_, hcourse⟩
    rw [if_pos habsent]
    exact Adds.pure _
  · have hrecovered : recovered? registry answer c key v type = some (answer call) := by
      simp [recovered?, hcall, habsent]
    have hcourse := course_caught hfits hdefault hrecovered
    rw [hcall, List.append_assoc] at hcourse
    refine ⟨_, _, (invoke_answering answer call).bind ?_, hcourse⟩
    rw [if_neg habsent]
    exact succeed_adds _ _ _

/-- What happens to a value that does not fit, after the check has been called. -/
theorem recover_course (hfits : fits answer c v type = false)
    (hnamed : type = some "" → registry.typeName v = "") :
    ∃ o made, Adds (recover registry (.answering answer) c key v type) o made ∧
      Course registry answer c key v type o ((checkCall? c v type).toList ++ made) := by
  unfold recover
  cases hdefault : c.default with
  | some d => exact ⟨_, _, succeed_adds _ _ _, course_defaulted hfits hdefault⟩
  | none =>
    cases hcatch : c.catch? with
    | none =>
      have hcall : recoveryCall? registry c key v type = none := by
        rw [recoveryCall?, hcatch]
        rfl
      have hrecovered : recovered? registry answer c key v type = none := by
        rw [recovered?, hcall]
        rfl
      have hcourse := course_fail hfits hdefault hrecovered
      rw [hcall] at hcourse
      exact ⟨_, [], Adds.pure _, hcourse⟩
    | some f =>
      -- a type without a name is taken for none, which only the own type of a value can be
      refine recovery_course hfits hdefault hcatch ?_
      cases type with
      | none => rfl
      | some t =>
        by_cases ht : t = ""
        · subst ht
          exact hnamed rfl
        · simp [ht]

/-- How an evaluation goes where callbacks answer and the declared types have names. The value goes by
a type or by none, the evaluation comes to an end, and its course is what the stages say. -/
theorem evaluate_course (hnames : ∀ t ∈ c.types, t ≠ "") (before : List Call) :
    ∃ type o made, GoesBy registry c v type ∧
      evaluate registry (.answering answer) c key v before = (.ok o, before ++ made) ∧
      Course registry answer c key v type o made := by
  obtain ⟨type, hmatch⟩ : ∃ type, matchType registry c v = type := ⟨_, rfl⟩
  have hgoes : GoesBy registry c v type := matchType_eq_iff.mp hmatch
  have hnamed : type = some "" → registry.typeName v = "" := by
    intro hempty
    cases hgoes with
    | @declared pre post t types =>
      have hmem : t ∈ c.types := by
        rw [types]
        simp
      exact absurd (Option.some.inj hempty) (hnames t hmem)
    | foreign => cases hempty
    | own => exact Option.some.inj hempty
    | missing => cases hempty
  have hcourse : ∃ o made, Adds (evaluate registry (.answering answer) c key v) o made ∧
      Course registry answer c key v type o made := by
    unfold evaluate
    rw [hmatch]
    cases type with
    | none =>
      have hfits : fits answer c v none = false := rfl
      exact recover_course hfits hnamed
    | some t =>
      cases hpasses : passes answer c v t with
      | true =>
        refine ⟨_, _, (accepts_adds t).bind ?_, course_matched hpasses⟩
        rw [hpasses]
        exact succeed_adds _ _ _
      | false =>
        have hfits : fits answer c v (some t) = false := hpasses
        obtain ⟨o, made, hadds, hcourse⟩ := @recover_course registry answer c key v _ hfits hnamed
        refine ⟨o, _, (accepts_adds t).bind ?_, hcourse⟩
        rw [hpasses]
        exact hadds
  obtain ⟨o, made, hadds, hcourse⟩ := hcourse
  exact ⟨type, o, made, hgoes, hadds before, hcourse⟩

/-- A number that the check refuses, a recovery that is told so, and a transformation of its choice. -/
theorem evaluate_course_refused :
    let check := Value.callback "small" []
    let recovery := Value.callback "shorten" []
    let change := Value.callback "double" []
    let c : Contract := { Contract.ofTypes ["string", "number"] with
      validate := some (.callable check), catch? := some recovery, transform := some change,
      optional := true }
    let answer : Call → Value := fun call =>
      match call.callee with
      | .callback "small" _ => .bool false
      | .callback "shorten" _ => .str call.type
      | _ => .int 8
    (∀ t ∈ c.types, t ≠ "") ∧
      ∃ type o made, GoesBy Registry.default c (.int 5) type ∧
        evaluate Registry.default (.answering answer) c "k" (.int 5) [] = (.ok o, [] ++ made) ∧
        Course Registry.default answer c "k" (.int 5) type o made ∧
        o = ⟨"k", .caught, .int 8, some "string", none⟩ ∧
        made = [⟨check, .int 5, "number", none⟩, ⟨recovery, .int 5, "number", some "k"⟩,
          ⟨change, .str "number", "string", none⟩] := by
  intro check recovery change c answer
  have hnames : ∀ t ∈ c.types, t ≠ "" := by decide
  obtain ⟨type, o, made, hgoes, heval, hcourse⟩ :=
    @evaluate_course Registry.default answer c "k" (.int 5) hnames []
  have hended : evaluate Registry.default (.answering answer) c "k" (.int 5) [] =
      (.ok ⟨"k", .caught, .int 8, some "string", none⟩,
        [⟨check, .int 5, "number", none⟩, ⟨recovery, .int 5, "number", some "k"⟩,
          ⟨change, .str "number", "string", none⟩]) := by
    rfl
  have hboth := heval.symm.trans hended
  obtain ⟨ho, hmade⟩ := Prod.mk.inj hboth
  exact ⟨hnames, type, o, made, hgoes, heval, hcourse, Except.ok.inj ho, hmade⟩

end Evaluations

end ArgumentSchema.Field
