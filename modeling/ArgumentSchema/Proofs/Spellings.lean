import ArgumentSchema.Proofs.Defaults
import ArgumentSchema.Proofs.Explanation

/-!
# Spellings of a contract

A union of names and classes is another spelling of the names between bars, and a longhand is its type
with some of the options in its place. Here the spellings are told to agree, and a longhand is told to
be turned down for its own faults and that of its type alone:

> `Pattern.read_union`: a list or tuple of members is read as the texts that spell them, between bars.
> `Pattern.overriding`: what the options of a longhand make of the contract of its type.
> `Pattern.longhand_eq_ok_iff`: a longhand is read exactly if its type and its options are in order.
> `Pattern.Malformed`: and what there is to turn it down for.
-/

namespace ArgumentSchema

/-- Names that are listed are a pattern without a modifier. -/
theorem Shorthand.read_of_lists {text : String} {types : List String}
    (h : Lists text.toList types) : read text = .ok (Contract.ofTypes types) := by
  have hcut : Cut text.toList text.toList none :=
    ⟨(List.append_nil _).symm, h.foreign foreign_equals⟩
  exact (read_eq_ok_of_none hcut).mpr ⟨types, false, .plain h, rfl⟩

namespace Pattern

variable {registry : Registry}

/-! ## Unions -/

/-- A text that spells a member of a union, blanks about it apart: the name that its class stands for,
or the text that it is itself. It has to be one valid name. -/
inductive Spells (registry : Registry) : Value → String → Prop where
  | cls {c : Class} {p : String} : Shorthand.Name (registry.nameFor c).toList →
      Text.trim p.toList = (registry.nameFor c).toList → Spells registry (.classRef c) p
  | text {s p : String} : Shorthand.Name (Text.trim s.toList) →
      Text.trim p.toList = Text.trim s.toList → Spells registry (.str s) p

theorem Spells.name {m : Value} {p : String} (h : Spells registry m p) :
    Shorthand.Name (Text.trim p.toList) := by
  cases h with
  | cls hname hp => exact hp ▸ hname
  | text hname hp => exact hp ▸ hname

theorem Spells.unionMember {m : Value} {p : String} (h : Spells registry m p) :
    unionMember registry m = .ok (String.ofList (Text.trim p.toList)) := by
  cases h with
  | cls _ hp => rw [Pattern.unionMember, hp, String.ofList_toList]
  | @text s _ hname hp =>
    have hlists : Shorthand.Lists s.toList [String.ofList (Text.trim s.toList)] :=
      .names (List.cons_ne_nil s.toList []) (List.forall_mem_singleton.mpr hname)
    rw [Pattern.unionMember, Shorthand.typeNames_eq_ok_iff.mpr hlists, hp]
    rfl

/-- Members are read as the texts that spell them, between bars. -/
theorem read_union {members : List Value} {pieces : List String} (hne : members ≠ [])
    (h : List.Forall₂ (Spells registry) members pieces) :
    ∃ c, Shorthand.read ("|".intercalate pieces) = .ok c ∧
      read registry (.list members) = .ok c ∧ read registry (.tuple members) = .ok c := by
  have hpieces : pieces ≠ [] := by
    rintro rfl
    exact hne (List.forall₂_nil_right_iff.mp h)
  have hnames : ∀ p ∈ pieces, Shorthand.Name (Text.trim p.toList) := by
    intro p hp
    obtain ⟨m, -, hm⟩ := exists_of_mem_forall₂ h hp
    exact hm.name
  have hunion : union registry members =
      .ok (pieces.map fun p => String.ofList (Text.trim p.toList)).eraseDups := by
    have hmembers : members.mapM (unionMember registry) =
        .ok (pieces.map fun p => String.ofList (Text.trim p.toList)) := by
      rw [mapM_eq_ok_iff, List.forall₂_map_right_iff]
      exact h.imp fun _ _ hm => hm.unionMember
    rw [union, hmembers]
    rfl
  have hread : ∀ spec ∈ [Value.list members, .tuple members], read registry spec =
      .ok (.ofTypes (pieces.map fun p => String.ofList (Text.trim p.toList)).eraseDups) := by
    simp [read, simple, hunion]
  exact ⟨_, Shorthand.read_of_lists (Shorthand.lists_pieces hpieces hnames),
    hread _ (List.mem_cons_self ..), hread _ (List.mem_cons_of_mem _ (List.mem_cons_self ..))⟩

/-- A class is read as the name that it stands for. -/
theorem read_class {c : Class} (hname : Shorthand.Name (registry.nameFor c).toList) :
    read registry (.classRef c) = Shorthand.read (registry.nameFor c) := by
  have hlists := Shorthand.lists_names (List.forall_mem_singleton.mpr hname) (List.nodup_singleton _)
  exact (Shorthand.read_of_lists hlists).symm

/-! ## Options -/

/-- What an option is given, if that is not null. -/
def given? (key : String) (es : Entries Value) : Option Value :=
  match Value.field? key es with
  | none | some .null => none
  | some f => some f

/-- A check is something to call or a regular expression. -/
def Checks (f : Value) : Prop := f.isCallable = true ∨ ∃ p flags, f = .regex p flags

/-- The check that a value is. -/
def checkOf : Value → Check
  | .regex p flags => .regex p flags
  | f => .callable f

/-- The options of a longhand, its type apart, are in order: each is known, and what has to be called
can be called, if it is given. -/
structure Orderly (es : Entries Value) : Prop where
  known : ∀ e ∈ es, isLonghandKey e.1 = true
  validate : ∀ f, given? "validate" es = some f → Checks f
  callbacks : ∀ key ∈ ["catch", "transform"], ∀ f, given? key es = some f → f.isCallable = true

/-- What the options of a longhand make of the contract of its type: a default and an optionality in
the place of its own where there is an option for them, a check if one is given, and the callbacks. -/
def overriding (es : Entries Value) (base : Contract) : Contract where
  types := base.types
  validate := (given? "validate" es).elim base.validate fun f => some (checkOf f)
  default := (Value.field? "default" es).elim base.default Contract.declaredDefault
  optional := (Value.field? "optional" es).elim base.optional Value.truth
  catch? := given? "catch" es
  transform := given? "transform" es

section Options

variable {es : Entries Value} {base c : Contract}

theorem callable?_eq_ok_iff {key : String} {f? : Option Value} :
    callable? es key = .ok f? ↔
      (∀ f, given? key es = some f → f.isCallable = true) ∧ given? key es = f? := by
  have hcases : (given? key es = none ∧ callable? es key = .ok none) ∨
      ∃ f, given? key es = some f ∧ callable? es key =
        if f.isCallable then .ok (some f) else .error (.notCallable key f.className) := by
    unfold callable? given?
    cases Value.field? key es with
    | none => exact .inl ⟨rfl, rfl⟩
    | some f => cases f <;> first | exact .inl ⟨rfl, rfl⟩ | exact .inr ⟨_, rfl, rfl⟩
  rcases hcases with ⟨hnone, hread⟩ | ⟨f, hsome, hread⟩
  · simp [hnone, hread]
  · rw [hsome, hread]
    by_cases hf : f.isCallable = true
    · simp [hf]
    · simp [hf]

theorem check?_eq_ok_iff {check : Option Check} :
    check? es = .ok check ↔
      (∀ f, given? "validate" es = some f → Checks f) ∧
        (given? "validate" es).map checkOf = check := by
  have hcases : (given? "validate" es = none ∧ check? es = .ok none) ∨
      (∃ p flags, given? "validate" es = some (.regex p flags) ∧
        check? es = .ok (some (.regex p flags))) ∨
      ∃ f, given? "validate" es = some f ∧ (∀ p flags, f ≠ .regex p flags) ∧
        checkOf f = .callable f ∧
        check? es = if f.isCallable then .ok (some (.callable f)) else
          .error (.validateKind f.className) := by
    unfold check? given?
    cases Value.field? "validate" es with
    | none => exact .inl ⟨rfl, rfl⟩
    | some f =>
      cases f <;> first
        | exact .inl ⟨rfl, rfl⟩
        | exact .inr (.inl ⟨_, _, rfl, rfl⟩)
        | exact .inr (.inr ⟨_, rfl, nofun, rfl, rfl⟩)
  rcases hcases with ⟨hnone, hread⟩ | ⟨p, flags, hsome, hread⟩ | ⟨f, hsome, hregex, hof, hread⟩
  · simp [hnone, hread]
  · simp [hsome, hread, Checks, checkOf]
  · rw [hsome, hread]
    by_cases hf : f.isCallable = true
    · simp [hf, Checks, hof]
    · simp [hf, Checks, hregex]

theorem overriding_eq (es : Entries Value) (base : Contract) :
    overriding es base = {
      types := base.types
      validate := (given? "validate" es).map checkOf <|> base.validate
      default := match Value.field? "default" es with
        | some v => Contract.declaredDefault v
        | none => base.default
      optional := match Value.field? "optional" es with
        | some v => v.truth
        | none => base.optional
      catch? := given? "catch" es
      transform := given? "transform" es } := by
  unfold overriding
  cases given? "validate" es <;> cases Value.field? "default" es <;>
    cases Value.field? "optional" es <;> rfl

theorem known_of_longhand (h : longhand registry es = .ok c) :
    ∀ e ∈ es, isLonghandKey e.1 = true := by
  rw [← unknownKeys_isEmpty_iff]
  cases hunknown : (unknownKeys es).isEmpty with
  | true => rfl
  | false =>
    unfold longhand at h
    dsimp only at h
    rw [hunknown] at h
    cases h

/-- A longhand is read exactly if its type is and its other options are in order. -/
theorem longhand_eq_ok_iff : longhand registry es = .ok c ↔
    Orderly es ∧ ∃ base, longhandBase registry es = .ok base ∧ c = overriding es base := by
  constructor
  · intro h
    have hknown := known_of_longhand h
    obtain ⟨base, validate, recovery, transform, hbase, hcheck, hcatch, htransform, rfl⟩ :=
      exists_of_longhand h
    obtain ⟨hvalidate, rfl⟩ := check?_eq_ok_iff.mp hcheck
    obtain ⟨hrecovers, rfl⟩ := callable?_eq_ok_iff.mp hcatch
    obtain ⟨htransforms, rfl⟩ := callable?_eq_ok_iff.mp htransform
    refine ⟨⟨hknown, hvalidate, ?_⟩, base, hbase, ?_⟩
    · exact List.forall_mem_cons.mpr ⟨hrecovers, List.forall_mem_singleton.mpr htransforms⟩
    · exact (overriding_eq es base).symm
  · rintro ⟨⟨hknown, hvalidate, hcallbacks⟩, base, hbase, rfl⟩
    have hcatch := callable?_eq_ok_iff.mpr ⟨hcallbacks "catch" (by decide), rfl⟩
    have htransform := callable?_eq_ok_iff.mpr ⟨hcallbacks "transform" (by decide), rfl⟩
    have hcheck := check?_eq_ok_iff.mpr ⟨hvalidate, rfl⟩
    have hlonghand := longhand_eq_ok (unknownKeys_isEmpty_iff.mpr hknown) hbase hcheck hcatch htransform
    exact hlonghand.trans (congrArg Except.ok (overriding_eq es base).symm)

/-- The type of a longhand is what stands for it, or null if nothing does, and is in longhand itself
only if it is refused. -/
theorem longhandBase_eq (hflat : ∀ ordered fs, Value.field? "type" es ≠ some (.dict ordered fs)) :
    longhandBase registry es = read registry ((Value.field? "type" es).getD .null) := by
  unfold longhandBase
  cases htype : Value.field? "type" es with
  | none => rfl
  | some t =>
    cases t with
    | dict ordered fs => exact absurd htype (hflat ordered fs)
    | _ => rfl

/-- What a longhand is turned down for: an option that is unknown, a type that is in longhand itself or
is turned down, and a callback that cannot be called. -/
inductive Malformed (registry : Registry) (es : Entries Value) : Prop where
  | unknown {e : Value × Value} : e ∈ es → isLonghandKey e.1 = false → Malformed registry es
  | nested {ordered : Bool} {fs : Entries Value} :
      Value.field? "type" es = some (.dict ordered fs) → Malformed registry es
  | type {t : Value} {fault : SchemaFault} : Value.field? "type" es = some t →
      read registry t = .error (.fault fault) → Malformed registry es
  | validate {f : Value} : given? "validate" es = some f → ¬ Checks f → Malformed registry es
  | callback {key : String} {f : Value} : key ∈ ["catch", "transform"] → given? key es = some f →
      f.isCallable = false → Malformed registry es

/-- The options of a longhand that is not malformed are in order. -/
theorem orderly_of_not_malformed (h : ¬ Malformed registry es) : Orderly es where
  known e he := by
    by_contra hunknown
    exact h (.unknown he (Bool.not_eq_true _ ▸ hunknown))
  validate f hf := by
    by_contra hcheck
    exact h (.validate hf hcheck)
  callbacks key hkey f hf := by
    by_contra hcallable
    exact h (.callback hkey hf (Bool.not_eq_true _ ▸ hcallable))

theorem not_malformed_of_longhand (h : longhand registry es = .ok c) : ¬ Malformed registry es := by
  obtain ⟨horderly, base, hbase, -⟩ := longhand_eq_ok_iff.mp h
  intro hmalformed
  cases hmalformed with
  | unknown he hunknown => exact Bool.false_ne_true (hunknown.symm.trans (horderly.known _ he))
  | nested htype =>
    rw [longhandBase, htype] at hbase
    cases hbase
  | @type t fault htype hfault =>
    have hflat : ∀ ordered fs, Value.field? "type" es ≠ some (.dict ordered fs) := by
      intro ordered fs hnested
      rw [longhandBase, hnested] at hbase
      cases hbase
    rw [longhandBase_eq hflat, htype] at hbase
    cases hfault.symm.trans hbase
  | validate hf hcheck => exact hcheck (horderly.validate _ hf)
  | callback hkey hf hcallable =>
    exact Bool.false_ne_true (hcallable.symm.trans (horderly.callbacks _ hkey _ hf))

/-- A longhand that is not malformed is read if its type is. -/
theorem longhand_of_not_malformed (h : ¬ Malformed registry es)
    (hbase : read registry ((Value.field? "type" es).getD .null) = .ok base) :
    longhand registry es = .ok (overriding es base) := by
  refine longhand_eq_ok_iff.mpr ⟨orderly_of_not_malformed h, base, ?_, rfl⟩
  rw [longhandBase_eq fun ordered fs hnested => h (.nested hnested)]
  exact hbase

theorem longhand_eq_fault_iff (hshort : ∀ n, longhand registry es ≠ .error (.literal ⟨n⟩)) :
    (∃ fault, longhand registry es = .error (.fault fault)) ↔ Malformed registry es := by
  constructor
  · rintro ⟨fault, hfault⟩
    by_contra hgood
    have hflat : ∀ ordered fs, Value.field? "type" es ≠ some (.dict ordered fs) :=
      fun ordered fs hnested => hgood (.nested hnested)
    cases hbase : read registry ((Value.field? "type" es).getD .null) with
    | ok base => cases hfault.symm.trans (longhand_of_not_malformed hgood hbase)
    | error e =>
      cases e with
      | fault f =>
        cases htype : Value.field? "type" es with
        | none =>
          rw [htype] at hbase
          cases hbase
        | some t =>
          rw [htype] at hbase
          exact hgood (.type htype hbase)
      | literal e =>
        -- a type whose default is too long makes the whole longhand fail so
        refine hshort e.count (longhand_eq_literal_iff.mpr
          ⟨(orderly_of_not_malformed hgood).known, ?_⟩)
        rw [← longhandBase_eq hflat] at hbase
        exact longhandBase_eq_literal_iff.mp hbase
  · intro hbad
    cases hread : longhand registry es with
    | ok c => exact absurd hbad (not_malformed_of_longhand hread)
    | error e =>
      cases e with
      | fault fault => exact ⟨fault, rfl⟩
      | literal e => exact absurd hread (hshort e.count)

/-- A pattern that is not in longhand names no callbacks. -/
theorem simple_uncalled {spec : Value} (h : simple registry spec = .ok c) :
    c.catch? = none ∧ c.transform = none := by
  unfold simple at h
  split at h
  · cases h
    exact ⟨rfl, rfl⟩
  · obtain ⟨types, default, optional, rfl, -⟩ := Shorthand.exists_of_read h
    exact ⟨rfl, rfl⟩
  · cases h
    exact ⟨rfl, rfl⟩
  · cases h
    exact ⟨rfl, rfl⟩
  · split at h
    · cases h
      exact ⟨rfl, rfl⟩
    · cases h
  · split at h
    · cases h
      exact ⟨rfl, rfl⟩
    · cases h
  · cases h

/-- A longhand with a type alone is another spelling of the type. -/
theorem read_type {spec : Value} (hspec : spec.entries? = none) (ordered : Bool) :
    read registry (.dict ordered [(.str "type", spec)]) = read registry spec := by
  have htype : Value.field? "type" [(.str "type", spec)] = some spec := by
    simp [Value.field?, Entries.find?, Value.sameKey_str]
  have hother : ∀ key, key ≠ "type" → Value.field? key [(.str "type", spec)] = none := by
    intro key hkey
    simp [Value.field?, Entries.find?, Value.sameKey_str, hkey.symm]
  have hflat : ∀ ordered fs, Value.field? "type" [(.str "type", spec)] ≠ some (.dict ordered fs) := by
    rintro ordered fs hnested
    rw [htype] at hnested
    cases Option.some.inj hnested
    cases hspec
  have hgiven : ∀ key, key ≠ "type" → given? key [(.str "type", spec)] = none := by
    intro key hkey
    rw [given?, hother key hkey]
  have hknown : ∀ e ∈ [(Value.str "type", spec)], isLonghandKey e.1 = true :=
    List.forall_mem_singleton.mpr (by decide : isLonghandKey (.str "type") = true)
  have hbase : longhandBase registry [(.str "type", spec)] = read registry spec := by
    rw [longhandBase_eq hflat, htype]
    rfl
  have hsimple : read registry spec = simple registry spec := by
    cases spec <;> first | rfl | cases hspec
  show longhand registry [(.str "type", spec)] = read registry spec
  cases hread : read registry spec with
  | ok c =>
    -- the callbacks of a longhand are its own, so the type must have none
    obtain ⟨hcatch, htransform⟩ := simple_uncalled (hsimple.symm.trans hread)
    refine longhand_eq_ok_iff.mpr ⟨⟨hknown, ?_, ?_⟩, c, hbase.trans hread, ?_⟩
    · intro f hf
      cases (hgiven "validate" (by decide)).symm.trans hf
    · intro key hkey
      have hkey : key ≠ "type" := by
        rintro rfl
        exact absurd hkey (by decide)
      intro f hf
      cases (hgiven key hkey).symm.trans hf
    · rw [overriding, hgiven "validate" (by decide), hgiven "catch" (by decide),
        hgiven "transform" (by decide), hother "default" (by decide), hother "optional" (by decide)]
      obtain ⟨types, validate, default, optional, recovery, transform⟩ := c
      cases hcatch
      cases htransform
      rfl
  | error e =>
    unfold longhand
    dsimp only
    rw [unknownKeys_isEmpty_iff.mpr hknown, hbase, hread]
    rfl

end Options

/-- The spellings of a contract agree. A list or tuple of members is read as the texts that spell them,
between bars; a class as the name that it stands for; and a longhand with a type alone as the type. A
longhand whose type is read, and that has no fault of its own, is read as its type with its options in
their place. And if no default in it is too long to be read, a longhand is refused exactly for such
faults, at the path that it was given for. -/
theorem spellings_agree (registry : Registry) :
    (∀ members pieces, members ≠ [] → List.Forall₂ (Spells registry) members pieces →
      ∃ c, Shorthand.read ("|".intercalate pieces) = .ok c ∧
        read registry (.list members) = .ok c ∧ read registry (.tuple members) = .ok c) ∧
    (∀ c : Class, Shorthand.Name (registry.nameFor c).toList →
      read registry (.classRef c) = Shorthand.read (registry.nameFor c)) ∧
    (∀ spec : Value, spec.entries? = none → ∀ ordered,
      read registry (.dict ordered [(.str "type", spec)]) = read registry spec) ∧
    (∀ es base, read registry ((Value.field? "type" es).getD .null) = .ok base →
      ¬ Malformed registry es → ∀ ordered,
      read registry (.dict ordered es) = .ok (overriding es base)) ∧
    ∀ ordered es, (∀ n, ¬ Overlong n (.dict ordered es)) → ∀ path,
      ((∃ fault, (read registry (.dict ordered es)).mapError (·.at path) =
        .error (.schema ⟨fault, path⟩)) ↔ Malformed registry es) := by
  refine ⟨fun members pieces => read_union, fun c => read_class, fun spec => read_type,
    fun es base hbase hgood ordered => longhand_of_not_malformed hgood hbase,
    fun ordered es hshort path => ?_⟩
  have hread : ∀ n, longhand registry es ≠ .error (.literal ⟨n⟩) := fun n hn =>
    hshort n (read_eq_literal_iff.mp hn)
  rw [← longhand_eq_fault_iff hread]
  refine exists_congr fun fault => ?_
  rw [Attempt.mapError_eq_error_iff]
  constructor
  · rintro ⟨e, he, hfault⟩
    cases e with
    | fault f =>
      cases hfault
      exact he
    | literal e => cases hfault
  · exact fun h => ⟨_, h, rfl⟩

/-- A union with a class twice and a name with blanks about it, a longhand that gives its type an
optionality and a callback and leaves it its default, and one whose callback is a text. -/
theorem spellings_agree_number :
    let es : Entries Value := [(.str "type", .str "number=3"), (.str "validate", .null),
      (.str "optional", .str "no"), (.str "transform", .callback "double" [])]
    let bad : Entries Value := [(.str "type", .str "number"), (.str "catch", .str "X")]
    read .default (.tuple [.classRef (.builtin .int), .str " string\t", .classRef (.builtin .float)]) =
        Shorthand.read "number| string\t|number" ∧
      read .default (.classRef (.builtin .dict)) = Shorthand.read "object" ∧
      read .default (.dict true [(.str "type", .list [.str "string"])]) =
        read .default (.list [.str "string"]) ∧
      read .default (.dict false es) = .ok { Contract.ofTypes ["number"] with
        default := some (.int 3), optional := true, transform := some (.callback "double" []) } ∧
      ∃ fault, (read .default (.dict false bad)).mapError (·.at (some "a.b")) =
        .error (.schema ⟨fault, some "a.b"⟩) := by
  intro es bad
  obtain ⟨hunion, hclass, htype, hlonghand, hfault⟩ := spellings_agree .default
  have hname : ∀ name ∈ ["number", "string", "object"], Shorthand.Name name.toList := by
    intro name hname
    rw [← Shorthand.isTypeName_iff]
    revert name
    decide
  have hnumber := hname "number" (by decide)
  have hspelled : List.Forall₂ (Spells .default)
      [.classRef (.builtin .int), .str " string\t", .classRef (.builtin .float)]
      ["number", " string\t", "number"] :=
    .cons (.cls hnumber rfl) (.cons (.text (hname "string" (by decide)) rfl)
      (.cons (.cls hnumber rfl) .nil))
  obtain ⟨c, hshorthand, -, htuple⟩ := hunion _ _ (List.cons_ne_nil _ _) hspelled
  have hbase : read .default ((Value.field? "type" es).getD .null) =
      .ok { Contract.ofTypes ["number"] with default := some (.int 3) } := by cbv
  have hgood : ¬ Malformed .default es := by
    intro h
    cases h with
    | unknown he hunknown =>
      have hknown : ∀ e ∈ es, isLonghandKey e.1 = true := by decide
      exact Bool.false_ne_true (hunknown.symm.trans (hknown _ he))
    | nested htype => cases htype
    | type htype hfault =>
      cases htype
      cases hfault.symm.trans hbase
    | validate hf _ => cases hf
    | callback hkey hf hcallable =>
      rcases List.mem_pair.mp hkey with rfl | rfl
      · cases hf
      · cases hf
        cases hcallable
  have hshort : ∀ n, ¬ Overlong n (.dict false bad) := by
    intro n hlong
    have hread : read .default (.dict false bad) = .error (.fault (.notCallable "catch" "str")) := by
      cbv
    cases hread.symm.trans (read_eq_literal_iff.mpr hlong)
  refine ⟨htuple.trans hshorthand.symm, hclass _ (hname "object" (by decide)), htype _ rfl true,
    (hlonghand es _ hbase hgood false).trans ?_, (hfault false bad hshort _).mpr ?_⟩
  · rfl
  · exact .callback (by decide : "catch" ∈ ["catch", "transform"]) rfl rfl

end Pattern

end ArgumentSchema
