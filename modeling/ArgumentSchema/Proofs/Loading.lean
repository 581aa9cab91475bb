import ArgumentSchema.CommandLine.Run
import ArgumentSchema.Proofs.Encoding
import ArgumentSchema.Proofs.JsonReading
import ArgumentSchema.Proofs.TomlReading

/-!
# How loading a document fails

A document that cannot be read or is malformed is told of as a load error. Three things are not: bytes
that are no UTF-8, an integer of too many digits, and values too deep inside of one another. They are
told here by what stands in the document, and a command is followed from them to its end.

> `Load.schema_failsOnly`, `Load.documents_failsOnly`: the failures that are no load errors.
> `Load.loadFailure_told`: that a load error is always told of.
> `Load.loading_fails_iff`: how loading ends, for both kinds of documents and both commands.
-/

namespace ArgumentSchema

namespace Load

variable {α : Type} {result : Except LoadError α}

/-- Loading gives a document, or a load error. -/
def Settles (result : Except LoadError α) : Prop :=
  (∃ a, result = .ok a) ∨ ∃ e, result = .error e ∧ e.isDeclared = true

/-- Loading ends in a failure that is no load error, but of another class. -/
def Escapes (result : Except LoadError α) (kind : String) : Prop :=
  ∃ e, result = .error e ∧ e.isDeclared = false ∧ e.className = kind

theorem settles_iff : Settles result ↔ ∀ kind, ¬ Escapes result kind := by
  cases result with
  | ok a =>
    refine iff_of_true (.inl ⟨a, rfl⟩) ?_
    rintro kind ⟨_, ⟨⟩, -⟩
  | error e =>
    cases hdeclared : e.isDeclared with
    | true =>
      refine iff_of_true (.inr ⟨e, rfl, hdeclared⟩) ?_
      rintro kind ⟨_, ⟨⟩, hundeclared, -⟩
      exact Bool.false_ne_true (hundeclared.symm.trans hdeclared)
    | false =>
      refine iff_of_false ?_ fun h => h _ ⟨e, rfl, hdeclared, rfl⟩
      rintro (⟨_, ⟨⟩⟩ | ⟨_, ⟨⟩, hother⟩)
      exact Bool.false_ne_true (hdeclared.symm.trans hother)

/-- Loading gives a document or a load error except for what is uncaught, and that ends it in a failure
of its class. -/
structure FailsOnly (result : Except LoadError α) (uncaught : String → Prop) : Prop where
  settles : Settles result ↔ ∀ kind, ¬ uncaught kind
  escapes : ∀ kind, Escapes result kind ↔ uncaught kind

theorem failsOnly_of_escapes {uncaught : String → Prop}
    (h : ∀ kind, Escapes result kind ↔ uncaught kind) : FailsOnly result uncaught where
  settles := settles_iff.trans (forall_congr' fun kind => not_congr (h kind))
  escapes := h

end Load

/-! ## Documents of too great a size -/

namespace Json

/-- What is too great in a text to be read with the given room, by the class of the failure. -/
inductive Exceeds (total : Nat) (text : List Char) : String → Prop where
  | digits {n room : Nat} {cs : List Char} : Asked total text .value room cs → Overlong n cs →
      Exceeds total text "ValueError"
  | deep {cs : List Char} : Asked total text .value 0 cs →
      cs.head? = some '[' ∨ cs.head? = some '\x7b' → Exceeds total text "RecursionError"

variable {total : Nat} {text : List Char} {kind : String}

/-- A whole text is refused for its size where its reader breaks off. -/
theorem read_eq_oversize_iff {s : Stop} (hs : s.Oversize) :
    read text total = .error (s.locate text) ↔
      ∃ room cs, Asked total text .value room cs ∧ Breaks s room cs := by
  rw [← document_eq_oversize_iff hs, read, Attempt.mapError_eq_error_iff]
  constructor
  · rintro ⟨s', hdocument, hlocate⟩
    -- only what is malformed has a place
    cases hs <;> cases s' <;> cases hlocate <;> exact hdocument
  · intro hdocument
    exact ⟨s, hdocument, rfl⟩

theorem escapes_iff (source : String) :
    Load.Escapes ((read text total).mapError (.json source)) kind ↔ Exceeds total text kind := by
  constructor
  · rintro ⟨e, herror, hundeclared, rfl⟩
    obtain ⟨e, hread, rfl⟩ := Attempt.mapError_eq_error_iff.mp herror
    cases e with
    | malformed => cases hundeclared
    | tooManyDigits e =>
      obtain ⟨room, cs, hasked, hbreaks⟩ := (read_eq_oversize_iff (.tooManyDigits e)).mp hread
      cases hbreaks with
      | digits hlong => exact .digits hasked hlong
    | tooDeep object =>
      obtain ⟨room, cs, hasked, hbreaks⟩ := (read_eq_oversize_iff (.tooDeep object)).mp hread
      cases hbreaks with
      | array => exact .deep hasked (.inl rfl)
      | object => exact .deep hasked (.inr rfl)
  · have hescapes : ∀ {s room cs}, s.Oversize → Asked total text .value room cs → Breaks s room cs →
        (read text total).mapError (LoadError.json source) = .error (.json source (s.locate text)) :=
      fun hs hasked hbreaks => Attempt.mapError_eq_error_iff.mpr
        ⟨_, (read_eq_oversize_iff hs).mpr ⟨_, _, hasked, hbreaks⟩, rfl⟩
    intro h
    cases h with
    | digits hasked hlong =>
      exact ⟨_, hescapes (.tooManyDigits _) hasked (.digits hlong), rfl, rfl⟩
    | deep hasked hhead =>
      rcases hhead with hhead | hhead
      · obtain ⟨more, rfl⟩ := List.head?_eq_some_iff.mp hhead
        exact ⟨_, hescapes (.tooDeep _) hasked .array, rfl, rfl⟩
      · obtain ⟨more, rfl⟩ := List.head?_eq_some_iff.mp hhead
        exact ⟨_, hescapes (.tooDeep _) hasked .object, rfl, rfl⟩

end Json

namespace Toml

/-- What is too great in a text to be read with the given room, by the class of the failure. -/
inductive Exceeds (total : Nat) (text : List Char) : String → Prop where
  | digits {n room : Nat} {cs : List Char} : Asked total text .value room cs → 1 ≤ room →
      Overlong n cs → Exceeds total text "ValueError"
  | deep {room : Nat} {cs : List Char} : Asked total text .value room cs → room < roomFor cs →
      Exceeds total text "RecursionError"

variable {total : Nat} {text : List Char} {kind : String}

theorem read_eq_error_iff {e : Error} : read text total = .error e ↔
    ∃ s, statements total ((joinBreaks text).length + 1) .empty (joinBreaks text) = .error s ∧
      s.locate (joinBreaks text) = e := by
  unfold read
  dsimp only
  cases statements total ((joinBreaks text).length + 1) .empty (joinBreaks text) <;> simp

/-- A whole text is refused for its size where its reader breaks off. -/
theorem read_eq_oversize_iff {s : Stop} (hs : s.Oversize) :
    read text total = .error (s.locate (joinBreaks text)) ↔
      ∃ room cs, Asked total (joinBreaks text) .value room cs ∧ Breaks s room cs := by
  rw [← statements_eq_oversize_iff hs, read_eq_error_iff]
  constructor
  · rintro ⟨s', hstatements, hlocate⟩
    -- only what is malformed has a place
    have hsame : s' = s := by
      unfold Stop.locate at hlocate
      cases hs <;> split at hlocate <;> cases hlocate <;> rfl
    rw [← hsame]
    exact hstatements
  · intro hstatements
    exact ⟨s, hstatements, rfl⟩

theorem escapes_iff (source : String) :
    Load.Escapes ((read text total).mapError (.toml source)) kind ↔
      Exceeds total (joinBreaks text) kind := by
  constructor
  · rintro ⟨e, herror, hundeclared, rfl⟩
    obtain ⟨e, hread, rfl⟩ := Attempt.mapError_eq_error_iff.mp herror
    cases e with
    | malformed => cases hundeclared
    | tooManyDigits e =>
      obtain ⟨room, cs, hasked, hbreaks⟩ := (read_eq_oversize_iff (.tooManyDigits e)).mp hread
      cases hbreaks with
      | digits hroom hlong => exact .digits hasked hroom hlong
    | tooDeep =>
      obtain ⟨room, cs, hasked, hbreaks⟩ := (read_eq_oversize_iff .tooDeep).mp hread
      cases hbreaks with
      | deep hdeep => exact .deep hasked hdeep
  · have hescapes : ∀ {s room cs}, s.Oversize → Asked total (joinBreaks text) .value room cs →
        Breaks s room cs → (read text total).mapError (LoadError.toml source) =
          .error (.toml source (s.locate (joinBreaks text))) :=
      fun hs hasked hbreaks => Attempt.mapError_eq_error_iff.mpr
        ⟨_, (read_eq_oversize_iff hs).mpr ⟨_, _, hasked, hbreaks⟩, rfl⟩
    intro h
    cases h with
    | digits hasked hroom hlong =>
      exact ⟨_, hescapes (.tooManyDigits _) hasked (.digits hroom hlong), rfl, rfl⟩
    | deep hasked hdeep => exact ⟨_, hescapes .tooDeep hasked (.deep hdeep), rfl, rfl⟩

/-- A text without carriage returns has no line breaks of two characters. -/
theorem joinBreaks_eq_self (h : '\r' ∉ text) : joinBreaks text = text := by
  induction text with
  | nil => rfl
  | cons c rest ih =>
    obtain ⟨hc, hrest⟩ := List.ne_and_not_mem_of_not_mem_cons h
    unfold joinBreaks
    split
    · next heq => exact absurd (List.cons.inj heq).1.symm hc
    · next heq =>
      cases heq
      rw [ih hrest]
    · next heq => cases heq

end Toml

namespace Load

variable {α : Type} {kind : String} {cs : List Char} {bytes : List UInt8}

theorem not_mem_unifyBreaks (cs : List Char) : '\r' ∉ unifyBreaks cs := by
  fun_induction unifyBreaks cs with
  | case1 rest ih => exact List.not_mem_cons_of_ne_of_not_mem (by decide) ih
  | case2 rest _ ih => exact List.not_mem_cons_of_ne_of_not_mem (by decide) ih
  | case3 c rest _ hother ih =>
    exact List.not_mem_cons_of_ne_of_not_mem (fun heq => hother heq.symm) ih
  | case4 => exact List.not_mem_nil

theorem unifyBreaks_eq_self (h : '\r' ∉ cs) : unifyBreaks cs = cs := by
  fun_induction unifyBreaks cs with
  | case1 rest => exact absurd (List.mem_cons_self ..) h
  | case2 rest => exact absurd (List.mem_cons_self ..) h
  | case3 c rest _ _ ih => rw [ih (List.not_mem_of_not_mem_cons h)]
  | case4 => rfl

theorem escapes_map_iff {β : Type} (f : α → β) {result : Except LoadError α} :
    Escapes (result.map f) kind ↔ Escapes result kind := by
  simp only [Escapes, Attempt.map_eq_error_iff]

/-! ## Bytes -/

/-- What is too great in the text of a document, with the room that there is. -/
def Exceeds (room : Room) (toml : Bool) (text : List Char) (kind : String) : Prop :=
  if toml then Toml.Exceeds room.toml text kind else Json.Exceeds room.json text kind

/-- What stands in the bytes of a document that is no load error, by the class of the failure. -/
inductive Uncaught (room : Room) (toml : Bool) (bytes : List UInt8) : String → Prop where
  | encoding : (∀ cs : List Char, bytes ≠ cs.flatMap String.utf8EncodeChar) →
      Uncaught room toml bytes "UnicodeDecodeError"
  | size {cs : List Char} {kind : String} : bytes = cs.flatMap String.utf8EncodeChar →
      Exceeds room toml (unifyBreaks cs) kind → Uncaught room toml bytes kind

theorem escapes_of_bytes_iff {room : Room} {toml : Bool} {read : List Char → Except LoadError α}
    (hread : ∀ cs, Escapes (read (unifyBreaks cs)) kind ↔ Exceeds room toml (unifyBreaks cs) kind) :
    Escapes (text bytes >>= read) kind ↔ Uncaught room toml bytes kind := by
  cases hdecode : Utf8.decode bytes with
  | error f =>
    have hcs : ∀ cs : List Char, bytes ≠ cs.flatMap String.utf8EncodeChar := by
      intro cs hbytes
      rw [← Utf8.decode_eq_ok_iff, hdecode] at hbytes
      cases hbytes
    have hfails : (text bytes >>= read) = .error (.encoding f) := by
      rw [text, hdecode]
      rfl
    rw [hfails]
    constructor
    · rintro ⟨e, heq, -, rfl⟩
      cases heq
      exact .encoding hcs
    · intro h
      cases h with
      | encoding => exact ⟨_, rfl, rfl, rfl⟩
      | size hbytes => exact absurd hbytes (hcs _)
  | ok cs =>
    have hbytes := Utf8.decode_eq_ok_iff.mp hdecode
    have hreads : (text bytes >>= read) = read (unifyBreaks cs) := by
      rw [text, hdecode]
      rfl
    rw [hreads, hread]
    constructor
    · exact .size hbytes
    · intro h
      cases h with
      | encoding hcs => exact absurd hbytes (hcs cs)
      | @size cs' _ hbytes' hexceeds =>
        rw [Utf8.decode_eq_ok_iff.mpr hbytes'] at hdecode
        rw [← Except.ok.inj hdecode]
        exact hexceeds

theorem schema_escapes_iff {files : Files} {name : FileName} {room : Room}
    (h : files.read name = .ok bytes) :
    Escapes (schema files name room) kind ↔ Uncaught room (namesToml name) bytes kind := by
  have hschema : schema files name room = text bytes >>= fun cs =>
      if namesToml name then ((Toml.read cs room.toml).mapError (.toml name.text)).map schemaOfEntries
      else (Json.read cs room.json).mapError (.json name.text) := by
    rw [schema, h]
    rfl
  rw [hschema]
  refine escapes_of_bytes_iff fun cs => ?_
  cases namesToml name with
  | false => exact Json.escapes_iff _
  | true =>
    have htoml := @Toml.escapes_iff room.toml (unifyBreaks cs) kind name.text
    rw [Toml.joinBreaks_eq_self (not_mem_unifyBreaks cs)] at htoml
    exact (escapes_map_iff schemaOfEntries).trans htoml

theorem schema_failsOnly {files : Files} {name : FileName} {room : Room}
    (h : files.read name = .ok bytes) :
    FailsOnly (schema files name room) (Uncaught room (namesToml name) bytes) :=
  failsOnly_of_escapes fun _ => schema_escapes_iff h

/-! ## Commands -/

/-- A result that tells of a load error: it is shown, and the run has failed without a crash. -/
structure Told (s : Settings) (op : String) (e : LoadError) (ending : Ending) : Prop where
  declared : e.isDeclared = true
  shown : ending = Program.emit s (.failure op "LOAD_ERROR" (Failure.load e).summary [])
  status : ending.status = 1
  foreseen : ending.unforeseen = none

/-- A failure without details is shown in every mode. -/
theorem render_bare_failure (mode : OutputMode) (op code message : String) :
    ∃ text, Render.result mode (.failure op code message []) = .ok text := by
  unfold Render.result
  split
  · exact ⟨_, rfl⟩
  · split
    · exact ⟨_, rfl⟩
    · cases mode.verbose <;> exact ⟨_, rfl⟩

theorem loadFailure_told {e : LoadError} (h : e.isDeclared = true) (s : Settings) (op : String) :
    Told s op e (Program.loadFailure s op e) := by
  obtain ⟨text, hshown⟩ := render_bare_failure ⟨s.json, s.quiet, s.verbose⟩ op "LOAD_ERROR"
    (Failure.load e).summary
  have hfailure : Program.loadFailure s op e =
      Program.emit s (.failure op "LOAD_ERROR" (Failure.load e).summary []) := if_pos h
  have hending : Program.loadFailure s op e = .told 1 text := by
    rw [hfailure, Program.emit, hshown]
    rfl
  exact ⟨h, hfailure, by rw [hending]; rfl, by rw [hending]; rfl⟩

theorem loadFailure_escapes {e : LoadError} (h : e.isDeclared = false) (s : Settings) (op : String) :
    Program.loadFailure s op e = .crash e.className := by
  rw [Program.loadFailure, h]
  rfl

/-- How a command ends that goes on with what is loaded: by what is uncaught, by a load error that is
told of, or with what it does with the documents. -/
inductive CommandEnd (s : Settings) (op : String) (loaded : Except LoadError α) (go : α → Ending)
    (uncaught : String → Prop) : Ending → Prop where
  | crash {kind : String} : uncaught kind → CommandEnd s op loaded go uncaught (.crash kind)
  | told {e : LoadError} {ending : Ending} : (∀ kind, ¬ uncaught kind) → loaded = .error e →
      Told s op e ending → CommandEnd s op loaded go uncaught ending
  | done {a : α} : (∀ kind, ¬ uncaught kind) → loaded = .ok a →
      CommandEnd s op loaded go uncaught (go a)

/-- What a command makes of a loading. -/
def proceed (s : Settings) (op : String) (loaded : Except LoadError α) (go : α → Ending) : Ending :=
  match loaded with
  | .error e => Program.loadFailure s op e
  | .ok a => go a

theorem proceed_end {s : Settings} {op : String} {loaded : Except LoadError α} {go : α → Ending}
    {uncaught : String → Prop} (h : FailsOnly loaded uncaught) :
    CommandEnd s op loaded go uncaught (proceed s op loaded go) := by
  cases loaded with
  | error e =>
    cases hdeclared : e.isDeclared with
    | false =>
      rw [proceed, loadFailure_escapes hdeclared]
      exact .crash ((h.escapes _).mp ⟨e, rfl, hdeclared, rfl⟩)
    | true =>
      exact .told (h.settles.mp (.inr ⟨e, rfl, hdeclared⟩)) rfl (loadFailure_told hdeclared s op)
  | ok a => exact .done (h.settles.mp (.inl ⟨a, rfl⟩)) rfl

/-- Loads a schema and the input for it. -/
def documents (room : Room) (files : Files) (file : FileName) (source : String)
    (data : List UInt8) : Except LoadError (Value × Value) := do
  let v ← schema files file room
  let w ← text data >>= fun cs => input source cs room
  pure (v, w)

/-- What is uncaught in a schema and the input for it: something in the schema, or something in the
input of a schema that is loaded. -/
def DocumentsUncaught (room : Room) (files : Files) (file : FileName) (bytes data : List UInt8)
    (kind : String) : Prop :=
  Uncaught room (namesToml file) bytes kind ∨
    (∃ v, schema files file room = .ok v) ∧ Uncaught room false data kind

/-- The words of a check lead to a schema and to an input that can be read, and ask for a way of
writing paths that there is. -/
structure CheckReady (around : Surroundings) (s : Settings) (p : ParsedWords) (file : FileName)
    (bytes : List UInt8) (source : String) (data : List UInt8) (options : PathOptions) : Prop where
  schema : ∃ word, p.others.head? = some word ∧ Program.schemaFile around.files word = .ok file
  readable : around.files.read file = .ok bytes
  input : Program.inputFile around (p.others[1]?.getD "-") = .ok (source, data)
  surplus : p.others.drop 2 = []
  options : Program.pathOptions s p = .ok options

/-- The words of an explanation lead to a schema that can be read, and ask for a way of writing paths
that there is. -/
structure ExplainReady (around : Surroundings) (s : Settings) (p : ParsedWords) (file : FileName)
    (bytes : List UInt8) (options : PathOptions) : Prop where
  schema : ∃ word, p.others.head? = some word ∧ Program.schemaFile around.files word = .ok file
  readable : around.files.read file = .ok bytes
  surplus : p.others.drop 1 = []
  options : Program.pathOptions s p = .ok options

/-- What a check makes of its documents. -/
def checked (around : Surroundings) (s : Settings) (file : FileName) (source : String)
    (options : PathOptions) (d : Value × Value) : Ending :=
  let (records, result) := Service.check Registry.default Program.noCallbacks options d.1 d.2
  Program.finish around s (Log.schemaLoaded file.text source :: records, result)

/-- What an explanation makes of its schema. -/
def explained (around : Surroundings) (s : Settings) (options : PathOptions) (v : Value) : Ending :=
  Program.finish around s (Service.explain Registry.default options v)

section Commands

variable {around : Surroundings} {s : Settings} {p : ParsedWords} {files : Files} {file : FileName}
  {source : String} {data : List UInt8} {options : PathOptions} {room : Room}

theorem check_eq (h : CheckReady around s p file bytes source data options) :
    Program.check around s p room = .ok (proceed s "check" (documents room around.files file source data)
      (checked around s file source options)) := by
  obtain ⟨word, hword, hfile⟩ := h.schema
  have hsurplus : Program.noSurplus (p.others.drop 2) = .ok () := by rw [h.surplus]; rfl
  rw [Program.check, hword]
  simp only [Option.elim, bind, Except.bind, hfile, h.input, hsurplus, h.options]
  unfold documents
  cases schema around.files file room with
  | error e => rfl
  | ok v =>
    simp only [bind, Except.bind]
    cases text data with
    | error e => rfl
    | ok cs => cases hinput : input source cs room <;> simp only [hinput] <;> rfl

theorem explain_eq (h : ExplainReady around s p file bytes options) :
    Program.explain around s p room = .ok (proceed s "explain" (schema around.files file room)
      (explained around s options)) := by
  obtain ⟨word, hword, hfile⟩ := h.schema
  have hsurplus : Program.noSurplus (p.others.drop 1) = .ok () := by rw [h.surplus]; rfl
  rw [Program.explain, hword]
  simp only [Option.elim, bind, Except.bind, hfile, hsurplus, h.options]
  cases schema around.files file room <;> rfl

theorem documents_escapes_iff (h : files.read file = .ok bytes) :
    Escapes (documents room files file source data) kind ↔
      DocumentsUncaught room files file bytes data kind := by
  have hdata : Escapes (text data >>= fun cs => input source cs room) kind ↔
        Uncaught room false data kind :=
    escapes_of_bytes_iff fun _ => Json.escapes_iff source
  have hschema : Escapes (schema files file room) kind ↔ _ := schema_escapes_iff h
  rw [DocumentsUncaught, ← hschema, ← hdata]
  unfold documents
  cases schema files file room with
  | error e =>
    constructor
    · rintro ⟨_, ⟨⟩, h⟩
      exact .inl ⟨e, rfl, h⟩
    · rintro (⟨_, ⟨⟩, h⟩ | ⟨⟨v, ⟨⟩⟩, -⟩)
      exact ⟨e, rfl, h⟩
  | ok v =>
    have hsecond : (do
        let v ← (.ok v : Except LoadError Value)
        let w ← text data >>= fun cs => input source cs room
        pure (v, w)) = (text data >>= fun cs => input source cs room).map (v, ·) := by
      cases text data >>= fun cs => input source cs room <;> rfl
    rw [hsecond, escapes_map_iff]
    constructor
    · exact fun hescapes => .inr ⟨⟨v, rfl⟩, hescapes⟩
    · rintro (⟨_, ⟨⟩, -⟩ | ⟨-, hescapes⟩)
      exact hescapes

theorem documents_failsOnly (h : files.read file = .ok bytes) :
    FailsOnly (documents room files file source data) (DocumentsUncaught room files file bytes data) :=
  failsOnly_of_escapes fun _ => documents_escapes_iff h

end Commands

/-- Loading gives a document or a load error except for what is uncaught, for a schema of either kind
and for an input, whatever room there is. A command whose documents can be read tells of every load
error and goes on with what is loaded; it ends by a failure to load that is no load error exactly if
that is uncaught. -/
theorem loading_fails_iff (around : Surroundings) (s : Settings) (p : ParsedWords) (room : Room) :
    (∀ name bytes, around.files.read name = .ok bytes →
      FailsOnly (schema around.files name room) (Uncaught room (namesToml name) bytes)) ∧
    (∀ source cs, FailsOnly (input source cs room) (Json.Exceeds room.json cs)) ∧
    (∀ file bytes source data options, CheckReady around s p file bytes source data options →
      ∃ ending, Program.check around s p room = .ok ending ∧
        CommandEnd s "check" (documents room around.files file source data)
          (checked around s file source options)
          (DocumentsUncaught room around.files file bytes data) ending) ∧
    ∀ file bytes options, ExplainReady around s p file bytes options →
      ∃ ending, Program.explain around s p room = .ok ending ∧
        CommandEnd s "explain" (schema around.files file room) (explained around s options)
          (Uncaught room (namesToml file) bytes) ending := by
  refine ⟨?_, ?_, ?_, ?_⟩
  · intro name bytes hread
    exact schema_failsOnly hread
  · intro source cs
    exact failsOnly_of_escapes fun kind => Json.escapes_iff source
  · intro file bytes source data options hready
    exact ⟨_, check_eq hready, proceed_end (documents_failsOnly hready.readable)⟩
  · intro file bytes options hready
    exact ⟨_, explain_eq hready, proceed_end (schema_failsOnly hready.readable)⟩

section Ones

variable {n : Nat} (h : Literal.maxIntegerDigits < n)

include h

theorem json_overlong_ones : Json.Overlong n (List.replicate n '1') := by
  have hdigits : ∀ d ∈ List.replicate n '1', Text.isAsciiDigit d = true := by
    intro d hd
    rw [List.eq_of_mem_replicate hd]
    rfl
  have hfirst : (List.replicate n '1').head? ≠ some '0' := by
    rw [List.head?_replicate]
    split <;> decide
  exact ⟨[], _, [], by simp, (List.append_nil _).symm, ⟨hdigits, hfirst, nofun⟩, ⟨nofun, nofun⟩,
    List.length_replicate, h⟩

theorem toml_overlong_ones : Toml.Overlong n (List.replicate n '1') := by
  have hspaced : ∀ k, Toml.Spaced (List.replicate k '1') (List.replicate k '1') := by
    intro k
    induction k with
    | zero => exact .nil
    | succ k ih => exact .digit rfl ih
  have hfirst : (List.replicate n '1').head? = some '1' := by
    rw [List.head?_replicate, if_neg (Nat.ne_zero_of_lt h)]
  exact ⟨[], _, _, [], by simp, (List.append_nil _).symm,
    ⟨hspaced n, ⟨'1', hfirst, rfl, by decide⟩, nofun, nofun⟩, ⟨nofun, nofun⟩,
    List.length_replicate, h⟩

end Ones

/-- A byte that starts no character and an integer of too many digits in schemas, such an integer in an
input, an array where there is no room for one, and a check and an explanation that crash. -/
theorem loading_fails_iff_bytes :
    let ones := List.replicate 4301 '1'
    let long := ('a' :: '=' :: ones).flatMap String.utf8EncodeChar
    let files : Files := ⟨.directory [("a.json", .file [0x7b, 0x7d]), ("b.json", .file [0xff]),
      ("c.toml", .file long)], []⟩
    let around : Surroundings := ⟨"argshape", files, [], [0xff], ""⟩
    let s : Settings := ⟨none, false, false, false, false, .default⟩
    ¬ Settles (schema files ⟨false, ["b.json"]⟩) ∧
      Escapes (schema files ⟨false, ["c.toml"]⟩) "ValueError" ∧
      Escapes (input "<stdin>" ones) "ValueError" ∧
      Escapes (input "<stdin>" ['['] ⟨0, 0⟩) "RecursionError" ∧
      Program.check around s ⟨[], ["a.json"]⟩ = .ok (.crash "UnicodeDecodeError") ∧
      Program.explain around s ⟨[], ["b.json"]⟩ = .ok (.crash "UnicodeDecodeError") := by
  intro ones long files around s
  obtain ⟨hschema, hinput, hcheck, -⟩ := loading_fails_iff around s ⟨[], ["a.json"]⟩ {}
  obtain ⟨-, hinput₀, -, -⟩ := loading_fails_iff around s ⟨[], []⟩ ⟨0, 0⟩
  obtain ⟨-, -, -, hexplain⟩ := loading_fails_iff around s ⟨[], ["b.json"]⟩ {}
  have hbytes : ∀ cs : List Char, ([0xff] : List UInt8) ≠ cs.flatMap String.utf8EncodeChar := by
    intro cs heq
    cases Utf8.decode_eq_ok_iff.mpr heq
  have hkind : ∀ {room toml kind}, Uncaught room toml [0xff] kind → kind = "UnicodeDecodeError" := by
    intro room toml kind h
    cases h with
    | encoding => rfl
    | size heq => exact absurd heq (hbytes _)
  have hread : files.read ⟨false, ["b.json"]⟩ = .ok [0xff] := rfl
  refine ⟨fun h => (hschema _ _ hread).settles.mp h _ (.encoding hbytes), ?_, ?_, ?_, ?_, ?_⟩
  · have hasked : Toml.Asked Toml.usualRoom ('a' :: '=' :: ones) .value Toml.usualRoom ones :=
      @Toml.Asked.entry _ _ _ _ ones ["a"] .start rfl
    have hbreak : '\r' ∉ 'a' :: '=' :: ones := by
      refine List.not_mem_cons_of_ne_of_not_mem (by decide)
        (List.not_mem_cons_of_ne_of_not_mem (by decide) fun hmem => ?_)
      cases List.eq_of_mem_replicate hmem
    have hexceeds : Exceeds {} true (unifyBreaks ('a' :: '=' :: ones)) "ValueError" := by
      rw [unifyBreaks_eq_self hbreak]
      exact .digits hasked (by decide) (toml_overlong_ones (by decide))
    exact ((hschema _ long rfl).escapes _).mpr (.size rfl hexceeds)
  · have hasked : Json.Asked Json.usualRoom ones .value Json.usualRoom ones :=
      .start (by simp [ones])
    exact ((hinput _ _).escapes _).mpr (.digits hasked (json_overlong_ones (by decide)))
  · have hasked : Json.Asked 0 ['['] .value 0 ['['] := .start (by decide)
    exact ((hinput₀ _ _).escapes _).mpr (.deep hasked (.inl rfl))
  · have hready : CheckReady around s ⟨[], ["a.json"]⟩ ⟨false, ["a.json"]⟩ [0x7b, 0x7d] "<stdin>"
        [0xff] .default := ⟨⟨"a.json", rfl, by cbv⟩, rfl, rfl, rfl, by cbv⟩
    have huncaught : DocumentsUncaught {} files ⟨false, ["a.json"]⟩ [0x7b, 0x7d] [0xff]
        "UnicodeDecodeError" := .inr ⟨⟨.dict false [], rfl⟩, .encoding hbytes⟩
    obtain ⟨ending, heq, hend⟩ := hcheck _ _ _ _ _ hready
    rw [heq]
    cases hend with
    | @crash kind h =>
      rcases h with h | ⟨-, h⟩
      · have hsettles : Settles (schema files ⟨false, ["a.json"]⟩) := .inl ⟨.dict false [], rfl⟩
        exact absurd h ((hschema ⟨false, ["a.json"]⟩ _ rfl).settles.mp hsettles _)
      · rw [hkind h]
    | told hnot => exact absurd huncaught (hnot _)
    | done hnot => exact absurd huncaught (hnot _)
  · have hready : ExplainReady around s ⟨[], ["b.json"]⟩ ⟨false, ["b.json"]⟩ [0xff] .default :=
      ⟨⟨"b.json", rfl, by cbv⟩, hread, rfl, by cbv⟩
    obtain ⟨ending, heq, hend⟩ := hexplain _ _ _ hready
    rw [heq]
    cases hend with
    | crash huncaught => rw [hkind huncaught]
    | told hnot => exact absurd (.encoding hbytes) (hnot _)
    | done hnot => exact absurd (.encoding hbytes) (hnot _)

end Load

end ArgumentSchema
