import ArgumentSchema.Path
import ArgumentSchema.Text.Case
import ArgumentSchema.Text.Utf8
import ArgumentSchema.Value.Key
import ArgumentSchema.Value.Text

/-!
# Settings read leniently

Settings come from files, environments and callers that write the same thing in different ways. A
text may be given as text, as its UTF-8 bytes or as a marker value, a flag as a truth value, one of
the usual words in any case, or the numbers zero and one. The keys of a table are texts in the same
sense. What is refused is told by its cause and its place, and all that is wrong is told at once.
Main definitions: `SettingFault`, `Setting.text`, `Setting.flag`, `Setting.table`,
`PathOptions.ofEntries`.
-/

namespace ArgumentSchema

/-- What is wrong with a setting. -/
inductive SettingFault where
  | textKind
  | textEncoding
  | flagKind
  | flagWord
  | listKind
  | tableKind
  /-- Neither a table nor a record of the type of that name. -/
  | recordKind (name : String)
  | missing
  | unknownSetting
  | paths (f : PathOptions.Fault)
deriving DecidableEq, Repr

namespace SettingFault

/-- The identifier of a fault. -/
def code : SettingFault → String
  | textKind => "string_type"
  | textEncoding => "string_unicode"
  | flagKind => "bool_type"
  | flagWord => "bool_parsing"
  | listKind => "list_type"
  | tableKind => "dict_type"
  | recordKind _ => "model_type"
  | missing => "missing"
  | unknownSetting => "extra_forbidden"
  | paths _ => "value_error"

/-- The sentence for a fault. -/
def message : SettingFault → String
  | textKind => "Input should be a valid string"
  | textEncoding =>
    "Input should be a valid string, unable to parse raw data as a unicode string"
  | flagKind => "Input should be a valid boolean"
  | flagWord => "Input should be a valid boolean, unable to interpret input"
  | listKind => "Input should be a valid list"
  | tableKind => "Input should be a valid dictionary"
  | recordKind name => "Input should be a valid dictionary or instance of " ++ name
  | missing => "Field required"
  | unknownSetting => "Extra inputs are not permitted"
  | paths f => "Value error, " ++ f.message

end SettingFault

/-- A fault and the names that lead to the setting that has it. -/
structure SettingError where
  location : List String
  fault : SettingFault
deriving DecidableEq, Repr

/-- A faulty setting inside a table of settings. -/
def SettingError.inside (name : String) (e : SettingError) : SettingError :=
  { e with location := name :: e.location }

/-- A result, or every fault that was found on the way to it. -/
abbrev Settled (α : Type) := Except (List SettingError) α

namespace Setting

/-- A text. -/
def text : Value → Except SettingFault String
  | .str s => .ok s
  | .bytes _ data =>
    match Utf8.decode data with
    | .ok cs => .ok (String.ofList cs)
    | .error _ => .error .textEncoding
  | v => match v.markerText? with
    | some s => .ok s
    | none => .error .textKind

/-- The words for on. -/
def onWords : List String := ["1", "on", "t", "true", "y", "yes"]

/-- The words for off. -/
def offWords : List String := ["0", "off", "f", "false", "n", "no"]

/-- A flag in words. -/
def flagOfWord (cs : List Char) : Except SettingFault Bool :=
  let word := String.ofList (Text.asciiLower cs)
  if word ∈ onWords then .ok true else if word ∈ offWords then .ok false else .error .flagWord

/-- The least number that no signed word of 64 bits holds. -/
def wordBound : Int := Int.pow 2 63

/-- A flag as a number. A number that no word holds is of the wrong kind. -/
def flagOfInt (i : Int) : Except SettingFault Bool :=
  if i = 1 then .ok true
  else if i = 0 then .ok false
  else if -wordBound ≤ i ∧ i < wordBound then .error .flagWord
  else .error .flagKind

/-- A flag as a whole number with a point, strictly between the bounds of a word. -/
def flagOfFloat (x : Binary64) : Except SettingFault Bool :=
  match x.toRatio? with
  | some (num, den) =>
    if num % den = 0 ∧ -wordBound < num / den then flagOfInt (num / den) else .error .flagKind
  | none => .error .flagKind

/-- A flag. -/
def flag : Value → Except SettingFault Bool
  | .bool b => .ok b
  | .int i => flagOfInt i
  | .float x => flagOfFloat x
  | .str s => flagOfWord s.toList
  | .bytes _ data =>
    match Utf8.decode data with
    | .ok cs => flagOfWord cs
    | .error _ => .error .flagWord
  | _ => .error .flagKind

/-- A reading that finds one fault at most. -/
def single {α : Type} (read : Value → Except SettingFault α) (v : Value) : Settled α :=
  (read v).mapError fun f => [⟨[], f⟩]

/-- Two results together, with the faults of both. -/
def both {α β : Type} : Settled α → Settled β → Settled (α × β)
  | .ok a, .ok b => .ok (a, b)
  | .ok _, .error es => .error es
  | .error es, .ok _ => .error es
  | .error es, .error fs => .error (es ++ fs)

/-- Several results together, with the faults of all. -/
def all {α : Type} : List (Settled α) → Settled (List α)
  | [] => .ok []
  | x :: xs => (both x (all xs)).map fun p => p.1 :: p.2

/-- A result that is found under a name. -/
def inside {α : Type} (name : String) (x : Settled α) : Settled α :=
  x.mapError (·.map (SettingError.inside name))

/-- An entry of a table that has to be there. -/
def required {α : Type} (read : Value → Settled α) (name : String) (es : Entries Value) :
    Settled α :=
  match Value.field? name es with
  | none => .error [⟨[name], .missing⟩]
  | some v => inside name (read v)

/-- An entry of a table, or what it is when the table does not have it. -/
def optional {α : Type} (read : Value → Settled α) (otherwise : α) (name : String)
    (es : Entries Value) : Settled α :=
  match Value.field? name es with
  | none => .ok otherwise
  | some v => inside name (read v)

/-- The name of the place of a key in a table. -/
def keyName : Value → String
  | .str s => s
  | .bool b => if b then "1" else "0"
  | v => v.shown

/-- An entry of a table whose keys are texts; what is wrong with the key is told apart from what is
wrong with the contents. -/
def tableEntry (e : Value × Value) : Settled (Value × Value) :=
  inside (keyName e.1) (inside "[key]" (single text e.1)) |>.map fun k => (.str k, e.2)

/-- A table whose keys are texts. Keys that read alike are one key. -/
def table : Value → Settled (List (String × Value))
  | .dict _ es => (all (es.map tableEntry)).map fun es =>
    (Entries.ofPairs es).map fun e => (e.1.text, e.2)
  | _ => .error [⟨[], .tableKind⟩]

/-- A list of texts. -/
def texts (v : Value) : Settled (List String) :=
  match v with
  | .list xs | .tuple xs | .set xs =>
    all (xs.zipIdx.map fun x => inside (toString x.2) (single text x.1))
  | _ => .error [⟨[], .listKind⟩]

end Setting

/-- The way of writing paths that a table of settings asks for; other entries are ignored. The two
markers are judged together only when both can be read. -/
def PathOptions.ofEntries (es : Entries Value) : Settled PathOptions := do
  let (separator, wildcard) ← Setting.both
    (Setting.optional (Setting.single Setting.text) PathOptions.default.separator "separator" es)
    (Setting.optional (Setting.single Setting.text) PathOptions.default.wildcard "wildcard" es)
  let options : PathOptions := ⟨separator, wildcard⟩
  match options.fault? with
  | some f => .error [⟨[], .paths f⟩]
  | none => .ok options

end ArgumentSchema
