import ArgumentSchema.Document.Json
import ArgumentSchema.Document.Toml
import ArgumentSchema.Files
import ArgumentSchema.Text.Case
import ArgumentSchema.Text.Utf8

/-!
# Documents from files

Schemas are read from files, as TOML if the name says so and as JSON otherwise. A TOML document is
a mapping, so a schema of several fragments stands in it as the one array `fragments`. Inputs are
always JSON. Text is UTF-8, and every line break in it counts as a line feed. How deep a document may
be depends on what else is under way in the program, so loading is told the room that there is. Main
definitions: `LoadError`, `Load.Room`, `Load.schema`, `Load.input`.
-/

namespace ArgumentSchema

/-- Why a document is not loaded. -/
inductive LoadError where
  | unreadable (name : String) (fault : FileFault)
  | encoding (fault : Utf8.Fault)
  | json (source : String) (e : Json.Error)
  | toml (source : String) (e : Toml.Error)
deriving DecidableEq, Repr

namespace LoadError

/-- The message of a load error. Malformed documents are named; what exceeds a limit or cannot be
decoded is told by itself. -/
def message : LoadError → String
  | unreadable name fault => "Cannot read " ++ name ++ ": " ++ fault.message
  | encoding fault => fault.message
  | json source e =>
    match e with
    | .malformed _ _ _ _ => "Invalid JSON in " ++ source ++ ": " ++ e.message
    | _ => e.message
  | toml source e =>
    match e with
    | .malformed _ _ => "Invalid TOML in " ++ source ++ ": " ++ e.message
    | _ => e.message

/-- The name of the class of a load error. -/
def className : LoadError → String
  | unreadable _ _ | json _ (.malformed _ _ _ _) | toml _ (.malformed _ _) => "LoadError"
  | encoding _ => "UnicodeDecodeError"
  | json _ (.tooManyDigits _) | toml _ (.tooManyDigits _) => "ValueError"
  | json _ (.tooDeep _) | toml _ .tooDeep => "RecursionError"

/-- Whether the fault is one of the document: it cannot be read or is malformed. -/
def isDeclared (e : LoadError) : Bool := e.className == "LoadError"

/-- Whether the fault counts as a bad value. -/
def isValueError : LoadError → Bool
  | encoding _ | json _ (.tooManyDigits _) | toml _ (.tooManyDigits _) => true
  | _ => false

end LoadError

namespace Load

/-- The room that readers of both kinds of documents find for values inside of one another. Calls that
are under way take from it. -/
structure Room where
  json : Nat := Json.usualRoom
  toml : Nat := Toml.usualRoom
deriving DecidableEq, Repr

/-- Every line break becomes a line feed. -/
def unifyBreaks : List Char → List Char
  | '\r' :: '\n' :: rest => '\n' :: unifyBreaks rest
  | '\r' :: rest => '\n' :: unifyBreaks rest
  | c :: rest => c :: unifyBreaks rest
  | [] => []

/-- The text of bytes. -/
def text (bytes : List UInt8) : Except LoadError (List Char) :=
  match Utf8.decode bytes with
  | .ok cs => .ok (unifyBreaks cs)
  | .error f => .error (.encoding f)

/-- Reads an input document. -/
def input (source : String) (cs : List Char) (room : Room := {}) : Except LoadError Value :=
  (Json.read cs room.json).mapError (.json source)

/-- The schema in the entries of a TOML document. -/
def schemaOfEntries : Entries Value → Value
  | [(k, .list fragments)] =>
    if (Value.str "fragments").sameKey k then .list fragments
    else .dict false [(k, .list fragments)]
  | es => .dict false es

/-- Whether a file name says that the document is TOML. -/
def namesToml (name : FileName) : Bool := Text.asciiLower name.ending == ".toml".toList

/-- Reads a schema document. -/
def schema (files : Files) (name : FileName) (room : Room := {}) : Except LoadError Value := do
  let bytes ← (files.read name).mapError (.unreadable name.text)
  let cs ← text bytes
  if namesToml name then
    let es ← (Toml.read cs room.toml).mapError (.toml name.text)
    pure (schemaOfEntries es)
  else (Json.read cs room.json).mapError (.json name.text)

end Load

end ArgumentSchema
