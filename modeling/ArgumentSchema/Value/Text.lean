import ArgumentSchema.Number.Notation
import ArgumentSchema.Text.Quoted
import ArgumentSchema.Value.Basic

/-!
# Values as text

`Value.shown` is how a value reads inside a message or a dump, where a text stands between quotes;
`Value.text` is the same but for values that have a plain reading of their own, as a text has. The
spellings of the constants and of the brackets are fixed here. An integer is written in full, however
long it is: the greatest length that an integer has where one is read (`Literal.maxIntegerDigits`)
bounds no writing here, so nothing is said of what becomes of an integer beyond it that is to be
written. Main definitions: `Value.shown`, `Value.text`.
-/

namespace ArgumentSchema.Value

/-- The options of a regular expression, in the order of their names. -/
def flagNames (f : RegexFlags) : List String :=
  (if f.ignoreCase then ["re.IGNORECASE"] else []) ++
  (if f.multiLine then ["re.MULTILINE"] else []) ++
  (if f.dotAll then ["re.DOTALL"] else []) ++
  (if f.verbose then ["re.VERBOSE"] else []) ++
  (if f.ascii then ["re.ASCII"] else [])

/-- A regular expression as a call that builds it; its text is cut after two hundred characters. -/
def regexShown (pattern : String) (flags : RegexFlags) : String :=
  let quoted := String.ofList ((Text.quoted pattern).toList.take 200)
  let names := flagNames flags
  "re.compile(" ++ quoted ++ (if names.isEmpty then "" else ", " ++ "|".intercalate names) ++ ")"

mutual

/-- A value as it reads inside a message. -/
def shown : Value → String
  | absent => "<ABSENT>"
  | wildcard => "<WILDCARD>"
  | null => "None"
  | bool b => if b then "True" else "False"
  | int i => toString i
  | float x => x.write .plain
  | str s => Text.quoted s
  | bytes false data => Text.quotedBytes data
  | bytes true data => "bytearray(" ++ Text.quotedBytes data ++ ")"
  | regex p f => regexShown p f
  | date d => d.constructor
  | moment m => m.constructor
  | clock c => c.constructor
  | list xs => "[" ++ ", ".intercalate (shownItems xs) ++ "]"
  | tuple [x] => "(" ++ shown x ++ ",)"
  | tuple xs => "(" ++ ", ".intercalate (shownItems xs) ++ ")"
  | dict false es => "\x7b" ++ ", ".intercalate (shownEntries es) ++ "\x7d"
  | dict true es =>
    if es.isEmpty then "OrderedDict()"
    else "OrderedDict([" ++ ", ".intercalate (shownPairs es) ++ "])"
  | set xs =>
    if xs.isEmpty then "set()" else "\x7b" ++ ", ".intercalate (shownItems xs) ++ "\x7d"
  | callback name _ => "<function " ++ name ++ ">"
  | classRef c => (if c.isBelow .enum then "<enum '" else "<class '") ++ c.qualifiedName ++ "'>"
  | object c => "<" ++ c.name ++ " object>"

/-- The elements of a list as they read inside a message. -/
def shownItems : List Value → List String
  | [] => []
  | x :: xs => shown x :: shownItems xs

/-- The entries of a mapping as they read inside a message. -/
def shownEntries : List (Value × Value) → List String
  | [] => []
  | (k, v) :: es => (shown k ++ ": " ++ shown v) :: shownEntries es

/-- The entries of an ordered mapping as they read inside a message. -/
def shownPairs : List (Value × Value) → List String
  | [] => []
  | (k, v) :: es => ("(" ++ shown k ++ ", " ++ shown v ++ ")") :: shownPairs es

end

/-- A value by itself: texts without quotes, dates in their ISO form, anything else as in a
message. -/
def text : Value → String
  | str s => s
  | absent => "Sentinel.ABSENT"
  | wildcard => "Sentinel.WILDCARD"
  | date d => d.iso
  | moment m => m.iso " "
  | clock c => c.iso
  | v => v.shown

end ArgumentSchema.Value
