import ArgumentSchema.Calendar
import ArgumentSchema.Class
import ArgumentSchema.Number.Binary64

/-!
# Values

`Value` is the type of everything a schema speaks about: arguments, defaults, patterns and whole
schemas. Values are immutable. A mapping lists its entries in order, and its keys are values, of
which no two are the same key (`Value.sameKey`, in the module beside this one). Two marker values
cannot be confused with data: `absent` for a value that is missing, and `wildcard` for the path
segment that stands for every element of a list. An instance of a declared class is known by its class
alone: it reads as its class says, counts as true, and is the same key as no other value.
-/

namespace ArgumentSchema

/-- The options of a regular expression: letters of either case are alike, lines have ends of their
own, the dot stands for line breaks too, blanks and comments in the text are skipped, and only the
letters and digits of ASCII count as such. -/
structure RegexFlags where
  ignoreCase : Bool := false
  multiLine : Bool := false
  dotAll : Bool := false
  verbose : Bool := false
  ascii : Bool := false
deriving DecidableEq, Repr

/-- A value. -/
inductive Value where
  | absent
  | wildcard
  | null
  | bool (b : Bool)
  | int (i : Int)
  | float (x : Binary64)
  | str (s : String)
  | bytes (mutable : Bool) (data : List UInt8)
  | regex (pattern : String) (flags : RegexFlags)
  | date (d : Date)
  | moment (m : Moment)
  | clock (c : Clock)
  | list (items : List Value)
  | tuple (items : List Value)
  | dict (ordered : Bool) (entries : List (Value × Value))
  | set (items : List Value)
  | callback (name : String) (args : List Value)
  | classRef (c : Class)
  | object (c : UserClass)
deriving Inhabited

namespace Value

/-- The class of a value. -/
def classOf : Value → Class
  | absent | wildcard => .builtin .sentinel
  | null => .builtin .noneType
  | bool _ => .builtin .bool
  | int _ => .builtin .int
  | float _ => .builtin .float
  | str _ => .builtin .str
  | bytes false _ => .builtin .bytes
  | bytes true _ => .builtin .bytearray
  | regex _ _ => .builtin .pattern
  | date _ => .builtin .date
  | moment _ => .builtin .datetime
  | clock _ => .builtin .time
  | list _ => .builtin .list
  | tuple _ => .builtin .tuple
  | dict false _ => .builtin .dict
  | dict true _ => .builtin .orderedDict
  | set _ => .builtin .set
  | callback _ _ => .builtin .function
  | classRef c => c.classOf
  | object c => .user c.declared

/-- The name of the class of a value. -/
def className (v : Value) : String := v.classOf.name

/-- Whether a value can be called: callbacks, classes, and the instances of some user classes. -/
def isCallable (v : Value) : Bool := v.classOf.isCallable

/-- The text that stands for a marker value where only texts are known. -/
def markerText? : Value → Option String
  | absent => some "absent"
  | wildcard => some "$"
  | _ => none

/-- Whether a value is the marker for a missing value. -/
def isAbsent : Value → Bool
  | absent => true
  | _ => false

/-- The entries of a mapping. -/
def entries? : Value → Option (List (Value × Value))
  | dict _ es => some es
  | _ => none

/-- The elements of a list or tuple. -/
def items? : Value → Option (List Value)
  | list xs => some xs
  | tuple xs => some xs
  | _ => none

/-- The truth of a value where a condition is asked for: zero, empty and null are false. -/
def truth : Value → Bool
  | null => false
  | bool b => b
  | int i => i != 0
  | float x => x.isNonzero
  | str s => !s.isEmpty
  | bytes _ data => !data.isEmpty
  | list xs => !xs.isEmpty
  | tuple xs => !xs.isEmpty
  | dict _ es => !es.isEmpty
  | set xs => !xs.isEmpty
  | _ => true

/-- A mapping with names for keys. -/
def record (fields : List (String × Value)) : Value :=
  dict false (fields.map fun f => (str f.1, f.2))

/-- A list of texts. -/
def texts (ss : List String) : Value := list (ss.map str)

end Value

end ArgumentSchema
