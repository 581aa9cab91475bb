import ArgumentSchema.Text.Quoted
import ArgumentSchema.Text.Similar
import ArgumentSchema.Text.Split

/-!
# Options of commands

A command has options, each with its names; an option either stands for itself or takes a value.
Long names start with two hyphens, and a value may follow an equals sign; short names are single
characters behind one hyphen, several of which may stand together, and a value may follow at once.
Two hyphens alone end the options. Main definitions: `OptionSpec`, `UsageFault`, `OptionParser.run`.
-/

namespace ArgumentSchema

/-- An option of a command. -/
structure OptionSpec where
  /-- The name under which the option is asked for. -/
  key : String
  names : List String
  /-- What stands for the value in a help text, if the option takes one. -/
  metavar : Option String
  help : String

namespace OptionSpec

/-- Whether the option takes a value. -/
def takesValue (o : OptionSpec) : Bool := o.metavar.isSome

/-- Whether a name is a long one. -/
def isLongName (name : String) : Bool :=
  (Text.afterStart ['-', '-'] name.toList).isSome

end OptionSpec

/-- What can be wrong with the words of a command line. -/
inductive UsageFault where
  | noSuchOption (name : String) (close : List String)
  | missingValue (name : String)
  | unwantedValue (name : String)
  | noSuchCommand (name : String) (close : List String)
  | missingArgument (name : String)
  | noSuchFile (argument file : String)
  | directory (argument file : String)
  | unreadable (argument file reason : String)
  | surplus (words : List String)
  | badValue (reason : String)
deriving DecidableEq, Repr

namespace UsageFault

/-- The words that may have been meant. -/
def suggestion (close : List String) : String :=
  match close with
  | [] => ""
  | [name] => " Did you mean " ++ Text.quoted name ++ "?"
  | names => " (Did you mean one of: " ++ ", ".intercalate (names.map Text.quoted) ++ "?)"

/-- The sentence for a fault. -/
def message : UsageFault → String
  | noSuchOption name close => "No such option " ++ Text.quoted name ++ "." ++ suggestion close
  | missingValue name => "Option " ++ Text.quoted name ++ " requires an argument."
  | unwantedValue name => "Option " ++ Text.quoted name ++ " does not take a value."
  | noSuchCommand name close => "No such command " ++ Text.quoted name ++ "." ++ suggestion close
  | missingArgument name => "Missing argument '" ++ name ++ "'."
  | noSuchFile argument file =>
    "Invalid value for '" ++ argument ++ "': File " ++ Text.quoted file ++ " does not exist."
  | directory argument file =>
    "Invalid value for '" ++ argument ++ "': File " ++ Text.quoted file ++ " is a directory."
  | unreadable argument file reason =>
    "Invalid value for '" ++ argument ++ "': '" ++ file ++ "': " ++ reason
  | surplus words =>
    "Got unexpected extra argument" ++ (if words.length = 1 then "" else "s") ++ " (" ++
      " ".intercalate words ++ ")"
  | badValue reason => "Invalid value: " ++ reason

/-- Whether the usage of the command is shown in front of the sentence. -/
def showsUsage : UsageFault → Bool
  | missingValue _ | unwantedValue _ => false
  | _ => true

end UsageFault

/-- The options and other words of a command line, each in order. An option that takes no value has
the empty one. -/
structure ParsedWords where
  given : List (String × String)
  others : List String

namespace OptionParser

/-- The option with a name. -/
def find? (options : List OptionSpec) (name : String) : Option OptionSpec :=
  options.find? fun o => o.names.contains name

/-- All long names, in order. -/
def longNames (options : List OptionSpec) : List String :=
  (options.flatMap (·.names)).filter OptionSpec.isLongName

/-- Reads the letters of a word of short options. The second part of the answer tells whether the
following word was taken as a value. -/
def letters (options : List OptionSpec) (next : Option String) :
    List Char → Except UsageFault (List (String × String) × Bool)
  | [] => .ok ([], false)
  | c :: cs =>
    let name := String.ofList ['-', c]
    match find? options name with
    | none => .error (.noSuchOption name [])
    | some o =>
      if o.takesValue then
        match cs, next with
        | [], none => .error (.missingValue name)
        | [], some v => .ok ([(o.key, v)], true)
        | _, _ => .ok ([(o.key, String.ofList cs)], false)
      else do
        let (given, taken) ← letters options next cs
        pure ((o.key, "") :: given, taken)

/-- Reads a word that starts with a hyphen, given the word behind it. -/
def word (options : List OptionSpec) (w : String) (next : Option String) :
    Except UsageFault (List (String × String) × Bool) :=
  let (name, value) := Text.cutAt '=' w.toList
  let name := String.ofList name
  match if OptionSpec.isLongName name then find? options name else none with
  | some o =>
    match o.takesValue, value, next with
    | true, some v, _ => .ok ([(o.key, String.ofList v)], false)
    | true, none, some v => .ok ([(o.key, v)], true)
    | true, none, none => .error (.missingValue name)
    | false, some _, _ => .error (.unwantedValue name)
    | false, none, _ => .ok ([(o.key, "")], false)
  | none =>
    if OptionSpec.isLongName w then
      .error (.noSuchOption name (Text.closeWords name (longNames options)))
    else letters options next (w.toList.drop 1)

/-- Whether a word is read as options. -/
def isOptionWord (w : String) : Bool := w.toList.head? == some '-' && 1 < w.length

/-- Reads words. If options and other words do not mix, the first other word ends the options. -/
def run (options : List OptionSpec) (mixed : Bool) :
    List String → Except UsageFault ParsedWords
  | [] => .ok ⟨[], []⟩
  | "--" :: rest => .ok ⟨[], rest⟩
  | w :: rest =>
    if isOptionWord w then
      match word options w rest.head?, rest with
      | .error e, _ => .error e
      | .ok (given, true), _ :: rest =>
        (run options mixed rest).map fun p => ⟨given ++ p.given, p.others⟩
      | .ok (given, _), rest =>
        (run options mixed rest).map fun p => ⟨given ++ p.given, p.others⟩
    else if mixed then (run options mixed rest).map fun p => ⟨p.given, w :: p.others⟩
    else .ok ⟨[], w :: rest⟩
termination_by words => words.length

end OptionParser

end ArgumentSchema
