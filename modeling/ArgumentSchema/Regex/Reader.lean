import ArgumentSchema.Regex.Escape
import ArgumentSchema.Text.Blank
import ArgumentSchema.Value.Basic

/-!
# Reading regular expressions

`Regex.read? pattern flags` reads the text of a regular expression. The reader goes down the
grammar: alternatives of sequences of atoms, where a repetition mark takes hold of the last item of
the sequence it stands in. Comments leave no item, and neither do the blanks of a verbose
expression, so a mark may stand behind either. Every call for a nested expression spends one unit
of a depth that starts at the length of the text, which no nesting can exceed. Main definitions:
`Regex.read?`, `Regex.flagsInForce`.
-/

namespace ArgumentSchema.Regex

/-- What the reader knows: the options in force, the number of groups opened so far and the names
of the named ones. -/
structure ReaderState where
  flags : RegexFlags
  groups : Nat
  names : List (String × Nat)

/-- The result of reading one piece: the expression, the state after it and the text after it. -/
abbrev Reading := Option (Regex × ReaderState × List Char)

/-- What reads a nested expression up to its end, given whether it may consist of alternatives. -/
abbrev NestedReader := Bool → ReaderState → List Char → Reading

/-! ## Options -/

/-- How characters compare under the options in force. -/
def caseRule (flags : RegexFlags) : CaseRule :=
  if !flags.ignoreCase then .exact else if flags.ascii then .ascii else .full

/-- The options with those that a row of letters turns on. -/
def withFlags (flags : RegexFlags) (cs : List Char) : RegexFlags where
  ignoreCase := flags.ignoreCase || cs.contains 'i'
  multiLine := flags.multiLine || cs.contains 'm'
  dotAll := flags.dotAll || cs.contains 's'
  verbose := flags.verbose || cs.contains 'x'
  ascii := (flags.ascii || cs.contains 'a') && !cs.contains 'u'

/-- The options without those that a row of letters turns off. -/
def withoutFlags (flags : RegexFlags) (cs : List Char) : RegexFlags where
  ignoreCase := flags.ignoreCase && !cs.contains 'i'
  multiLine := flags.multiLine && !cs.contains 'm'
  dotAll := flags.dotAll && !cs.contains 's'
  verbose := flags.verbose && !cs.contains 'x'
  ascii := flags.ascii

/-! ## Comments -/

/-- Where a reader that skips comments stands: between items, in a comment up to the end of the
line, or in a comment up to the closing parenthesis. -/
inductive Skipping where
  | between
  | line
  | bracket

/-- The text from its next item on. An escaped character ends no comment. -/
def skipComments (verbose : Bool) : Skipping → List Char → Option (List Char)
  | .between, '(' :: '?' :: '#' :: cs => skipComments verbose .bracket cs
  | .between, c :: cs =>
    if verbose && Text.isAsciiBlank c then skipComments verbose .between cs
    else if verbose && c == '#' then skipComments verbose .line cs
    else some (c :: cs)
  | .line, '\\' :: _ :: cs => skipComments verbose .line cs
  | .line, '\n' :: cs => skipComments verbose .between cs
  | .line, _ :: cs => skipComments verbose .line cs
  | .bracket, '\\' :: _ :: cs => skipComments verbose .bracket cs
  | .bracket, ')' :: cs => skipComments verbose .between cs
  | .bracket, _ :: cs => skipComments verbose .bracket cs
  | .bracket, [] => none
  | _, [] => some []

/-! ## Repetition -/

/-- A row of decimal digits, perhaps empty, as a number, with the text after it. -/
def takeNumber (cs : List Char) : Option Nat × List Char :=
  let ds := cs.takeWhile Text.isAsciiDigit
  (if ds.isEmpty then none else some (Text.digitsValue ds), cs.dropWhile Text.isAsciiDigit)

/-- The bounds of a repetition in braces, behind the opening brace. -/
def takeBounds (cs : List Char) : Option (Nat × Option Nat × List Char) :=
  match takeNumber cs with
  | (some n, '\x7d' :: rest) => some (n, some n, rest)
  | (least, ',' :: rest) =>
    match takeNumber rest with
    | (most, '\x7d' :: rest) => some (least.getD 0, most, rest)
    | _ => none
  | _ => none

/-- A repetition mark: least and greatest count. A brace that opens no bounds is no mark. -/
def takeMark : List Char → Option (Nat × Option Nat × List Char)
  | '*' :: cs => some (0, none, cs)
  | '+' :: cs => some (1, none, cs)
  | '?' :: cs => some (0, some 1, cs)
  | '\x7b' :: cs => takeBounds cs
  | _ => none

/-- Repeats an expression as the sign behind the repetition mark asks: as few rounds as possible
first, or no fewer than the first try, or as many as possible first. -/
def repeated (r : Regex) (min : Nat) (max : Option Nat) : List Char → Regex × List Char
  | '?' :: cs => (.repeat false min max r, cs)
  | '+' :: cs => (.atomic (.repeat true min max (.atomic r)), cs)
  | cs => (.repeat true min max r, cs)

/-- Puts a list of expressions in sequence. -/
def sequence : List Regex → Regex
  | [] => .empty
  | [r] => r
  | r :: rs => .seq r (sequence rs)

/-! ## Atoms -/

/-- The expression for a code point, which no character matches if it is none. -/
def literal (rule : CaseRule) (code : Nat) : Regex :=
  if code.isValidChar then .char rule (Char.ofNat code) else .oneOf .exact false []

/-- The group that a name or a number stands for. -/
def groupNamed (st : ReaderState) (cs : List Char) : Option Nat :=
  match st.names.lookup (String.ofList cs) with
  | some index => some index
  | none =>
    let ds := Text.trim cs
    let ds := if ds.head? = some '+' then ds.drop 1 else ds
    if ds ≠ [] ∧ ds.all Text.isDigit then some (Text.digitsValue ds) else none

/-- Reads what follows a backslash. -/
def readEscape (st : ReaderState) : List Char → Reading
  | 'A' :: cs => some (.textStart, st, cs)
  | 'Z' :: cs => some (.textEnd, st, cs)
  | 'b' :: cs => some (.wordBoundary st.flags.ascii false, st, cs)
  | 'B' :: cs => some (.wordBoundary st.flags.ascii true, st, cs)
  | cs =>
    match takeClass st.flags.ascii cs, takeCode false cs with
    | some (c, rest), _ => some (.oneOf .exact false [c], st, rest)
    | none, some (n, rest) => some (literal (caseRule st.flags) n, st, rest)
    | none, none =>
      let ds := (cs.take 2).takeWhile Text.isAsciiDigit
      if ds.isEmpty then none
      else some (.reference (caseRule st.flags) (Text.digitsValue ds), st, cs.drop ds.length)

/-- Reads a bracketed class behind its opening bracket. -/
def readBracket (st : ReaderState) : List Char → Reading
  | '^' :: cs => members true cs
  | cs => members false cs
where
  /-- Reads the members. -/
  members (negated : Bool) (cs : List Char) : Reading :=
    (takeMembers st.flags.ascii (cs.length + 1) true cs).map fun (ms, rest) =>
      (.oneOf (caseRule st.flags) negated ms, st, rest)

/-- Expects the closing parenthesis; the options go back to those outside. -/
def closed (outer : ReaderState) (wrap : Regex → Regex) : Reading → Reading
  | some (r, st, ')' :: rest) => some (wrap r, { st with flags := outer.flags }, rest)
  | _ => none

/-- Reads what stands in parentheses behind a question mark. -/
def readExtension (nested : NestedReader) (st : ReaderState) : List Char → Reading
  | ':' :: cs => closed st id (nested true st cs)
  | '>' :: cs => closed st .atomic (nested true st cs)
  | '=' :: cs => closed st (.look true false) (nested true st cs)
  | '!' :: cs => closed st (.look true true) (nested true st cs)
  | '<' :: '=' :: cs => closed st (.look false false) (nested true st cs)
  | '<' :: '!' :: cs => closed st (.look false true) (nested true st cs)
  | 'P' :: '=' :: cs =>
    match st.names.lookup (String.ofList (cs.takeWhile (· != ')'))), cs.dropWhile (· != ')') with
    | some n, _ :: rest => some (.reference (caseRule st.flags) n, st, rest)
    | _, _ => none
  | 'P' :: '<' :: cs =>
    let index := st.groups + 1
    let name := String.ofList (cs.takeWhile (· != '>'))
    let inner := { st with groups := index, names := (name, index) :: st.names }
    closed st (.group index) (nested true inner ((cs.dropWhile (· != '>')).drop 1))
  | '(' :: cs => do
    let index ← groupNamed st (cs.takeWhile (· != ')'))
    match ← nested false st ((cs.dropWhile (· != ')')).drop 1) with
    | (held, st', '|' :: rest) => closed st (.ifGroup index held) (nested false st' rest)
    | (held, st', rest) => closed st (fun r => .ifGroup index r .empty) (some (held, st', rest))
  | cs =>
    let on := withFlags st.flags (cs.takeWhile Text.isAsciiLetter)
    match cs.dropWhile Text.isAsciiLetter with
    | ')' :: rest => some (.empty, { st with flags := on }, rest)
    | ':' :: rest => closed st id (nested true { st with flags := on } rest)
    | '-' :: rest =>
      let off := withoutFlags on (rest.takeWhile Text.isAsciiLetter)
      match rest.dropWhile Text.isAsciiLetter with
      | ':' :: rest => closed st id (nested true { st with flags := off } rest)
      | _ => none
    | _ => none

/-- Reads one item of a sequence. -/
def readAtom (nested : NestedReader) (st : ReaderState) : List Char → Reading
  | '.' :: cs => some (.any st.flags.dotAll, st, cs)
  | '^' :: cs => some (.lineStart st.flags.multiLine, st, cs)
  | '$' :: cs => some (.lineEnd st.flags.multiLine, st, cs)
  | '[' :: cs => readBracket st cs
  | '\\' :: cs => readEscape st cs
  | '(' :: '?' :: cs => readExtension nested st cs
  | '(' :: cs =>
    let index := st.groups + 1
    closed st (.group index) (nested true { st with groups := index } cs)
  | c :: cs => some (.char (caseRule st.flags) c, st, cs)
  | [] => none

/-! ## Expressions -/

/-- Reads a sequence, or alternatives of them if there may be any, up to a closing parenthesis or
the end; `done` holds the items of the current sequence, reversed. -/
def readItems (nested : NestedReader) (alternatives : Bool) :
    Nat → ReaderState → List Regex → List Char → Reading
  | 0, _, _, _ => none
  | fuel + 1, st, done, cs => do
    let cs ← skipComments st.flags.verbose .between cs
    match cs with
    | [] => some (sequence done.reverse, st, [])
    | ')' :: _ => some (sequence done.reverse, st, cs)
    | '|' :: rest =>
      if alternatives then
        let (r, st, rest) ← readItems nested alternatives fuel st [] rest
        some (.alt (sequence done.reverse) r, st, rest)
      else some (sequence done.reverse, st, cs)
    | _ =>
      match takeMark cs, done with
      | some (min, max, rest), r :: done =>
        let (r, rest) := repeated r min max rest
        readItems nested alternatives fuel st (r :: done) rest
      | some _, [] => none
      | none, _ =>
        let (r, st, rest) ← readAtom nested st cs
        readItems nested alternatives fuel st (r :: done) rest

/-- Reads an expression whose nesting is at most the given depth. -/
def readNested : Nat → NestedReader
  | 0, _, _, _ => none
  | depth + 1, alternatives, st, cs =>
    readItems (readNested depth) alternatives (cs.length + 1) st [] cs

/-- Reads the whole text of a regular expression, with the options in force at its end. -/
def readWhole? (pattern : String) (flags : RegexFlags) : Option (Regex × RegexFlags) :=
  let cs := pattern.toList
  match readNested (cs.length + 1) true ⟨flags, 0, []⟩ cs with
  | some (r, st, []) => some (r, st.flags)
  | _ => none

/-- Reads the text of a regular expression, `none` if it is not one. -/
def read? (pattern : String) (flags : RegexFlags) : Option Regex :=
  (readWhole? pattern flags).map Prod.fst

/-- The options of a regular expression: those that come with its text, and those that the text
itself turns on for the whole of it. -/
def flagsInForce (pattern : String) (flags : RegexFlags) : RegexFlags :=
  ((readWhole? pattern flags).map Prod.snd).getD flags

end ArgumentSchema.Regex
