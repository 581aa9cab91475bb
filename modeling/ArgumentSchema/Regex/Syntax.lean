/-!
# Regular expressions

The syntax tree of a regular expression. The options of the expression (case, lines, dot, alphabet)
are already spent on the nodes that depend on them, so a tree means the same wherever it stands.
Members of a class are given by code point, since a class may name code points that are no
characters.
-/

namespace ArgumentSchema

/-- Which characters count as equal: only the same ones, also the two cases of a letter of ASCII,
or also all cases of any letter. -/
inductive CaseRule where
  | exact
  | ascii
  | full
deriving DecidableEq, Repr

/-- A part of a bracketed class, or a class escape. Digits, word characters and blanks are those of
ASCII alone or those of every script. -/
inductive CharClass where
  | one (code : Nat)
  | range (first last : Nat)
  | digit (ascii negated : Bool)
  | word (ascii negated : Bool)
  | blank (ascii negated : Bool)
deriving DecidableEq, Repr

/-- A regular expression. -/
inductive Regex where
  | empty
  | char (rule : CaseRule) (c : Char)
  | any (newline : Bool)
  | oneOf (rule : CaseRule) (negated : Bool) (parts : List CharClass)
  | lineStart (everyLine : Bool)
  | lineEnd (everyLine : Bool)
  | textStart
  | textEnd
  | wordBoundary (ascii negated : Bool)
  | seq (a b : Regex)
  | alt (a b : Regex)
  | repeat (greedy : Bool) (min : Nat) (max : Option Nat) (r : Regex)
  | atomic (r : Regex)
  | group (index : Nat) (r : Regex)
  | reference (rule : CaseRule) (index : Nat)
  | ifGroup (index : Nat) (held absent : Regex)
  | look (ahead negated : Bool) (r : Regex)
deriving Repr

end ArgumentSchema
