import ArgumentSchema.Regex.Syntax
import ArgumentSchema.Text.Blank
import ArgumentSchema.Text.Case
import ArgumentSchema.Text.Digit
import ArgumentSchema.Text.Word

/-!
# Characters that a regular expression admits

A rule says which characters count as equal, and with it whether one belongs to a class. Main
definitions: `CaseRule.same`, `CaseRule.admits`.
-/

namespace ArgumentSchema

/-- The code point by which a character compares. -/
def CaseRule.folded : CaseRule → Char → Nat
  | .exact, c => c.toNat
  | .ascii, c => (Text.asciiLowerChar c).toNat
  | .full, c => Text.comparedCase c

/-- The code points of the characters that equal a character. -/
def CaseRule.forms : CaseRule → Char → List Nat
  | .exact, c => [c.toNat]
  | .ascii, c =>
    if Text.isAsciiLetter c then [(Text.asciiLowerChar c).toNat, (Text.asciiLowerChar c).toNat - 32]
    else [c.toNat]
  | .full, c => Text.letterForms c

/-- Whether two characters are equal. -/
def CaseRule.same : CaseRule → Char → Char → Bool
  | .full, a, b => Text.sameLetter a b
  | rule, a, b => rule.folded a == rule.folded b

/-- Whether a character, given with all its forms, belongs to a part of a class. Beyond the basic
plane a single member is compared with the lower case alone, and a range with that and its upper
case. -/
def CharClass.holds (rule : CaseRule) (c : Char) (forms : List Nat) : CharClass → Bool
  | .one n => if n ≤ 0xffff then forms.contains n else rule.folded c == n
  | .range a b =>
    forms.any (fun n => a ≤ n && n ≤ b) ||
      (0xffff < b && rule != .exact &&
        ((Text.upper [Char.ofNat (rule.folded c)]).take 1).any fun u => a ≤ u.toNat && u.toNat ≤ b)
  | .digit ascii negated => (if ascii then Text.isAsciiDigit c else Text.isDigit c) != negated
  | .word ascii negated => (if ascii then Text.isAsciiWord c else Text.isWord c) != negated
  | .blank ascii negated => (if ascii then Text.isAsciiBlank c else Text.isBlank c) != negated

/-- Whether a character belongs to a bracketed class. A single character in brackets compares as it
does without them. -/
def CaseRule.admits (rule : CaseRule) (negated : Bool) (parts : List CharClass) (c : Char) :
    Bool :=
  let forms := rule.forms c
  let inside :=
    match parts.eraseDups with
    | [.one n] => forms.contains n
    | parts => parts.any (CharClass.holds rule c forms)
  inside != negated

end ArgumentSchema
