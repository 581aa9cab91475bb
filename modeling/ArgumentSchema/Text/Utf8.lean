import ArgumentSchema.Text.Hex

/-!
# Reading UTF-8

`Utf8.decode` reads a row of bytes as text. The first fault stops it and is told by its place, the
bytes it covers and its kind: a byte that starts no character, a sequence that is broken by a byte
that cannot follow, or a sequence that the end of the input cuts short. A sequence is judged by its
leading byte and the range that this byte allows for the second, so no character has two written
forms and no surrogate is read. Main definitions: `Utf8.Fault`, `Utf8.decode`.
-/

namespace ArgumentSchema.Utf8

/-- The kinds of faults. -/
inductive FaultKind where
  | invalidStart
  | invalidContinuation
  | unexpectedEnd
deriving DecidableEq, Repr

/-- A fault: its kind, where it starts, how many bytes it covers, and the first of them. -/
structure Fault where
  kind : FaultKind
  position : Nat
  length : Nat
  byte : Nat
deriving DecidableEq, Repr

/-- The phrase for a kind of fault. -/
def FaultKind.message : FaultKind → String
  | invalidStart => "invalid start byte"
  | invalidContinuation => "invalid continuation byte"
  | unexpectedEnd => "unexpected end of data"

/-- The message for a fault; one byte is shown by its value, several by their range. -/
def Fault.message (f : Fault) : String :=
  let place :=
    if f.length = 1 then
      "byte 0x" ++ String.ofList (Text.hexPadded 2 f.byte) ++ " in position " ++
        toString f.position
    else
      "bytes in position " ++ toString f.position ++ "-" ++ toString (f.position + f.length - 1)
  "'utf-8' codec can't decode " ++ place ++ ": " ++ f.kind.message

/-- A byte that continues a sequence. -/
def isContinuation (b : Nat) : Bool := 0x80 ≤ b && b ≤ 0xBF

/-- Whether a byte may be second after a leading byte. -/
def isSecond (lead b : Nat) : Bool :=
  isContinuation b &&
    (if lead = 0xE0 then 0xA0 ≤ b
     else if lead = 0xED then b < 0xA0
     else if lead = 0xF0 then 0x90 ≤ b
     else if lead = 0xF4 then b < 0x90
     else true)

/-- The number of bytes of the sequence that a leading byte opens, zero if it opens none. -/
def sequenceLength (lead : Nat) : Nat :=
  if lead < 0x80 then 1
  else if lead < 0xC2 then 0
  else if lead < 0xE0 then 2
  else if lead < 0xF0 then 3
  else if lead < 0xF5 then 4
  else 0

/-- How many bytes after the leading one fit, of those that are expected and there. -/
def fitting (lead expected : Nat) (rest : List Nat) : Nat :=
  match rest.take expected with
  | [] => 0
  | second :: more => if isSecond lead second then 1 + (more.takeWhile isContinuation).length else 0

/-- The character of a complete sequence. -/
def assemble (lead : Nat) (following : List Nat) : Char :=
  let first :=
    match following.length with
    | 0 => lead
    | 1 => lead % 0x20
    | 2 => lead % 0x10
    | _ => lead % 0x08
  Char.ofNat (following.foldl (fun n b => 64 * n + b % 64) first)

/-- Reads bytes as characters from a position on. -/
def decodeFrom : Nat → Nat → List Nat → Except Fault (List Char)
  | 0, _, _ => .ok []
  | _, _, [] => .ok []
  | fuel + 1, position, lead :: rest =>
    let length := sequenceLength lead
    if length = 0 then .error ⟨.invalidStart, position, 1, lead⟩
    else
      let expected := length - 1
      let fit := fitting lead expected rest
      if fit = expected then
        (decodeFrom fuel (position + length) (rest.drop expected)).map
          (assemble lead (rest.take expected) :: ·)
      else if fit = rest.length then .error ⟨.unexpectedEnd, position, fit + 1, lead⟩
      else .error ⟨.invalidContinuation, position, fit + 1, lead⟩

/-- Reads bytes as text. -/
def decode (bytes : List UInt8) : Except Fault (List Char) :=
  decodeFrom bytes.length 0 (bytes.map UInt8.toNat)

end ArgumentSchema.Utf8
