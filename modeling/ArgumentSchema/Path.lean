import ArgumentSchema.Text.Split

/-!
# Paths

A schema names a field by a path: names between separators, where one name is the wildcard marker
and stands for every element of a list. `PathOptions` says how paths are written; the options that
a schema is compiled with are `PathOptions.Valid`. A `Place` is where a path leads in a document:
keys of mappings and positions in lists. Both are written back with the same options. Main
definitions: `PathOptions`, `Path.split?`, `Path.write`, `Place.write`.
-/

namespace ArgumentSchema

/-- How paths are written. -/
structure PathOptions where
  separator : String
  wildcard : String
deriving DecidableEq, Repr

namespace PathOptions

/-- A dot between segments, a dollar sign for every element. -/
def default : PathOptions := ⟨".", "$"⟩

/-- What can be wrong with a way of writing paths. -/
inductive Fault where
  | emptySeparator
  | emptyWildcard
  | separatorInWildcard
deriving DecidableEq, Repr

/-- The sentence for a fault. -/
def Fault.message : Fault → String
  | emptySeparator => "separator must not be empty"
  | emptyWildcard => "wildcard must not be empty"
  | separatorInWildcard => "wildcard must not contain the separator"

/-- The first fault of a way of writing paths. -/
def fault? (o : PathOptions) : Option Fault :=
  if o.separator.isEmpty then some .emptySeparator
  else if o.wildcard.isEmpty then some .emptyWildcard
  else if Text.occursIn o.separator.toList o.wildcard.toList then some .separatorInWildcard
  else none

/-- The options that schemas may use. -/
def Valid (o : PathOptions) : Prop := o.fault? = none

instance (o : PathOptions) : Decidable o.Valid := inferInstanceAs (Decidable (_ = _))

end PathOptions

/-- A segment of the path of a rule. -/
inductive Segment where
  | name (s : String)
  | wildcard
deriving DecidableEq, Repr

/-- One step into a document. -/
inductive Step where
  | key (name : String)
  | index (position : Nat)
deriving DecidableEq, Repr

/-- Where a document is entered, step by step from its root. -/
abbrev Place := List Step

/-- A piece of a written path: a segment or a number. -/
inductive PathPiece where
  | segment (s : Segment)
  | number (i : Int)
deriving DecidableEq, Repr

namespace Path

/-- How one piece is written. -/
def writePiece (o : PathOptions) : PathPiece → List Char
  | .segment (.name s) => s.toList
  | .segment .wildcard => o.wildcard.toList
  | .number i => (toString i).toList

/-- How a row of pieces is written. -/
def writePieces (o : PathOptions) (pieces : List PathPiece) : String :=
  String.ofList (Text.join o.separator.toList (pieces.map (writePiece o)))

/-- The path of a rule as the schema writes it. -/
def write (o : PathOptions) (path : List Segment) : String :=
  writePieces o (path.map .segment)

/-- Why a text is not a path. -/
inductive Fault where
  | emptySegment
  | leadingWildcard
deriving DecidableEq, Repr

/-- The sentence for a fault. -/
def Fault.message : Fault → String
  | emptySegment => "empty path segment"
  | leadingWildcard => "path cannot start with a wildcard"

/-- A written segment. -/
def readSegment (o : PathOptions) (cs : List Char) : Segment :=
  if cs = o.wildcard.toList then .wildcard else .name (String.ofList cs)

/-- Splits a written path into its segments. -/
def split? (o : PathOptions) (raw : String) : Except Fault (List Segment) :=
  let parts := Text.splitOn o.separator.toList raw.toList
  if parts.any (·.isEmpty) then .error .emptySegment
  else
    let segments := parts.map (readSegment o)
    if segments.head? = some .wildcard then .error .leadingWildcard else .ok segments

end Path

/-- A step as a piece of a written path. -/
def Step.piece : Step → PathPiece
  | key s => .segment (.name s)
  | index i => .number i

/-- A place as the schema would write it, with positions in place of wildcards. -/
def Place.write (o : PathOptions) (place : Place) : String :=
  Path.writePieces o (place.map Step.piece)

end ArgumentSchema
