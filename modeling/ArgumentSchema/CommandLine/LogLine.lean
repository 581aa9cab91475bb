import ArgumentSchema.Log
import ArgumentSchema.Output.JsonText

/-!
# Log lines

A log record is written as one line: for people with its level, its message filled up to thirty
columns, who speaks, and its details, or as a JSON object with the details in front. The time is
given by the caller. Main definitions: `LogRecord.line`, `LogRecord.jsonLine`.
-/

namespace ArgumentSchema.LogRecord

/-- Whether a detail has to be quoted in a line for people. -/
def needsQuotes (s : String) : Bool :=
  s.toList.any fun c => c ∈ [' ', '\t', '=', '\r', '\n', '"', '\'']

/-- A detail in a line for people. -/
def detail (d : String × String) : String :=
  " " ++ d.1 ++ "=" ++ (if needsQuotes d.2 then Text.quoted d.2 else d.2)

/-- A message filled up to thirty columns. -/
def padded (s : String) : String := s ++ String.ofList (List.replicate (30 - s.length) ' ')

/-- A record for people. -/
def line (time : String) (r : LogRecord) : String :=
  time ++ " [debug    ] " ++ padded r.message ++ " [" ++ r.source.name ++ "]" ++
    String.join (r.details.map detail)

/-- A record as JSON. -/
def jsonLine (time : String) (r : LogRecord) : String :=
  let fields := r.details ++ [("event", r.message), ("level", "debug"),
    ("logger", r.source.name), ("timestamp", time)]
  (JsonTree.object (fields.map fun f => (f.1, .text f.2))).write ⟨true, false⟩

end ArgumentSchema.LogRecord
