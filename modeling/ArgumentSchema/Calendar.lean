import ArgumentSchema.Text.Digit

/-!
# Dates and times of day

A `Date` is a day of the proleptic Gregorian calendar with a year from 1 to 9999, a `Clock` a time
of day to the microsecond with an optional offset from universal time, and a `Moment` the two
together. Each has its ISO 8601 form (`iso`), its written form in dumps of values (`constructor`)
and a reader of the ISO form (`ofIso?`).
-/

namespace ArgumentSchema

/-- A day of the calendar. -/
structure Date where
  year : Nat
  month : Nat
  day : Nat
deriving DecidableEq, Repr

/-- A time of day, with the seconds that local time is ahead of universal time if known. -/
structure Clock where
  hour : Nat
  minute : Nat
  second : Nat
  microsecond : Nat
  offset : Option Int
deriving DecidableEq, Repr

/-- A day and a time of day. -/
structure Moment where
  date : Date
  clock : Clock
deriving DecidableEq, Repr

/-- A number with leading zeros up to a width. -/
def zeroPadded (width n : Nat) : String :=
  let ds := Nat.toDigits 10 n
  String.ofList (List.replicate (width - ds.length) '0' ++ ds)

/-- A year is leap when divisible by four and not by a hundred, or by four hundred. -/
def isLeapYear (year : Nat) : Bool := year % 4 == 0 && (year % 100 != 0 || year % 400 == 0)

/-- The number of days of a month. -/
def daysInMonth (year month : Nat) : Nat :=
  if month = 2 then if isLeapYear year then 29 else 28
  else if month ∈ [4, 6, 9, 11] then 30
  else 31

/-- The date with the given fields, if there is one. -/
def Date.make? (year month day : Nat) : Option Date :=
  if 1 ≤ year ∧ year ≤ 9999 ∧ 1 ≤ month ∧ month ≤ 12 ∧ 1 ≤ day ∧ day ≤ daysInMonth year month then
    some ⟨year, month, day⟩
  else none

/-- The day that is the given number of days after the first of January 1970. Years are counted from
the first of March, so a leap day ends its year, and in eras of four hundred years, which all have
the same number of days. -/
def Date.ofDays (days : Nat) : Date :=
  let shifted := days + 719468
  let inEra := shifted % 146097
  let yearOfEra := (inEra - inEra / 1460 + inEra / 36524 - inEra / 146096) / 365
  let inYear := inEra - (365 * yearOfEra + yearOfEra / 4 - yearOfEra / 100)
  let fromMarch := (5 * inYear + 2) / 153
  let month := if fromMarch < 10 then fromMarch + 3 else fromMarch - 9
  let year := yearOfEra + shifted / 146097 * 400 + (if month ≤ 2 then 1 else 0)
  ⟨year, month, inYear - (153 * fromMarch + 2) / 5 + 1⟩

/-- The time of day with the given fields, if there is one. -/
def Clock.make? (hour minute second microsecond : Nat) (offset : Option Int) : Option Clock :=
  if hour < 24 ∧ minute < 60 ∧ second < 60 then some ⟨hour, minute, second, microsecond, offset⟩
  else none

/-- The moment that is the given number of microseconds after the start of 1970, in universal time
that is not written as such. -/
def Moment.ofMicroseconds (n : Nat) : Moment :=
  let seconds := n / 1000000
  let ofDay := seconds % 86400
  ⟨.ofDays (seconds / 86400),
    ⟨ofDay / 3600, ofDay / 60 % 60, ofDay % 60, n % 1000000, none⟩⟩

/-- Year, month and day with hyphens. -/
def Date.iso (d : Date) : String :=
  zeroPadded 4 d.year ++ "-" ++ zeroPadded 2 d.month ++ "-" ++ zeroPadded 2 d.day

/-- An offset as sign, hours and minutes, and seconds if there are any. -/
def offsetIso (seconds : Int) : String :=
  let n := seconds.natAbs
  let sign := if seconds < 0 then "-" else "+"
  let base := sign ++ zeroPadded 2 (n / 3600) ++ ":" ++ zeroPadded 2 (n / 60 % 60)
  if n % 60 = 0 then base else base ++ ":" ++ zeroPadded 2 (n % 60)

/-- The time without its offset; the microseconds only if there are any. -/
def Clock.isoLocal (c : Clock) : String :=
  let base := zeroPadded 2 c.hour ++ ":" ++ zeroPadded 2 c.minute ++ ":" ++ zeroPadded 2 c.second
  if c.microsecond = 0 then base else base ++ "." ++ zeroPadded 6 c.microsecond

/-- The time with its offset, written as a number. -/
def Clock.iso (c : Clock) : String :=
  match c.offset with
  | none => c.isoLocal
  | some s => c.isoLocal ++ offsetIso s

/-- An offset as sign, hours and whole minutes; universal time itself is marked by a letter. -/
def offsetMarked (seconds : Int) : String :=
  let n := seconds.natAbs
  let sign := if seconds < 0 then "-" else "+"
  if seconds = 0 then "Z"
  else sign ++ zeroPadded 2 (n / 3600) ++ ":" ++ zeroPadded 2 (n / 60 % 60)

/-- The time with its offset to the minute, where universal time is marked by a letter. -/
def Clock.isoMarked (c : Clock) : String :=
  match c.offset with
  | none => c.isoLocal
  | some s => c.isoLocal ++ offsetMarked s

/-- Date and time joined by a separator. -/
def Moment.iso (m : Moment) (separator : String) : String :=
  m.date.iso ++ separator ++ m.clock.iso

/-- A length of time given in seconds, as a call that builds it from days and seconds. -/
def durationCall (seconds : Int) : String :=
  let days := seconds / 86400
  let rest := seconds % 86400
  let parts := (if days = 0 then [] else ["days=" ++ toString days]) ++
    (if rest = 0 then [] else ["seconds=" ++ toString rest])
  "datetime.timedelta(" ++ (if parts.isEmpty then "0" else ", ".intercalate parts) ++ ")"

/-- The fields of a time of day in a call, the seconds only when they or the microseconds are not
zero, and the offset as a named field. -/
def Clock.fields (c : Clock) : List String :=
  let base := [toString c.hour, toString c.minute]
  let fine :=
    if c.microsecond ≠ 0 then [toString c.second, toString c.microsecond]
    else if c.second ≠ 0 then [toString c.second]
    else []
  let zone := match c.offset with
    | none => []
    | some 0 => ["tzinfo=datetime.timezone.utc"]
    | some s => ["tzinfo=datetime.timezone(" ++ durationCall s ++ ")"]
  base ++ fine ++ zone

/-- The fields of a date in a call. -/
def Date.fields (d : Date) : List String := [toString d.year, toString d.month, toString d.day]

/-- A date as a call that builds it. -/
def Date.constructor (d : Date) : String := "datetime.date(" ++ ", ".intercalate d.fields ++ ")"

/-- A time of day as a call that builds it. -/
def Clock.constructor (c : Clock) : String := "datetime.time(" ++ ", ".intercalate c.fields ++ ")"

/-- A moment as a call that builds it. -/
def Moment.constructor (m : Moment) : String :=
  "datetime.datetime(" ++ ", ".intercalate (m.date.fields ++ m.clock.fields) ++ ")"

/-- Reads exactly `count` digits. -/
def takeDigits? (count : Nat) (cs : List Char) : Option (Nat × List Char) :=
  let ds := cs.take count
  if ds.length = count ∧ ds.all Text.isAsciiDigit then some (Text.digitsValue ds, cs.drop count)
  else none

/-- Reads one given character. -/
def takeChar? (c : Char) : List Char → Option (List Char)
  | x :: cs => if x = c then some cs else none
  | [] => none

/-- Reads year, month and day with hyphens. -/
def takeDate? (cs : List Char) : Option (Date × List Char) := do
  let (year, cs) ← takeDigits? 4 cs
  let cs ← takeChar? '-' cs
  let (month, cs) ← takeDigits? 2 cs
  let cs ← takeChar? '-' cs
  let (day, cs) ← takeDigits? 2 cs
  let date ← Date.make? year month day
  pure (date, cs)

/-- Reads a fraction of a second to the microsecond; further digits are dropped. -/
def takeFraction (cs : List Char) : Nat × List Char :=
  match cs with
  | '.' :: rest =>
    let ds := rest.takeWhile Text.isAsciiDigit
    if ds.isEmpty then (0, cs)
    else
      (Text.digitsValue ((ds ++ List.replicate 6 '0').take 6), rest.dropWhile Text.isAsciiDigit)
  | _ => (0, cs)

/-- Reads an offset: a letter for universal time, or sign, hours and minutes and perhaps seconds. -/
def takeOffset? (cs : List Char) : Option (Option Int × List Char) :=
  match cs with
  | [] => some (none, [])
  | 'Z' :: rest => some (some 0, rest)
  | s :: rest =>
    if s = '+' ∨ s = '-' then do
      let (hour, rest) ← takeDigits? 2 rest
      let rest ← takeChar? ':' rest
      let (minute, rest) ← takeDigits? 2 rest
      let (second, rest) :=
        match takeChar? ':' rest >>= takeDigits? 2 with
        | some (n, after) => (n, after)
        | none => (0, rest)
      let n : Int := hour * 3600 + minute * 60 + second
      pure (some (if s = '-' then -n else n), rest)
    else some (none, cs)

/-- Reads a time of day. -/
def takeClock? (cs : List Char) : Option (Clock × List Char) := do
  let (hour, cs) ← takeDigits? 2 cs
  let cs ← takeChar? ':' cs
  let (minute, cs) ← takeDigits? 2 cs
  let (second, cs) :=
    match takeChar? ':' cs >>= takeDigits? 2 with
    | some (n, after) => (n, after)
    | none => (0, cs)
  let (microsecond, cs) := takeFraction cs
  let (offset, cs) ← takeOffset? cs
  let clock ← Clock.make? hour minute second microsecond offset
  pure (clock, cs)

/-- Reads a date from its ISO form. -/
def Date.ofIso? (s : String) : Option Date :=
  match takeDate? s.toList with
  | some (d, []) => some d
  | _ => none

/-- Reads a time of day from its ISO form. -/
def Clock.ofIso? (s : String) : Option Clock :=
  match takeClock? s.toList with
  | some (c, []) => some c
  | _ => none

/-- Reads a moment from its ISO form; a date alone is its midnight. -/
def Moment.ofIso? (s : String) : Option Moment := do
  let (d, rest) ← takeDate? s.toList
  match rest with
  | [] => pure ⟨d, ⟨0, 0, 0, 0, none⟩⟩
  | _ :: rest =>
    let (c, rest) ← takeClock? rest
    if rest.isEmpty then pure ⟨d, c⟩ else none

end ArgumentSchema
