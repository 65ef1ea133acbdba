import NoteQuery.Text.Quoted

/-!
# Dates and times

A note holds dates as literals: the three numbers and the text they were read from. Configuration
files know calendar stamps besides: a day, a moment of a day with or without an offset from universal
time, or a time of day.
-/

namespace NoteQuery

/-- A calendar date that remembers its literal. -/
structure DateLiteral where
  year : Nat
  month : Nat
  day : Nat
  raw : String
  deriving DecidableEq, Repr, Inhabited

/-- A day of the calendar. -/
structure Day where
  year : Nat
  month : Nat
  day : Nat
  deriving DecidableEq, Repr, Inhabited

/-- A time of day. -/
structure Clock where
  hour : Nat
  minute : Nat
  second : Nat
  microsecond : Nat
  deriving DecidableEq, Repr, Inhabited

inductive Stamp where
  | day (d : Day)
  | clock (t : Clock)
  /-- The offset is in minutes east of universal time. -/
  | moment (d : Day) (t : Clock) (offset : Option Int)
  deriving DecidableEq, Repr, Inhabited

/-- A number with zeros before it, for at least `width` digits. -/
def zeroPadded (width n : Nat) : String :=
  let ds := toString n
  String.ofList (List.replicate (width - ds.length) '0') ++ ds

namespace Day

def isLeap (year : Nat) : Bool := year % 4 == 0 && (year % 100 != 0 || year % 400 == 0)

def daysInMonth (year month : Nat) : Nat :=
  if month = 2 then if isLeap year then 29 else 28
  else if month ∈ [4, 6, 9, 11] then 30
  else 31

def isValid (d : Day) : Bool :=
  1 ≤ d.year && d.year ≤ 9999 && 1 ≤ d.month && d.month ≤ 12 && 1 ≤ d.day &&
    d.day ≤ daysInMonth d.year d.month

/-- Four digits, two and two. -/
def iso (d : Day) : String :=
  zeroPadded 4 d.year ++ "-" ++ zeroPadded 2 d.month ++ "-" ++ zeroPadded 2 d.day

def toLiteral (d : Day) : DateLiteral := ⟨d.year, d.month, d.day, d.iso⟩

end Day

namespace Clock

def isValid (t : Clock) : Bool := t.hour < 24 && t.minute < 60 && t.second < 60

/-- Hours, minutes and seconds, and six decimals unless they are zero. -/
def iso (t : Clock) : String :=
  zeroPadded 2 t.hour ++ ":" ++ zeroPadded 2 t.minute ++ ":" ++ zeroPadded 2 t.second ++
    if t.microsecond = 0 then "" else "." ++ zeroPadded 6 t.microsecond

/-- The parts that a constructor call lists: hour and minute always, the others up to the last that
is not zero. -/
def parts (t : Clock) : List Nat :=
  if t.microsecond ≠ 0 then [t.hour, t.minute, t.second, t.microsecond]
  else if t.second ≠ 0 then [t.hour, t.minute, t.second]
  else [t.hour, t.minute]

end Clock

namespace Stamp

/-- The offset with its sign, in hours and minutes. -/
def offsetText (minutes : Int) : String :=
  (if minutes < 0 then "-" else "+") ++ zeroPadded 2 (minutes.natAbs / 60) ++ ":" ++
    zeroPadded 2 (minutes.natAbs % 60)

/-- The ISO text of a stamp; `between` stands between day and time. -/
def iso (between : String) : Stamp → String
  | day d => d.iso
  | clock t => t.iso
  | moment d t offset => d.iso ++ between ++ t.iso ++ (offset.map offsetText).getD ""

def commaNumbers (ns : List Nat) : String := ", ".intercalate (ns.map toString)

/-- An offset as a zone: its distance in days and seconds, the seconds counted forward. -/
def zoneText (minutes : Int) : String :=
  if minutes = 0 then "datetime.timezone.utc"
  else
    let parts := if minutes < 0
      then "days=-1, seconds=" ++ toString ((24 * 60 + minutes) * 60)
      else "seconds=" ++ toString (minutes * 60)
    "datetime.timezone(datetime.timedelta(" ++ parts ++ "))"

/-- The stamp as it shows inside a list or a table. -/
def literal : Stamp → String
  | day d => "datetime.date(" ++ commaNumbers [d.year, d.month, d.day] ++ ")"
  | clock t => "datetime.time(" ++ commaNumbers t.parts ++ ")"
  | moment d t offset =>
    let zone := (offset.map fun minutes => ", tzinfo=" ++ zoneText minutes).getD ""
    "datetime.datetime(" ++ commaNumbers ([d.year, d.month, d.day] ++ t.parts) ++ zone ++ ")"

end Stamp

/-- The date literal as it shows inside a list or a table. -/
def DateLiteral.literal (d : DateLiteral) : String :=
  "DateValue(year=" ++ toString d.year ++ ", month=" ++ toString d.month ++ ", day=" ++
    toString d.day ++ ", raw=" ++ Text.quoted d.raw ++ ")"

end NoteQuery
