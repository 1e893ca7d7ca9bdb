import ApiTools.Number.Layout

set_option autoImplicit false

/-!
# Calendar dates

Dates and points in time as documents write them, with the check that the fields name a day and
a time that exist, and their standard text.
-/

namespace ApiTools

/-- A day of the calendar. -/
structure Date where
  year : Nat
  month : Nat
  day : Nat
  deriving Repr, DecidableEq

/-- A point in time; `offset` is the distance from universal time in seconds, if one is known. -/
structure DateTime where
  date : Date
  hour : Nat
  minute : Nat
  second : Nat
  microsecond : Nat
  offset : Option Int
  deriving Repr, DecidableEq

namespace Date

def isLeap (year : Nat) : Bool :=
  year % 4 = 0 && (year % 100 != 0 || year % 400 = 0)

/-- The number of days of a month, or zero if there is no such month. -/
def daysIn (year month : Nat) : Nat :=
  match month with
  | 1 | 3 | 5 | 7 | 8 | 10 | 12 => 31
  | 4 | 6 | 9 | 11 => 30
  | 2 => if isLeap year then 29 else 28
  | _ => 0

/-- Whether the fields name a day of the years 1 to 9999. -/
def isValid (d : Date) : Bool :=
  1 ≤ d.year && d.year ≤ 9999 && 1 ≤ d.day && d.day ≤ daysIn d.year d.month

/-- A number with zeros in front up to a width. -/
def digits (width n : Nat) : String := String.ofList (Number.padded width n)

/-- Year, month and day with hyphens between them. -/
def text (d : Date) : String :=
  digits 4 d.year ++ "-" ++ digits 2 d.month ++ "-" ++ digits 2 d.day

/-- The number of days from the first of March of the year 0 to a date. -/
def days (d : Date) : Nat :=
  let early := d.month ≤ 2
  let year := if early then d.year - 1 else d.year
  let march := if early then d.month + 9 else d.month - 3
  365 * year + year / 4 - year / 100 + year / 400 + (153 * march + 2) / 5 + d.day - 1

/-- The day that comes a number of days after the first of January 1970. The days are counted in
years that begin with March, so that a leap day ends its year, and in rounds of 400 years. -/
def ofDays (n : Nat) : Date :=
  let shifted := n + 719468
  let inRound := shifted % 146097
  let year := (inRound - inRound / 1460 + inRound / 36524 - inRound / 146096) / 365
  let inYear := inRound - (365 * year + year / 4 - year / 100)
  let march := (5 * inYear + 2) / 153
  let month := if march < 10 then march + 3 else march - 9
  { year := year + 400 * (shifted / 146097) + (if month ≤ 2 then 1 else 0)
    month := month
    day := inYear - (153 * march + 2) / 5 + 1 }

end Date

namespace DateTime

/-- Whether the fields name a time that exists; an offset is less than a day. -/
def isValid (t : DateTime) : Bool :=
  t.date.isValid && t.hour < 24 && t.minute < 60 && t.second < 60
    && t.offset.all fun s => s.natAbs < 86400

/-- The number of microseconds from the first of March of the year 0, by the clock of its place. -/
def microseconds (t : DateTime) : Int :=
  (((t.date.days * 24 + t.hour) * 60 + t.minute) * 60 + t.second) * 1000000 + t.microsecond

/-- Whether two times are one instant: the clocks decide where no offset is known, and a time with
an offset is never one without. -/
def sameInstant (a b : DateTime) : Bool :=
  match a.offset, b.offset with
  | none, none => a.microseconds == b.microseconds
  | some s, some t => a.microseconds - s * 1000000 == b.microseconds - t * 1000000
  | _, _ => false

/-- An offset as a sign, hours and minutes. -/
def offsetText (s : Int) : String :=
  let m := s.natAbs / 60
  (if s < 0 then "-" else "+") ++ Date.digits 2 (m / 60) ++ ":" ++ Date.digits 2 (m % 60)

/-- Date and time with a separator between them; a fraction is shown when it is not zero. -/
def textWith (separator : String) (zero : Option String) (t : DateTime) : String :=
  t.date.text ++ separator
    ++ Date.digits 2 t.hour ++ ":" ++ Date.digits 2 t.minute ++ ":" ++ Date.digits 2 t.second
    ++ (if t.microsecond = 0 then "" else "." ++ Date.digits 6 t.microsecond)
    ++ match t.offset with
      | none => ""
      | some s => if s = 0 then zero.getD (offsetText 0) else offsetText s

/-- The standard text, with a `T` before the time. -/
def isoText (t : DateTime) : String := t.textWith "T" none

/-- The text in running prose, with a space before the time. -/
def plainText (t : DateTime) : String := t.textWith " " none

/-- The text in a serialised tool: universal time is marked by a `Z`. -/
def serialText (t : DateTime) : String := t.textWith "T" (some "Z")

end DateTime

end ApiTools
