import RunPicker.Failure

/-!
# Moments

Days of the calendar and moments of a day, as documents write them. `Moment.day?` and `Moment.instant?` refuse what is
not on the calendar, and a moment with an offset is kept at offset zero.
-/

namespace RunPicker

/-- A day of the Gregorian calendar. -/
structure Day where
  year : Nat
  month : Nat
  day : Nat
deriving DecidableEq, Inhabited, Repr

namespace Day

/-- Does the year have a leap day? -/
def isLeapYear (year : Nat) : Bool :=
  year % 4 == 0 && (year % 100 != 0 || year % 400 == 0)

/-- The number of days of a month. -/
def daysIn (year month : Nat) : Nat :=
  if month == 2 then if isLeapYear year then 29 else 28
  else if [4, 6, 9, 11].contains month then 30
  else 31

/-- Is the day on the calendar of the years 1 to 9999? -/
def isValid (d : Day) : Bool :=
  1 ≤ d.year && d.year ≤ 9999 && 1 ≤ d.month && d.month ≤ 12 && 1 ≤ d.day && d.day ≤ daysIn d.year d.month

/-- The day after a day. -/
def next (d : Day) : Day :=
  if d.day < daysIn d.year d.month then { d with day := d.day + 1 }
  else if d.month < 12 then ⟨d.year, d.month + 1, 1⟩
  else ⟨d.year + 1, 1, 1⟩

/-- The day before a day. -/
def previous (d : Day) : Day :=
  if 1 < d.day then { d with day := d.day - 1 }
  else if 1 < d.month then ⟨d.year, d.month - 1, daysIn d.year (d.month - 1)⟩
  else ⟨d.year - 1, 12, 31⟩

/-- The day some days later, or earlier if the number is negative. -/
def shift (d : Day) : Int → Day
  | .ofNat later => later.repeat next d
  | .negSucc earlier => (earlier + 1).repeat previous d

end Day

/-- A day, or a moment of a day to the microsecond; `zoned` says that it was written with an offset. -/
inductive Moment where
  | day (d : Day)
  | instant (d : Day) (hour minute second microsecond : Nat) (zoned : Bool)
deriving DecidableEq, Inhabited, Repr

namespace Moment

/-- A number in decimal with zeros before it up to a width. -/
def padded (width number : Nat) : String :=
  let digits := Nat.toDigits 10 number
  String.ofList (List.replicate (width - digits.length) '0' ++ digits)

/-- The day of the given numbers. -/
def day? (year month day : Nat) : Except Failure Moment :=
  if Day.isValid ⟨year, month, day⟩ then .ok (.day ⟨year, month, day⟩) else .error .wrongValue

/-- The number of microseconds of a day. -/
def microsecondsOfDay : Nat := 86400 * 1000000

/-- The moment that is some microseconds after the start of a day. -/
def ofMicroseconds (d : Day) (microseconds : Int) (zoned : Bool) : Except Failure Moment :=
  let shifted := d.shift (microseconds.fdiv microsecondsOfDay)
  let rest := (microseconds.fmod microsecondsOfDay).toNat
  let seconds := rest / 1000000
  if shifted.isValid then
    .ok (.instant shifted (seconds / 3600) (seconds / 60 % 60) (seconds % 60) (rest % 1000000) zoned)
  else .error .overflow

/-- The moment of the given numbers. `microsecond` may be a whole second, when a fraction was rounded up; `offset?` is
the offset in minutes that it was written with. -/
def instant? (d : Day) (hour minute second microsecond : Nat) (offset? : Option Int) : Except Failure Moment :=
  if !d.isValid || 23 < hour || 59 < minute || 59 < second then .error .wrongValue
  else
    let sinceMidnight : Int := ((hour * 60 + minute) * 60 + second) * 1000000 + microsecond
    ofMicroseconds d (sinceMidnight - offset?.getD 0 * 60000000) offset?.isSome

/-- The text of a day. -/
def dayText (d : Day) : String :=
  padded 4 d.year ++ "-" ++ padded 2 d.month ++ "-" ++ padded 2 d.day

/-- The text of a moment. -/
def text : Moment → String
  | .day d => dayText d
  | .instant d hour minute second microsecond zoned =>
    dayText d ++ " " ++ padded 2 hour ++ ":" ++ padded 2 minute ++ ":" ++ padded 2 second
      ++ (if microsecond = 0 then "" else "." ++ padded 6 microsecond) ++ (if zoned then "+00:00" else "")

/-- The text of a moment inside a list or a mapping: its numbers, of the seconds and the microseconds only the needed
ones. -/
def literal : Moment → String
  | .day d => "datetime.date(" ++ ", ".intercalate ([d.year, d.month, d.day].map Nat.repr) ++ ")"
  | .instant d hour minute second microsecond zoned =>
    let finer :=
      if microsecond ≠ 0 then [second, microsecond] else if second ≠ 0 then [second] else []
    let numbers := [d.year, d.month, d.day, hour, minute] ++ finer
    "datetime.datetime(" ++ ", ".intercalate (numbers.map Nat.repr)
      ++ (if zoned then ", tzinfo=datetime.timezone.utc)" else ")")

end Moment

end RunPicker
