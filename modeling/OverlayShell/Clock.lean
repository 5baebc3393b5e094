import OverlayShell.Number.Binary64
import OverlayShell.Text.Layout

/-!
# The clock

Moments are counted in milliseconds since the start of 1970 and shown in universal time. As seconds,
a moment is a floating-point number, and durations are differences of such numbers.
-/

namespace OverlayShell

namespace Clock

def seconds (ms : Int) : Float := Number.ofQuotient ms 1000

def elapsed (since now : Int) : Int := Number.truncated (seconds now - seconds since)

def twoDigits (n : Int) : String :=
  Text.zeroFill 2 (Text.intText n)

def timeText (second : Int) : String :=
  let inDay := second.emod 86400
  twoDigits (inDay / 3600) ++ ":" ++ twoDigits (inDay % 3600 / 60) ++ ":" ++ twoDigits (inDay % 60)

structure Date where
  year : Int
  month : Nat
  day : Nat
  deriving DecidableEq

/-- The date of a day counted from the first of January 1970. Years are taken to begin in March, so
that a leap day ends its year, and 400 of them, an `era`, have 146097 days. -/
def dateOfDay (day : Int) : Date :=
  let shifted := day + 719468
  let era := shifted.ediv 146097
  let dayOfEra := (shifted.emod 146097).toNat
  let yearOfEra :=
    (dayOfEra - dayOfEra / 1460 + dayOfEra / 36524 - dayOfEra / 146096) / 365
  let dayOfYear := dayOfEra - (365 * yearOfEra + yearOfEra / 4 - yearOfEra / 100)
  let monthFromMarch := (5 * dayOfYear + 2) / 153
  let month := if monthFromMarch < 10 then monthFromMarch + 3 else monthFromMarch - 9
  { year := era * 400 + yearOfEra + (if month ≤ 2 then 1 else 0)
    month
    day := dayOfYear - (153 * monthFromMarch + 2) / 5 + 1 }

-- There was no leap day in 1900: a hundred divides the year, but four hundred does not.
example : dateOfDay (-25509) = ⟨1900, 2, 28⟩ ∧ dateOfDay (-25508) = ⟨1900, 3, 1⟩ := by decide

/-! ## How far the calendar reaches -/

inductive Limit where
  /-- Its seconds are not counted in 64 bits. -/
  | moment
  /-- Its year, counted from 1900, is not counted in 32 bits. -/
  | calendar
  /-- Its year is not counted in 32 bits. -/
  | year
  deriving DecidableEq

def Limit.message : Limit → String
  | .moment => "timestamp out of range for platform time_t"
  | .calendar => "[Errno 75] Value too large for defined data type"
  | .year => "signed integer is greater than maximum"

/-- `n` is counted in so many bits, one of them for the sign. -/
def fitsIn (bits : Nat) (n : Int) : Bool :=
  let half : Int := Number.twoPow (bits - 1)
  0 ≤ n + half && n < half

def onCalendar (second : Int) : Except Limit Int :=
  let year := (dateOfDay (second.ediv 86400)).year
  if !fitsIn 64 second then .error .moment
  else if !fitsIn 32 (year - 1900) then .error .calendar
  else if !fitsIn 32 year then .error .year
  else .ok second

def second (ms : Int) : Except Limit Int := onCalendar (Number.floored (seconds ms))

def secondAfter (hours : Int) (ms : Int) : Except Limit Int :=
  onCalendar (Number.floored (seconds ms + Number.ofInt (3600 * hours)))

/-! ## Texts -/

/-- The first of January 1970 was a Thursday. -/
def dayNames : List String := ["Thu", "Fri", "Sat", "Sun", "Mon", "Tue", "Wed"]

def monthNames : List String :=
  ["Jan", "Feb", "Mar", "Apr", "May", "Jun", "Jul", "Aug", "Sep", "Oct", "Nov", "Dec"]

def dateText (second : Int) : String :=
  let day := second.ediv 86400
  let date := dateOfDay day
  dayNames.getD (day.emod 7).toNat "" ++ ", " ++ monthNames.getD (date.month - 1) "" ++ " " ++
    Text.zeroFill 2 (Text.natText date.day) ++ ", " ++ Text.intText date.year ++ ", " ++
    timeText second

end Clock

end OverlayShell
