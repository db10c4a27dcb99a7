import TableGateway.Decimal.Integer

/-!
# Calendar dates and times of day

Dates of the Gregorian calendar, extended to all years in both directions, and times of day to the
nanosecond. A time within a leap second is written as the sixtieth second of its minute: its
nanosecond counts on from 10⁹.

There are two texts: with a space and whole seconds (`DateTime.text`), and with a `T` and as many
groups of three decimals as the nanosecond needs (`DateTime.isoText`).
-/

namespace TableGateway

/-! ## Dates -/

/-- Whether a year has a 29 February. -/
def isLeapYear (year : Int) : Bool := year % 4 = 0 && (year % 100 ≠ 0 || year % 400 = 0)

/-- Number of days of a month. -/
def daysInMonth (year : Int) (month : Nat) : Nat :=
  if month = 2 then if isLeapYear year then 29 else 28
  else if month = 4 ∨ month = 6 ∨ month = 9 ∨ month = 11 then 30
  else 31

theorem daysInMonth_pos (year : Int) (month : Nat) : 1 ≤ daysInMonth year month := by
  unfold daysInMonth
  repeat' split
  all_goals omega

/-- A day of the calendar. -/
structure Date where
  year : Int
  month : Nat
  day : Nat
  month_mem : 1 ≤ month ∧ month ≤ 12
  day_mem : 1 ≤ day ∧ day ≤ daysInMonth year month
  deriving DecidableEq, Repr

namespace Date

/-- The date with these numbers, if the calendar has it. -/
def ofNumbers? (year : Int) (month day : Nat) : Option Date :=
  if hm : 1 ≤ month ∧ month ≤ 12 then
    if hd : 1 ≤ day ∧ day ≤ daysInMonth year month then some ⟨year, month, day, hm, hd⟩ else none
  else none

/-- The day after. -/
def next (d : Date) : Date :=
  if h : d.day < daysInMonth d.year d.month then
    ⟨d.year, d.month, d.day + 1, d.month_mem, by omega, by omega⟩
  else if hm : d.month < 12 then
    ⟨d.year, d.month + 1, 1, by have := d.month_mem; omega, by omega, daysInMonth_pos _ _⟩
  else
    ⟨d.year + 1, 1, 1, by omega, by omega, daysInMonth_pos _ _⟩

/-- The day before. -/
def previous (d : Date) : Date :=
  if h : 1 < d.day then
    ⟨d.year, d.month, d.day - 1, d.month_mem, by omega, by have := d.day_mem; omega⟩
  else if hm : 1 < d.month then
    ⟨d.year, d.month - 1, daysInMonth d.year (d.month - 1), by have := d.month_mem; omega,
      daysInMonth_pos _ _, Nat.le_refl _⟩
  else
    ⟨d.year - 1, 12, daysInMonth (d.year - 1) 12, by omega, daysInMonth_pos _ _, Nat.le_refl _⟩

end Date

/-! ## Times of day -/

/-- A time of day: whole seconds since midnight and a fraction. Nanoseconds from 10⁹ on count
through a leap second that follows the given one. -/
structure TimeOfDay where
  seconds : Fin 86400
  nanosecond : Fin 2000000000
  deriving DecidableEq, Repr

namespace TimeOfDay

/-- The first moment of a day. -/
def midnight : TimeOfDay := ⟨0, 0⟩

def hour (t : TimeOfDay) : Nat := t.seconds.val / 3600

def minute (t : TimeOfDay) : Nat := t.seconds.val / 60 % 60

def second (t : TimeOfDay) : Nat := t.seconds.val % 60

/-- The time with these numbers, if a day has it. Only the last second of a minute can be followed
by a leap second. -/
def ofNumbers? (hour minute second nanosecond : Nat) : Option TimeOfDay :=
  if h : hour < 24 ∧ minute < 60 ∧ second < 60 ∧ nanosecond < 2000000000 then
    if nanosecond < 1000000000 ∨ second = 59 then
      some ⟨⟨hour * 3600 + minute * 60 + second, by omega⟩, ⟨nanosecond, h.2.2.2⟩⟩
    else none
  else none

/-- The second as it is written, which is sixty within a leap second. -/
def writtenSecond (t : TimeOfDay) : Nat := t.second + t.nanosecond.val / 1000000000

/-- The part of a second that has passed, in nanoseconds. -/
def fraction (t : TimeOfDay) : Nat := t.nanosecond.val % 1000000000

end TimeOfDay

/-! ## Dates with a time -/

/-- A day and a time of that day, in no particular time zone. -/
structure DateTime where
  date : Date
  time : TimeOfDay
  deriving DecidableEq, Repr

/-- A moment, given by its date and time at the zero meridian, as seen where the clocks are
`offset` seconds ahead. -/
structure ZonedDateTime where
  utc : DateTime
  offset : Int
  offset_mem : -86400 < offset ∧ offset < 86400 := by omega

namespace DateTime

/-- The date and time that the local clocks show. Offsets are shorter than a day, so the day moves
by one at most; a leap second stays one. -/
def ofZoned (z : ZonedDateTime) : DateTime :=
  let shifted := (z.utc.time.seconds.val : Int) + z.offset
  let time : TimeOfDay :=
    ⟨⟨(shifted % 86400).toNat, by omega⟩, z.utc.time.nanosecond⟩
  if shifted < 0 then ⟨z.utc.date.previous, time⟩
  else if shifted < 86400 then ⟨z.utc.date, time⟩
  else ⟨z.utc.date.next, time⟩

/-! ## Texts -/

/-- A number with at least `width` digits. -/
def padded (width n : Nat) : String :=
  let run := Decimal.digits n
  String.ofList (List.replicate (width - run.length) '0' ++ run)

/-- Years have at least four digits, and a sign unless they have exactly four. -/
def yearText (year : Int) : String :=
  if year < 0 then "-" ++ padded 4 year.natAbs
  else if year ≤ 9999 then padded 4 year.natAbs
  else "+" ++ padded 4 year.natAbs

/-- Year, month and day, separated by hyphens. -/
def dateText (d : Date) : String :=
  yearText d.year ++ "-" ++ padded 2 d.month ++ "-" ++ padded 2 d.day

/-- Hour, minute and second, separated by colons. -/
def timeText (t : TimeOfDay) : String :=
  padded 2 t.hour ++ ":" ++ padded 2 t.minute ++ ":" ++ padded 2 t.writtenSecond

/-- The decimals of a second: none, or the fewest groups of three that lose nothing. -/
def fractionText (t : TimeOfDay) : String :=
  let n := t.fraction
  if n = 0 then ""
  else if n % 1000000 = 0 then "." ++ padded 3 (n / 1000000)
  else if n % 1000 = 0 then "." ++ padded 6 (n / 1000)
  else "." ++ padded 9 n

/-- The text in statements: date and time to the second, a space between them. -/
def text (t : DateTime) : String := dateText t.date ++ " " ++ timeText t.time

/-- The text in JSON documents: date and time with decimals, a `T` between them. -/
def isoText (t : DateTime) : String :=
  dateText t.date ++ "T" ++ timeText t.time ++ fractionText t.time

end DateTime

end TableGateway
