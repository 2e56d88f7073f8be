/-
  Instants of universal time.
  An instant counts whole seconds from the start of 1970 and nanoseconds within the second; a leap
  second is the second before it with a thousand million nanoseconds more. Dates are those of the
  Gregorian calendar, extended to all years.
-/

namespace DocQuery

/-- A point in time. -/
structure Instant where
  seconds : Int
  nanos : Nat
deriving DecidableEq

namespace Instant

/-- Nanoseconds in a second. -/
def nanosPerSecond : Nat := 1000000000

/-- Seconds in a day. -/
def secondsPerDay : Int := 86400

/-- Earlier instants come first. -/
def order (a b : Instant) : Ordering :=
  (compare a.seconds b.seconds).then (compare a.nanos b.nanos)

/-- The first and the last second that can be named by a count of seconds. -/
def firstSecond : Int := -8334601228800

/-- The last second that can be named by a count of seconds. -/
def lastSecond : Int := 8210266876799

/-- The instant a count of seconds names. -/
def ofSeconds? (seconds : Int) : Option Instant :=
  if firstSecond ≤ seconds ∧ seconds ≤ lastSecond then some ⟨seconds, 0⟩ else none

end Instant

/-- A day of the calendar. -/
structure Date where
  year : Int
  month : Nat
  day : Nat
deriving DecidableEq

namespace Date

/-- Whether a year has 366 days. -/
def isLeap (year : Int) : Bool :=
  year % 4 == 0 && (year % 100 != 0 || year % 400 == 0)

/-- The lengths of the months of a year. -/
def monthLengths (year : Int) : List Nat :=
  [31, if isLeap year then 29 else 28, 31, 30, 31, 30, 31, 31, 30, 31, 30, 31]

/-- Whether the calendar has a day. -/
def Exists (d : Date) : Prop :=
  1 ≤ d.month ∧ 1 ≤ d.day ∧ d.day ≤ (monthLengths d.year).getD (d.month - 1) 0

instance (d : Date) : Decidable d.Exists := by
  unfold Exists
  infer_instance

/-- The days from the first day of year 0 to the first day of a year. -/
def daysBeforeYear (year : Int) : Int :=
  365 * year + (year + 3) / 4 - (year + 99) / 100 + (year + 399) / 400

/-- The days from the first day of year 0 to the first day of 1970. -/
def epochDay : Int := 719528

/-- The days of a year before a month. -/
def daysBeforeMonth (year : Int) (month : Nat) : Nat :=
  ((monthLengths year).take (month - 1)).foldl (fun n length => n + length) 0

/-- The days from the first day of 1970 to a day. -/
def toDays (d : Date) : Int :=
  daysBeforeYear d.year + daysBeforeMonth d.year d.month + (d.day - 1 : Nat) - epochDay

/-- The month and the day in it, counted from one, of a day counted from zero. -/
def splitMonths : List Nat → Nat → Nat → Nat × Nat
  | [], month, n => (month, n + 1)
  | length :: rest, month, n =>
    if n < length then (month, n + 1) else splitMonths rest (month + 1) (n - length)

/-- The year of a day counted from the first day of year 0: the mean length of a year gives an
estimate that is at most one year off. -/
def yearOfDay (n : Int) : Int :=
  let estimate := n * 400 / 146097
  if daysBeforeYear (estimate + 1) ≤ n then estimate + 1
  else if n < daysBeforeYear estimate then estimate - 1
  else estimate

/-- The day that is a number of days after the first day of 1970. -/
def ofDays (n : Int) : Date :=
  let day := n + epochDay
  let year := yearOfDay day
  let (month, dayOfMonth) := splitMonths (monthLengths year) 1 (day - daysBeforeYear year).toNat
  ⟨year, month, dayOfMonth⟩

end Date

end DocQuery
