/-
  Dates, times of day, timestamps, offsets and durations.

  * `Date` is a day of the proleptic Gregorian calendar, years -262143 to 262142.
  * `TimeOfDay` carries nanoseconds below two seconds: a value from `10^9` on marks the
    leap second that follows second 59 (`23:59:60.5` is second 59 with 1.5·10^9 ns).
  * `DateTime` is a date with a time of day, on no particular clock.
  * An offset is a count of seconds east of UTC, strictly inside one day.
  * `Duration` is a signed span `secs + nanos/10^9` (`0 ≤ nanos < 10^9`), at most
    `i64::MAX` milliseconds either way.

  `DateTime.shiftSeconds` moves a timestamp across midnight by whole seconds and keeps the
  sub-second part as it is (a leap second stays one); that is how a local time and its
  offset give the UTC time and back.
-/
namespace PgMigrate

/-- A calendar day. -/
structure Date where
  year : Int
  month : Nat
  day : Nat
deriving Repr, DecidableEq, Inhabited

/-- A time of day; `nanos ≥ 10^9` only at second 59 (a leap second). -/
structure TimeOfDay where
  hour : Nat
  minute : Nat
  second : Nat
  nanos : Nat
deriving Repr, DecidableEq, Inhabited

/-- A date and a time of day. -/
structure DateTime where
  date : Date
  time : TimeOfDay
deriving Repr, DecidableEq, Inhabited

/-- A signed span of time. -/
structure Duration where
  secs : Int
  nanos : Nat
deriving Repr, DecidableEq, Inhabited

namespace Date

/-- The first and last years a date may have. -/
def minYear : Int := -262143
def maxYear : Int := 262142

/-- Leap years of the Gregorian calendar. -/
def isLeapYear (y : Int) : Bool := (y % 4 == 0 && y % 100 != 0) || y % 400 == 0

/-- The length of a month. -/
def daysInMonth (y : Int) (m : Nat) : Nat :=
  match m with
  | 1 | 3 | 5 | 7 | 8 | 10 | 12 => 31
  | 4 | 6 | 9 | 11 => 30
  | 2 => if isLeapYear y then 29 else 28
  | _ => 0

/-- Whether the fields name a day in range. -/
def isValid (d : Date) : Bool :=
  minYear ≤ d.year && d.year ≤ maxYear && 1 ≤ d.month && d.month ≤ 12 &&
  1 ≤ d.day && d.day ≤ daysInMonth d.year d.month

/-- The date with these fields, if it exists. -/
def mk? (y : Int) (m d : Nat) : Option Date :=
  let date : Date := ⟨y, m, d⟩
  if date.isValid then some date else none

/-- Days since 1970-01-01 (negative before). -/
def toDays (d : Date) : Int :=
  -- the civil-from-days algorithm with years starting in March
  let y := if d.month ≤ 2 then d.year - 1 else d.year
  let era := y.fdiv 400
  let yoe := y - era * 400
  let mp : Int := (d.month + 9) % 12
  let doy := (153 * mp + 2) / 5 + d.day - 1
  let doe := yoe * 365 + yoe / 4 - yoe / 100 + doy
  era * 146097 + doe - 719468

/-- The date a day count names. -/
def ofDays (z : Int) : Date :=
  let z := z + 719468
  let era := z.fdiv 146097
  let doe := z - era * 146097
  let yoe := (doe - doe / 1460 + doe / 36524 - doe / 146096) / 365
  let y := yoe + era * 400
  let doy := doe - (365 * yoe + yoe / 4 - yoe / 100)
  let mp := (5 * doy + 2) / 153
  let d := doy - (153 * mp + 2) / 5 + 1
  let m := if mp < 10 then mp + 3 else mp - 9
  ⟨if m ≤ 2 then y + 1 else y, m.toNat, d.toNat⟩

end Date

namespace TimeOfDay

/-- Whether the fields name a time of day. -/
def isValid (t : TimeOfDay) : Bool :=
  t.hour < 24 && t.minute < 60 && t.second < 60 &&
  (t.nanos < 1000000000 || (t.second == 59 && t.nanos < 2000000000))

/-- The time with these fields, if it exists. -/
def mk? (h m s n : Nat) : Option TimeOfDay :=
  let t : TimeOfDay := ⟨h, m, s, n⟩
  if t.isValid then some t else none

/-- Whole seconds since midnight. -/
def secondsOfDay (t : TimeOfDay) : Nat := t.hour * 3600 + t.minute * 60 + t.second

/-- The time at a second of the day, with the given sub-second part. -/
def ofSeconds (secs : Nat) (nanos : Nat) : TimeOfDay :=
  ⟨secs / 3600, (secs % 3600) / 60, secs % 60, nanos⟩

end TimeOfDay

namespace DateTime

/-- Moves a timestamp by whole seconds, keeping its sub-second part. -/
def shiftSeconds (dt : DateTime) (delta : Int) : DateTime :=
  let total : Int := dt.time.secondsOfDay + delta
  let days := total.fdiv 86400
  let secs := total.fmod 86400
  ⟨Date.ofDays (dt.date.toDays + days), TimeOfDay.ofSeconds secs.toNat dt.time.nanos⟩

/-- The UTC time of a local time at an offset east of UTC. -/
def toUtc (wall : DateTime) (offset : Int) : DateTime := wall.shiftSeconds (-offset)

/-- Whether the timestamp's date is in range. -/
def isValid (dt : DateTime) : Bool := dt.date.isValid && dt.time.isValid

end DateTime

/-- Whether an offset (seconds east of UTC) is strictly inside one day. -/
def isValidOffset (offset : Int) : Bool := -86400 < offset && offset < 86400

namespace Duration

/-- The nanoseconds in a second. -/
def nanosPerSecond : Nat := 1000000000

/-- The longest span either way: `i64::MAX` milliseconds. -/
def maxMillis : Int := 9223372036854775807

/-- The whole span in nanoseconds. -/
def totalNanos (d : Duration) : Int := d.secs * nanosPerSecond + d.nanos

/-- The span of a nanosecond count. -/
def ofNanos (n : Int) : Duration := ⟨n.fdiv nanosPerSecond, (n.fmod nanosPerSecond).toNat⟩

/-- The span of a microsecond count. -/
def ofMicros (n : Int) : Duration := ofNanos (n * 1000)

/-- Whether the span is within the representable range. -/
def isValid (d : Duration) : Bool :=
  d.nanos < nanosPerSecond && (d.totalNanos).natAbs ≤ maxMillis.toNat * 1000000

/-- The span as whole microseconds, truncated toward zero, if that count fits in 64 bits
    (whole seconds times a million must fit, then the sum). -/
def toMicros? (d : Duration) : Option Int :=
  -- whole seconds and the sub-second part, both with the span's sign
  let (wholeSecs, subNanos) : Int × Int :=
    if d.secs < 0 && d.nanos > 0 then (d.secs + 1, (d.nanos : Int) - nanosPerSecond)
    else (d.secs, d.nanos)
  let secsPart := wholeSecs * 1000000
  let limit : Int := 9223372036854775807
  if secsPart > limit || secsPart < -limit - 1 then none
  else
    let total := secsPart + subNanos.tdiv 1000
    if total > limit || total < -limit - 1 then none else some total

/-- Whether the span is negative. -/
def isNegative (d : Duration) : Bool := d.secs < 0

/-- The magnitude of a span. -/
def abs (d : Duration) : Duration :=
  if d.secs < 0 then
    if d.nanos == 0 then ⟨-d.secs, 0⟩ else ⟨-(d.secs + 1), nanosPerSecond - d.nanos⟩
  else d

end Duration

end PgMigrate
