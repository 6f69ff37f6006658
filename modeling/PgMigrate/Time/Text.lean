import PgMigrate.Time.Calendar
/-
  Writing dates, times, offsets and spans.

  * Years 0 to 9999 take four digits; any other year takes a sign and at least four digits
    (`+10000`, `-0001`), as ISO 8601 asks.
  * `clockFraction` is the SQL fraction: microseconds, trailing zeros dropped, nothing when
    zero; a leap second's extra second does not show (`23:59:59.5`).
  * `isoFraction` is the fraction of the ISO form: 3, 6 or 9 digits, the fewest that are
    exact; there a leap second is written as second `60`.
  * An offset is `±HH:MM`, or in its short form `±H` / `±H:MM` (the minutes only when not
    zero); zero is `+`.
  * A span is `[-][D ]HH:MM:SS[.ffffff]`, the days only when there are any.
-/
namespace PgMigrate

/-- A number with at least `width` digits, zeros in front. -/
def padNat (n : Nat) (width : Nat) : String :=
  let s := toString n
  String.ofList (List.replicate (width - s.length) '0') ++ s

/-- Two digits. -/
def pad2 (n : Nat) : String := padNat n 2

namespace Date

/-- The year as written in a date. -/
def yearText (y : Int) : String :=
  if 0 ≤ y ∧ y ≤ 9999 then padNat y.toNat 4
  else (if y < 0 then "-" else "+") ++ padNat y.natAbs 4

/-- `YYYY-MM-DD`. -/
def render (d : Date) : String := yearText d.year ++ "-" ++ pad2 d.month ++ "-" ++ pad2 d.day

end Date

/-- Microseconds of a sub-second part, trailing zeros dropped: `.345`, `.000123`, or
    nothing. -/
def clockFraction (nanos : Nat) : String :=
  let micros := (nanos % 1000000000) / 1000
  if micros == 0 then ""
  else
    let digits := (padNat micros 6).toList
    "." ++ String.ofList (digits.reverse.dropWhile (· == '0')).reverse

/-- The ISO fraction: 3, 6 or 9 digits, the fewest that are exact; nothing when zero. -/
def isoFraction (nanos : Nat) : String :=
  if nanos == 0 then ""
  else if nanos % 1000000 == 0 then "." ++ padNat (nanos / 1000000) 3
  else if nanos % 1000 == 0 then "." ++ padNat (nanos / 1000) 6
  else "." ++ padNat nanos 9

namespace TimeOfDay

/-- `HH:MM:SS` and the clock fraction. -/
def render (t : TimeOfDay) : String :=
  pad2 t.hour ++ ":" ++ pad2 t.minute ++ ":" ++ pad2 t.second ++ clockFraction t.nanos

/-- The ISO form: a leap second as second 60. -/
def renderIso (t : TimeOfDay) : String :=
  let (sec, nanos) := if t.nanos ≥ 1000000000 then (t.second + 1, t.nanos - 1000000000)
    else (t.second, t.nanos)
  pad2 t.hour ++ ":" ++ pad2 t.minute ++ ":" ++ pad2 sec ++ isoFraction nanos

end TimeOfDay

namespace DateTime

/-- `date time`, with a space. -/
def render (dt : DateTime) : String := dt.date.render ++ " " ++ dt.time.render

/-- The ISO form, with a `T`. -/
def renderIso (dt : DateTime) : String := dt.date.render ++ "T" ++ dt.time.renderIso

end DateTime

/-- `±HH:MM`. -/
def offsetText (offset : Int) : String :=
  let sign := if offset < 0 then "-" else "+"
  let a := offset.natAbs
  sign ++ pad2 (a / 3600) ++ ":" ++ pad2 ((a % 3600) / 60)

/-- `±H`, or `±H:MM` when the minutes are not zero. -/
def shortOffsetText (offset : Int) : String :=
  let sign := if offset < 0 then "-" else "+"
  let a := offset.natAbs
  let hours := a / 3600
  let minutes := (a % 3600) / 60
  if minutes == 0 then sign ++ toString hours
  else sign ++ toString hours ++ ":" ++ pad2 minutes

namespace Duration

/-- `[-][D ]HH:MM:SS[.ffffff]`. -/
def render (d : Duration) : String :=
  let a := d.abs
  let total := a.secs.toNat
  let days := total / 86400
  let rem := total % 86400
  (if d.isNegative then "-" else "") ++ (if days != 0 then toString days ++ " " else "") ++
    pad2 (rem / 3600) ++ ":" ++ pad2 ((rem % 3600) / 60) ++ ":" ++ pad2 (rem % 60) ++
    clockFraction a.nanos

end Duration

end PgMigrate
