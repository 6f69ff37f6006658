import PgMigrate.Time.Calendar
import PgMigrate.Text.Trim
/-
  Reading dates and times against a pattern.

  A pattern is a list of `TimeItem`s, read left to right:

  * a numeric field skips white space, then reads ASCII digits: up to two (four for a year
    without a sign); a year with a sign `+`/`-` takes any number of digits;
  * a literal must follow exactly;
  * `blank` skips any run of white space, the empty run included;
  * `fraction` reads `.` and one to nine digits (further digits are skipped), or nothing
    when no `.` follows;
  * `offset` skips white space, then reads a sign (`+`, `-` or the minus sign U+2212), two
    hour digits, any run of `:` and white space, and two minute digits (`60` to `99` are
    refused).

  The fields read are checked as they come (month 1–12, day 1–31, hour 0–23, minute 0–59,
  second 0–60), and once all are read the date must exist and a second of `60` becomes the
  leap second after 59.  Text left over is an error.
-/
namespace PgMigrate

/-- A field of a date or time. -/
inductive TimeField where
  | year | month | day | hour | minute | second
deriving DecidableEq

/-- One element of a pattern. -/
inductive TimeItem where
  | numeric (field : TimeField)
  | literal (text : List Char)
  | blank
  | fraction
  | offset (allowZulu : Bool)

/-- The fields read so far. -/
structure TimeFields where
  year : Option Int := none
  month : Option Nat := none
  day : Option Nat := none
  hour : Option Nat := none
  minute : Option Nat := none
  second : Option Nat := none
  nanos : Option Nat := none
  offset : Option Int := none

namespace TimeFields

/-- Stores a numeric field after its range check. -/
def set (p : TimeFields) (f : TimeField) (v : Int) : Option TimeFields :=
  let inRange := fun (lo hi : Int) => lo ≤ v ∧ v ≤ hi
  match f with
  | .year => if inRange (-2147483648) 2147483647 then some { p with year := some v } else none
  | .month => if inRange 1 12 then some { p with month := some v.toNat } else none
  | .day => if inRange 1 31 then some { p with day := some v.toNat } else none
  | .hour => if inRange 0 23 then some { p with hour := some v.toNat } else none
  | .minute => if inRange 0 59 then some { p with minute := some v.toNat } else none
  | .second => if inRange 0 60 then some { p with second := some v.toNat } else none

end TimeFields

/-- Reads between `min` and `max` ASCII digits. -/
def scanDigits (cs : List Char) (min max : Nat) : Option (Nat × List Char) :=
  let ds := (cs.takeWhile Char.isDigit).take max
  if ds.length < min then none
  else some (ds.foldl (fun acc c => acc * 10 + (c.toNat - '0'.toNat)) 0, cs.drop ds.length)

/-- Reads a numeric field at the front. -/
def scanNumeric (f : TimeField) (cs : List Char) : Option (Int × List Char) :=
  let cs := trimStartChars cs
  if f == .year then
    match cs with
    | '-' :: rest => (scanDigits rest 1 rest.length).map fun (n, r) => (-(n : Int), r)
    | '+' :: rest => (scanDigits rest 1 rest.length).map fun (n, r) => ((n : Int), r)
    | _ => (scanDigits cs 1 4).map fun (n, r) => ((n : Int), r)
  else (scanDigits cs 1 2).map fun (n, r) => ((n : Int), r)

/-- Reads a fraction of a second after its `.`: the nanoseconds and the rest. -/
def scanFraction (cs : List Char) : Option (Nat × List Char) := do
  let (n, rest) ← scanDigits cs 1 9
  let used := cs.length - rest.length
  pure (n * Nat.pow 10 (9 - used), rest.dropWhile Char.isDigit)

/-- Reads an offset `±HH[:]MM`, in seconds east. -/
def scanOffset (allowZulu : Bool) (cs : List Char) : Option (Int × List Char) := do
  let cs := trimStartChars cs
  match cs with
  | c :: rest =>
    if allowZulu && (c == 'Z' || c == 'z') then some (0, rest)
    else
      let negative ← if c == '+' then some false
        else if c == '-' || c.toNat == 0x2212 then some true else none
      match rest with
      | h1 :: h2 :: rest =>
        if !(h1.isDigit && h2.isDigit) then none
        else
          let hours := (h1.toNat - '0'.toNat) * 10 + (h2.toNat - '0'.toNat)
          let rest := rest.dropWhile fun c => c == ':' || Unicode.isWhiteSpace c
          match rest with
          | m1 :: m2 :: rest =>
            if '0' ≤ m1 ∧ m1 ≤ '5' ∧ m2.isDigit then
              let minutes := (m1.toNat - '0'.toNat) * 10 + (m2.toNat - '0'.toNat)
              let secs : Int := hours * 3600 + minutes * 60
              some (if negative then -secs else secs, rest)
            else none
          | _ => none
      | _ => none
  | [] => none

/-- Reads a pattern at the front of the text. -/
def scanItems : List TimeItem → TimeFields → List Char → Option (TimeFields × List Char)
  | [], p, cs => some (p, cs)
  | .numeric f :: items, p, cs => do
    let (v, rest) ← scanNumeric f cs
    let p ← p.set f v
    scanItems items p rest
  | .literal lit :: items, p, cs =>
    if lit.isPrefixOf cs then scanItems items p (cs.drop lit.length) else none
  | .blank :: items, p, cs => scanItems items p (trimStartChars cs)
  | .fraction :: items, p, cs =>
    match cs with
    | '.' :: rest => do
      let (n, rest) ← scanFraction rest
      scanItems items { p with nanos := some n } rest
    | _ => scanItems items p cs
  | .offset z :: items, p, cs => do
    let (o, rest) ← scanOffset z cs
    scanItems items { p with offset := some o } rest

namespace TimeFields

/-- The date the fields name. -/
def toDate? (p : TimeFields) : Option Date := do
  Date.mk? (← p.year) (← p.month) (← p.day)

/-- The time of day the fields name; second 60 is the leap second after 59. -/
def toTime? (p : TimeFields) : Option TimeOfDay := do
  let h ← p.hour
  let m ← p.minute
  let (s, leap) := match p.second with
    | some 60 => (59, 1000000000)
    | some s => (s, 0)
    | none => (0, 0)
  let n := if p.second.isSome then p.nanos.getD 0 else 0
  if p.second.isNone && p.nanos.isSome then none
  else TimeOfDay.mk? h m s (leap + n)

/-- The timestamp the fields name. -/
def toDateTime? (p : TimeFields) : Option DateTime := do
  pure ⟨← p.toDate?, ← p.toTime?⟩

/-- The local timestamp and offset the fields name; the UTC time must be in range too. -/
def toZoned? (p : TimeFields) : Option (DateTime × Int) := do
  let dt ← p.toDateTime?
  let o ← p.offset
  if isValidOffset o && (dt.toUtc o).date.isValid then some (dt, o) else none

end TimeFields

/-- Reads a whole text against a pattern. -/
def readFields (items : List TimeItem) (s : String) : Option TimeFields := do
  let (p, rest) ← scanItems items {} s.toList
  if rest.isEmpty then some p else none

namespace TimePattern

/-- `%Y-%m-%d`. -/
def date : List TimeItem :=
  [.numeric .year, .literal ['-'], .numeric .month, .literal ['-'], .numeric .day]

/-- `%H:%M:%S%.f`. -/
def clock : List TimeItem :=
  [.numeric .hour, .literal [':'], .numeric .minute, .literal [':'], .numeric .second, .fraction]

/-- `%Y-%m-%d %H:%M:%S%.f`. -/
def timestamp : List TimeItem := date ++ [.blank] ++ clock

/-- `%Y-%m-%d %H:%M:%S%.f%:z`. -/
def zoned : List TimeItem := timestamp ++ [.offset false]

end TimePattern

/-- A date in the `%Y-%m-%d` pattern. -/
def readDate? (s : String) : Option Date := (readFields TimePattern.date s).bind TimeFields.toDate?

/-- A timestamp in the `%Y-%m-%d %H:%M:%S%.f` pattern. -/
def readTimestamp? (s : String) : Option DateTime :=
  (readFields TimePattern.timestamp s).bind TimeFields.toDateTime?

/-- A local timestamp with its offset, `%Y-%m-%d %H:%M:%S%.f%:z`. -/
def readZoned? (s : String) : Option (DateTime × Int) :=
  (readFields TimePattern.zoned s).bind TimeFields.toZoned?

/-- The ISO date, blanks allowed around the dashes and after it. -/
def readIsoDate? (s : String) : Option Date :=
  (readFields [.numeric .year, .blank, .literal ['-'], .numeric .month, .blank, .literal ['-'],
    .numeric .day, .blank] s).bind TimeFields.toDate?

/-- The ISO time of day `HH:MM[:SS[.f]]`, blanks allowed between the parts. -/
def readIsoTime? (s : String) : Option TimeOfDay := do
  let (p, rest) ← scanItems [.numeric .hour, .blank, .literal [':'], .numeric .minute] {} s.toList
  let (p, rest) := match scanItems [.blank, .literal [':'], .numeric .second, .fraction] p rest with
    | some r => r
    | none => (p, rest)
  let (p, rest) ← scanItems [.blank] p rest
  if rest.isEmpty then p.toTime? else none

/-- The ISO timestamp `YYYY-MM-DDTHH:MM:SS[.f]`. -/
def readIsoTimestamp? (s : String) : Option DateTime :=
  (readFields [.numeric .year, .blank, .literal ['-'], .numeric .month, .blank,
    .literal ['-'], .numeric .day, .blank, .literal ['T'], .numeric .hour, .blank,
    .literal [':'], .numeric .minute, .blank, .literal [':'], .numeric .second, .fraction,
    .blank] s).bind TimeFields.toDateTime?

/-- An RFC 3339 timestamp with offset (`Z`, `UTC` or `±HH:MM`), `T` or a blank between date
    and time. -/
def readIsoZoned? (s : String) : Option (DateTime × Int) := do
  let dateItems : List TimeItem := [.numeric .year, .blank, .literal ['-'], .numeric .month,
    .blank, .literal ['-'], .numeric .day]
  let (p, rest) ← scanItems dateItems {} s.toList
  let rest ← match rest with
    | c :: r => if c == 'T' || c == 't' || c == ' ' then some r else none
    | [] => none
  let (p, rest) ← scanItems [.numeric .hour, .blank, .literal [':'], .numeric .minute, .blank,
    .literal [':'], .numeric .second, .fraction, .blank] p rest
  let rest := trimStartChars rest
  let (o, rest) ← match rest with
    | a :: b :: c :: r =>
      if asciiUpper a == 'U' && asciiUpper b == 'T' && asciiUpper c == 'C' then some (0, r)
      else scanOffset true rest
    | _ => scanOffset true rest
  if (trimStartChars rest).isEmpty then TimeFields.toZoned? { p with offset := some o } else none
where
  asciiUpper (c : Char) : Char := if 'a' ≤ c ∧ c ≤ 'z' then Char.ofNat (c.toNat - 32) else c

end PgMigrate
