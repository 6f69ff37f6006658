import PgMigrate.Json.Decode
import PgMigrate.Value.Basic
import PgMigrate.Binary.Read
import PgMigrate.Binary.Text
import PgMigrate.Literal.Scalar
/-
  The JSON form of values used at the library's edge.

  A value is `"Null"` or a one-member object naming its kind: `{"Integer": 4}`,
  `{"Date": [2015, 3, 12]}`, `{"Range": {"lower": {"Included": {"Integer": 4}},
  "upper": "Unbounded"}}`.  Integers may be written as decimal strings, floats as numbers or
  as the strings `NaN`, `Infinity`, `-Infinity` or plain decimal text.  Reading checks every
  part: dates must exist, times may carry a leap second only at second 59, offsets lie within
  a day and keep the UTC instant in range, networks have zero host bits, and spans fit
  `i64::MAX` milliseconds.

  Writing makes fixed choices: floats as their shortest text with `.0` (`"1.0"`), bytes in
  lower-case hex, times with their nanoseconds, spans as `{"secs", "nanos"}` with
  `0 ≤ nanos < 10^9`, boxes as `[low, high]` and networks by their network address.
-/
namespace PgMigrate

namespace Codec

/-- The value of a hex digit of either case. -/
def hexDigit? (c : Char) : Option Nat :=
  if '0' ≤ c ∧ c ≤ '9' then some (c.toNat - '0'.toNat)
  else if 'a' ≤ c ∧ c ≤ 'f' then some (c.toNat - 'a'.toNat + 10)
  else if 'A' ≤ c ∧ c ≤ 'F' then some (c.toNat - 'A'.toNat + 10)
  else none

/-- Bytes from pairs of hex digits. -/
def hexBytes? : List Char → Option (List Nat)
  | [] => some []
  | a :: b :: rest => do
    let hi ← hexDigit? a
    let lo ← hexDigit? b
    pure ((hi * 16 + lo) :: (← hexBytes? rest))
  | [_] => none

/-- The number of a run of hex digits. -/
def hexNumber? (cs : List Char) : Option Nat :=
  cs.foldlM (fun acc c => (hexDigit? c).map (acc * 16 + ·)) 0

/-- Reads a hyphenated UUID `8-4-4-4-12`. -/
def hyphenatedUuid? (cs : List Char) : Option Nat :=
  let groups := (String.ofList cs).splitOn "-"
  if cs.length == 36 && groups.map String.length == [8, 4, 4, 4, 12] then
    hexNumber? (String.join groups).toList
  else none

/-- Reads a UUID: 32 hex digits, the hyphenated form, the hyphenated form in braces, or
    `urn:uuid:` and the hyphenated form. -/
def readUuid? (s : String) : Option Nat :=
  let cs := s.toList
  match cs.length with
  | 32 => hexNumber? cs
  | 36 => hyphenatedUuid? cs
  | 38 =>
    if cs.head? == some '{' && cs.getLast? == some '}' then hyphenatedUuid? (cs.drop 1).dropLast
    else none
  | 45 =>
    if "urn:uuid:".toList.isPrefixOf cs then hyphenatedUuid? (cs.drop 9) else none
  | _ => none

/-- Whether a string could be float text: only digits, signs, points and exponent marks. -/
def isFloatText (s : String) : Bool :=
  s.toList.all fun c => c.isDigit || c == '+' || c == '-' || c == '.' || c == 'e' || c == 'E'

/-- The float text of a JSON string: a named special or plain decimal text. -/
def floatText? (s : String) : Option FloatText :=
  if s == "NaN" then some .nan
  else if s == "Infinity" then some (.infinite false)
  else if s == "-Infinity" then some (.infinite true)
  else if isFloatText s then FloatText.read? s
  else none

/-- A double: a JSON number, rounded once, or float text. -/
def double? : Json → Option Binary64
  | .num n => some (Binary64.ofDecimal n.negative n.digits n.exponent)
  | .str s => (floatText? s).map FloatText.toBinary64
  | _ => none

/-- A single: a JSON number is first the nearest double; float text is rounded once. -/
def single? : Json → Option Binary32
  | .num n => some (Binary64.ofDecimal n.negative n.digits n.exponent).toBinary32
  | .str s => (floatText? s).map FloatText.toBinary32
  | _ => none

/-- The elements of an array of exactly `n` items. -/
def exactly (n : Nat) (j : Json) : Option (List Json) := do
  let items ← j.items?
  if items.length == n then some items else none

/-- Non-negative integers, each at most `hi`, from an array. -/
def nats (hi : Nat) (items : List Json) : Option (List Nat) :=
  items.mapM fun j => (Json.wireInt 0 hi j).map Int.toNat

/-- A point `[x, y]`. -/
def point? (j : Json) : Option Point := do
  match ← exactly 2 j with
  | [x, y] => pure ⟨← double? x, ← double? y⟩
  | _ => none

/-- A date `[year, month, day]`. -/
def date? (items : List Json) : Option Date := do
  match items with
  | [y, m, d] =>
    Date.mk? (← Json.wireInt i32Min i32Max y) (← Json.wireInt 0 u32Max m).toNat
      (← Json.wireInt 0 u32Max d).toNat
  | _ => none

/-- A time `[h, m, s]` or `[h, m, s, nanos]`. -/
def time? (items : List Json) : Option TimeOfDay := do
  let ns ← nats u32Max.toNat items
  match ns with
  | [h, m, s] => TimeOfDay.mk? h m s 0
  | [h, m, s, n] => TimeOfDay.mk? h m s n
  | _ => none

/-- A timestamp `[y, mo, d, h, mi, s]` or with nanoseconds. -/
def dateTime? (items : List Json) : Option DateTime := do
  if items.length == 6 || items.length == 7 then
    pure ⟨← date? (items.take 3), ← time? (items.drop 3)⟩
  else none

/-- An offset in seconds east, strictly within a day. -/
def offset? (j : Json) : Option Int := do
  let o ← Json.wireInt i32Min i32Max j
  if isValidOffset o then some o else none

/-- A span: microseconds, or `{"secs", "nanos"}`. -/
def duration? (j : Json) : Option Duration :=
  match j with
  | .obj _ => do
    let secs ← j.req "secs" (Json.wireInt i64Min i64Max)
    let nanos ← j.dflt "nanos" 0 (Json.wireInt 0 u32Max)
    let d : Duration := ⟨secs, nanos.toNat⟩
    if d.isValid then some d else none
  | _ => (Json.wireInt i64Min i64Max j).map Duration.ofMicros

/-- An address: four octets or eight segments. -/
def ipAddr? (j : Json) : Option IpAddr := do
  let items ← j.items?
  match items.length with
  | 4 => pure (.v4 (← nats 255 items))
  | 8 => pure (.v6 (← nats 65535 items))
  | _ => none

/-- A bit string of `0` and `1`. -/
def bits? (s : String) : Option (List Bool) :=
  s.toList.mapM fun c => if c == '0' then some false else if c == '1' then some true else none

/-- An `hstore` pair `[key, value-or-null]`. -/
def hstorePair? (j : Json) : Option (String × Option String) := do
  match ← exactly 2 j with
  | [k, v] => pure (← k.str?, ← if v.isNull then some none else v.str?.map some)
  | _ => none

/-- Reads a value (`fuel` bounds the nesting). -/
def valueFuel : Nat → Json → Option Value
  | 0, _ => none
  | fuel + 1, j =>
    match j with
    | .str "Null" => some .null
    | .obj [(key, body)] =>
      let bound : Json → Option (Bound Value) := fun b =>
        match b with
        | .str "Unbounded" => some .unbounded
        | .obj [("Included", v)] => (valueFuel fuel v).map .included
        | .obj [("Excluded", v)] => (valueFuel fuel v).map .excluded
        | _ => none
      match key with
      | "Null" => some .null
      | "Bool" => body.bool?.map .bool
      | "SmallInt" => (Json.wireInt i16Min i16Max body).map .smallInt
      | "Integer" => (Json.wireInt i32Min i32Max body).map .integer
      | "BigInt" => (Json.wireInt i64Min i64Max body).map .bigInt
      | "Real" => (single? body).map .real
      | "Double" => (double? body).map .double
      | "Text" => body.str?.map .text
      | "Bytes" => do pure (.bytes (← hexBytes? (← body.str?).toList))
      | "Uuid" => do pure (.uuid (← readUuid? (← body.str?)))
      | "Date" => do pure (.date (← date? (← body.items?)))
      | "Time" => do pure (.time (← time? (← body.items?)))
      | "Timestamp" => do pure (.timestamp (← dateTime? (← body.items?)))
      | "TimestampUtc" => do pure (.timestampUtc (← dateTime? (← body.items?)))
      | "TimestampTz" => do
        let items ← exactly 8 body
        let dt ← dateTime? (items.take 7)
        let o ← offset? (items.getD 7 .null)
        if (dt.toUtc o).date.isValid then pure (.timestampTz dt o) else none
      | "TimeTz" => do
        let items ← exactly 5 body
        pure (.timeTz (← time? (items.take 4)) (← offset? (items.getD 4 .null)))
      | "Interval" => (duration? body).map .interval
      | "MacAddr" => do pure (.macAddr (← nats 255 (← exactly 6 body)))
      | "MacAddr8" => do pure (.macAddr8 (← nats 255 (← exactly 8 body)))
      | "Inet" => (ipAddr? body).map .inet
      | "Cidr" => do
        let addr ← body.req "addr" ipAddr?
        let len ← body.req "len" (Json.wireInt 0 255)
        pure (.cidr (← Network.mk? addr len.toNat))
      | "Point" => (point? body).map .point
      | "Line" => do
        match ← exactly 3 body with
        | [a, b, c] => pure (.line (← double? a) (← double? b) (← double? c))
        | _ => none
      | "LineSegment" => do
        match ← exactly 2 body with
        | [p, q] => pure (.lineSegment (← point? p) (← point? q))
        | _ => none
      | "Box" => do
        match ← exactly 2 body with
        | [p, q] => pure (Value.boxOf (← point? p) (← point? q))
        | _ => none
      | "Path" => do
        let points ← body.req "points" (Json.list point?)
        let isOpen ← body.req "open" Json.boolean
        pure (.path points isOpen)
      | "Polygon" => do pure (.polygon (← Json.list point? body))
      | "Circle" => do
        match ← exactly 2 body with
        | [c, r] => pure (.circle (← point? c) (← double? r))
        | _ => none
      | "Bits" => do pure (.bits (← bits? (← body.str?)))
      | "Hstore" => do pure (.hstore (← Json.list hstorePair? body))
      | "Tid" => do
        match ← exactly 2 body with
        | [b, o] => pure (.tid (← Json.wireInt 0 u32Max b).toNat (← Json.wireInt 0 u16Max o).toNat)
        | _ => none
      | "Array" => do pure (.array (← (← body.items?).mapM (valueFuel fuel)))
      | "Range" =>
        match body with
        | .str "Empty" => some (.range .empty)
        | .obj _ => do
          let lower ← body.req "lower" bound
          let upper ← body.req "upper" bound
          pure (.range (.bounded lower upper))
        | _ => none
      | _ => none
    | _ => none

/-- Reads a value. -/
def value? (j : Json) : Option Value := valueFuel (j.depth + 1) j

/-- Reads a range bound: `"Unbounded"`, `{"Included": v}` or `{"Excluded": v}`. -/
def bound? : Json → Option (Bound Value)
  | .str "Unbounded" => some .unbounded
  | .obj [("Included", v)] => (value? v).map .included
  | .obj [("Excluded", v)] => (value? v).map .excluded
  | _ => none

/-- A double as a JSON number of its shortest digits; a NaN or infinity has no number and
    is `null`. -/
def numberJson (x : Binary64) : Json :=
  match x.value with
  | .finite neg m e =>
    let (c, k) := shortestDigits .binary64 m e
    .num ⟨neg, c, k, false⟩
  | _ => .null

/-- A double as written at the edge: `NaN`, `Infinity`, `-Infinity` or shortest digits. -/
def doubleJson (x : Binary64) : Json := .str (x.render .wire)

/-- A single as written at the edge. -/
def singleJson (x : Binary32) : Json := .str (x.render .wire)

/-- `[x, y]`. -/
def pointJson (p : Point) : Json := .arr [doubleJson p.x, doubleJson p.y]

/-- `[y, m, d]`. -/
def dateJson (d : Date) : Json := .arr [.int d.year, .int d.month, .int d.day]

/-- `[h, m, s, nanos]`. -/
def timeJson (t : TimeOfDay) : Json := .arr [.int t.hour, .int t.minute, .int t.second, .int t.nanos]

/-- `[y, mo, d, h, mi, s, nanos]`. -/
def dateTimeItems (dt : DateTime) : List Json :=
  [.int dt.date.year, .int dt.date.month, .int dt.date.day, .int dt.time.hour,
    .int dt.time.minute, .int dt.time.second, .int dt.time.nanos]

/-- An address's parts. -/
def ipJson : IpAddr → Json
  | .v4 octets => .arr (octets.map fun (o : Nat) => Json.int o)
  | .v6 segments => .arr (segments.map fun (s : Nat) => Json.int s)

mutual
/-- The JSON form of a value. -/
def valueJson : Value → Json
  | .null => .str "Null"
  | .bool b => .obj [("Bool", .bool b)]
  | .smallInt n => .obj [("SmallInt", .int n)]
  | .integer n => .obj [("Integer", .int n)]
  | .bigInt n => .obj [("BigInt", .int n)]
  | .real x => .obj [("Real", singleJson x)]
  | .double x => .obj [("Double", doubleJson x)]
  | .text s => .obj [("Text", .str s)]
  | .bytes bs => .obj [("Bytes", .str (String.join (bs.map hexByteLower)))]
  | .uuid n => .obj [("Uuid", .str (Literal.uuidText n))]
  | .date d => .obj [("Date", dateJson d)]
  | .timestamp dt => .obj [("Timestamp", .arr (dateTimeItems dt))]
  | .timestampUtc dt => .obj [("TimestampUtc", .arr (dateTimeItems dt))]
  | .timestampTz dt o => .obj [("TimestampTz", .arr (dateTimeItems dt ++ [.int o]))]
  | .time t => .obj [("Time", timeJson t)]
  | .timeTz t o =>
    .obj [("TimeTz", .arr [.int t.hour, .int t.minute, .int t.second, .int t.nanos, .int o])]
  | .interval d => .obj [("Interval", .obj [("secs", .int d.secs), ("nanos", .int d.nanos)])]
  | .macAddr bs => .obj [("MacAddr", .arr (bs.map fun (b : Nat) => Json.int b))]
  | .macAddr8 bs => .obj [("MacAddr8", .arr (bs.map fun (b : Nat) => Json.int b))]
  | .inet a => .obj [("Inet", ipJson a)]
  | .cidr n => .obj [("Cidr", .obj [("addr", ipJson n.addr), ("len", .int n.prefixLen)])]
  | .point p => .obj [("Point", pointJson p)]
  | .line a b c => .obj [("Line", .arr [doubleJson a, doubleJson b, doubleJson c])]
  | .lineSegment p q => .obj [("LineSegment", .arr [pointJson p, pointJson q])]
  | .box lo hi => .obj [("Box", .arr [pointJson lo, pointJson hi])]
  | .path ps isOpen =>
    .obj [("Path", .obj [("points", .arr (ps.map pointJson)), ("open", .bool isOpen)])]
  | .polygon ps => .obj [("Polygon", .arr (ps.map pointJson))]
  | .circle c r => .obj [("Circle", .arr [pointJson c, doubleJson r])]
  | .bits bs => .obj [("Bits", .str (String.ofList (bs.map fun b => if b then '1' else '0')))]
  | .hstore pairs =>
    .obj [("Hstore", .arr (pairs.map fun (k, v) => .arr [.str k, Json.optStr v]))]
  | .tid b o => .obj [("Tid", .arr [.int b, .int o])]
  | .array items => .obj [("Array", .arr (valuesJson items))]
  | .range r => .obj [("Range", rangeJson r)]

/-- The JSON forms of values. -/
def valuesJson : List Value → List Json
  | [] => []
  | v :: vs => valueJson v :: valuesJson vs

/-- The JSON form of a range. -/
def rangeJson : Range Value → Json
  | .empty => .str "Empty"
  | .bounded lower upper => .obj [("lower", boundJson lower), ("upper", boundJson upper)]

/-- The JSON form of a bound. -/
def boundJson : Bound Value → Json
  | .unbounded => .str "Unbounded"
  | .included v => .obj [("Included", valueJson v)]
  | .excluded v => .obj [("Excluded", valueJson v)]
end

end Codec

end PgMigrate
