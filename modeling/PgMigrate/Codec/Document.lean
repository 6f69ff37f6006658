import PgMigrate.Codec.Value
import PgMigrate.Time.Parse
import PgMigrate.Time.Text
/-
  The document form of values: how a value is saved as a self-describing JSON document and
  read back.

  A document names its kind as the one key of an object, `{"Integer": 4}`, or as a bare
  string for the kind with no content, `"Null"`.  Inside, every part takes the form of its
  own type:

  * integers are JSON integers of their width; floats are JSON numbers (`null` for a NaN or
    an infinity, which therefore has no way back); a single is saved widened to a double;
  * dates, times and timestamps are ISO 8601 text (`2024-02-29`, `23:59:60.5` for a leap
    second, `2024-02-29T10:00:00`); a zoned timestamp is RFC 3339 text whose offset is `Z`
    for zero and otherwise `±HH:MM` rounded to the minute;
  * a span is a count of microseconds, truncated toward zero; a span whose count does not
    fit in 64 bits has no document (`intervalOutOfRange`);
  * a zoned time is `{"time", "offset"}`, the offset in seconds east; reading an offset
    that is a 32-bit integer outside a day is `offsetOutOfRange`;
  * addresses and networks are their text (a single host without its `/length`); UUIDs are
    hyphenated lower-case hex;
  * shapes are objects of coordinates `{"x", "y"}`; a bit string is
    `{"storage", "nbits"}`, bit `i` being bit `i % 32` of word `i / 32`;
  * a range is `"Empty"` or `{"Bounded": {"lower", "upper"}}`, a bound `"Unbounded"`,
    `{"Included": v}` or `{"Excluded": v}`.

  Reading accepts what a reader of these forms accepts: a kind with no content may also be
  written `{"Null": null}`; a record may be an object (unknown members skipped) or an array
  of its fields in order.  A record's members are read in the order they come, keys sorted,
  and the first failure is the answer.
-/
namespace PgMigrate

/-- Why a value has no document, or a document is no value. -/
inductive DocumentError where
  /-- A span whose whole microseconds do not fit in 64 bits. -/
  | intervalOutOfRange
  /-- A zoned time whose offset is a 32-bit integer but not within one day. -/
  | offsetOutOfRange
  /-- A document that is no value for any other reason. -/
  | malformed
deriving Repr, DecidableEq, Inhabited

namespace DocumentError

/-- The text of the error. -/
def message : DocumentError → String
  | .intervalOutOfRange => "interval out of microsecond range"
  | .offsetOutOfRange => "utc offset out of range"
  | .malformed => "not a value document"

end DocumentError

namespace Document

/-- The outcome of writing or reading a document. -/
abbrev Outcome (α : Type) := Except DocumentError α

/-- A document that is no value. -/
def fail {α : Type} : Outcome α := .error .malformed

/-- A value read by a partial reader; nothing read is a malformed document. -/
def lift {α : Type} : Option α → Outcome α
  | some a => .ok a
  | none => fail

/-- `{kind: body}`. -/
def tagged (kind : String) (body : Json) : Json := .obj [(kind, body)]

/-- A point as `{"x", "y"}`. -/
def coordJson (p : Point) : Json := .obj [("x", Codec.numberJson p.x), ("y", Codec.numberJson p.y)]

/-- An offset as RFC 3339 writes it: `Z` for zero, else `±HH:MM` rounded to the minute. -/
def zoneText (offset : Int) : String :=
  if offset == 0 then "Z"
  else
    let minutes := (offset.natAbs + 30) / 60
    (if offset < 0 then "-" else "+") ++ pad2 (minutes / 60) ++ ":" ++ pad2 (minutes % 60)

/-- A zoned timestamp in RFC 3339, from its local time and offset. -/
def zonedText (wall : DateTime) (offset : Int) : String := wall.renderIso ++ zoneText offset

/-- A word of up to 32 bits, the first bit lowest. -/
def bitWord (bs : List Bool) : Nat := bs.foldr (fun b acc => acc * 2 + if b then 1 else 0) 0

/-- The 32-bit words holding a bit string: bit `i` is bit `i % 32` of word `i / 32`. -/
def bitWords (bs : List Bool) : List Nat :=
  (List.range ((bs.length + 31) / 32)).map fun w => bitWord ((bs.drop (32 * w)).take 32)

/-- The first `n` bits of a list of 32-bit words, if the words hold that many. -/
def wordBits (words : List Nat) (n : Nat) : Option (List Bool) :=
  if n ≤ 32 * words.length then
    some ((List.range n).map fun i => (words.getD (i / 32) 0).testBit (i % 32))
  else none

mutual
/-- The document of a value. -/
def ofValue : Value → Outcome Json
  | .null => pure (.str "Null")
  | .bool b => pure (tagged "Bool" (.bool b))
  | .smallInt n => pure (tagged "SmallInt" (.int n))
  | .integer n => pure (tagged "Integer" (.int n))
  | .bigInt n => pure (tagged "BigInt" (.int n))
  | .real x => pure (tagged "Real" (Codec.numberJson x.toBinary64))
  | .double x => pure (tagged "Double" (Codec.numberJson x))
  | .text s => pure (tagged "Text" (.str s))
  | .bytes bs => pure (tagged "Bytes" (.arr (bs.map fun (b : Nat) => Json.int b)))
  | .uuid n => pure (tagged "Uuid" (.str (Literal.uuidText n)))
  | .date d => pure (tagged "Date" (.str d.render))
  | .timestamp dt => pure (tagged "Timestamp" (.str dt.renderIso))
  | .timestampUtc dt => pure (tagged "TimestampUtc" (.str (zonedText dt 0)))
  | .timestampTz dt o => pure (tagged "TimestampTz" (.str (zonedText dt o)))
  | .time t => pure (tagged "Time" (.str t.renderIso))
  | .timeTz t o => pure (tagged "TimeTz" (.obj [("time", .str t.renderIso), ("offset", .int o)]))
  | .interval d =>
    match d.toMicros? with
    | some micros => pure (tagged "Interval" (.int micros))
    | none => .error .intervalOutOfRange
  | .macAddr bs => pure (tagged "MacAddr" (.arr (bs.map fun (b : Nat) => Json.int b)))
  | .macAddr8 bs => pure (tagged "MacAddr8" (.arr (bs.map fun (b : Nat) => Json.int b)))
  | .inet a => pure (tagged "Inet" (.str a.render))
  | .cidr n => pure (tagged "Cidr" (.str n.renderShort))
  | .point p => pure (tagged "Point" (coordJson p))
  | .line a b c =>
    pure (tagged "Line" (.obj [("a", Codec.numberJson a), ("b", Codec.numberJson b),
      ("c", Codec.numberJson c)]))
  | .lineSegment p q => pure (tagged "LineSegment" (.obj [("start", coordJson p), ("end", coordJson q)]))
  | .box lo hi => pure (tagged "Box" (.obj [("min", coordJson lo), ("max", coordJson hi)]))
  | .path ps isOpen =>
    pure (tagged "Path" (.obj [("points", .arr (ps.map coordJson)), ("open", .bool isOpen)]))
  | .polygon ps => pure (tagged "Polygon" (.arr (ps.map coordJson)))
  | .circle c r => pure (tagged "Circle" (.obj [("center", coordJson c), ("radius", Codec.numberJson r)]))
  | .bits bs =>
    pure (tagged "Bits" (.obj [("storage", .arr ((bitWords bs).map fun (w : Nat) => Json.int w)),
      ("nbits", .int bs.length)]))
  | .hstore pairs => pure (tagged "Hstore" (.arr (pairs.map fun (k, v) => .arr [.str k, Json.optStr v])))
  | .tid b o => pure (tagged "Tid" (.obj [("block", .int b), ("offset", .int o)]))
  | .array items => do pure (tagged "Array" (.arr (← ofValues items)))
  | .range r => do pure (tagged "Range" (← ofRange r))

/-- The documents of values, in order. -/
def ofValues : List Value → Outcome (List Json)
  | [] => pure []
  | v :: vs => do pure ((← ofValue v) :: (← ofValues vs))

/-- The document of a range. -/
def ofRange : Range Value → Outcome Json
  | .empty => pure (.str "Empty")
  | .bounded lower upper => do
    pure (tagged "Bounded" (.obj [("lower", ← ofBound lower), ("upper", ← ofBound upper)]))

/-- The document of a range bound. -/
def ofBound : Bound Value → Outcome Json
  | .unbounded => pure (.str "Unbounded")
  | .included v => do pure (tagged "Included" (← ofValue v))
  | .excluded v => do pure (tagged "Excluded" (← ofValue v))
end

/-- The kind a document names and its content, if any. -/
def variant : Json → Outcome (String × Option Json)
  | .str kind => pure (kind, none)
  | .obj [(kind, body)] => pure (kind, some body)
  | _ => fail

/-- The content of a kind that has none: nothing, or `null`. -/
def unit : Option Json → Outcome Unit
  | none | some .null => pure ()
  | _ => fail

/-- The content of a kind that has one. -/
def content : Option Json → Outcome Json
  | some body => pure body
  | none => fail

/-- A JSON integer within bounds. -/
def integer (lo hi : Int) : Json → Outcome Int
  | .num n =>
    match n.toInt? with
    | some i => if lo ≤ i ∧ i ≤ hi then pure i else fail
    | none => fail
  | _ => fail

/-- A natural number of at most `hi`. -/
def natural (hi : Nat) (j : Json) : Outcome Nat := do pure (← integer 0 hi j).toNat

/-- A double: any JSON number, rounded once. -/
def double : Json → Outcome Binary64
  | .num n => pure (Binary64.ofDecimal n.negative n.digits n.exponent)
  | _ => fail

/-- A single: a 64-bit integer is rounded once; any other number is first the nearest
    double. -/
def single : Json → Outcome Binary32
  | .num n =>
    match n.toInt? with
    | some i =>
      if i64Min ≤ i ∧ i ≤ u64Max then pure (Binary32.ofDecimal (i < 0) i.natAbs 0)
      else pure (Binary64.ofDecimal n.negative n.digits n.exponent).toBinary32
    | none => pure (Binary64.ofDecimal n.negative n.digits n.exponent).toBinary32
  | _ => fail

/-- A string. -/
def text : Json → Outcome String
  | .str s => pure s
  | _ => fail

/-- A boolean. -/
def boolean : Json → Outcome Bool
  | .bool b => pure b
  | _ => fail

/-- The items of an array. -/
def items : Json → Outcome (List Json)
  | .arr xs => pure xs
  | _ => fail

/-- The items of an array of exactly `n` items. -/
def exactly (n : Nat) (j : Json) : Outcome (List Json) := do
  let xs ← items j
  if xs.length == n then pure xs else fail

/-- The members of a record with the given fields, in the order a reader meets them, each
    with its field's position.  An object gives its members that name a field, in key
    order; an array gives its items, in field order.  The flag says whether every field is
    there (and an array has no item left over). -/
def members (fields : List String) : Json → Outcome (List (Nat × Json) × Bool)
  | .obj ms =>
    pure (ms.filterMap (fun (k, v) => (fields.idxOf? k).map fun i => (i, v)),
      fields.all fun f => ms.any fun (k, _) => k == f)
  | .arr xs => pure (((List.range xs.length).zip xs).take fields.length, xs.length == fields.length)
  | _ => fail

/-- A record's member at a position. -/
def field (ms : List (Nat × Json)) (i : Nat) : Outcome Json := lift (ms.lookup i)

/-- A record whose members are read by one reader: each is read in the order met, then the
    record must be whole. -/
def record {α : Type} (fields : List String) (read : Json → Outcome α) (j : Json) :
    Outcome (List (Nat × α)) := do
  let (ms, whole) ← members fields j
  let parts ← ms.mapM fun (i, v) => do pure (i, ← read v)
  if whole then pure parts else fail

/-- A record's part at a position. -/
def part {α : Type} (ps : List (Nat × α)) (i : Nat) : Outcome α := lift (ps.lookup i)

/-- A point `{"x", "y"}`. -/
def coord (j : Json) : Outcome Point := do
  let ps ← record ["x", "y"] double j
  pure ⟨← part ps 0, ← part ps 1⟩

/-- Points in an array. -/
def coords (j : Json) : Outcome (List Point) := do (← items j).mapM coord

/-- Two points under the given field names. -/
def twoCoords (first second : String) (j : Json) : Outcome (Point × Point) := do
  let ps ← record [first, second] coord j
  pure (← part ps 0, ← part ps 1)

/-- An offset in seconds east: a 32-bit integer, then within one day. -/
def offset (j : Json) : Outcome Int := do
  let o ← integer i32Min i32Max j
  if isValidOffset o then pure o else .error .offsetOutOfRange

/-- A time of day in ISO text. -/
def timeOfDay (j : Json) : Outcome TimeOfDay := do lift (readIsoTime? (← text j))

/-- A zoned time `{"time", "offset"}`: the members are read in the order met, and the first
    failure is the answer. -/
def zonedTime (j : Json) : Outcome Value := do
  let (ms, whole) ← members ["time", "offset"] j
  ms.forM fun (i, v) => if i == 0 then discard (timeOfDay v) else discard (offset v)
  if whole then pure (.timeTz (← timeOfDay (← field ms 0)) (← offset (← field ms 1))) else fail

/-- An `hstore` pair `[key, value-or-null]`. -/
def hstorePair (j : Json) : Outcome (String × Option String) := do
  match ← exactly 2 j with
  | [k, v] => pure (← text k, ← if v.isNull then pure none else some <$> text v)
  | _ => fail

/-- A bit string `{"storage", "nbits"}`. -/
def bitString (j : Json) : Outcome (List Bool) := do
  let (ms, whole) ← members ["storage", "nbits"] j
  if !whole then fail
  let words ← (← items (← field ms 0)).mapM (natural u32Max.toNat)
  let n ← natural u64Max.toNat (← field ms 1)
  lift (wordBits words n)

/-- Reads a value (`fuel` bounds the nesting). -/
def toValueFuel : Nat → Json → Outcome Value
  | 0, _ => fail
  | fuel + 1, j => do
    let bound : Json → Outcome (Bound Value) := fun b => do
      let (kind, body) ← variant b
      match kind with
      | "Unbounded" => do
        unit body
        pure .unbounded
      | "Included" => do pure (.included (← toValueFuel fuel (← content body)))
      | "Excluded" => do pure (.excluded (← toValueFuel fuel (← content body)))
      | _ => fail
    let (kind, body) ← variant j
    if kind == "Null" then
      unit body
      pure .null
    else
      let body ← content body
      match kind with
      | "Bool" => .bool <$> boolean body
      | "SmallInt" => .smallInt <$> integer i16Min i16Max body
      | "Integer" => .integer <$> integer i32Min i32Max body
      | "BigInt" => .bigInt <$> integer i64Min i64Max body
      | "Real" => .real <$> single body
      | "Double" => .double <$> double body
      | "Text" => .text <$> text body
      | "Bytes" => do pure (.bytes (← (← items body).mapM (natural 255)))
      | "Uuid" => do pure (.uuid (← lift (Codec.readUuid? (← text body))))
      | "Date" => do pure (.date (← lift (readIsoDate? (← text body))))
      | "Timestamp" => do pure (.timestamp (← lift (readIsoTimestamp? (← text body))))
      | "TimestampUtc" => do
        let (wall, o) ← lift (readIsoZoned? (← text body))
        pure (.timestampUtc (wall.toUtc o))
      | "TimestampTz" => do
        let (wall, o) ← lift (readIsoZoned? (← text body))
        pure (.timestampTz wall o)
      | "Time" => .time <$> timeOfDay body
      | "TimeTz" => zonedTime body
      | "Interval" => do pure (.interval (Duration.ofMicros (← integer i64Min i64Max body)))
      | "MacAddr" => do pure (.macAddr (← (← exactly 6 body).mapM (natural 255)))
      | "MacAddr8" => do pure (.macAddr8 (← (← exactly 8 body).mapM (natural 255)))
      | "Inet" => do pure (.inet (← lift (IpAddr.parse? (← text body))))
      | "Cidr" => do pure (.cidr (← lift (Network.parse? (← text body))))
      | "Point" => .point <$> coord body
      | "Line" => do
        let ps ← record ["a", "b", "c"] double body
        pure (.line (← part ps 0) (← part ps 1) (← part ps 2))
      | "LineSegment" => do
        let (p, q) ← twoCoords "start" "end" body
        pure (.lineSegment p q)
      | "Box" => do
        let (lo, hi) ← twoCoords "min" "max" body
        pure (.box lo hi)
      | "Path" => do
        let (ms, whole) ← members ["points", "open"] body
        if !whole then fail
        pure (.path (← coords (← field ms 0)) (← boolean (← field ms 1)))
      | "Polygon" => .polygon <$> coords body
      | "Circle" => do
        let (ms, whole) ← members ["center", "radius"] body
        if !whole then fail
        pure (.circle (← coord (← field ms 0)) (← double (← field ms 1)))
      | "Bits" => .bits <$> bitString body
      | "Hstore" => do pure (.hstore (← (← items body).mapM hstorePair))
      | "Tid" => do
        let (ms, whole) ← members ["block", "offset"] body
        if !whole then fail
        pure (.tid (← natural u32Max.toNat (← field ms 0)) (← natural u16Max.toNat (← field ms 1)))
      | "Array" => do pure (.array (← (← items body).mapM (toValueFuel fuel)))
      | "Range" => do
        let (rangeKind, rangeBody) ← variant body
        match rangeKind with
        | "Empty" => do
          unit rangeBody
          pure (.range .empty)
        | "Bounded" => do
          match ← content rangeBody with
          | .obj ms =>
            let bs ← record ["lower", "upper"] bound (.obj ms)
            pure (.range (.bounded (← part bs 0) (← part bs 1)))
          | _ => fail
        | _ => fail
      | _ => fail

/-- Reads a value from its document. -/
def toValue (j : Json) : Outcome Value := toValueFuel (j.depth + 1) j

/-- Whether a value's document reads back as an equal value. -/
def roundTrips (v : Value) : Bool :=
  match ofValue v with
  | .ok j =>
    match toValue j with
    | .ok w => v.beq w
    | .error _ => false
  | .error _ => false

end Document

end PgMigrate
