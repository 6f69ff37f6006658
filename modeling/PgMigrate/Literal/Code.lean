import PgMigrate.Literal.Scalar
import PgMigrate.Text.Words
/-
  Constructor expressions for generated model code.

  Each expression builds the same value by hand: `42_i64`, `1.5_f32`, `"it's"`,
  `NaiveDate::from_ymd_opt(2015, 3, 12).unwrap()`, `Point::new(3.5, 4.5)`,
  `Mood::Happy`, `vec![…]`, `Range::new(Bound::Included(4.into()), Bound::Unbounded)`.

  Floats are written in their shortest form with a `.0` or exponent as needed, and NaN or
  the infinities by their named constants.  A double for a `real` column is first narrowed
  to a single.  Times keep microseconds only (a leap second's extra second shows as a
  microsecond count past a million).  A range bound must be a scalar: `NULL`, bytes, maps,
  arrays and ranges have no bound expression.
-/
namespace PgMigrate

namespace Literal

/-- A double: shortest digits, or its named constant. -/
def doubleCode (x : Binary64) : String :=
  match x.value with
  | .nan => "f64::NAN"
  | .infinite neg => if neg then "f64::NEG_INFINITY" else "f64::INFINITY"
  | _ => x.render .tagged

/-- A single with its suffix, or its named constant. -/
def realCode (x : Binary32) : String :=
  match x.value with
  | .nan => "f32::NAN"
  | .infinite neg => if neg then "f32::NEG_INFINITY" else "f32::INFINITY"
  | _ => x.render .tagged ++ "_f32"

/-- An integer, suffixed for the width the type asks for. -/
def integerCode (n : Int) : SqlType → String
  | .smallInt => toString n ++ "_i16"
  | .bigInt => toString n ++ "_i64"
  | _ => toString n

/-- `[0xDE, 0xAD]`. -/
def bytesCode (bs : List Nat) : String :=
  "[" ++ ", ".intercalate (bs.map fun b => "0x" ++ hexByteUpper b) ++ "]"

/-- A date's constructor. -/
def dateCode (d : Date) : String :=
  "NaiveDate::from_ymd_opt(" ++ toString d.year ++ ", " ++ toString d.month ++ ", " ++
    toString d.day ++ ").unwrap()"

/-- The time part of a constructor name with its arguments. -/
def timeArgs (t : TimeOfDay) : String :=
  let micros := t.nanos / 1000
  let hms := toString t.hour ++ ", " ++ toString t.minute ++ ", " ++ toString t.second
  if micros == 0 then "hms_opt(" ++ hms ++ ")"
  else "hms_micro_opt(" ++ hms ++ ", " ++ toString micros ++ ")"

/-- A time of day's constructor. -/
def timeCode (t : TimeOfDay) : String := "NaiveTime::from_" ++ timeArgs t ++ ".unwrap()"

/-- A timestamp's constructor. -/
def timestampCode (dt : DateTime) : String :=
  dateCode dt.date ++ ".and_" ++ timeArgs dt.time ++ ".unwrap()"

/-- An offset's constructor. -/
def offsetCode (o : Int) : String := "FixedOffset::east_opt(" ++ toString o ++ ").unwrap()"

/-- An address's constructor. -/
def ipCode : IpAddr → String
  | .v4 octets => "IpAddr::V4(Ipv4Addr::new(" ++ ", ".intercalate (octets.map toString) ++ "))"
  | .v6 segments =>
    "IpAddr::V6(Ipv6Addr::new(" ++ ", ".intercalate (segments.map fun s => "0x" ++ hexLower s) ++ "))"

/-- `(x, y)`. -/
def coordCode (p : Point) : String := "(" ++ doubleCode p.x ++ ", " ++ doubleCode p.y ++ ")"

/-- `vec![(x, y), …]`. -/
def coordsCode (ps : List Point) : String := "vec![" ++ ", ".intercalate (ps.map coordCode) ++ "]"

/-- Whether a value can stand as a range bound. -/
def isScalar : Value → Bool
  | .null | .bytes _ | .hstore _ | .array _ | .range _ => false
  | _ => true

/-- An `hstore` pair's constructor. -/
def hstorePairCode : String × Option String → String
  | (k, some v) => "(" ++ sourceQuote k ++ ".to_string(), Some(" ++ sourceQuote v ++ ".to_string()))"
  | (k, none) => "(" ++ sourceQuote k ++ ".to_string(), None)"

mutual
/-- The constructor expression of a value of a type. -/
def codeOf : Value → SqlType → Except LiteralError String
  | .null, _ => .ok "None"
  | .bool b, .boolean => .ok (if b then "true" else "false")
  | v@(.smallInt n), t | v@(.integer n), t | v@(.bigInt n), t =>
    if isIntegerTarget t then .ok (integerCode n t) else .error (LiteralError.unmappedFor v t)
  | .real x, .real => .ok (realCode x)
  | .double x, .real => .ok (realCode x.toBinary32)
  | .real x, .doublePrecision | .real x, .numeric => .ok (doubleCode x.toBinary64)
  | .double x, .doublePrecision | .double x, .numeric => .ok (doubleCode x)
  | .text s, .text | .text s, .json | .text s, .jsonb | .text s, .tsQuery | .text s, .tsVector =>
    .ok (sourceQuote s)
  | .text label, .enum _ name => .ok (upperCamel name ++ "::" ++ upperCamel label)
  | .bytes bs, .bytea => .ok ("vec!" ++ bytesCode bs)
  | .uuid n, .uuid =>
    let h := Nat.toDigits 16 n
    .ok ("Uuid::from_u128(0x" ++ String.ofList (List.replicate (32 - h.length) '0' ++ h) ++ ")")
  | .date d, .date => .ok (dateCode d)
  | .timestamp dt, .timestamp | .timestampUtc dt, .timestamp | .timestampTz dt _, .timestamp =>
    .ok (timestampCode dt)
  | .timestamp dt, .timestamptz | .timestampUtc dt, .timestamptz =>
    .ok (timestampCode dt ++ ".and_utc()")
  | .timestampTz dt o, .timestamptz =>
    .ok (timestampCode dt ++ ".and_local_timezone(" ++ offsetCode o ++ ").unwrap()")
  | .time tm, .time => .ok (timeCode tm)
  | .timeTz tm o, .timetz => .ok ("TimeTz::new(" ++ timeCode tm ++ ", " ++ offsetCode o ++ ")")
  | v@(.interval d), t@.interval =>
    match d.toMicros? with
    | some m => .ok ("TimeDelta::microseconds(" ++ toString m ++ ")")
    | none => .error (LiteralError.outOfRangeFor v t)
  | .macAddr bs, .macAddr => .ok (bytesCode bs)
  | .macAddr8 bs, .macAddr8 => .ok (bytesCode bs)
  | .inet a, .inet => .ok (ipCode a)
  | .cidr n, .cidr => .ok ("IpCidr::new(" ++ ipCode n.addr ++ ", " ++ toString n.prefixLen ++ ").unwrap()")
  | .point p, .point => .ok ("Point::new(" ++ doubleCode p.x ++ ", " ++ doubleCode p.y ++ ")")
  | .line a b c, .line =>
    .ok ("Line::new(" ++ doubleCode a ++ ", " ++ doubleCode b ++ ", " ++ doubleCode c ++ ")")
  | .lineSegment p q, .lineSegment =>
    .ok ("geo_types::Line::new(" ++ coordCode p ++ ", " ++ coordCode q ++ ")")
  | .box lo hi, .box => .ok ("Rect::new(" ++ coordCode hi ++ ", " ++ coordCode lo ++ ")")
  | .path ps isOpen, .path =>
    .ok ("Path::new(" ++ coordsCode ps ++ ", " ++ (if isOpen then "true" else "false") ++ ")")
  | .polygon ps, .polygon => .ok ("LineString::from(" ++ coordsCode ps ++ ")")
  | .circle c r, .circle =>
    .ok ("Circle::new(Point::new(" ++ doubleCode c.x ++ ", " ++ doubleCode c.y ++ "), " ++
      doubleCode r ++ ")")
  | .bits bs, .bit | .bits bs, .varBit =>
    .ok ("BitVec::from_iter([" ++ ", ".intercalate (bs.map fun b => if b then "true" else "false") ++ "])")
  | .hstore pairs, .hstore => .ok ("vec![" ++ ", ".intercalate (pairs.map hstorePairCode) ++ "]")
  | .tid b o, .tid => .ok ("Tid::new(" ++ toString b ++ ", " ++ toString o ++ ")")
  | .array items, .array element => do
    pure ("vec![" ++ ", ".intercalate (← codeItems element items) ++ "]")
  | .range .empty, .range .. => .ok "Range::Empty"
  | .range (.bounded lower upper), .range _ _ subtype => do
    pure ("Range::new(" ++ (← boundCode lower subtype) ++ ", " ++ (← boundCode upper subtype) ++ ")")
  | v, t => .error (LiteralError.unmappedFor v t)

/-- The constructor expressions of array items. -/
def codeItems (element : SqlType) : List Value → Except LiteralError (List String)
  | [] => .ok []
  | v :: vs => do pure ((← codeOf v element) :: (← codeItems element vs))

/-- A range bound's constructor; its value must be a scalar. -/
def boundCode : Bound Value → SqlType → Except LiteralError String
  | .unbounded, _ => .ok "Bound::Unbounded"
  | .included v, t =>
    if isScalar v then do pure ("Bound::Included(" ++ (← codeOf v t) ++ ".into())")
    else .error (LiteralError.unmappedFor v t)
  | .excluded v, t =>
    if isScalar v then do pure ("Bound::Excluded(" ++ (← codeOf v t) ++ ".into())")
    else .error (LiteralError.unmappedFor v t)
end

end Literal

end PgMigrate
