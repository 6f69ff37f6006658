import PgMigrate.Literal.Error
import PgMigrate.Binary.Text
import PgMigrate.Time.Text
import PgMigrate.Text.Quote
/-
  The text of a scalar value, as the server reads it inside a quoted literal.

  Each pair of type and value kind that makes sense has one text: integers in decimal for
  the integer types and `numeric`; floats by their shortest digits, `NaN`, `Infinity` and
  `-Infinity` for the float types and `numeric`; text as itself for the text-like types and
  enums; UUIDs hyphenated in lower case; dates and times as `Date.render`,
  `TimeOfDay.render`, with ` UTC` or the offset for time stamps with time zone, `±H[:MM]`
  for times with time zone; spans as `Duration.render` when they fit the server's
  microsecond count; addresses in upper-case hex or their usual text; shapes with plainly
  written coordinates; bit strings as `0` and `1`.  Every other pair is `unmapped`.
-/
namespace PgMigrate

namespace Literal

/-- A double in an SQL text: `NaN`, `Infinity`, or its shortest digits. -/
def doubleText (x : Binary64) : String := x.render .sqlPlain

/-- A single in an SQL text. -/
def realText (x : Binary32) : String := x.render .sqlPlain

/-- A coordinate: its shortest digits, `NaN` or `inf`. -/
def coordText (x : Binary64) : String := x.render .plain

/-- `(x,y)`. -/
def pointText (p : Point) : String := "(" ++ coordText p.x ++ "," ++ coordText p.y ++ ")"

/-- Points joined by commas. -/
def pointsText (ps : List Point) : String := ",".intercalate (ps.map pointText)

/-- Bytes as upper-case hex pairs. -/
def hexUpperBytes (bs : List Nat) : String := String.join (bs.map hexByteUpper)

/-- A UUID in its hyphenated lower-case form. -/
def uuidText (n : Nat) : String :=
  let h := (Nat.toDigits 16 n)
  let h := String.ofList (List.replicate (32 - h.length) '0' ++ h)
  let cs := h.toList
  String.ofList (cs.take 8) ++ "-" ++ String.ofList ((cs.drop 8).take 4) ++ "-" ++
    String.ofList ((cs.drop 12).take 4) ++ "-" ++ String.ofList ((cs.drop 16).take 4) ++ "-" ++
    String.ofList (cs.drop 20)

/-- Whether a type holds integers as written in decimal. -/
def isIntegerTarget : SqlType → Bool
  | .smallInt | .integer | .bigInt | .numeric => true
  | _ => false

/-- Whether a type holds floats. -/
def isFloatTarget : SqlType → Bool
  | .real | .doublePrecision | .numeric => true
  | _ => false

/-- Whether a type holds plain text. -/
def isTextTarget : SqlType → Bool
  | .text | .json | .jsonb | .tsQuery | .tsVector => true
  | _ => false

/-- The text of a scalar value for a type. -/
def scalarText (v : Value) (t : SqlType) : Except LiteralError String :=
  let unmapped := Except.error (LiteralError.unmappedFor v t)
  match v, t with
  | .bool b, .boolean => .ok (if b then "true" else "false")
  | .smallInt n, t | .integer n, t | .bigInt n, t =>
    if isIntegerTarget t then .ok (toString n) else unmapped
  | .real x, t => if isFloatTarget t then .ok (realText x) else unmapped
  | .double x, t => if isFloatTarget t then .ok (doubleText x) else unmapped
  | .text s, .enum .. => .ok s
  | .text s, t => if isTextTarget t then .ok s else unmapped
  | .uuid n, .uuid => .ok (uuidText n)
  | .date d, .date => .ok d.render
  | .timestamp dt, .timestamp => .ok dt.render
  | .timestampUtc dt, .timestamp => .ok dt.render
  | .timestampTz dt _, .timestamp => .ok dt.render
  | .timestamp dt, .timestamptz => .ok (dt.render ++ " UTC")
  | .timestampUtc dt, .timestamptz => .ok (dt.render ++ " UTC")
  | .timestampTz dt o, .timestamptz => .ok (dt.render ++ offsetText o)
  | .time tm, .time => .ok tm.render
  | .timeTz tm o, .timetz => .ok (tm.render ++ shortOffsetText o)
  | .interval d, .interval =>
    match d.toMicros? with
    | none => .error (LiteralError.outOfRangeFor v t)
    | some _ => .ok d.render
  | .macAddr bs, .macAddr => .ok (hexUpperBytes bs)
  | .macAddr8 bs, .macAddr8 => .ok (hexUpperBytes bs)
  | .inet a, .inet => .ok a.render
  | .cidr n, .cidr => .ok n.render
  | .point p, .point => .ok (pointText p)
  | .line a b c, .line =>
    .ok ("\x7b" ++ coordText a ++ "," ++ coordText b ++ "," ++ coordText c ++ "\x7d")
  | .lineSegment p q, .lineSegment => .ok ("[" ++ pointText p ++ "," ++ pointText q ++ "]")
  | .box lo hi, .box => .ok ("(" ++ pointText hi ++ "," ++ pointText lo ++ ")")
  | .path ps isOpen, .path =>
    .ok (if isOpen then "[" ++ pointsText ps ++ "]" else "(" ++ pointsText ps ++ ")")
  | .polygon ps, .polygon => .ok ("(" ++ pointsText ps ++ ")")
  | .circle c r, .circle => .ok ("<" ++ pointText c ++ "," ++ coordText r ++ ">")
  | .bits bs, .bit | .bits bs, .varBit => .ok (String.ofList (bs.map fun b => if b then '1' else '0'))
  | .tid b o, .tid => .ok ("(" ++ toString b ++ "," ++ toString o ++ ")")
  | _, _ => unmapped

end Literal

end PgMigrate
