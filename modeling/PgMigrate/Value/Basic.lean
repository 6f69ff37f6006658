import PgMigrate.Binary.Format
import PgMigrate.Time.Calendar
import PgMigrate.Net
/-
  Values a column can hold.

  `Value` has one constructor per kind of value the server stores: integers of three
  widths, floats of two, text, bytes, UUIDs, dates and times (naive, UTC, or local with an
  offset), spans, hardware and network addresses, the geometric shapes, bit strings,
  `hstore` maps, tuple ids, arrays and ranges.  A range is empty or has two bounds, each
  unbounded, included or excluded.

  `Value.kind` names the kind in error messages.  `Value.beq` is equality as the values
  mean it: floats compare as IEEE numbers (a NaN equals nothing, `0.0 = -0.0`), and two
  timestamps with offsets are equal when they name the same instant.
-/
namespace PgMigrate

/-- A point of the plane. -/
structure Point where
  x : Binary64
  y : Binary64
deriving Repr, DecidableEq, Inhabited

/-- One end of a range. -/
inductive Bound (α : Type) where
  | unbounded
  | included (a : α)
  | excluded (a : α)
deriving Repr, Inhabited

/-- A range of values: empty, or between two bounds. -/
inductive Range (α : Type) where
  | empty
  | bounded (lower upper : Bound α)
deriving Repr, Inhabited

/-- A value of some column type. -/
inductive Value where
  | null
  | bool (b : Bool)
  | smallInt (n : Int)
  | integer (n : Int)
  | bigInt (n : Int)
  | real (x : Binary32)
  | double (x : Binary64)
  | text (s : String)
  | bytes (bs : List Nat)
  | uuid (n : Nat)
  | date (d : Date)
  | timestamp (t : DateTime)
  | timestampUtc (t : DateTime)
  | timestampTz (wall : DateTime) (offset : Int)
  | time (t : TimeOfDay)
  | timeTz (t : TimeOfDay) (offset : Int)
  | interval (d : Duration)
  | macAddr (bs : List Nat)
  | macAddr8 (bs : List Nat)
  | inet (a : IpAddr)
  | cidr (n : Network)
  | point (p : Point)
  | line (a b c : Binary64)
  | lineSegment (start finish : Point)
  | box (low high : Point)
  | path (points : List Point) (isOpen : Bool)
  | polygon (points : List Point)
  | circle (center : Point) (radius : Binary64)
  | bits (bs : List Bool)
  | hstore (pairs : List (String × Option String))
  | tid (block offset : Nat)
  | array (items : List Value)
  | range (r : Range Value)
deriving Repr, Inhabited

namespace Range

/-- Both ends included. -/
def inclusive {α : Type} (lo hi : α) : Range α := .bounded (.included lo) (.included hi)

/-- The lower end included, the upper excluded. -/
def closedOpen {α : Type} (lo hi : α) : Range α := .bounded (.included lo) (.excluded hi)

/-- Whether the range is the empty range. -/
def isEmpty {α : Type} : Range α → Bool
  | .empty => true
  | _ => false

end Range

namespace Value

/-- The name of a value's kind. -/
def kind : Value → String
  | .null => "null"
  | .bool _ => "bool"
  | .smallInt _ => "smallint"
  | .integer _ => "integer"
  | .bigInt _ => "bigint"
  | .real _ => "real"
  | .double _ => "double"
  | .text _ => "text"
  | .bytes _ => "bytes"
  | .uuid _ => "uuid"
  | .date _ => "date"
  | .timestamp _ => "timestamp"
  | .timestampUtc _ => "timestamp (utc)"
  | .timestampTz .. => "timestamp (offset)"
  | .time _ => "time"
  | .timeTz .. => "timetz"
  | .interval _ => "interval"
  | .macAddr _ => "macaddr"
  | .macAddr8 _ => "macaddr8"
  | .inet _ => "inet"
  | .cidr _ => "cidr"
  | .point _ => "point"
  | .line .. => "line"
  | .lineSegment .. => "lseg"
  | .box .. => "box"
  | .path .. => "path"
  | .polygon _ => "polygon"
  | .circle .. => "circle"
  | .bits _ => "bits"
  | .hstore _ => "hstore"
  | .tid .. => "tid"
  | .array _ => "array"
  | .range _ => "range"

/-- A box from two opposite corners: on each axis the smaller coordinate is the low one
    (when the comparison fails, as with a NaN, the second corner's is). -/
def boxOf (c₁ c₂ : Point) : Value :=
  let order := fun (a b : Binary64) => if a.value.ieeeLt b.value then (a, b) else (b, a)
  let (x₀, x₁) := order c₁.x c₂.x
  let (y₀, y₁) := order c₁.y c₂.y
  .box ⟨x₀, y₀⟩ ⟨x₁, y₁⟩

end Value

namespace Point

/-- Equality of both coordinates as IEEE numbers. -/
def ieeeEq (p q : Point) : Bool := p.x.ieeeEq q.x && p.y.ieeeEq q.y

end Point

/-- Pointwise equality of two lists under a test. -/
def listEq {α : Type} (eq : α → α → Bool) : List α → List α → Bool
  | [], [] => true
  | a :: as, b :: bs => eq a b && listEq eq as bs
  | _, _ => false

namespace Value

mutual
/-- Equality as values (IEEE floats, instants for zoned timestamps). -/
def beq : Value → Value → Bool
  | .null, .null => true
  | .bool a, .bool b => a == b
  | .smallInt a, .smallInt b => a == b
  | .integer a, .integer b => a == b
  | .bigInt a, .bigInt b => a == b
  | .real a, .real b => a.ieeeEq b
  | .double a, .double b => a.ieeeEq b
  | .text a, .text b => a == b
  | .bytes a, .bytes b => a == b
  | .uuid a, .uuid b => a == b
  | .date a, .date b => a == b
  | .timestamp a, .timestamp b => a == b
  | .timestampUtc a, .timestampUtc b => a == b
  | .timestampTz a o, .timestampTz b p => a.toUtc o == b.toUtc p
  | .time a, .time b => a == b
  | .timeTz a o, .timeTz b p => a == b && o == p
  | .interval a, .interval b => a == b
  | .macAddr a, .macAddr b => a == b
  | .macAddr8 a, .macAddr8 b => a == b
  | .inet a, .inet b => a == b
  | .cidr a, .cidr b => a == b
  | .point a, .point b => a.ieeeEq b
  | .line a b c, .line d e f => a.ieeeEq d && b.ieeeEq e && c.ieeeEq f
  | .lineSegment a b, .lineSegment c d => a.ieeeEq c && b.ieeeEq d
  | .box a b, .box c d => a.ieeeEq c && b.ieeeEq d
  | .path ps o, .path qs p => listEq Point.ieeeEq ps qs && o == p
  | .polygon ps, .polygon qs => listEq Point.ieeeEq ps qs
  | .circle c r, .circle d s => c.ieeeEq d && r.ieeeEq s
  | .bits a, .bits b => a == b
  | .hstore a, .hstore b => a == b
  | .tid a b, .tid c d => a == c && b == d
  | .array xs, .array ys => beqList xs ys
  | .range r, .range s => beqRange r s
  | _, _ => false

/-- Pointwise equality of value lists. -/
def beqList : List Value → List Value → Bool
  | [], [] => true
  | a :: as, b :: bs => beq a b && beqList as bs
  | _, _ => false

/-- Equality of ranges of values. -/
def beqRange : Range Value → Range Value → Bool
  | .empty, .empty => true
  | .bounded a b, .bounded c d => beqBound a c && beqBound b d
  | _, _ => false

/-- Equality of bounds of values. -/
def beqBound : Bound Value → Bound Value → Bool
  | .unbounded, .unbounded => true
  | .included a, .included b => beq a b
  | .excluded a, .excluded b => beq a b
  | _, _ => false
end

end Value

end PgMigrate
