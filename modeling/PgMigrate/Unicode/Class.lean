import PgMigrate.Unicode.Printable
import PgMigrate.Unicode.GraphemeExtend
import PgMigrate.Unicode.Alphanumeric
import PgMigrate.Unicode.Lowercase
import PgMigrate.Unicode.Uppercase
import PgMigrate.Unicode.UpperMap
import PgMigrate.Unicode.LowerMap
/-
  Character classes and case maps over the Unicode tables.

  Each class is membership in a table of inclusive ranges; each case map looks a character
  up among the multi-character mappings first, then among the runs.  The white space class
  is short enough to state directly: it is the White_Space property.
-/
namespace PgMigrate

namespace Unicode

/-- Whether `c` lies in one of the inclusive ranges. -/
def inRanges (table : Array (Nat × Nat)) (c : Nat) : Bool :=
  table.any fun (lo, hi) => lo ≤ c && c ≤ hi

/-- The White_Space property: tab through carriage return, space, next line, no-break
    space, ogham space, the en quad through hair space, the line and paragraph separators,
    narrow no-break space, medium mathematical space and ideographic space. -/
def isWhiteSpace (c : Char) : Bool :=
  let n := c.toNat
  (0x9 ≤ n && n ≤ 0xD) || n == 0x20 || n == 0x85 || n == 0xA0 || n == 0x1680 ||
  (0x2000 ≤ n && n ≤ 0x200A) || n == 0x2028 || n == 0x2029 || n == 0x202F ||
  n == 0x205F || n == 0x3000

/-- The control characters (general category Cc). -/
def isControl (c : Char) : Bool :=
  c.toNat < 0x20 || (0x7F ≤ c.toNat && c.toNat ≤ 0x9F)

/-- Whether a character prints as itself in quoted text. -/
def isPrintable (c : Char) : Bool :=
  let n := c.toNat
  if n < 0x20 then false
  else if n < 0x7F then true
  else !inRanges unprintable n

/-- The Grapheme_Extend property. -/
def isGraphemeExtend (c : Char) : Bool := inRanges graphemeExtend c.toNat

/-- Letters and digits: Alphabetic, or a numeric general category. -/
def isAlphanumeric (c : Char) : Bool :=
  if c.toNat < 0x80 then c.isAlphanum else inRanges alphanumeric c.toNat

/-- The Lowercase property. -/
def isLowercase (c : Char) : Bool :=
  if c.toNat < 0x80 then c.isLower else inRanges lowercase c.toNat

/-- The Uppercase property. -/
def isUppercase (c : Char) : Bool :=
  if c.toNat < 0x80 then c.isUpper else inRanges uppercase c.toNat

/-- Looks a character up in a case map. -/
def mapCase (runs : Array (Nat × Nat × Nat × Int)) (specials : Array (Nat × List Nat))
    (c : Char) : List Char :=
  let n := c.toNat
  match specials.find? (fun (k, _) => k == n) with
  | some (_, cs) => cs.map Char.ofNat
  | none =>
    match runs.find? (fun (lo, hi, stride, _) => lo ≤ n && n ≤ hi && (n - lo) % stride == 0) with
    | some (_, _, _, delta) => [Char.ofNat (n + delta).toNat]
    | none => [c]

/-- The full upper case of a character. -/
def toUpper (c : Char) : List Char := mapCase upperRuns upperSpecials c

/-- The full lower case of a character. -/
def toLower (c : Char) : List Char := mapCase lowerRuns lowerSpecials c

end Unicode

end PgMigrate
