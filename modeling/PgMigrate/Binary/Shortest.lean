import PgMigrate.Binary.Format
/-
  The shortest decimal that reads back as a given float.

  A positive finite float `v = m · 2^e` is the nearest float to every real in its rounding
  interval: from halfway to its predecessor to halfway to its successor, both ends included
  when `m` is even (a tie then rounds to `v`).  The gap below is half the gap above when `m`
  is the least significand of its binade and a smaller binade exists.

  `shortestDigits` looks for decimals `c · 10^k` inside that interval, from the largest
  power of ten not above the interval down: the first `k` with a multiple inside gives the
  fewest significant digits.  Of the (at most two) candidates next to `v` on that grid —
  `⌊v / 10^k⌋` and one more — the nearer to `v` wins, and an exact tie goes to the larger.
  Every quantity is an exact natural number; nothing is approximated.
-/
namespace PgMigrate

/-- A rounding interval `[lo, hi]` around a value `v`, all three `/ den`; the ends belong to
    it when `inclusive`. -/
structure RoundingInterval where
  lo : Nat
  v : Nat
  hi : Nat
  den : Nat
  inclusive : Bool
deriving Repr

namespace RoundingInterval

/-- The interval of the positive value `m · 2^e` of format `f`. -/
def ofFinite (f : BinaryFormat) (m : Nat) (e : Int) : RoundingInterval :=
  -- measure in units of `2^(e-2)`: v = 4m, a half gap is 2 (or 1 below a binade edge)
  let narrowBelow := m == Nat.pow 2 f.fracBits && e > f.minExp
  let lo := if narrowBelow then 4 * m - 1 else 4 * m - 2
  let s := e - 2
  if s ≥ 0 then
    let w := Nat.pow 2 s.toNat
    ⟨lo * w, 4 * m * w, (4 * m + 2) * w, 1, m % 2 == 0⟩
  else ⟨lo, 4 * m, 4 * m + 2, Nat.pow 2 s.natAbs, m % 2 == 0⟩

/-- Whether `c · 10^k` lies in the interval. -/
def contains (r : RoundingInterval) (c : Nat) (k : Int) : Bool :=
  -- compare `c · 10^k · den` with the ends, both sides scaled to naturals
  let (x, scale) := if k ≥ 0 then (c * Nat.pow 10 k.toNat * r.den, 1) else (c * r.den, Nat.pow 10 k.natAbs)
  if r.inclusive then r.lo * scale ≤ x && x ≤ r.hi * scale
  else r.lo * scale < x && x < r.hi * scale

/-- `⌊v / 10^k⌋`. -/
def floorAt (r : RoundingInterval) (k : Int) : Nat :=
  if k ≥ 0 then r.v / (r.den * Nat.pow 10 k.toNat) else r.v * Nat.pow 10 k.natAbs / r.den

/-- Of two candidates on the grid `10^k` on either side of `v`, the nearer (`true` for the
    upper one); a tie goes up. -/
def upperIsNearer (r : RoundingInterval) (c : Nat) (k : Int) : Bool :=
  -- distances `v - c·10^k` and `(c+1)·10^k - v`, scaled by `den` (and `10^-k`)
  let (vs, unit) := if k ≥ 0 then (r.v, r.den * Nat.pow 10 k.toNat) else (r.v * Nat.pow 10 k.natAbs, r.den)
  let below := vs - c * unit
  let above := (c + 1) * unit - vs
  above ≤ below

/-- The decimal exponent to start from: the largest `k` with `10^k ≤ hi`. -/
def topExponent (r : RoundingInterval) : Int :=
  let whole := r.hi / r.den
  if whole > 0 then ((Nat.toDigits 10 whole).length : Int) - 1
  else
    -- `hi < 1`: count the zeros after the point
    let rec go : Nat → Nat → Int
      | 0, _ => -400
      | fuel + 1, k => if r.hi * Nat.pow 10 k ≥ r.den then -(k : Int) else go fuel (k + 1)
    go 1200 1

/-- The search, from exponent `k` down, for at most `fuel` grids. -/
def search (r : RoundingInterval) : Nat → Int → Nat × Int
  | 0, k => (r.floorAt k, k)
  | fuel + 1, k =>
    let c := r.floorAt k
    let lowIn := r.contains c k
    let highIn := r.contains (c + 1) k
    if lowIn && highIn then (if r.upperIsNearer c k then (c + 1, k) else (c, k))
    else if lowIn then (c, k)
    else if highIn then (c + 1, k)
    else search r fuel (k - 1)

end RoundingInterval

/-- Drops trailing zero digits, raising the exponent. -/
def trimZeros : Nat → Nat → Int → Nat × Int
  | 0, c, k => (c, k)
  | fuel + 1, c, k => if c > 0 && c % 10 == 0 then trimZeros fuel (c / 10) (k + 1) else (c, k)

/-- The shortest decimal `c · 10^k` that rounds back to the positive value `m · 2^e` of
    format `f`, the nearest to it among the shortest. -/
def shortestDigits (f : BinaryFormat) (m : Nat) (e : Int) : Nat × Int :=
  if m == 0 then (0, 0)
  else
    let r := RoundingInterval.ofFinite f m e
    let (c, k) := r.search 40 r.topExponent
    trimZeros 40 c k

end PgMigrate
