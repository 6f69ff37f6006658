/-
  IEEE 754 binary floating point, exactly.

  A float is kept as its bit pattern (`Binary64`, `Binary32`), never as a machine float, so
  that every operation here is a function on natural numbers that Lean can evaluate and
  reason about.  `BinaryFormat` gives the field widths of an interchange format; from it:

  * `BinaryFormat.decode` reads a pattern as NaN, ±∞ or `±m · 2^e`;
  * `BinaryFormat.round` takes an exact non-negative rational `num / den` to the nearest
    pattern, a tie going to the even significand, overflow to ∞ and underflow through the
    subnormals to zero: the rounding of IEEE 754 "round to nearest, ties to even".

  Everything that makes a float from a decimal, or narrows a binary64 to a binary32, goes
  through `round`; the comparisons `ieeeEq` and `ieeeLt` are those of the standard (NaN is
  unequal and unordered, the two zeros are equal).
-/
namespace PgMigrate

/-- An interchange format: `fracBits` stored significand bits (the leading one of a normal
    number is implicit) and `expBits` exponent bits. -/
structure BinaryFormat where
  fracBits : Nat
  expBits : Nat
deriving Repr, DecidableEq

/-- What a bit pattern denotes: `finite neg m e` is `(-1)^neg · m · 2^e`. -/
inductive BinaryValue where
  | nan
  | infinite (negative : Bool)
  | finite (negative : Bool) (significand : Nat) (exponent : Int)
deriving Repr, DecidableEq

namespace BinaryFormat

/-- The 64-bit format (double precision). -/
def binary64 : BinaryFormat := ⟨52, 11⟩

/-- The 32-bit format (single precision). -/
def binary32 : BinaryFormat := ⟨23, 8⟩

/-- The exponent bias. -/
def bias (f : BinaryFormat) : Nat := Nat.pow 2 (f.expBits - 1) - 1

/-- The all-ones exponent field, which marks ∞ and NaN. -/
def topField (f : BinaryFormat) : Nat := Nat.pow 2 f.expBits - 1

/-- The exponent of the unit of the subnormal numbers: the least positive value is
    `2^minExp`. -/
def minExp (f : BinaryFormat) : Int := 1 - (f.bias : Int) - f.fracBits

/-- The weight of the sign bit. -/
def signBit (f : BinaryFormat) : Nat := Nat.pow 2 (f.expBits + f.fracBits)

/-- The pattern of `+∞`. -/
def infinityBits (f : BinaryFormat) : Nat := f.topField * Nat.pow 2 f.fracBits

/-- The quiet NaN with an empty payload. -/
def nanBits (f : BinaryFormat) : Nat := f.infinityBits + Nat.pow 2 (f.fracBits - 1)

/-- Reads a bit pattern. -/
def decode (f : BinaryFormat) (bits : Nat) : BinaryValue :=
  let frac := bits % Nat.pow 2 f.fracBits
  let field := (bits / Nat.pow 2 f.fracBits) % Nat.pow 2 f.expBits
  let negative := (bits / f.signBit) % 2 == 1
  if field == f.topField then
    if frac == 0 then .infinite negative else .nan
  else if field == 0 then .finite negative frac f.minExp
  else .finite negative (frac + Nat.pow 2 f.fracBits) (f.minExp + field - 1)

end BinaryFormat

/-- `a / b` rounded to the nearest integer, a tie going to the even one. -/
def roundHalfEven (a b : Nat) : Nat :=
  let q := a / b
  let r := a % b
  if 2 * r > b then q + 1
  else if 2 * r < b then q
  else q + q % 2

/-- `⌊log₂ (num / den)⌋` for positive `num` and `den`. -/
def floorLog2 (num den : Nat) : Int :=
  let k : Int := (Nat.log2 num : Int) - Nat.log2 den
  -- `num / den` lies in `[2^(k-1), 2^(k+1))`; one comparison decides
  let below := if k ≥ 0 then num < den * Nat.pow 2 k.toNat else num * Nat.pow 2 k.natAbs < den
  if below then k - 1 else k

/-- `num / (den · 2^e)` as a quotient of naturals, for any integer `e`. -/
def scaleDown (num den : Nat) (e : Int) : Nat × Nat :=
  if e ≥ 0 then (num, den * Nat.pow 2 e.toNat) else (num * Nat.pow 2 e.natAbs, den)

namespace BinaryFormat

/-- The pattern nearest to `(-1)^negative · num / den` (`den > 0`), ties to even. -/
def round (f : BinaryFormat) (negative : Bool) (num den : Nat) : Nat :=
  let sign := if negative then f.signBit else 0
  if num == 0 || den == 0 then sign
  else
    -- the unit of the result: `2^e`, so that a normal result has `fracBits + 1` digits
    let e := max (floorLog2 num den - f.fracBits) f.minExp
    let (a, b) := scaleDown num den e
    let m := roundHalfEven a b
    -- rounding up may carry into one more digit
    let (m, e) := if m == Nat.pow 2 (f.fracBits + 1) then (m / 2, e + 1) else (m, e)
    if m < Nat.pow 2 f.fracBits then sign + m
    else
      let field := e - f.minExp + 1
      if field ≥ f.topField then sign + f.infinityBits
      else sign + field.toNat * Nat.pow 2 f.fracBits + (m - Nat.pow 2 f.fracBits)

/-- The pattern nearest to `(-1)^negative · digits · 10^exp10`.  Decimals far outside the
    format's range are settled before any power of ten is formed: above `10^400` every
    format overflows, below `10^-400` every format underflows to zero. -/
def roundDecimal (f : BinaryFormat) (negative : Bool) (digits : Nat) (exp10 : Int) : Nat :=
  let sign := if negative then f.signBit else 0
  let width : Int := (Nat.toDigits 10 digits).length
  if digits == 0 then sign
  else if width + exp10 > 400 then sign + f.infinityBits
  else if width + exp10 < -400 then sign
  else if exp10 ≥ 0 then f.round negative (digits * Nat.pow 10 exp10.toNat) 1
  else f.round negative digits (Nat.pow 10 exp10.natAbs)

/-- The pattern of an exactly known value `(-1)^negative · m · 2^e` (rounded if it does not
    fit). -/
def ofFinite (f : BinaryFormat) (negative : Bool) (m : Nat) (e : Int) : Nat :=
  if e ≥ 0 then f.round negative (m * Nat.pow 2 e.toNat) 1
  else f.round negative m (Nat.pow 2 e.natAbs)

/-- The pattern of a decoded value in this format. -/
def encode (f : BinaryFormat) : BinaryValue → Nat
  | .nan => f.nanBits
  | .infinite negative => (if negative then f.signBit else 0) + f.infinityBits
  | .finite negative m e => f.ofFinite negative m e

end BinaryFormat

namespace BinaryValue

/-- Whether the value is a NaN. -/
def isNaN : BinaryValue → Bool
  | .nan => true
  | _ => false

/-- Whether the value is ±0. -/
def isZero : BinaryValue → Bool
  | .finite _ m _ => m == 0
  | _ => false

/-- Whether the value is finite. -/
def isFinite : BinaryValue → Bool
  | .finite .. => true
  | _ => false

/-- The sign bit. -/
def negative : BinaryValue → Bool
  | .nan => false
  | .infinite n => n
  | .finite n _ _ => n

/-- Compares the magnitudes `m₁ · 2^e₁` and `m₂ · 2^e₂`. -/
def compareMagnitude (m₁ : Nat) (e₁ : Int) (m₂ : Nat) (e₂ : Int) : Ordering :=
  let e := min e₁ e₂
  compare (m₁ * Nat.pow 2 (e₁ - e).toNat) (m₂ * Nat.pow 2 (e₂ - e).toNat)

/-- IEEE equality: NaN equals nothing, `+0 = -0`. -/
def ieeeEq : BinaryValue → BinaryValue → Bool
  | .nan, _ => false
  | _, .nan => false
  | .infinite a, .infinite b => a == b
  | .finite a m e, .finite b n d =>
    (m == 0 && n == 0) || (a == b && compareMagnitude m e n d == .eq)
  | _, _ => false

/-- IEEE "less than": false whenever a NaN takes part. -/
def ieeeLt : BinaryValue → BinaryValue → Bool
  | .nan, _ => false
  | _, .nan => false
  | .infinite a, .infinite b => a && !b
  | .infinite a, .finite .. => a
  | .finite .., .infinite b => !b
  | .finite a m e, .finite b n d =>
    if m == 0 && n == 0 then false
    else match a, b with
      | true, false => true
      | false, true => false
      | false, false => compareMagnitude m e n d == .lt
      | true, true => compareMagnitude n d m e == .lt

end BinaryValue

/-- A double-precision float, as its bit pattern. -/
structure Binary64 where
  bits : UInt64
deriving Repr, DecidableEq, Inhabited

/-- A single-precision float, as its bit pattern. -/
structure Binary32 where
  bits : UInt32
deriving Repr, DecidableEq, Inhabited

namespace Binary64

/-- What the pattern denotes. -/
def value (x : Binary64) : BinaryValue := BinaryFormat.binary64.decode x.bits.toNat

/-- The float with a given pattern (taken modulo `2^64`). -/
def ofBits (n : Nat) : Binary64 := ⟨n.toUInt64⟩

/-- The float nearest to a decoded value. -/
def ofValue (v : BinaryValue) : Binary64 := ofBits (BinaryFormat.binary64.encode v)

/-- The float nearest to `(-1)^negative · digits · 10^exp10`. -/
def ofDecimal (negative : Bool) (digits : Nat) (exp10 : Int) : Binary64 :=
  ofBits (BinaryFormat.binary64.roundDecimal negative digits exp10)

/-- The quiet NaN. -/
def nan : Binary64 := ofBits BinaryFormat.binary64.nanBits

/-- `+∞`. -/
def infinity : Binary64 := ofValue (.infinite false)

/-- `-∞`. -/
def negInfinity : Binary64 := ofValue (.infinite true)

/-- The float nearest to an integer. -/
def ofInt (i : Int) : Binary64 := ofDecimal (i < 0) i.natAbs 0

/-- IEEE equality. -/
def ieeeEq (x y : Binary64) : Bool := x.value.ieeeEq y.value

end Binary64

namespace Binary32

/-- What the pattern denotes. -/
def value (x : Binary32) : BinaryValue := BinaryFormat.binary32.decode x.bits.toNat

/-- The float with a given pattern (taken modulo `2^32`). -/
def ofBits (n : Nat) : Binary32 := ⟨n.toUInt32⟩

/-- The float nearest to a decoded value. -/
def ofValue (v : BinaryValue) : Binary32 := ofBits (BinaryFormat.binary32.encode v)

/-- The float nearest to `(-1)^negative · digits · 10^exp10`. -/
def ofDecimal (negative : Bool) (digits : Nat) (exp10 : Int) : Binary32 :=
  ofBits (BinaryFormat.binary32.roundDecimal negative digits exp10)

/-- The quiet NaN. -/
def nan : Binary32 := ofBits BinaryFormat.binary32.nanBits

/-- `+∞`. -/
def infinity : Binary32 := ofValue (.infinite false)

/-- `-∞`. -/
def negInfinity : Binary32 := ofValue (.infinite true)

/-- Widening to double precision, which is exact. -/
def toBinary64 (x : Binary32) : Binary64 := Binary64.ofValue x.value

/-- IEEE equality. -/
def ieeeEq (x y : Binary32) : Bool := x.value.ieeeEq y.value

end Binary32

/-- Narrowing to single precision, rounding to nearest, ties to even. -/
def Binary64.toBinary32 (x : Binary64) : Binary32 := Binary32.ofValue x.value

end PgMigrate
