import PgMigrate.Binary.Shortest
/-
  Float text: the shortest digits, laid out.

  One printer, `FloatStyle.render`, serves every place this library writes a float; what
  differs between those places is a `FloatStyle` record:

  * `plain`   — positional digits only, no `.0` (`70`, `0.0000001`, `-0`), `NaN`, `inf`;
  * `tagged`  — positional between `1e-4` and `1e16` with a `.0` on whole numbers, exponent
                form outside (`1e16`, `1.5e-5`), `NaN`, `inf`;
  * `sqlPlain` and `wire` — the same two layouts with `Infinity` for ∞.

  The positional range is measured against `10^-4` and `10^16` as values of the float's own
  format, so a binary32 just below its nearest float to `10^-4` already takes the exponent
  form.  Digits always come from `shortestDigits`: a printed float reads back as itself.
-/
namespace PgMigrate

/-- How a float is laid out. -/
structure FloatStyle where
  /-- Text of a NaN. -/
  nan : String
  /-- Text of `+∞`; `-∞` has a minus sign in front. -/
  infinity : String
  /-- Whether a whole number keeps a `.0`. -/
  pointZero : Bool
  /-- Whether magnitudes outside `[10^-4, 10^16)` take the exponent form. -/
  exponentForm : Bool

namespace FloatStyle

/-- Positional digits only. -/
def plain : FloatStyle := ⟨"NaN", "inf", false, false⟩

/-- Positional with `.0`, exponent form outside `[10^-4, 10^16)`. -/
def tagged : FloatStyle := ⟨"NaN", "inf", true, true⟩

/-- Positional digits, ∞ spelled as SQL spells it. -/
def sqlPlain : FloatStyle := ⟨"NaN", "Infinity", false, false⟩

/-- The tagged layout with ∞ spelled `Infinity`. -/
def wire : FloatStyle := ⟨"NaN", "Infinity", true, true⟩

end FloatStyle

/-- The digits `c · 10^k` written positionally (`k` may be negative). -/
def positionalText (c : Nat) (k : Int) (pointZero : Bool) : String :=
  let ds := toString c
  if k ≥ 0 then
    ds ++ String.ofList (List.replicate k.toNat '0') ++ (if pointZero then ".0" else "")
  else
    let n := ds.length
    let point := k.natAbs
    if n > point then
      String.ofList (ds.toList.take (n - point)) ++ "." ++ String.ofList (ds.toList.drop (n - point))
    else "0." ++ String.ofList (List.replicate (point - n) '0') ++ ds

/-- The digits `c · 10^k` in exponent form `d.ddde±x` (no `+`, no padding). -/
def exponentText (c : Nat) (k : Int) : String :=
  let ds := (toString c).toList
  let exp := k + (ds.length : Int) - 1
  let mantissa := match ds with
    | d :: rest@(_ :: _) => String.ofList (d :: '.' :: rest)
    | _ => String.ofList ds
  mantissa ++ "e" ++ toString exp

namespace FloatStyle

/-- Whether the magnitude `m · 2^e` lies in `[lo, hi)`, the ends given as decoded values of
    the same format. -/
def within (m : Nat) (e : Int) (lo hi : BinaryValue) : Bool :=
  match lo, hi with
  | .finite _ lm le, .finite _ hm he =>
    BinaryValue.compareMagnitude m e lm le != .lt && BinaryValue.compareMagnitude m e hm he == .lt
  | _, _ => true

/-- The text of a decoded value of format `f`. -/
def render (st : FloatStyle) (f : BinaryFormat) (v : BinaryValue) : String :=
  match v with
  | .nan => st.nan
  | .infinite neg => (if neg then "-" else "") ++ st.infinity
  | .finite neg m e =>
    let sign := if neg then "-" else ""
    let (c, k) := shortestDigits f m e
    let lo := f.decode (f.roundDecimal false 1 (-4))
    let hi := f.decode (f.roundDecimal false 1 16)
    if st.exponentForm && m != 0 && !within m e lo hi then sign ++ exponentText c k
    else sign ++ positionalText c k st.pointZero

end FloatStyle

namespace Binary64

/-- The text of a double in a style. -/
def render (st : FloatStyle) (x : Binary64) : String := st.render .binary64 x.value

end Binary64

namespace Binary32

/-- The text of a single in a style. -/
def render (st : FloatStyle) (x : Binary32) : String := st.render .binary32 x.value

end Binary32

end PgMigrate
