import PgMigrate.Binary.Format
/-
  Reading float and integer text.

  Float text: an optional sign, then either one of the words `inf`, `infinity`, `nan` in any
  case, or a decimal `digits [. digits] [(e|E) [sign] digits]` with at least one digit before
  the exponent part (`5.`, `.5` and `1e3` are decimals; `.`, `e5` and `1e` are not).  No
  blanks, no digit separators.  The decimal is kept exact (`FloatText.decimal`) and rounded
  once, into whichever format the caller wants.

  Integer text: an optional sign (`-` only where the type is signed) and at least one digit;
  the value must lie in the type's range.
-/
namespace PgMigrate

/-- Float text, read but not yet rounded. -/
inductive FloatText where
  | nan
  | infinite (negative : Bool)
  | decimal (negative : Bool) (digits : Nat) (exp10 : Int)
deriving Repr, DecidableEq

/-- The value of an ASCII digit. -/
def digitValue (c : Char) : Nat := c.toNat - '0'.toNat

/-- All characters are ASCII digits, and there is at least one. -/
def allDigits (cs : List Char) : Bool := !cs.isEmpty && cs.all Char.isDigit

/-- The number an ASCII digit string denotes. -/
def digitsValue (cs : List Char) : Nat := cs.foldl (fun acc c => acc * 10 + digitValue c) 0

/-- ASCII lower case of a character (other characters unchanged). -/
def asciiLower (c : Char) : Char := if 'A' ≤ c ∧ c ≤ 'Z' then Char.ofNat (c.toNat + 32) else c

namespace FloatText

/-- Splits off a leading `+` or `-`. -/
def sign (cs : List Char) : Bool × List Char :=
  match cs with
  | '+' :: rest => (false, rest)
  | '-' :: rest => (true, rest)
  | _ => (false, cs)

/-- Reads the decimal after the sign. -/
def readDecimal (negative : Bool) (cs : List Char) : Option FloatText :=
  let whole := cs.takeWhile Char.isDigit
  let cs := cs.dropWhile Char.isDigit
  let (frac, cs) := match cs with
    | '.' :: rest => (rest.takeWhile Char.isDigit, rest.dropWhile Char.isDigit)
    | _ => ([], cs)
  if whole.isEmpty && frac.isEmpty then none
  else
    let mantissa := digitsValue (whole ++ frac)
    let shift : Int := frac.length
    match cs with
    | [] => some (.decimal negative mantissa (-shift))
    | e :: rest =>
      if e == 'e' || e == 'E' then
        let (expNeg, rest) := sign rest
        if allDigits rest then
          let x : Int := digitsValue rest
          some (.decimal negative mantissa ((if expNeg then -x else x) - shift))
        else none
      else none

/-- Reads float text. -/
def read? (s : String) : Option FloatText :=
  let (negative, cs) := sign s.toList
  let word := String.ofList (cs.map asciiLower)
  if word == "inf" || word == "infinity" then some (.infinite negative)
  else if word == "nan" then some .nan
  else readDecimal negative cs

/-- The double nearest to the text's value. -/
def toBinary64 : FloatText → Binary64
  | .nan => Binary64.nan
  | .infinite negative => if negative then Binary64.negInfinity else Binary64.infinity
  | .decimal negative digits exp10 => Binary64.ofDecimal negative digits exp10

/-- The single nearest to the text's value (rounded once, from the exact decimal). -/
def toBinary32 : FloatText → Binary32
  | .nan => Binary32.nan
  | .infinite negative => if negative then Binary32.negInfinity else Binary32.infinity
  | .decimal negative digits exp10 => Binary32.ofDecimal negative digits exp10

end FloatText

/-- The bounds of the fixed-width integer types. -/
def i16Min : Int := -32768
def i16Max : Int := 32767
def i32Min : Int := -2147483648
def i32Max : Int := 2147483647
def i64Min : Int := -9223372036854775808
def i64Max : Int := 9223372036854775807
def u16Max : Int := 65535
def u32Max : Int := 4294967295
def u64Max : Int := 18446744073709551615

/-- Reads an integer in `[lo, hi]`; `signed` allows a leading `-`. -/
def readInteger? (s : String) (signed : Bool) (lo hi : Int) : Option Int :=
  let (negative, digits) := match s.toList with
    | '+' :: rest => (false, rest)
    | '-' :: rest => if signed then (true, rest) else (false, '-' :: rest)
    | cs => (false, cs)
  if allDigits digits then
    let n : Int := digitsValue digits
    let v := if negative then -n else n
    if lo ≤ v ∧ v ≤ hi then some v else none
  else none

end PgMigrate
