import PgMigrate.Json.Basic
import PgMigrate.Binary.Read
/-
  Reading descriptors out of JSON objects.

  A field is read under one of three disciplines:

  * `req`  — it must be present and decode (a `null` decodes only where the field's own
             decoder accepts it);
  * `opt`  — absent and `null` both mean `none`;
  * `dflt` — absent means the default, present must decode (so `null` is refused).

  Members not asked for are ignored.  Integers must be written as integers and lie in the
  field's range; `wireInt` also takes a decimal string, for values beyond what a double
  holds exactly.
-/
namespace PgMigrate

namespace Json

/-- Whether the value is an object. -/
def isObject : Json → Bool
  | .obj _ => true
  | _ => false

/-- A required member. -/
def req {α : Type} (j : Json) (key : String) (dec : Json → Option α) : Option α :=
  (j.member? key).bind dec

/-- An optional member: absent or `null` is `none`. -/
def opt {α : Type} (j : Json) (key : String) (dec : Json → Option α) : Option (Option α) :=
  match j.member? key with
  | none => some none
  | some .null => some none
  | some v => (dec v).map some

/-- A member with a default for when it is absent. -/
def dflt {α : Type} (j : Json) (key : String) (d : α) (dec : Json → Option α) : Option α :=
  match j.member? key with
  | none => some d
  | some v => dec v

/-- The elements of an array, each decoded. -/
def list {α : Type} (dec : Json → Option α) : Json → Option (List α)
  | .arr xs => xs.mapM dec
  | _ => none

/-- A string. -/
def string : Json → Option String := str?

/-- A boolean. -/
def boolean : Json → Option Bool := bool?

/-- An integer written as an integer, in `[lo, hi]`. -/
def intIn (lo hi : Int) (j : Json) : Option Int := do
  let i ← j.int?
  if lo ≤ i ∧ i ≤ hi then some i else none

/-- A natural number written as an integer, at most `hi`. -/
def natUpTo (hi : Nat) (j : Json) : Option Nat := (intIn 0 hi j).map Int.toNat

/-- Whether a string is `-?[0-9]+`. -/
def isDecimalText (s : String) : Bool :=
  match s.toList with
  | '-' :: ds => !ds.isEmpty && ds.all Char.isDigit
  | ds => !ds.isEmpty && ds.all Char.isDigit

/-- The integer of a decimal string `-?[0-9]+`. -/
def decimalTextValue (s : String) : Int :=
  match s.toList with
  | '-' :: ds => -((ds.foldl (fun acc c => acc * 10 + (c.toNat - '0'.toNat)) 0 : Nat) : Int)
  | ds => ((ds.foldl (fun acc c => acc * 10 + (c.toNat - '0'.toNat)) 0 : Nat) : Int)

/-- An integer in `[lo, hi]`, written as an integer or as a decimal string. -/
def wireInt (lo hi : Int) (j : Json) : Option Int :=
  match j with
  | .str s =>
    if isDecimalText s then
      let i := decimalTextValue s
      if lo ≤ i ∧ i ≤ hi then some i else none
    else none
  | _ => intIn lo hi j

end Json

end PgMigrate
