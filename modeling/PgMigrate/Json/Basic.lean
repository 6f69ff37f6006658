/-
  JSON documents, the interchange form of every descriptor of this library.

  A `Json` value is the plain tree of RFC 8259: objects keep their members in the order written
  (an association list, so a reader sees duplicates and order exactly as they came), and a
  number keeps the decimal it was written as (`Numeral`): sign, digit string and power of ten,
  plus whether it was written as a bare integer.  Keeping the written decimal is what lets a
  reader tell the integer field `70` from the float field `70.0`, and round a float to the
  nearest binary value once, exactly.

  The accessors below read one member or one element; `Json.Decode` builds the field
  disciplines (required, optional, defaulted) on top of them.
-/
namespace PgMigrate

/-- A JSON number as written: `(-1)^negative · digits · 10^exponent`.  `integral` is true when
    the text had neither a fraction nor an exponent part (`70`, not `70.0` or `7e1`). -/
structure Numeral where
  negative : Bool
  digits : Nat
  exponent : Int
  integral : Bool
deriving Repr, DecidableEq, Inhabited

/-- A JSON value. -/
inductive Json where
  | null
  | bool (b : Bool)
  | num (n : Numeral)
  | str (s : String)
  | arr (items : List Json)
  | obj (members : List (String × Json))
deriving Repr, Inhabited

namespace Numeral

/-- The numeral written for an integer. -/
def ofInt (i : Int) : Numeral := ⟨i < 0, i.natAbs, 0, true⟩

/-- The integer a numeral denotes, when it was written as an integer.  `-0` is no
    integer: a reader keeps its sign by taking it as the float `-0.0`. -/
def toInt? (n : Numeral) : Option Int :=
  if n.integral && n.exponent == 0 && !(n.negative && n.digits == 0) then
    some (if n.negative then -(n.digits : Int) else n.digits)
  else none

theorem toInt?_ofInt (i : Int) : (ofInt i).toInt? = some i := by
  unfold ofInt toInt?
  dsimp only
  by_cases h : i < 0
  · rw [Int.ofNat_natAbs_of_nonpos (by omega)]
    have hz : (i.natAbs == 0) = false := by
      rw [beq_eq_false_iff_ne]
      omega
    simp [h, hz]
  · rw [Int.natAbs_of_nonneg (by omega)]
    simp [h]

end Numeral

namespace Json

/-- A JSON integer. -/
def int (i : Int) : Json := .num (Numeral.ofInt i)

/-- A JSON string, or `null` for `none`. -/
def optStr : Option String → Json
  | some s => .str s
  | none => .null

/-- `null` for `none`, else the encoding of the content. -/
def ofOption {α : Type} (enc : α → Json) : Option α → Json
  | some a => enc a
  | none => .null

/-- An array of strings. -/
def strs (xs : List String) : Json := .arr (xs.map .str)

/-- The first member named `key` of an object. -/
def member? (j : Json) (key : String) : Option Json :=
  match j with
  | .obj ms => ms.lookup key
  | _ => none

/-- The members of an object. -/
def members? : Json → Option (List (String × Json))
  | .obj ms => some ms
  | _ => none

/-- The elements of an array. -/
def items? : Json → Option (List Json)
  | .arr xs => some xs
  | _ => none

/-- The text of a string. -/
def str? : Json → Option String
  | .str s => some s
  | _ => none

/-- The truth value of a boolean. -/
def bool? : Json → Option Bool
  | .bool b => some b
  | _ => none

/-- The integer of a number written as an integer. -/
def int? : Json → Option Int
  | .num n => n.toInt?
  | _ => none

/-- Whether the value is `null`. -/
def isNull : Json → Bool
  | .null => true
  | _ => false

/-- An object with exactly one member, as that member: the shape of an externally tagged
    variant `{"Tag": payload}`. -/
def single? : Json → Option (String × Json)
  | .obj [(k, v)] => some (k, v)
  | _ => none

mutual
/-- How deeply arrays and objects nest: `0` for a scalar. -/
def depth : Json → Nat
  | .arr items => depthItems items + 1
  | .obj members => depthMembers members + 1
  | _ => 0

/-- The greatest depth among array items. -/
def depthItems : List Json → Nat
  | [] => 0
  | j :: js => max (depth j) (depthItems js)

/-- The greatest depth among member values. -/
def depthMembers : List (String × Json) → Nat
  | [] => 0
  | (_, j) :: ms => max (depth j) (depthMembers ms)
end

end Json

end PgMigrate
