import PgMigrate.SqlType
/-
  Sequences.

  A sequence is 64-bit (`bigint`) unless its type says otherwise, starts at 1 and steps
  by 1 unless told; bounds are the server's defaults when unset.
-/
namespace PgMigrate

/-- A standalone sequence. -/
structure Sequence where
  schema : Option String := none
  name : String
  sqlType : SqlType := .bigInt
  startWith : Int := 1
  incrementBy : Int := 1
  minValue : Option Int := none
  maxValue : Option Int := none
  cycle : Bool := false
deriving Repr, DecidableEq, Inhabited

end PgMigrate
