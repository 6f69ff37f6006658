import PgMigrate.Binary.Text
/-
  Table storage parameters (`WITH (fillfactor=70, …)`).

  A parameter's value is a boolean, an integer, a float or a string, written after `key=`
  as `true`/`false`, in decimal, as the float's shortest digits (never in exponent form:
  `70.0` is `70`, `-0.0` is `-0`, and a NaN or infinity is `NaN`, `inf`, `-inf`), or in
  single quotes with nothing escaped.
-/
namespace PgMigrate

/-- The value of a storage parameter. -/
inductive StorageValue where
  | bool (b : Bool)
  | int (n : Int)
  | float (x : Binary64)
  | str (s : String)
deriving Repr, DecidableEq, Inhabited

namespace StorageValue

/-- The value as written after `key=`. -/
def render : StorageValue → String
  | .bool b => if b then "true" else "false"
  | .int n => toString n
  | .float x => x.render .plain
  | .str s => "'" ++ s ++ "'"

end StorageValue

/-- One `key=value` storage parameter. -/
structure StorageParameter where
  name : String
  value : StorageValue
deriving Repr, DecidableEq, Inhabited

end PgMigrate
