import PgMigrate.Schema.Table
/-
  Storage parameters as statements see them, and the columns DDL may touch.

  Table creation and alteration both read parameters through `storageParameters`, so
  `WITH (…)`, `SET (…)` and `RESET (…)` agree on order and rendering: parameters come in
  declaration order, and a key declared twice keeps its first position and its last value.

  The difference of two tables' parameters sets the pairs of the new table that the old
  one does not have exactly, in the new order, and resets the keys the new table no longer
  has, in the old order.

  Every table has the system columns `oid`, `tableoid`, `xmin`, `cmin`, `xmax`, `cmax` and
  `ctid` (exact names, case matters); DDL never creates, alters or drops them.
-/
namespace PgMigrate

/-- The columns every table has implicitly. -/
def systemColumns : List String := ["oid", "tableoid", "xmin", "cmin", "xmax", "cmax", "ctid"]

/-- Whether a column name is a system column's. -/
def isSystemColumn (name : String) : Bool := systemColumns.contains name

/-- The columns DDL should emit. -/
def userColumns (cs : List Column) : List Column := cs.filter fun c => !isSystemColumn c.name

/-- Sets a key's value, keeping the position of an earlier declaration. -/
def assignParameter (key value : String) : List (String × String) → List (String × String)
  | [] => [(key, value)]
  | (k, v) :: rest => if k == key then (k, value) :: rest else (k, v) :: assignParameter key value rest

/-- The rendered `(key, value)` pairs of the options' parameters. -/
def storageParameters (o : TableOptions) : List (String × String) :=
  o.storageParameters.foldl (fun acc p => assignParameter p.name p.value.render acc) []

/-- `key=value, key=value`. -/
def formatAssignments (ps : List (String × String)) : String :=
  ", ".intercalate (ps.map fun (k, v) => k ++ "=" ++ v)

/-- Storage parameter changes between two versions of a table. -/
structure StorageDiff where
  set : List (String × String)
  reset : List String
deriving Repr, DecidableEq

namespace StorageDiff

/-- The parameters to set and to reset to go from `old` to `new`. -/
def between (old new : TableOptions) : StorageDiff :=
  let o := storageParameters old
  let n := storageParameters new
  { set := n.filter fun p => !o.contains p
    reset := (o.filter fun (k, _) => !n.any (·.1 == k)).map (·.1) }

/-- Whether nothing changes. -/
def isEmpty (d : StorageDiff) : Bool := d.set.isEmpty && d.reset.isEmpty

end StorageDiff

end PgMigrate
