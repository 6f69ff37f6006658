import PgMigrate.Json.Decode
import PgMigrate.SqlType
import PgMigrate.Generation
/-
  JSON forms of column types and generation strategies.

  A type without parameters is its name (`"Integer"`); the others are one-member objects:
  `{"Enum": {"schema", "name"}}`, `{"Range": {"schema", "name", "subtype"}}` and
  `{"Array": element}`.  A strategy is its name.
-/
namespace PgMigrate

namespace SqlType

/-- The JSON form of a type. -/
def toJson : SqlType → Json
  | .enum schema name => .obj [("Enum", .obj [("schema", .optStr schema), ("name", .str name)])]
  | .range schema name sub =>
    .obj [("Range", .obj [("schema", .optStr schema), ("name", .str name), ("subtype", sub.toJson)])]
  | .array element => .obj [("Array", element.toJson)]
  | t => .str ((unitNames.find? (·.2 == t)).map (·.1) |>.getD "")

/-- Reads a type (`fuel` bounds the nesting). -/
def ofJsonFuel : Nat → Json → Option SqlType
  | 0, _ => none
  | fuel + 1, j =>
    match j with
    | .str s => (unitNames.lookup s)
    | .obj [("Enum", body)] => do
      guard body.isObject
      let schema ← body.opt "schema" Json.string
      let name ← body.req "name" Json.string
      pure (.enum schema name)
    | .obj [("Range", body)] => do
      guard body.isObject
      let schema ← body.opt "schema" Json.string
      let name ← body.req "name" Json.string
      let sub ← body.req "subtype" (ofJsonFuel fuel)
      pure (.range schema name sub)
    | .obj [("Array", body)] => (ofJsonFuel fuel body).map .array
    | _ => none

/-- Reads a type. -/
def ofJson (j : Json) : Option SqlType := ofJsonFuel (j.depth + 1) j

end SqlType

namespace Generation

/-- The JSON form of a strategy. -/
def toJson (g : Generation) : Json := .str g.name

/-- Reads a strategy. -/
def ofJson (j : Json) : Option Generation := j.str?.bind ofName?

end Generation

end PgMigrate
