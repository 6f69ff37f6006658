import PgMigrate.Codec.Schema
import PgMigrate.Migration.Generator
/-
  JSON forms of schema operations and commands.

  An operation is an object tagged by `"type"`, the operation's name.  An operation
  carrying a table, index, sequence or rename has that descriptor's fields beside the tag;
  the others have their own fields in snake case, with `schema` optional everywhere.
  A command is `{"sql", "suppressTransaction"}`, the flag defaulting to `false`.
-/
namespace PgMigrate

namespace Codec

/-- Reads a rename. -/
def rename? (j : Json) : Option Rename := do
  guard j.isObject
  pure
    { schema := ← j.opt "schema" Json.string
      name := ← j.req "name" Json.string
      newSchema := ← j.opt "newSchema" Json.string
      newName := ← j.opt "newName" Json.string }

/-- The JSON form of a rename. -/
def renameJson (r : Rename) : Json :=
  object [("schema", r.schema.map .str), ("name", some (.str r.name)),
    ("newSchema", r.newSchema.map .str), ("newName", r.newName.map .str)]

/-- Reads an operation. -/
def operation? (j : Json) : Option SchemaOperation := do
  guard j.isObject
  let kind ← j.req "type" Json.string
  let str := fun (key : String) => j.req key Json.string
  let schema := j.opt "schema" Json.string
  match kind with
  | "create_table" => (table? j).map .createTable
  | "drop_table" => do pure (.dropTable (← schema) (← str "name"))
  | "rename_table" => (rename? j).map .renameTable
  | "alter_table" => do
    pure (.alterTable (← schema) (← str "name") (← j.req "old" tableOptions?)
      (← j.req "new" tableOptions?))
  | "add_column" => do pure (.addColumn (← schema) (← str "table") (← j.req "column" column?))
  | "drop_column" => do pure (.dropColumn (← schema) (← str "table") (← str "name"))
  | "alter_column" => do
    pure (.alterColumn (← schema) (← str "table") (← j.req "old" column?) (← j.req "new" column?))
  | "rename_column" => do
    pure (.renameColumn (← schema) (← str "table") (← str "name") (← str "new_name"))
  | "create_index" => (index? j).map .createIndex
  | "drop_index" => do pure (.dropIndex (← schema) (← str "name"))
  | "rename_index" => do pure (.renameIndex (← schema) (← str "name") (← str "new_name"))
  | "create_sequence" => (sequence? j).map .createSequence
  | "alter_sequence" => (sequence? j).map .alterSequence
  | "drop_sequence" => do pure (.dropSequence (← schema) (← str "name"))
  | "rename_sequence" => (rename? j).map .renameSequence
  | "restart_sequence" => do
    pure (.restartSequence (← schema) (← str "name") (← j.req "start_value" int64))
  | "ensure_schema" => (str "name").map .ensureSchema
  | "drop_schema" => (str "name").map .dropSchema
  | "alter_database" => do
    pure (.alterDatabase (← j.dflt "old" {} databaseObjects?) (← j.dflt "new" {} databaseObjects?))
  | "create_database" => do
    pure (.createDatabase (← str "name") (← j.opt "template" Json.string)
      (← j.opt "tablespace" Json.string))
  | "drop_database" => (str "name").map .dropDatabase
  | "add_primary_key" => do
    pure (.addPrimaryKey (← schema) (← str "table") (← j.req "primary_key" primaryKey?))
  | "drop_primary_key" => do pure (.dropPrimaryKey (← schema) (← str "table") (← str "name"))
  | "add_unique_constraint" => do
    pure (.addUniqueConstraint (← schema) (← str "table") (← j.req "constraint" uniqueConstraint?))
  | "drop_unique_constraint" => do
    pure (.dropUniqueConstraint (← schema) (← str "table") (← str "name"))
  | "add_foreign_key" => do
    pure (.addForeignKey (← schema) (← str "table") (← j.req "foreign_key" foreignKey?))
  | "drop_foreign_key" => do pure (.dropForeignKey (← schema) (← str "table") (← str "name"))
  | "add_check_constraint" => do
    pure (.addCheckConstraint (← schema) (← str "table") (← j.req "constraint" checkConstraint?))
  | "drop_check_constraint" => do
    pure (.dropCheckConstraint (← schema) (← str "table") (← str "name"))
  | "sql" => do pure (.sql (← str "sql") (← j.dflt "suppress_transaction" false Json.boolean))
  | _ => none

/-- Reads a command. -/
def command? (j : Json) : Option MigrationCommand := do
  guard j.isObject
  pure
    { sql := ← j.req "sql" Json.string
      suppressTransaction := ← j.dflt "suppressTransaction" false Json.boolean }

/-- The JSON form of a migration error. -/
def migrationErrorJson (e : MigrationError) : Json :=
  .obj [("error", .str e.kindName), ("message", .str e.message)]

end Codec

end PgMigrate
