import PgMigrate.Schema.Model
import PgMigrate.Ident
/-
  Schema changes, the generator's input.

  A differ emits these in dependency order; the generator turns each into zero or more
  commands, in order.  `kind` names an operation as its serialized form does, and
  `target` names the object it acts on, qualified and delimited, for diagnostics.
-/
namespace PgMigrate

/-- Renaming an object and/or moving it to another schema. -/
structure Rename where
  schema : Option String := none
  name : String
  newSchema : Option String := none
  newName : Option String := none
deriving Repr, DecidableEq, Inhabited

/-- One setting of a rename. -/
inductive RenameSetting where
  | to (newName : String)
  | toSchema (newSchema : String)

namespace Rename

/-- Applies one setting. -/
def set (r : Rename) : RenameSetting → Rename
  | .to newName => { r with newName := some newName }
  | .toSchema newSchema => { r with newSchema := some newSchema }

/-- A rename of an object from its schema, name and settings. -/
def build (schema : Option String) (name : String) (settings : List RenameSetting) : Rename :=
  settings.foldl set { schema, name }

end Rename

/-- One schema change. -/
inductive SchemaOperation where
  | createTable (t : Table)
  | dropTable (schema : Option String) (name : String)
  | renameTable (r : Rename)
  | alterTable (schema : Option String) (name : String) (old new : TableOptions)
  | addColumn (schema : Option String) (table : String) (column : Column)
  | dropColumn (schema : Option String) (table name : String)
  | alterColumn (schema : Option String) (table : String) (old new : Column)
  | renameColumn (schema : Option String) (table name newName : String)
  | createIndex (ix : Index)
  | dropIndex (schema : Option String) (name : String)
  | renameIndex (schema : Option String) (name newName : String)
  | createSequence (q : Sequence)
  | alterSequence (q : Sequence)
  | dropSequence (schema : Option String) (name : String)
  | renameSequence (r : Rename)
  | restartSequence (schema : Option String) (name : String) (startValue : Int)
  | ensureSchema (name : String)
  | dropSchema (name : String)
  | alterDatabase (old new : DatabaseObjects)
  | createDatabase (name : String) (template tablespace : Option String)
  | dropDatabase (name : String)
  | addPrimaryKey (schema : Option String) (table : String) (key : PrimaryKey)
  | dropPrimaryKey (schema : Option String) (table name : String)
  | addUniqueConstraint (schema : Option String) (table : String) (c : UniqueConstraint)
  | dropUniqueConstraint (schema : Option String) (table name : String)
  | addForeignKey (schema : Option String) (table : String) (key : ForeignKey)
  | dropForeignKey (schema : Option String) (table name : String)
  | addCheckConstraint (schema : Option String) (table : String) (c : CheckConstraint)
  | dropCheckConstraint (schema : Option String) (table name : String)
  | sql (text : String) (suppressTransaction : Bool)
deriving Inhabited

namespace SchemaOperation

/-- The operation's name. -/
def kind : SchemaOperation → String
  | .createTable _ => "create_table"
  | .dropTable .. => "drop_table"
  | .renameTable _ => "rename_table"
  | .alterTable .. => "alter_table"
  | .addColumn .. => "add_column"
  | .dropColumn .. => "drop_column"
  | .alterColumn .. => "alter_column"
  | .renameColumn .. => "rename_column"
  | .createIndex _ => "create_index"
  | .dropIndex .. => "drop_index"
  | .renameIndex .. => "rename_index"
  | .createSequence _ => "create_sequence"
  | .alterSequence _ => "alter_sequence"
  | .dropSequence .. => "drop_sequence"
  | .renameSequence _ => "rename_sequence"
  | .restartSequence .. => "restart_sequence"
  | .ensureSchema _ => "ensure_schema"
  | .dropSchema _ => "drop_schema"
  | .alterDatabase .. => "alter_database"
  | .createDatabase .. => "create_database"
  | .dropDatabase _ => "drop_database"
  | .addPrimaryKey .. => "add_primary_key"
  | .dropPrimaryKey .. => "drop_primary_key"
  | .addUniqueConstraint .. => "add_unique_constraint"
  | .dropUniqueConstraint .. => "drop_unique_constraint"
  | .addForeignKey .. => "add_foreign_key"
  | .dropForeignKey .. => "drop_foreign_key"
  | .addCheckConstraint .. => "add_check_constraint"
  | .dropCheckConstraint .. => "drop_check_constraint"
  | .sql .. => "sql"

/-- The object the operation acts on. -/
def target : SchemaOperation → String
  | .createTable t => Ident.qualify t.name t.schema
  | .createIndex ix => Ident.qualify ix.name ix.schema
  | .createSequence q | .alterSequence q => Ident.qualify q.name q.schema
  | .renameTable r | .renameSequence r => Ident.qualify r.name r.schema
  | .dropTable schema name | .alterTable schema name .. | .dropIndex schema name
  | .renameIndex schema name _ | .dropSequence schema name
  | .restartSequence schema name _ => Ident.qualify name schema
  | .addColumn schema table column => Ident.qualify table schema ++ "." ++ column.name
  | .alterColumn schema table _ new => Ident.qualify table schema ++ "." ++ new.name
  | .dropColumn schema table name | .renameColumn schema table name _
  | .dropPrimaryKey schema table name | .dropUniqueConstraint schema table name
  | .dropForeignKey schema table name | .dropCheckConstraint schema table name =>
    Ident.qualify table schema ++ "." ++ name
  | .addPrimaryKey schema table _ | .addUniqueConstraint schema table _
  | .addForeignKey schema table _ | .addCheckConstraint schema table _ => Ident.qualify table schema
  | .ensureSchema name | .dropSchema name | .createDatabase name .. | .dropDatabase name => name
  | .alterDatabase .. => "database"
  | .sql .. => "sql"

end SchemaOperation

end PgMigrate
