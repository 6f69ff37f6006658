import PgMigrate.Migration.Clause
import PgMigrate.Migration.Command
import PgMigrate.Migration.Operation
/-
  The DDL generator: schema operations to command batches.

  `Generator.generate` walks the operations in order.  Each operation is described by the
  actions it performs on one `CommandList` (statements appended, commands closed), and these
  are performed before the next operation; most operations close their own command.  The target version decides
  what may be said: identity columns need 10, computed columns 12, and `AS <type>` on a
  sequence is only written from 10 on.  The model, when given, supplies store types of
  columns that carry none, the default schema of enums and ranges, and the template and
  tablespace of a new database.  The first operation that cannot be expressed stops the
  walk, and nothing generated before it is returned.

  Two operations cut a command in the middle of their work: creating an enum or range in
  a schema first ensures the schema in a command of its own, and turning a plain column
  into a serial one creates its sequence in a command of its own, closing the command
  that changed the column's type and nullability.
-/
namespace PgMigrate

/-- The generator's settings. -/
structure Generator where
  version : Option ServerVersion := none
  defaultSchema : Option String := none
  breakpoints : Bool := true
  batchDelimiter : String := breakpoint
deriving Repr, Inhabited

namespace Generator

/-- Four spaces, the indentation of a definition's lines. -/
def indent : String := "    "

/-- The target version, when it comes before `v`. -/
def versionBefore (g : Generator) (v : ServerVersion) : Option ServerVersion :=
  g.version.filter fun x => !(v.le x)

/-- The store type of a column: its own, else the model's for that column, else resolved. -/
def columnType (model : Option DatabaseModel) (schema : Option String) (table : String)
    (c : Column) : String :=
  match c.storeType with
  | some st => st
  | none =>
    match (model.bind (·.findColumn schema table c.name)).bind (·.storeType) with
    | some st => st
    | none => c.ownStoreType

/-- Identity strategies need version 10. -/
def checkIdentitySupported (g : Generator) (table column : String) (strategy : Generation) :
    Except MigrationError Unit :=
  if !strategy.isIdentity then .ok ()
  else
    match g.versionBefore ServerVersion.v10 with
    | some v => .error (.identityColumnsUnsupported table column strategy v)
    | none => .ok ()

/-- A column's generation must not use the retired annotation and must be supported. -/
def checkValueGeneration (g : Generator) (table : String) (c : Column) :
    Except MigrationError Unit :=
  if c.legacyGeneratedOnAdd then .error (.legacyGeneratedOnAdd table c.name)
  else g.checkIdentitySupported table c.name c.strategy

/-- A column's definition in `CREATE TABLE` or `ADD`. -/
def columnDefinition (g : Generator) (model : Option DatabaseModel) (schema : Option String)
    (table : String) (c : Column) : Except MigrationError String := do
  let name := Ident.delimit c.name
  let storeType := columnType model schema table c
  match c.computedSql with
  | some sql =>
    match g.versionBefore ServerVersion.v12 with
    | some v => throw (.computedColumnsUnsupported table c.name v)
    | none => pure (name ++ " " ++ storeType ++ " GENERATED ALWAYS AS (" ++ sql ++ ") STORED")
  | none =>
    g.checkValueGeneration table c
    let storeType := if c.strategy == .serial then (serialStoreType storeType).getD storeType
      else storeType
    let defaultText ← Clause.default c
    let identity := match c.strategy.identityClause with
      | some clause => " GENERATED " ++ clause ++ " AS IDENTITY"
      | none => ""
    pure (name ++ " " ++ storeType ++ " " ++ (if c.nullable then "NULL" else "NOT NULL") ++
      defaultText ++ identity)

/-- Statements forming one command. -/
def batch (stmts : List String) : List Emission := stmts.map .statement ++ [.cut false]

/-- A statement forming a command of its own. -/
def command (sql : String) : List Emission := batch [sql]

/-- `CREATE TABLE` with its comments, in one command. -/
def createTable (g : Generator) (model : Option DatabaseModel) (t : Table) :
    Except MigrationError (List Emission) := do
  let qualified := Ident.qualify t.name t.schema
  let columns ← (userColumns t.columns).mapM (g.columnDefinition model t.schema t.name)
  let lines := columns ++ (t.primaryKey.map Clause.primaryKey).toList ++
    t.uniqueConstraints.map Clause.unique ++ t.checkConstraints.map Clause.check ++
    t.foreignKeys.map Clause.foreignKey
  let interleave := match t.interleaveInParent with
    | some i => "\nINTERLEAVE IN PARENT " ++ Ident.qualify i.parentTable i.parentSchema ++ " (" ++
        Clause.columnList i.prefixColumns ++ ")"
    | none => ""
  let parameters := storageParameters t.options
  let storage := if parameters.isEmpty then "" else "\nWITH (" ++ formatAssignments parameters ++ ")"
  let sql := "CREATE " ++ (if t.options.isUnlogged then "UNLOGGED " else "") ++ "TABLE " ++
    qualified ++ " (\n" ++ ",\n".intercalate (lines.map (indent ++ ·)) ++ "\n)" ++ interleave ++
    storage
  let tableComment := match t.options.comment with
    | some c => if c.isEmpty then [] else ["COMMENT ON TABLE " ++ qualified ++ " IS " ++ sqlQuote c]
    | none => []
  let columnComments := (userColumns t.columns).filterMap fun c =>
    c.comment.map fun cm => "COMMENT ON COLUMN " ++ qualified ++ "." ++ Ident.delimit c.name ++
      " IS " ++ sqlQuote cm
  pure (batch (sql :: tableComment ++ columnComments))

/-- Storage parameters, comment and logging, each only when changed; one command when
    anything changed. -/
def alterTable (schema : Option String) (name : String) (old new : TableOptions) :
    List Emission :=
  let qualified := Ident.qualify name schema
  let storage := StorageDiff.between old new
  let stmts :=
    (if storage.set.isEmpty then []
      else ["ALTER TABLE " ++ qualified ++ " SET (" ++ formatAssignments storage.set ++ ")"]) ++
    (if storage.reset.isEmpty then []
      else ["ALTER TABLE " ++ qualified ++ " RESET (" ++ ", ".intercalate storage.reset ++ ")"]) ++
    (if old.comment == new.comment then []
      else ["COMMENT ON TABLE " ++ qualified ++ " IS " ++ Clause.commentLiteral new.comment]) ++
    (if old.isUnlogged == new.isUnlogged then []
      else ["ALTER TABLE " ++ qualified ++ " SET " ++
        (if new.isUnlogged then "UNLOGGED" else "LOGGED")])
  if stmts.isEmpty then [] else batch stmts

/-- Renames an object and/or moves it to another schema, in one command. -/
def rename (kind : String) (r : Rename) : List Emission :=
  let (renamed, name) : List String × String := match r.newName with
    | some n =>
      if n == r.name then ([], r.name)
      else (["ALTER " ++ kind ++ " " ++ Ident.qualify r.name r.schema ++ " RENAME TO " ++
        Ident.delimit n], n)
    | none => ([], r.name)
  let moved := match r.newSchema with
    | some s =>
      if some s == r.schema then []
      else ["ALTER " ++ kind ++ " " ++ Ident.qualify name r.schema ++ " SET SCHEMA " ++
        Ident.delimit s]
    | none => []
  batch (renamed ++ moved)

/-- `ALTER TABLE … ADD <clause>`. -/
def addConstraint (schema : Option String) (table clause : String) : List Emission :=
  command ("ALTER TABLE " ++ Ident.qualify table schema ++ " ADD " ++ clause)

/-- Adds a column (system columns are skipped), with its comment, in one command. -/
def addColumn (g : Generator) (model : Option DatabaseModel) (schema : Option String)
    (table : String) (c : Column) : Except MigrationError (List Emission) :=
  if isSystemColumn c.name then pure []
  else do
    let qualified := Ident.qualify table schema
    let definition ← g.columnDefinition model schema table c
    let comment := match c.comment with
      | some cm => if cm.isEmpty then []
        else ["COMMENT ON COLUMN " ++ qualified ++ "." ++ Ident.delimit c.name ++ " IS " ++ sqlQuote cm]
      | none => []
    pure (batch (("ALTER TABLE " ++ qualified ++ " ADD " ++ definition) :: comment))

/-- Drops a column (system columns are skipped). -/
def dropColumn (schema : Option String) (table name : String) : List Emission :=
  if isSystemColumn name then []
  else command ("ALTER TABLE " ++ Ident.qualify table schema ++ " DROP COLUMN " ++
    Ident.delimit name)

/-- `CREATE SEQUENCE`, with `AS <type>` from version 10 on when not `bigint`. -/
def createSequence (g : Generator) (q : Sequence) : List Emission :=
  let typed := if q.sqlType != .bigInt && atLeast g.version 10 0 then " AS " ++ q.sqlType.storeType
    else ""
  command ("CREATE SEQUENCE " ++ Ident.qualify q.name q.schema ++ typed ++ " START WITH " ++
    toString q.startWith ++ Clause.sequenceOptions q)

/-- Rewrites a column from one generation strategy to another; gives the sequence created
    for the column, whose ownership moves to it once its default is in place. -/
def strategyTransition (g : Generator) (schema : Option String) (table : String) (c : Column)
    (columnType alterBase : String) (source : Generation) :
    Except MigrationError (List Emission × Option String) := do
  let target := c.strategy
  g.checkIdentitySupported table c.name target
  let sequenceName := table ++ "_" ++ c.name ++ "_seq"
  let sequence := Ident.qualify sequenceName schema
  let clause := target.identityClause.getD ""
  match source, target with
  | .serial, .none => pure ([.statement ("DROP SEQUENCE " ++ sequence ++ " CASCADE")], none)
  | .serial, .identityAlways | .serial, .identityByDefault =>
    let oldName := table ++ "_" ++ c.name ++ "_old_seq"
    let oldSequence := Ident.qualify oldName schema
    let stmts := ["ALTER SEQUENCE " ++ sequence ++ " RENAME TO " ++ Ident.delimit oldName,
      alterBase ++ "DROP DEFAULT", alterBase ++ "ADD GENERATED " ++ clause ++ " AS IDENTITY",
      "SELECT * FROM setval(" ++ sqlQuote sequence ++ ", nextval(" ++ sqlQuote oldSequence ++
        "), false)",
      "DROP SEQUENCE " ++ oldSequence]
    pure (stmts.map .statement, none)
  | .identityAlways, .none | .identityByDefault, .none =>
    pure ([.statement (alterBase ++ "DROP IDENTITY")], none)
  | .identityAlways, .identityAlways | .identityAlways, .identityByDefault
  | .identityByDefault, .identityAlways | .identityByDefault, .identityByDefault =>
    pure ([.statement (alterBase ++ "SET GENERATED " ++ clause)], none)
  | .identityAlways, .serial | .identityByDefault, .serial =>
    throw (.identityToSerial table c.name)
  | .none, .identityAlways | .none, .identityByDefault =>
    pure ([.statement (alterBase ++ "ADD GENERATED " ++ clause ++ " AS IDENTITY")], none)
  | .none, .serial =>
    if !isIntegerStoreType columnType then
      throw (.serialOnNonInteger table c.name columnType)
    -- the sequence's own command closes the one holding the type and nullability changes
    let created := g.createSequence
      { name := sequenceName, schema, sqlType := Clause.integerSqlType columnType }
    pure (created ++ [.statement (alterBase ++ "SET DEFAULT (nextval(" ++ sqlQuote sequence ++ "))")],
      some sequence)
  | .hiLo, _ => pure ([], none)
  | _, _ => throw (.unsupportedStrategyTransition table c.name source target)

/-- The generation change of a column, when its strategy changed: the statements, and the
    sequence created for the column. -/
def strategyChange (g : Generator) (schema : Option String) (table : String) (old new : Column)
    (columnType alterBase : String) : Except MigrationError (List Emission × Option String) :=
  if old.strategy != new.strategy then
    g.strategyTransition schema table new columnType alterBase old.strategy
  else pure ([], none)

/-- The default of a column that is not generated, set or dropped; generated columns manage
    their defaults through the transition. -/
def defaultChange (new : Column) (alterBase : String) : Except MigrationError (List String) :=
  if new.strategy == .none then
    (fun d => [alterBase ++ (if d.isEmpty then "DROP DEFAULT" else "SET" ++ d)]) <$>
      Clause.default new
  else pure []

/-- Alters a column to its new definition, in one command (a computed column is dropped
    and added again; system columns are skipped). -/
def alterColumn (g : Generator) (model : Option DatabaseModel) (schema : Option String)
    (table : String) (old new : Column) : Except MigrationError (List Emission) :=
  if isSystemColumn new.name then pure []
  -- no `ALTER COLUMN` form makes a column computed: the drop's command precedes the add
  else if new.computedSql.isSome then
    (dropColumn schema table new.name ++ ·) <$> g.addColumn model schema table new
  else if new.legacyGeneratedOnAdd then throw (.legacyGeneratedOnAdd table new.name)
  else do
    let columnType := columnType model schema table new
    let qualifiedTable := Ident.qualify table schema
    let column := Ident.delimit new.name
    let alterBase := "ALTER TABLE " ++ qualifiedTable ++ " ALTER COLUMN " ++ column ++ " "
    let (transition, owned) ← g.strategyChange schema table old new columnType alterBase
    let default ← defaultChange new alterBase
    let ownership := match owned with
      | some sequence => ["ALTER SEQUENCE " ++ sequence ++ " OWNED BY " ++ qualifiedTable ++ "." ++
          column]
      | none => []
    let comment := if old.comment == new.comment then []
      else ["COMMENT ON COLUMN " ++ qualifiedTable ++ "." ++ column ++ " IS " ++
        Clause.commentLiteral new.comment]
    pure ([.statement (alterBase ++ "TYPE " ++ columnType),
      .statement (alterBase ++ (if new.nullable then "DROP NOT NULL" else "SET NOT NULL"))] ++
      transition ++ batch (default ++ ownership ++ comment))

/-- One column of an index with its modifiers; ordering only where the method sorts. -/
def indexItem (supportsOrdering : Bool) (c : IndexColumn) : String :=
  Ident.delimit c.name ++
    (match c.operator with
      | some op => " " ++ Clause.delimitOperator op
      | none => "") ++
    (match c.collation with
      | some coll => " COLLATE " ++ coll
      | none => "") ++
    (if supportsOrdering then
      (if c.sortOrder == .descending then " DESC" else "") ++
        (match c.nullSortOrder.sql with
          | some nulls => " " ++ nulls
          | none => "")
    else "")

/-- `CREATE [UNIQUE] INDEX`. -/
def createIndex (ix : Index) : List Emission :=
  let o := ix.options
  let method := match o.method with
    | some m => if m.isEmpty then "" else " USING " ++ m
    | none => ""
  let columns := ", ".intercalate (ix.indexColumns.map (indexItem o.supportsOrdering))
  let included := if o.included.isEmpty then "" else " INCLUDE (" ++ Clause.columnList o.included ++ ")"
  let filter := match ix.filter with
    | some f => " WHERE " ++ f
    | none => ""
  command ("CREATE " ++ (if ix.unique then "UNIQUE " else "") ++ "INDEX " ++
    Ident.delimit ix.name ++ " ON " ++ Ident.qualify ix.table ix.schema ++ method ++ " (" ++ columns ++
    ")" ++ included ++ filter)

/-- `CREATE SCHEMA IF NOT EXISTS`, except for `public`, which always exists. -/
def ensureSchema (name : String) : List Emission :=
  if name == "public" then []
  else command ("CREATE SCHEMA IF NOT EXISTS " ++ Ident.delimit name)

/-- `CREATE DATABASE`, outside a transaction. -/
def createDatabase (name : String) (template tablespace : Option String) : List Emission :=
  let sql := "CREATE DATABASE " ++ Ident.delimit name ++
    (match template with
      | some t => " TEMPLATE " ++ Ident.delimit t
      | none => "") ++
    (match tablespace with
      | some t => " TABLESPACE " ++ Ident.delimit t
      | none => "")
  [.statement sql, .cut true]

/-- Cuts off the database's sessions in one command, then drops it in another. -/
def dropDatabase (name : String) : List Emission :=
  let database := Ident.delimit name
  [.statement ("REVOKE CONNECT ON DATABASE " ++ database ++ " FROM PUBLIC"),
    .statement ("SELECT pg_terminate_backend(pg_stat_activity.pid) FROM " ++
      "pg_stat_activity WHERE datname = " ++ sqlQuote name),
    .cut true, .statement ("DROP DATABASE " ++ database), .cut true]

/-- The schema of a database-level type: its own, the model's default, the generator's. -/
def objectSchema (g : Generator) (model : Option DatabaseModel) (schema : Option String) :
    Option String :=
  match schema with
  | some s => some s
  | none =>
    match model.bind (·.defaultSchema) with
    | some s => some s
    | none => g.defaultSchema

/-- The qualified name of a database-level type. -/
def objectName (g : Generator) (model : Option DatabaseModel) (schema : Option String)
    (name : String) : String :=
  Ident.qualify name (g.objectSchema model schema)

/-- Ensures the type's schema (in its own command), then `CREATE TYPE … AS ENUM`. -/
def createEnum (g : Generator) (model : Option DatabaseModel) (e : EnumType) : List Emission :=
  let schema := g.objectSchema model e.schema
  let ensured := match schema with
    | some s => ensureSchema s
    | none => []
  ensured ++ [.statement ("CREATE TYPE " ++ Ident.qualify e.name schema ++ " AS ENUM (" ++
    ", ".intercalate (e.labels.map sqlQuote) ++ ")")]

/-- Ensures the type's schema (in its own command), then `CREATE TYPE … AS RANGE`. -/
def createRange (g : Generator) (model : Option DatabaseModel) (r : RangeType) : List Emission :=
  let schema := g.objectSchema model r.schema
  let ensured := match schema with
    | some s => ensureSchema s
    | none => []
  let hook := fun (label : String) (v : Option String) => (v.map (label ++ " = " ++ ·)).toList
  let definition := ["SUBTYPE = " ++ r.subtype] ++ hook "CANONICAL" r.canonicalFunction ++
    hook "SUBTYPE_OPCLASS" r.subtypeOpclass ++ hook "COLLATION" r.collation ++
    hook "SUBTYPE_DIFF" r.subtypeDiff
  ensured ++ [.statement ("CREATE TYPE " ++ Ident.qualify r.name schema ++ " AS RANGE (\n" ++
    ",\n".intercalate (definition.map (indent ++ ·)) ++ "\n)")]

/-- `DROP TYPE` of an enum or range. -/
def dropType (g : Generator) (model : Option DatabaseModel) (schema : Option String)
    (name : String) : Emission :=
  .statement ("DROP TYPE " ++ g.objectName model schema name)

/-- `CREATE EXTENSION IF NOT EXISTS`. -/
def createExtension (e : Extension) : Emission :=
  .statement ("CREATE EXTENSION IF NOT EXISTS " ++ Ident.delimit e.name ++
    (match e.schema with
      | some s => " SCHEMA " ++ Ident.delimit s
      | none => "") ++
    (match e.version with
      | some v => " VERSION " ++ Ident.delimit v
      | none => ""))

/-- Creates the enums and ranges that are new, drops those that are gone (enums first,
    then ranges), refuses to alter one, and creates every listed extension. -/
def alterDatabase (g : Generator) (model : Option DatabaseModel) (old new : DatabaseObjects) :
    Except MigrationError (List Emission) :=
  let createdEnums := (new.enums.filter fun n => !old.enums.any (·.key == n.key)).flatMap
    (g.createEnum model)
  let droppedEnums := (old.enums.filter fun o => !new.enums.any (·.key == o.key)).map
    fun e => g.dropType model e.schema e.name
  let createdRanges := (new.ranges.filter fun n => !old.ranges.any (·.key == n.key)).flatMap
    (g.createRange model)
  let droppedRanges := (old.ranges.filter fun o => !new.ranges.any (·.key == o.key)).map
    fun r => g.dropType model r.schema r.name
  -- an enum or range kept under its key must be unchanged; enums are checked first
  match new.enums.find? (fun n => old.enums.any fun o => o.key == n.key && o != n),
    new.ranges.find? (fun n => old.ranges.any fun o => o.key == n.key && o != n) with
  | some e, _ => throw (.enumAlteration (g.objectName model e.schema e.name))
  | none, some r => throw (.rangeAlteration (g.objectName model r.schema r.name))
  | none, none =>
    pure (createdEnums ++ droppedEnums ++ createdRanges ++ droppedRanges ++
      new.extensions.map createExtension ++ [.cut false])

/-- What one operation does to the command list, in order. -/
def emissions (g : Generator) (model : Option DatabaseModel) :
    SchemaOperation → Except MigrationError (List Emission)
  | .createTable t => g.createTable model t
  | .dropTable schema name => .ok (command ("DROP TABLE " ++ Ident.qualify name schema))
  | .renameTable r => .ok (rename "TABLE" r)
  | .alterTable schema name old new => .ok (alterTable schema name old new)
  | .addColumn schema table c => g.addColumn model schema table c
  | .dropColumn schema table name => .ok (dropColumn schema table name)
  | .alterColumn schema table old new => g.alterColumn model schema table old new
  | .renameColumn schema table name newName =>
    .ok (command ("ALTER TABLE " ++ Ident.qualify table schema ++ " RENAME COLUMN " ++
      Ident.delimit name ++ " TO " ++ Ident.delimit newName))
  | .createIndex ix => .ok (createIndex ix)
  | .dropIndex schema name => .ok (command ("DROP INDEX " ++ Ident.qualify name schema))
  | .renameIndex schema name newName =>
    let renamed := if newName == name then []
      else ["ALTER INDEX " ++ Ident.qualify name schema ++ " RENAME TO " ++ Ident.delimit newName]
    .ok (batch renamed)
  | .createSequence q => .ok (g.createSequence q)
  | .alterSequence q =>
    .ok (command ("ALTER SEQUENCE " ++ Ident.qualify q.name q.schema ++ Clause.sequenceOptions q))
  | .dropSequence schema name => .ok (command ("DROP SEQUENCE " ++ Ident.qualify name schema))
  | .renameSequence r => .ok (rename "SEQUENCE" r)
  | .restartSequence schema name start =>
    .ok (command ("ALTER SEQUENCE " ++ Ident.qualify name schema ++ " RESTART WITH " ++
      toString start))
  | .ensureSchema name => .ok (ensureSchema name)
  | .dropSchema name => .ok (command ("DROP SCHEMA " ++ Ident.delimit name))
  | .alterDatabase old new => g.alterDatabase model old new
  | .createDatabase name template tablespace =>
    let template := template.orElse fun _ => model.bind (·.databaseTemplate)
    let tablespace := tablespace.orElse fun _ => model.bind (·.tablespace)
    .ok (createDatabase name template tablespace)
  | .dropDatabase name => .ok (dropDatabase name)
  | .addPrimaryKey schema table k => .ok (addConstraint schema table (Clause.primaryKey k))
  | .addUniqueConstraint schema table k => .ok (addConstraint schema table (Clause.unique k))
  | .addForeignKey schema table k => .ok (addConstraint schema table (Clause.foreignKey k))
  | .addCheckConstraint schema table k => .ok (addConstraint schema table (Clause.check k))
  | .dropPrimaryKey schema table name | .dropUniqueConstraint schema table name
  | .dropForeignKey schema table name | .dropCheckConstraint schema table name =>
    .ok (command ("ALTER TABLE " ++ Ident.qualify table schema ++ " DROP CONSTRAINT " ++
      Ident.delimit name))
  | .sql text suppress =>
    .ok (.text text :: (if text.endsWith "\n" then [] else [.text "\n"]) ++ [.cut suppress])

/-- Performs one operation on the command list. -/
def operation (g : Generator) (model : Option DatabaseModel) (out : CommandList)
    (op : SchemaOperation) : Except MigrationError CommandList :=
  out.emitAll <$> g.emissions model op

/-- The commands of a list of operations; the first failure stops everything. -/
def generate (g : Generator) (ops : List SchemaOperation) (model : Option DatabaseModel) :
    Except MigrationError (List MigrationCommand) := do
  let out ← ops.foldlM (g.operation model) {}
  pure out.build

/-- The commands of a list of operations joined into one script. -/
def generateScript (g : Generator) (ops : List SchemaOperation) (model : Option DatabaseModel) :
    Except MigrationError String := do
  pure (renderScript (← g.generate ops model) g.breakpoints g.batchDelimiter)

end Generator

end PgMigrate
