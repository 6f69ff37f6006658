import PgMigrate.Codec.Types
import PgMigrate.Codec.Value
import PgMigrate.Schema.Model
/-
  JSON forms of the schema descriptors.

  Field names are in camel case.  Reading follows the descriptors' own defaults: an
  optional field may be absent or `null`; a field with a default may be absent but not
  `null`; every other field is required; unknown fields are ignored; integers must be
  written as integers.  A column's default value is in the value form of `Codec.Value`.

  A storage parameter's value is untyped in JSON: a boolean, an integer that fits 64 bits,
  another number (read as a double), or a string.

  Writing leaves out unset optional fields and, where the descriptor says so, empty lists;
  a double is written as a number, and as `null` when it is a NaN or infinite.
-/
namespace PgMigrate

namespace Codec

/-- An object's members, each a name and a value when set. -/
def object (members : List (String × Option Json)) : Json :=
  .obj (members.filterMap fun (k, v) => v.map (k, ·))

/-- A list member, left out when empty. -/
def nonEmpty (xs : List Json) : Option Json := if xs.isEmpty then none else some (.arr xs)

/-- A string list. -/
def strings : Json → Option (List String) := Json.list Json.string

/-- A 64-bit integer written as an integer. -/
def int64 : Json → Option Int := Json.intIn i64Min i64Max

/-- Reads a column. -/
def column? (j : Json) : Option Column := do
  guard j.isObject
  pure
    { name := ← j.req "name" Json.string
      sqlType := ← j.req "semanticType" SqlType.ofJson
      storeType := ← j.opt "storeType" Json.string
      nullable := ← j.dflt "nullable" false Json.boolean
      maxLength := ← j.opt "maxLength" (Json.natUpTo u32Max.toNat)
      fixedLength := ← j.dflt "fixedLength" false Json.boolean
      defaultValue := ← j.opt "defaultValue" value?
      defaultSql := ← j.opt "defaultSql" Json.string
      computedSql := ← j.opt "computedSql" Json.string
      comment := ← j.opt "comment" Json.string
      strategy := ← j.dflt "strategy" .none Generation.ofJson
      legacyGeneratedOnAdd := ← j.dflt "legacyValueGeneratedOnAdd" false Json.boolean }

/-- The JSON form of a column. -/
def columnJson (c : Column) : Json :=
  object [("name", some (.str c.name)), ("semanticType", some c.sqlType.toJson),
    ("storeType", c.storeType.map .str), ("nullable", some (.bool c.nullable)),
    ("maxLength", c.maxLength.map fun n => .int n), ("fixedLength", some (.bool c.fixedLength)),
    ("defaultValue", c.defaultValue.map valueJson), ("defaultSql", c.defaultSql.map .str),
    ("computedSql", c.computedSql.map .str), ("comment", c.comment.map .str),
    ("strategy", some c.strategy.toJson),
    ("legacyValueGeneratedOnAdd", some (.bool c.legacyGeneratedOnAdd))]

/-- Reads a primary key. -/
def primaryKey? (j : Json) : Option PrimaryKey := do
  guard j.isObject
  pure { name := ← j.opt "name" Json.string, columns := ← j.req "columns" strings }

/-- The JSON form of a primary key. -/
def primaryKeyJson (k : PrimaryKey) : Json :=
  object [("name", k.name.map .str), ("columns", some (.strs k.columns))]

/-- Reads a unique constraint. -/
def uniqueConstraint? (j : Json) : Option UniqueConstraint := do
  guard j.isObject
  pure { name := ← j.opt "name" Json.string, columns := ← j.req "columns" strings }

/-- The JSON form of a unique constraint. -/
def uniqueConstraintJson (k : UniqueConstraint) : Json :=
  object [("name", k.name.map .str), ("columns", some (.strs k.columns))]

/-- Reads a check constraint. -/
def checkConstraint? (j : Json) : Option CheckConstraint := do
  guard j.isObject
  pure { name := ← j.opt "name" Json.string, sql := ← j.req "sql" Json.string }

/-- The JSON form of a check constraint. -/
def checkConstraintJson (k : CheckConstraint) : Json :=
  object [("name", k.name.map .str), ("sql", some (.str k.sql))]

/-- Reads a referential action by its name. -/
def referentialAction? (j : Json) : Option ReferentialAction :=
  j.str?.bind ReferentialAction.ofSnakeName?

/-- Reads a foreign key. -/
def foreignKey? (j : Json) : Option ForeignKey := do
  guard j.isObject
  pure
    { name := ← j.opt "name" Json.string
      columns := ← j.req "columns" strings
      principalSchema := ← j.opt "principalSchema" Json.string
      principalTable := ← j.req "principalTable" Json.string
      principalColumns := ← j.dflt "principalColumns" [] strings
      onUpdate := ← j.dflt "onUpdate" .noAction referentialAction?
      onDelete := ← j.dflt "onDelete" .noAction referentialAction? }

/-- The JSON form of a foreign key. -/
def foreignKeyJson (k : ForeignKey) : Json :=
  object [("name", k.name.map .str), ("columns", some (.strs k.columns)),
    ("principalSchema", k.principalSchema.map .str),
    ("principalTable", some (.str k.principalTable)),
    ("principalColumns", some (.strs k.principalColumns)),
    ("onUpdate", some (.str k.onUpdate.snakeName)), ("onDelete", some (.str k.onDelete.snakeName))]

/-- Reads a storage value: a boolean, a 64-bit integer, another number, or a string. -/
def storageValue? : Json → Option StorageValue
  | .bool b => some (.bool b)
  | .num n =>
    match n.toInt? with
    | some i => if i64Min ≤ i ∧ i ≤ i64Max then some (.int i) else some (.float (Binary64.ofDecimal n.negative n.digits n.exponent))
    | none => some (.float (Binary64.ofDecimal n.negative n.digits n.exponent))
  | .str s => some (.str s)
  | _ => none

/-- The JSON form of a storage value. -/
def storageValueJson : StorageValue → Json
  | .bool b => .bool b
  | .int n => .int n
  | .float x => numberJson x
  | .str s => .str s

/-- Reads a storage parameter. -/
def storageParameter? (j : Json) : Option StorageParameter := do
  guard j.isObject
  pure { name := ← j.req "name" Json.string, value := ← j.req "value" storageValue? }

/-- The JSON form of a storage parameter. -/
def storageParameterJson (p : StorageParameter) : Json :=
  .obj [("name", .str p.name), ("value", storageValueJson p.value)]

/-- Reads table options. -/
def tableOptions? (j : Json) : Option TableOptions := do
  guard j.isObject
  pure
    { comment := ← j.opt "comment" Json.string
      unlogged := ← j.opt "unlogged" Json.boolean
      storageParameters := ← j.dflt "storageParameters" [] (Json.list storageParameter?) }

/-- The JSON form of table options. -/
def tableOptionsJson (o : TableOptions) : Json :=
  object [("comment", o.comment.map .str), ("unlogged", o.unlogged.map .bool),
    ("storageParameters", nonEmpty (o.storageParameters.map storageParameterJson))]

/-- Reads an interleave clause. -/
def interleave? (j : Json) : Option InterleaveInParent := do
  guard j.isObject
  pure
    { parentSchema := ← j.opt "parentSchema" Json.string
      parentTable := ← j.req "parentTable" Json.string
      prefixColumns := ← j.req "prefix" strings }

/-- The JSON form of an interleave clause. -/
def interleaveJson (i : InterleaveInParent) : Json :=
  object [("parentSchema", i.parentSchema.map .str), ("parentTable", some (.str i.parentTable)),
    ("prefix", some (.strs i.prefixColumns))]

/-- Reads a table. -/
def table? (j : Json) : Option Table := do
  guard j.isObject
  pure
    { schema := ← j.opt "schema" Json.string
      name := ← j.req "name" Json.string
      columns := ← j.req "columns" (Json.list column?)
      primaryKey := ← j.opt "primaryKey" primaryKey?
      uniqueConstraints := ← j.dflt "uniqueConstraints" [] (Json.list uniqueConstraint?)
      checkConstraints := ← j.dflt "checkConstraints" [] (Json.list checkConstraint?)
      foreignKeys := ← j.dflt "foreignKeys" [] (Json.list foreignKey?)
      options := ← j.dflt "options" {} tableOptions?
      interleaveInParent := ← j.opt "interleaveInParent" interleave? }

/-- The JSON form of a table. -/
def tableJson (t : Table) : Json :=
  object [("schema", t.schema.map .str), ("name", some (.str t.name)),
    ("columns", some (.arr (t.columns.map columnJson))),
    ("primaryKey", t.primaryKey.map primaryKeyJson),
    ("uniqueConstraints", nonEmpty (t.uniqueConstraints.map uniqueConstraintJson)),
    ("checkConstraints", nonEmpty (t.checkConstraints.map checkConstraintJson)),
    ("foreignKeys", nonEmpty (t.foreignKeys.map foreignKeyJson)),
    ("options", some (tableOptionsJson t.options)),
    ("interleaveInParent", t.interleaveInParent.map interleaveJson)]

/-- Reads a sort order. -/
def sortOrder? (j : Json) : Option SortOrder := j.str?.bind SortOrder.ofName?

/-- Reads a null sort order. -/
def nullSortOrder? (j : Json) : Option NullSortOrder := j.str?.bind NullSortOrder.ofName?

/-- Reads index options. -/
def indexOptions? (j : Json) : Option IndexOptions := do
  guard j.isObject
  pure
    { method := ← j.opt "method" Json.string
      operators := ← j.dflt "operators" [] strings
      collations := ← j.dflt "collations" [] strings
      sortOrders := ← j.dflt "sortOrders" [] (Json.list sortOrder?)
      nullSortOrders := ← j.dflt "nullSortOrders" [] (Json.list nullSortOrder?)
      included := ← j.dflt "include" [] strings }

/-- The JSON form of index options. -/
def indexOptionsJson (o : IndexOptions) : Json :=
  object [("method", o.method.map .str),
    ("operators", nonEmpty (o.operators.map .str)),
    ("collations", nonEmpty (o.collations.map .str)),
    ("sortOrders", nonEmpty (o.sortOrders.map fun s => .str s.name)),
    ("nullSortOrders", nonEmpty (o.nullSortOrders.map fun s => .str s.name)),
    ("include", nonEmpty (o.included.map .str))]

/-- Reads an index. -/
def index? (j : Json) : Option Index := do
  guard j.isObject
  pure
    { name := ← j.req "name" Json.string
      schema := ← j.opt "schema" Json.string
      table := ← j.req "table" Json.string
      columns := ← j.req "columns" strings
      unique := ← j.dflt "unique" false Json.boolean
      filter := ← j.opt "filter" Json.string
      options := ← j.dflt "options" {} indexOptions? }

/-- The JSON form of an index. -/
def indexJson (ix : Index) : Json :=
  object [("name", some (.str ix.name)), ("schema", ix.schema.map .str),
    ("table", some (.str ix.table)), ("columns", some (.strs ix.columns)),
    ("unique", some (.bool ix.unique)), ("filter", ix.filter.map .str),
    ("options", some (indexOptionsJson ix.options))]

/-- Reads a sequence. -/
def sequence? (j : Json) : Option Sequence := do
  guard j.isObject
  pure
    { schema := ← j.opt "schema" Json.string
      name := ← j.req "name" Json.string
      sqlType := ← j.dflt "semanticType" .bigInt SqlType.ofJson
      startWith := ← j.dflt "startWith" 1 int64
      incrementBy := ← j.dflt "incrementBy" 1 int64
      minValue := ← j.opt "minValue" int64
      maxValue := ← j.opt "maxValue" int64
      cycle := ← j.dflt "cycle" false Json.boolean }

/-- The JSON form of a sequence. -/
def sequenceJson (q : Sequence) : Json :=
  object [("schema", q.schema.map .str), ("name", some (.str q.name)),
    ("semanticType", some q.sqlType.toJson), ("startWith", some (.int q.startWith)),
    ("incrementBy", some (.int q.incrementBy)), ("minValue", q.minValue.map .int),
    ("maxValue", q.maxValue.map .int), ("cycle", some (.bool q.cycle))]

/-- Reads an extension. -/
def extension? (j : Json) : Option Extension := do
  guard j.isObject
  pure
    { schema := ← j.opt "schema" Json.string
      name := ← j.req "name" Json.string
      version := ← j.opt "version" Json.string }

/-- The JSON form of an extension. -/
def extensionJson (e : Extension) : Json :=
  object [("schema", e.schema.map .str), ("name", some (.str e.name)),
    ("version", e.version.map .str)]

/-- Reads an enum type. -/
def enumType? (j : Json) : Option EnumType := do
  guard j.isObject
  pure
    { schema := ← j.opt "schema" Json.string
      name := ← j.req "name" Json.string
      labels := ← j.req "labels" strings }

/-- The JSON form of an enum type. -/
def enumTypeJson (e : EnumType) : Json :=
  object [("schema", e.schema.map .str), ("name", some (.str e.name)),
    ("labels", some (.strs e.labels))]

/-- Reads a range type. -/
def rangeType? (j : Json) : Option RangeType := do
  guard j.isObject
  pure
    { schema := ← j.opt "schema" Json.string
      name := ← j.req "name" Json.string
      subtype := ← j.req "subtype" Json.string
      canonicalFunction := ← j.opt "canonicalFunction" Json.string
      subtypeOpclass := ← j.opt "subtypeOpclass" Json.string
      collation := ← j.opt "collation" Json.string
      subtypeDiff := ← j.opt "subtypeDiff" Json.string }

/-- The JSON form of a range type. -/
def rangeTypeJson (r : RangeType) : Json :=
  object [("schema", r.schema.map .str), ("name", some (.str r.name)),
    ("subtype", some (.str r.subtype)), ("canonicalFunction", r.canonicalFunction.map .str),
    ("subtypeOpclass", r.subtypeOpclass.map .str), ("collation", r.collation.map .str),
    ("subtypeDiff", r.subtypeDiff.map .str)]

/-- Reads database objects; each list defaults to empty. -/
def databaseObjects? (j : Json) : Option DatabaseObjects := do
  guard j.isObject
  pure
    { extensions := ← j.dflt "extensions" [] (Json.list extension?)
      enums := ← j.dflt "enums" [] (Json.list enumType?)
      ranges := ← j.dflt "ranges" [] (Json.list rangeType?) }

/-- The JSON form of database objects. -/
def databaseObjectsJson (o : DatabaseObjects) : Json :=
  .obj [("extensions", .arr (o.extensions.map extensionJson)),
    ("enums", .arr (o.enums.map enumTypeJson)), ("ranges", .arr (o.ranges.map rangeTypeJson))]

/-- Reads a model; every field may be left out. -/
def model? (j : Json) : Option DatabaseModel := do
  guard j.isObject
  pure
    { defaultSchema := ← j.opt "defaultSchema" Json.string
      strategy := ← j.opt "strategy" Generation.ofJson
      hiloSequenceName := ← j.opt "hiloSequenceName" Json.string
      hiloSequenceSchema := ← j.opt "hiloSequenceSchema" Json.string
      databaseTemplate := ← j.opt "databaseTemplate" Json.string
      tablespace := ← j.opt "tablespace" Json.string
      extensions := ← j.dflt "extensions" [] (Json.list extension?)
      enums := ← j.dflt "enums" [] (Json.list enumType?)
      ranges := ← j.dflt "ranges" [] (Json.list rangeType?)
      sequences := ← j.dflt "sequences" [] (Json.list sequence?)
      tables := ← j.dflt "tables" [] (Json.list table?) }

/-- The JSON form of a model. -/
def modelJson (m : DatabaseModel) : Json :=
  object [("defaultSchema", m.defaultSchema.map .str),
    ("strategy", m.strategy.map Generation.toJson),
    ("hiloSequenceName", m.hiloSequenceName.map .str),
    ("hiloSequenceSchema", m.hiloSequenceSchema.map .str),
    ("databaseTemplate", m.databaseTemplate.map .str), ("tablespace", m.tablespace.map .str),
    ("extensions", some (.arr (m.extensions.map extensionJson))),
    ("enums", some (.arr (m.enums.map enumTypeJson))),
    ("ranges", some (.arr (m.ranges.map rangeTypeJson))),
    ("sequences", some (.arr (m.sequences.map sequenceJson))),
    ("tables", some (.arr (m.tables.map tableJson)))]

end Codec

end PgMigrate
