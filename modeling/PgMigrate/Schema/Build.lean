import PgMigrate.Schema.Model
/-
  Building descriptors from settings.

  Each descriptor starts from its required parts (a column from its name and type, a table
  from its name, and so on) and takes a list of settings, applied in order.  A setting
  changes its own field and nothing else; given twice, the later one wins, except for the
  settings that add to a list (a table's columns, constraints, foreign keys and storage
  parameters, and the declarations of a set of database objects), which append.  A setting
  that takes a list replaces the whole list.
-/
namespace PgMigrate

/-- One setting of a column. -/
inductive ColumnSetting where
  | storeType (s : String)
  | nullable (b : Bool)
  | maxLength (n : Nat)
  | fixedLength
  | defaultValue (v : Value)
  | defaultSql (sql : String)
  | computed (sql : String)
  | comment (text : String)
  | strategy (g : Generation)

namespace Column

/-- A NOT NULL column of a type, with nothing else set. -/
def new (name : String) (t : SqlType) : Column := { name, sqlType := t }

/-- Applies one setting. -/
def set (c : Column) : ColumnSetting → Column
  | .storeType s => { c with storeType := some s }
  | .nullable b => { c with nullable := b }
  | .maxLength n => { c with maxLength := some n }
  | .fixedLength => { c with fixedLength := true }
  | .defaultValue v => { c with defaultValue := some v }
  | .defaultSql sql => { c with defaultSql := some sql }
  | .computed sql => { c with computedSql := some sql }
  | .comment text => { c with comment := some text }
  | .strategy g => { c with strategy := g }

/-- A column from its name, type and settings. -/
def build (name : String) (t : SqlType) (settings : List ColumnSetting) : Column :=
  settings.foldl set (new name t)

end Column

/-- One setting of a foreign key. -/
inductive ForeignKeySetting where
  | named (name : String)
  | principalSchema (schema : String)
  | principalColumns (columns : List String)
  | onUpdate (a : ReferentialAction)
  | onDelete (a : ReferentialAction)

namespace ForeignKey

/-- Applies one setting. -/
def set (k : ForeignKey) : ForeignKeySetting → ForeignKey
  | .named name => { k with name := some name }
  | .principalSchema schema => { k with principalSchema := some schema }
  | .principalColumns columns => { k with principalColumns := columns }
  | .onUpdate a => { k with onUpdate := a }
  | .onDelete a => { k with onDelete := a }

/-- A foreign key from its columns, principal table and settings. -/
def build (columns : List String) (principalTable : String) (settings : List ForeignKeySetting) :
    ForeignKey :=
  settings.foldl set { columns, principalTable }

end ForeignKey

/-- One setting of a table. -/
inductive TableSetting where
  | schema (name : String)
  | column (c : Column)
  | primaryKey (k : PrimaryKey)
  | uniqueConstraint (c : UniqueConstraint)
  | checkConstraint (c : CheckConstraint)
  | foreignKey (k : ForeignKey)
  | comment (text : String)
  | unlogged (b : Bool)
  | storageParameter (p : StorageParameter)
  | interleaveInParent (i : InterleaveInParent)

namespace Table

/-- Applies one setting. -/
def set (t : Table) : TableSetting → Table
  | .schema name => { t with schema := some name }
  | .column c => { t with columns := t.columns ++ [c] }
  | .primaryKey k => { t with primaryKey := some k }
  | .uniqueConstraint c => { t with uniqueConstraints := t.uniqueConstraints ++ [c] }
  | .checkConstraint c => { t with checkConstraints := t.checkConstraints ++ [c] }
  | .foreignKey k => { t with foreignKeys := t.foreignKeys ++ [k] }
  | .comment text => { t with options := { t.options with comment := some text } }
  | .unlogged b => { t with options := { t.options with unlogged := some b } }
  | .storageParameter p =>
    { t with options := { t.options with storageParameters := t.options.storageParameters ++ [p] } }
  | .interleaveInParent i => { t with interleaveInParent := some i }

/-- A table from its name and settings. -/
def build (name : String) (settings : List TableSetting) : Table := settings.foldl set { name }

end Table

/-- One setting of an index. -/
inductive IndexSetting where
  | schema (name : String)
  | unique
  | filter (sql : String)
  | method (name : String)
  | operators (names : List String)
  | collations (names : List String)
  | sortOrders (orders : List SortOrder)
  | nullSortOrders (orders : List NullSortOrder)
  | included (columns : List String)

namespace Index

/-- Applies one setting. -/
def set (ix : Index) : IndexSetting → Index
  | .schema name => { ix with schema := some name }
  | .unique => { ix with unique := true }
  | .filter sql => { ix with filter := some sql }
  | .method name => { ix with options := { ix.options with method := some name } }
  | .operators names => { ix with options := { ix.options with operators := names } }
  | .collations names => { ix with options := { ix.options with collations := names } }
  | .sortOrders orders => { ix with options := { ix.options with sortOrders := orders } }
  | .nullSortOrders orders => { ix with options := { ix.options with nullSortOrders := orders } }
  | .included columns => { ix with options := { ix.options with included := columns } }

/-- An index from its name, table, columns and settings. -/
def build (name table : String) (columns : List String) (settings : List IndexSetting) : Index :=
  settings.foldl set { name, table, columns }

end Index

/-- One setting of a sequence. -/
inductive SequenceSetting where
  | schema (name : String)
  | inSchema (name : Option String)
  | sqlType (t : SqlType)
  | startWith (n : Int)
  | incrementBy (n : Int)
  | minValue (n : Int)
  | maxValue (n : Int)
  | cycle

namespace Sequence

/-- Applies one setting. -/
def set (q : Sequence) : SequenceSetting → Sequence
  | .schema name => { q with schema := some name }
  | .inSchema name => { q with schema := name }
  | .sqlType t => { q with sqlType := t }
  | .startWith n => { q with startWith := n }
  | .incrementBy n => { q with incrementBy := n }
  | .minValue n => { q with minValue := some n }
  | .maxValue n => { q with maxValue := some n }
  | .cycle => { q with cycle := true }

/-- A sequence from its name and settings. -/
def build (name : String) (settings : List SequenceSetting) : Sequence := settings.foldl set { name }

end Sequence

/-- One setting of a range type. -/
inductive RangeTypeSetting where
  | canonicalFunction (name : String)
  | subtypeOpclass (name : String)
  | collation (name : String)
  | subtypeDiff (name : String)

namespace RangeType

/-- Applies one setting. -/
def set (r : RangeType) : RangeTypeSetting → RangeType
  | .canonicalFunction name => { r with canonicalFunction := some name }
  | .subtypeOpclass name => { r with subtypeOpclass := some name }
  | .collation name => { r with collation := some name }
  | .subtypeDiff name => { r with subtypeDiff := some name }

/-- A range type from its schema, name, subtype and settings. -/
def build (schema : Option String) (name subtype : String) (settings : List RangeTypeSetting) :
    RangeType :=
  settings.foldl set { schema, name, subtype }

end RangeType

/-- One setting of an extension. -/
inductive ExtensionSetting where
  | schema (name : String)
  | version (text : String)

namespace Extension

/-- Applies one setting. -/
def set (e : Extension) : ExtensionSetting → Extension
  | .schema name => { e with schema := some name }
  | .version text => { e with version := some text }

/-- An extension from its name and settings. -/
def build (name : String) (settings : List ExtensionSetting) : Extension := settings.foldl set { name }

end Extension

/-- One declaration added to a set of database objects. -/
inductive ObjectsSetting where
  | extension (e : Extension)
  | enumeration (e : EnumType)
  | range (r : RangeType)

namespace DatabaseObjects

/-- Adds one declaration. -/
def set (d : DatabaseObjects) : ObjectsSetting → DatabaseObjects
  | .extension e => { d with extensions := d.extensions ++ [e] }
  | .enumeration e => { d with enums := d.enums ++ [e] }
  | .range r => { d with ranges := d.ranges ++ [r] }

/-- A set of database objects from its declarations. -/
def build (settings : List ObjectsSetting) : DatabaseObjects := settings.foldl set {}

end DatabaseObjects

end PgMigrate
