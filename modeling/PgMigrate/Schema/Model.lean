import PgMigrate.Schema.Table
import PgMigrate.Schema.Index
import PgMigrate.Schema.Sequence
import PgMigrate.Schema.Objects
/-
  The database model: the snapshot of a schema the generator consults.

  Besides its tables the model carries the objects no table owns (extensions, enums,
  ranges, sequences) and the model-wide settings: the default schema (`public` when
  unset), the key generation strategy, the HiLo sequence, the creation template and the
  tablespace.

  An object with no schema lives in the default schema, so lookups compare schemas after
  filling in the default.  Declaring an object that is already declared (same schema as
  written, same name) keeps the first declaration untouched.
-/
namespace PgMigrate

/-- A snapshot of a database's schema. -/
structure DatabaseModel where
  defaultSchema : Option String := none
  strategy : Option Generation := none
  hiloSequenceName : Option String := none
  hiloSequenceSchema : Option String := none
  databaseTemplate : Option String := none
  tablespace : Option String := none
  extensions : List Extension := []
  enums : List EnumType := []
  ranges : List RangeType := []
  sequences : List Sequence := []
  tables : List Table := []
deriving Inhabited

namespace DatabaseModel

/-- The schema used when neither an object nor the model names one. -/
def publicSchema : String := "public"

/-- The HiLo sequence's name unless renamed. -/
def defaultHiloSequenceName : String := "HiLoSequence"

/-- The block size of a HiLo sequence the model declares. -/
def defaultHiloIncrement : Int := 10

/-- Sets the default schema. -/
def withDefaultSchema (m : DatabaseModel) (schema : String) : DatabaseModel :=
  { m with defaultSchema := some schema }

/-- Adds a table at the end. -/
def withTable (m : DatabaseModel) (t : Table) : DatabaseModel := { m with tables := m.tables ++ [t] }

/-- The model's default schema. -/
def schemaDefault (m : DatabaseModel) : String := m.defaultSchema.getD publicSchema

/-- The schema an object ends up in: its own, else the model's default. -/
def schemaOrDefault (m : DatabaseModel) (schema : Option String) : String :=
  schema.getD m.schemaDefault

/-- The HiLo sequence's name. -/
def hiloName (m : DatabaseModel) : String := m.hiloSequenceName.getD defaultHiloSequenceName

/-- The sequence with a name in a schema (defaults filled in on both sides). -/
def findSequence (m : DatabaseModel) (name : String) (schema : Option String) :
    Option Sequence :=
  let s := m.schemaOrDefault schema
  m.sequences.find? fun q => q.name == name && m.schemaOrDefault q.schema == s

/-- The table with a name in a schema (defaults filled in on both sides). -/
def findTable (m : DatabaseModel) (name : String) (schema : Option String) : Option Table :=
  let s := m.schemaOrDefault schema
  m.tables.find? fun t => t.name == name && m.schemaOrDefault t.schema == s

/-- A column of a table of the model. -/
def findColumn (m : DatabaseModel) (schema : Option String) (table column : String) :
    Option Column :=
  (m.findTable table schema).bind (·.findColumn column)

/-- Switches key generation to HiLo, declaring its sequence (block size 10) unless a
    sequence of that name and schema exists. -/
def useHilo (m : DatabaseModel) (name schema : Option String) : DatabaseModel :=
  let name := name.getD defaultHiloSequenceName
  let m := if (m.findSequence name schema).isSome then m
    else { m with sequences := m.sequences ++
      [{ name, schema, incrementBy := defaultHiloIncrement }] }
  { m with strategy := some .hiLo, hiloSequenceName := some name, hiloSequenceSchema := schema }

/-- Switches key generation to a column strategy, forgetting the HiLo sequence (which
    stays declared). -/
def useColumnStrategy (m : DatabaseModel) (g : Generation) : DatabaseModel :=
  { m with strategy := some g, hiloSequenceName := none, hiloSequenceSchema := none }

/-- The extension with this schema and name, declared if missing. -/
def getOrAddExtension (m : DatabaseModel) (schema : Option String) (name : String)
    (version : Option String) : DatabaseModel × Extension :=
  match m.extensions.find? fun e => e.name == name && e.schema == schema with
  | some e => (m, e)
  | none =>
    let e : Extension := { schema, name, version }
    ({ m with extensions := m.extensions ++ [e] }, e)

/-- The enum with this schema and name, declared with these labels if missing. -/
def getOrAddEnum (m : DatabaseModel) (schema : Option String) (name : String)
    (labels : List String) : DatabaseModel × EnumType :=
  match m.enums.find? fun e => e.schema == schema && e.name == name with
  | some e => (m, e)
  | none =>
    let e : EnumType := { schema, name, labels }
    ({ m with enums := m.enums ++ [e] }, e)

/-- The range type with the key of `r`, declared as `r` if missing. -/
def getOrAddRange (m : DatabaseModel) (r : RangeType) : DatabaseModel × RangeType :=
  match m.ranges.find? fun q => q.schema == r.schema && q.name == r.name with
  | some q => (m, q)
  | none => ({ m with ranges := m.ranges ++ [r] }, r)

/-- The database-level objects the model declares. -/
def objects (m : DatabaseModel) : DatabaseObjects :=
  { extensions := m.extensions, enums := m.enums, ranges := m.ranges }

end DatabaseModel

end PgMigrate
