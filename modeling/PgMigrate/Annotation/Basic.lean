import PgMigrate.Generation
import PgMigrate.Schema.Index
import PgMigrate.Schema.Storage
/-
  Annotations: named dialect settings attached to a model, table, column or index.

  Tools exchange a model's dialect extensions as a flat list of `Annotation`s, each a name
  (`Postgres:Comment`) and a value of one of a few kinds.  Database-level objects carry
  their key in the name: `Postgres:Enum:app.mood` declares the enum `mood` of schema
  `app`.
-/
namespace PgMigrate

/-- The value of an annotation. -/
inductive AnnotationValue where
  | null
  | bool (b : Bool)
  | text (s : String)
  | textList (items : List String)
  | strategy (g : Generation)
  | sortOrders (orders : List SortOrder)
  | nullSortOrders (orders : List NullSortOrder)
  | storage (v : StorageValue)
deriving Repr, DecidableEq, Inhabited

namespace AnnotationValue

/-- The name of the value's kind. -/
def kind : AnnotationValue → String
  | .null => "null"
  | .bool _ => "bool"
  | .text _ => "text"
  | .textList _ => "text list"
  | .strategy _ => "strategy"
  | .sortOrders _ => "sort orders"
  | .nullSortOrders _ => "null sort orders"
  | .storage _ => "storage value"

/-- The text of a text value. -/
def asText? : AnnotationValue → Option String
  | .text s => some s
  | _ => none

end AnnotationValue

/-- A named setting. -/
structure Annotation where
  name : String
  value : AnnotationValue
deriving Repr, DecidableEq, Inhabited

namespace Annotation

/-- The part of the name after a prefix, if the name starts with it. -/
def suffixAfter? (a : Annotation) (pfx : String) : Option String :=
  if pfx.toList.isPrefixOf a.name.toList then some (String.ofList (a.name.toList.drop pfx.length))
  else none

end Annotation

/-
  The names of the annotations this dialect reads and writes.
-/
namespace AnnotationName

/-- The prefix of every name of this dialect. -/
def dialectPrefix : String := "Postgres:"
def defaultSchema : String := "Relational:DefaultSchema"
def valueGenerationStrategy : String := "Postgres:ValueGenerationStrategy"
def valueGeneratedOnAdd : String := "Postgres:ValueGeneratedOnAdd"
def hiloSequenceName : String := "Postgres:HiLoSequenceName"
def hiloSequenceSchema : String := "Postgres:HiLoSequenceSchema"
def databaseTemplate : String := "Postgres:DatabaseTemplate"
def tablespace : String := "Postgres:Tablespace"
def comment : String := "Postgres:Comment"
def unloggedTable : String := "Postgres:UnloggedTable"
def storageParameterPrefix : String := "Postgres:StorageParameter:"
def indexMethod : String := "Postgres:IndexMethod"
def indexOperators : String := "Postgres:IndexOperators"
def indexCollation : String := "Postgres:IndexCollation"
def indexSortOrder : String := "Postgres:IndexSortOrder"
def indexNullSortOrder : String := "Postgres:IndexNullSortOrder"
def indexInclude : String := "Postgres:IndexInclude"
def extensionPrefix : String := "Postgres:PostgresExtension:"
def enumPrefix : String := "Postgres:Enum:"
def rangePrefix : String := "Postgres:Range:"

end AnnotationName

/-- Why annotations do not decode. -/
inductive AnnotationError where
  | unexpectedValue (name expected found : String)
  | missingObjectName (name : String)
  | malformedRange (name : String)
  | legacyGeneratedOnAdd
deriving Repr, DecidableEq, Inhabited

namespace AnnotationError

/-- The name of the error's kind. -/
def kindName : AnnotationError → String
  | .unexpectedValue .. => "UnexpectedValue"
  | .missingObjectName _ => "MissingObjectName"
  | .malformedRange _ => "MalformedRange"
  | .legacyGeneratedOnAdd => "LegacyValueGeneratedOnAdd"

/-- The error's text. -/
def message : AnnotationError → String
  | .unexpectedValue name expected found =>
    "annotation '" ++ name ++ "' expects a " ++ expected ++ " value, found " ++ found
  | .missingObjectName name => "annotation '" ++ name ++ "' does not name a database object"
  | .malformedRange name =>
    "malformed range annotation '" ++ name ++
      "': expected subtype followed by four optional hooks"
  | .legacyGeneratedOnAdd =>
    "the '" ++ AnnotationName.valueGeneratedOnAdd ++ "' annotation has been replaced by '" ++
      AnnotationName.valueGenerationStrategy ++
      "'; regenerate the model with the current annotation scheme"

/-- The error for an annotation whose value is not of the expected kind. -/
def unexpected (a : Annotation) (expected : String) : AnnotationError :=
  .unexpectedValue a.name expected a.value.kind

end AnnotationError

end PgMigrate
