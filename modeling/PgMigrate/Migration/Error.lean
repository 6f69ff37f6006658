import PgMigrate.Version
import PgMigrate.Generation
import PgMigrate.Literal.Error
import PgMigrate.Annotation.Basic
/-
  Why DDL generation or scaffolding stops.

  None of these is transient: a caller discards whatever was generated before the failure.
  Table and column names appear in the messages as written, not delimited.
-/
namespace PgMigrate

/-- An error that aborts generation. -/
inductive MigrationError where
  | unsupportedStrategyTransition (table column : String) (source target : Generation)
  | identityToSerial (table column : String)
  | serialOnNonInteger (table column storeType : String)
  | computedColumnsUnsupported (table column : String) (version : ServerVersion)
  | identityColumnsUnsupported (table column : String) (strategy : Generation)
      (version : ServerVersion)
  | legacyGeneratedOnAdd (table column : String)
  | enumAlteration (name : String)
  | rangeAlteration (name : String)
  | hiloScaffolding (name : String)
  | literal (e : LiteralError)
  | annotationError (e : AnnotationError)
deriving Repr, DecidableEq

namespace MigrationError

/-- The name of the error's kind. -/
def kindName : MigrationError → String
  | .unsupportedStrategyTransition .. => "UnsupportedStrategyTransition"
  | .identityToSerial .. => "IdentityToSerial"
  | .serialOnNonInteger .. => "SerialOnNonInteger"
  | .computedColumnsUnsupported .. => "ComputedColumnsUnsupported"
  | .identityColumnsUnsupported .. => "IdentityColumnsUnsupported"
  | .legacyGeneratedOnAdd .. => "LegacyValueGeneratedOnAdd"
  | .enumAlteration _ => "EnumAlteration"
  | .rangeAlteration _ => "RangeAlteration"
  | .hiloScaffolding _ => "HiLoScaffolding"
  | .literal _ => "Literal"
  | .annotationError _ => "Annotation"

/-- The error's text. -/
def message : MigrationError → String
  | .unsupportedStrategyTransition t c s g =>
    "don't know how to migrate column " ++ t ++ "." ++ c ++ " from value generation strategy " ++
      s.name ++ " to " ++ g.name
  | .identityToSerial t c =>
    "migrating column " ++ t ++ "." ++ c ++ " from identity to serial isn't supported"
  | .serialOnNonInteger t c st =>
    "column " ++ t ++ "." ++ c ++ " can't become a serial column: store type '" ++ st ++
      "' is not an integer type"
  | .computedColumnsUnsupported t c v =>
    "computed column " ++ t ++ "." ++ c ++ " requires PostgreSQL 12 or later (targeting " ++
      v.render ++ ")"
  | .identityColumnsUnsupported t c g v =>
    "identity column " ++ t ++ "." ++ c ++ " (" ++ g.name ++
      ") requires PostgreSQL 10 or later (targeting " ++ v.render ++ ")"
  | .legacyGeneratedOnAdd t c =>
    "column " ++ t ++ "." ++ c ++ " carries the retired ValueGeneratedOnAdd annotation; use the " ++
      "ValueGenerationStrategy annotation with SerialColumn for serial columns and remove it " ++
      "elsewhere"
  | .enumAlteration n => "altering enum type " ++ n ++ " isn't supported"
  | .rangeAlteration n => "altering range type " ++ n ++ " isn't supported"
  | .hiloScaffolding n => "sequence HiLo has no scaffolding builder call for " ++ n
  | .literal e => "Literal error: " ++ e.message
  | .annotationError e => "Annotation error: " ++ e.message

end MigrationError

end PgMigrate
