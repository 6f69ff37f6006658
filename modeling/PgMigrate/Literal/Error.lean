import PgMigrate.Value.Basic
import PgMigrate.SqlType
/-
  Why a value has no literal.

  A value may have no literal for a type (`unmapped`: a bool is no `inet`), a value may
  not fit the type (`outOfRange`: a span beyond 2^63 microseconds is no `interval`), or a
  range text may not read (`invalidRange`, with the text and the reason).
-/
namespace PgMigrate

/-- A literal that cannot be written or read. -/
inductive LiteralError where
  | unmapped (valueKind : String) (storeType : String)
  | outOfRange (valueKind : String) (storeType : String)
  | invalidRange (text : String) (reason : String)
deriving Repr, DecidableEq

namespace LiteralError

/-- The error for a value that has no literal of a type. -/
def unmappedFor (v : Value) (t : SqlType) : LiteralError := .unmapped v.kind t.storeType

/-- The error for a value that does not fit a type. -/
def outOfRangeFor (v : Value) (t : SqlType) : LiteralError := .outOfRange v.kind t.storeType

/-- The name of the error's kind. -/
def kindName : LiteralError → String
  | .unmapped .. => "Unmapped"
  | .outOfRange .. => "OutOfRange"
  | .invalidRange .. => "InvalidRange"

/-- The error's text. -/
def message : LiteralError → String
  | .unmapped v t => "no literal mapping for a " ++ v ++ " value of type " ++ t
  | .outOfRange v t => v ++ " value is out of range for type " ++ t
  | .invalidRange text reason => "invalid range literal '" ++ text ++ "': " ++ reason

end LiteralError

end PgMigrate
