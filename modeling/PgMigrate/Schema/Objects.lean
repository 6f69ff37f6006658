/-
  Database-level objects: extensions, enum types and range types.

  Each is keyed by its schema (unset means the model's default) and name.  A range type
  names its subtype in SQL and may set four hooks: a canonical function, a subtype
  operator class, a collation and a subtype difference function.
-/
namespace PgMigrate

/-- An extension the database must have installed. -/
structure Extension where
  schema : Option String := none
  name : String
  version : Option String := none
deriving Repr, DecidableEq, Inhabited

/-- An enum type with its labels in order. -/
structure EnumType where
  schema : Option String := none
  name : String
  labels : List String
deriving Repr, DecidableEq, Inhabited

/-- The key declarations of enums are compared by: the schema as written, and the name. -/
def EnumType.key (e : EnumType) : Option String × String := (e.schema, e.name)

/-- A range type over a subtype. -/
structure RangeType where
  schema : Option String := none
  name : String
  subtype : String
  canonicalFunction : Option String := none
  subtypeOpclass : Option String := none
  collation : Option String := none
  subtypeDiff : Option String := none
deriving Repr, DecidableEq, Inhabited

/-- The key declarations of range types are compared by: the schema as written, and the
    name. -/
def RangeType.key (r : RangeType) : Option String × String := (r.schema, r.name)

/-- Whether any hook of the range type is set. -/
def RangeType.hasCustomizations (r : RangeType) : Bool :=
  r.canonicalFunction.isSome || r.subtypeOpclass.isSome || r.collation.isSome ||
    r.subtypeDiff.isSome

/-- The objects declared on a database, compared when it is altered. -/
structure DatabaseObjects where
  extensions : List Extension := []
  enums : List EnumType := []
  ranges : List RangeType := []
deriving Repr, DecidableEq, Inhabited

end PgMigrate
