import PgMigrate.Ident
/-
  Column types and their store types.

  `SqlType` is what a column means; `storeType` is the type name the server is given for it.
  Enum and range types are written as their (qualified, delimited) names, an array as its
  element's store type with `[]`.  A length turns text into `character varying(n)` (or
  `character(n)` when fixed) up to the server's limit of 10485760 characters, beyond which
  plain `text` is used, and bit strings into `bit(n)` / `bit varying(n)`.

  Integer store types are recognised by their spellings (`int`, `int4`, `integer`, …), and
  each has a serial counterpart.
-/
namespace PgMigrate

/-- The meaning of a column's values. -/
inductive SqlType where
  | boolean | smallInt | integer | bigInt | real | doublePrecision | numeric
  | text | json | jsonb | bytea | uuid
  | date | timestamp | timestamptz | time | timetz | interval
  | macAddr | macAddr8 | inet | cidr
  | point | line | lineSegment | box | path | polygon | circle
  | bit | varBit | hstore | tid | tsQuery | tsVector
  | enum (schema : Option String) (name : String)
  | range (schema : Option String) (name : String) (subtype : SqlType)
  | array (element : SqlType)
deriving Repr, DecidableEq, Inhabited

namespace SqlType

/-- The longest `character varying(n)` the server accepts. -/
def maxVarcharLength : Nat := 10485760

/-- A range type in the default schema. -/
def namedRange (name : String) (subtype : SqlType) : SqlType := .range none name subtype

def int4range : SqlType := namedRange "int4range" .integer
def int8range : SqlType := namedRange "int8range" .bigInt
def numrange : SqlType := namedRange "numrange" .numeric
def daterange : SqlType := namedRange "daterange" .date
def tsrange : SqlType := namedRange "tsrange" .timestamp
def tstzrange : SqlType := namedRange "tstzrange" .timestamptz

/-- The three integer types. -/
def isInteger : SqlType → Bool
  | .smallInt | .integer | .bigInt => true
  | _ => false

/-- The type name the server is given. -/
def storeType : SqlType → String
  | .boolean => "boolean"
  | .smallInt => "smallint"
  | .integer => "integer"
  | .bigInt => "bigint"
  | .real => "real"
  | .doublePrecision => "double precision"
  | .numeric => "numeric"
  | .text => "text"
  | .json => "json"
  | .jsonb => "jsonb"
  | .bytea => "bytea"
  | .uuid => "uuid"
  | .date => "date"
  | .timestamp => "timestamp without time zone"
  | .timestamptz => "timestamp with time zone"
  | .time => "time without time zone"
  | .timetz => "time with time zone"
  | .interval => "interval"
  | .macAddr => "macaddr"
  | .macAddr8 => "macaddr8"
  | .inet => "inet"
  | .cidr => "cidr"
  | .point => "point"
  | .line => "line"
  | .lineSegment => "lseg"
  | .box => "box"
  | .path => "path"
  | .polygon => "polygon"
  | .circle => "circle"
  | .bit => "bit"
  | .varBit => "bit varying"
  | .hstore => "hstore"
  | .tid => "tid"
  | .tsQuery => "tsquery"
  | .tsVector => "tsvector"
  | .enum schema name => Ident.qualify name schema
  | .range schema name _ => Ident.qualify name schema
  | .array element => element.storeType ++ "[]"

/-- The store type once a length (and fixedness) is taken into account. -/
def resolveStoreType (t : SqlType) (maxLength : Option Nat) (fixedLength : Bool) : String :=
  match t, maxLength with
  | .text, some n =>
    if n > maxVarcharLength then "text"
    else if fixedLength then "character(" ++ toString n ++ ")"
    else "character varying(" ++ toString n ++ ")"
  | .bit, some n => "bit(" ++ toString n ++ ")"
  | .varBit, some n =>
    if fixedLength then "bit(" ++ toString n ++ ")" else "bit varying(" ++ toString n ++ ")"
  | _, _ => t.storeType

/-- The unit types with their names, in declaration order. -/
def unitNames : List (String × SqlType) := [
  ("Boolean", .boolean), ("SmallInt", .smallInt), ("Integer", .integer), ("BigInt", .bigInt),
  ("Real", .real), ("DoublePrecision", .doublePrecision), ("Numeric", .numeric),
  ("Text", .text), ("Json", .json), ("Jsonb", .jsonb), ("Bytea", .bytea), ("Uuid", .uuid),
  ("Date", .date), ("Timestamp", .timestamp), ("Timestamptz", .timestamptz),
  ("Time", .time), ("Timetz", .timetz), ("Interval", .interval), ("MacAddr", .macAddr),
  ("MacAddr8", .macAddr8), ("Inet", .inet), ("Cidr", .cidr), ("Point", .point),
  ("Line", .line), ("LineSegment", .lineSegment), ("Box", .box), ("Path", .path),
  ("Polygon", .polygon), ("Circle", .circle), ("Bit", .bit), ("VarBit", .varBit),
  ("Hstore", .hstore), ("Tid", .tid), ("TsQuery", .tsQuery), ("TsVector", .tsVector)]

end SqlType

/-- Whether a store type names one of the integer types. -/
def isIntegerStoreType (s : String) : Bool :=
  ["integer", "int", "int4", "bigint", "int8", "smallint", "int2"].contains s

/-- The serial type that stands for an integer store type. -/
def serialStoreType (s : String) : Option String :=
  if s == "int" || s == "int4" || s == "integer" then some "serial"
  else if s == "bigint" || s == "int8" then some "bigserial"
  else if s == "smallint" || s == "int2" then some "smallserial"
  else none

end PgMigrate
