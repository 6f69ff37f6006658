import PgMigrate.Literal.RangeText
/-
  SQL literals.

  A literal comes in one of two forms.  The typed form describes itself (`DATE '2015-03-12'`,
  `'sad'::mood`, `ARRAY[3,4]::integer[]`); the bare form is what an array element needs,
  where the array's cast already names the type (`'2015-03-12'`).

  `NULL`, `TRUE`, `FALSE` and numbers are written bare; a NaN or infinite float is quoted
  (`'NaN'`), as the server reads those only from text.  Text, `json` and `jsonb` are quoted
  strings; enum labels are quoted and cast to the enum; bytes are `E'\\x…'` in upper-case
  hex; bit strings `B'…'`; `hstore` maps `"k"=>"v"` pairs; ranges their range text, quoted
  and cast; arrays `ARRAY[…]` of bare elements.  The remaining types take a keyword before
  their quoted scalar text (`UUID '…'`, `POINT '…'`).
-/
namespace PgMigrate

namespace Literal

/-- Whether a literal describes its own type or takes it from its context. -/
inductive SqlForm where
  | typed
  | bare
deriving DecidableEq

/-- A quoted literal after its type's keyword, in the typed form. -/
def keyworded (form : SqlForm) (keyword literal : String) : String :=
  match form with
  | .typed => keyword ++ " " ++ literal
  | .bare => literal

/-- A literal cast to its type, in the typed form. -/
def castTo (form : SqlForm) (literal : String) (t : SqlType) : String :=
  match form with
  | .typed => literal ++ "::" ++ t.storeType
  | .bare => literal

/-- The keyword that types a quoted literal of a type, if the type is written that way. -/
def typeKeyword : SqlType → Option String
  | .uuid => some "UUID"
  | .date => some "DATE"
  | .timestamp => some "TIMESTAMP"
  | .timestamptz => some "TIMESTAMPTZ"
  | .time => some "TIME"
  | .timetz => some "TIMETZ"
  | .interval => some "INTERVAL"
  | .macAddr => some "MACADDR"
  | .macAddr8 => some "MACADDR8"
  | .inet => some "INET"
  | .cidr => some "CIDR"
  | .point => some "POINT"
  | .line => some "LINE"
  | .lineSegment => some "LSEG"
  | .box => some "BOX"
  | .path => some "PATH"
  | .polygon => some "POLYGON"
  | .circle => some "CIRCLE"
  | .tid => some "TID"
  | .tsQuery => some "TSQUERY"
  | .tsVector => some "TSVECTOR"
  | _ => none

/-- A key or value of an `hstore` map in double quotes, `\` and `"` escaped. -/
def hstoreQuote (s : String) : String := quoteBound s

/-- The text of an `hstore` map: `"k"=>"v"` or `"k"=>NULL`, joined by commas. -/
def hstoreText (pairs : List (String × Option String)) : String :=
  ",".intercalate (pairs.map fun (k, v) =>
    match v with
    | some v => hstoreQuote k ++ "=>" ++ hstoreQuote v
    | none => hstoreQuote k ++ "=>NULL")

/-- Whether a type holds numbers written bare. -/
def isNumericTarget : SqlType → Bool
  | .smallInt | .integer | .bigInt | .real | .doublePrecision | .numeric => true
  | _ => false

/-- Whether a value is a number. -/
def isNumber : Value → Bool
  | .smallInt _ | .integer _ | .bigInt _ | .real _ | .double _ => true
  | _ => false

/-- Whether a value is a NaN or infinite float. -/
def isNonFinite : Value → Bool
  | .real x => !x.value.isFinite
  | .double x => !x.value.isFinite
  | _ => false

mutual
/-- The SQL literal of a value of a type, in a form. -/
def sqlIn (form : SqlForm) : Value → SqlType → Except LiteralError String
  | .null, _ => .ok "NULL"
  | .bool b, .boolean => .ok (if b then "TRUE" else "FALSE")
  | .text s, .text | .text s, .json | .text s, .jsonb => .ok (sqlQuote s)
  | .text label, t@(.enum ..) => .ok (castTo form (sqlQuote label) t)
  | .bytes bs, .bytea => .ok (keyworded form "BYTEA" ("E'\\\\x" ++ hexUpperBytes bs ++ "'"))
  | v@(.bits _), .bit => do pure (keyworded form "BIT" ("B'" ++ (← scalarText v .bit) ++ "'"))
  | v@(.bits _), .varBit => do
    pure (keyworded form "VARBIT" ("B'" ++ (← scalarText v .varBit) ++ "'"))
  | .hstore pairs, .hstore => .ok (keyworded form "HSTORE" (sqlQuote (hstoreText pairs)))
  | .range r, t@(.range _ _ subtype) => do
    pure (castTo form (sqlQuote (← rangeText r subtype)) t)
  | .array items, t@(.array element) => do
    let elements := ",".intercalate (← sqlItems element items)
    pure (match form with
      | .typed => "ARRAY[" ++ elements ++ "]::" ++ t.storeType
      | .bare => "ARRAY[" ++ elements ++ "]")
  | v, t =>
    if isNumericTarget t && isNumber v then
      if isFloatTarget t && isNonFinite v then do pure (sqlQuote (← scalarText v t))
      else scalarText v t
    else
      match typeKeyword t with
      | some keyword => do pure (keyworded form keyword (sqlQuote (← scalarText v t)))
      | none => .error (LiteralError.unmappedFor v t)

/-- The bare literals of array items. -/
def sqlItems (element : SqlType) : List Value → Except LiteralError (List String)
  | [] => .ok []
  | v :: vs => do pure ((← sqlIn .bare v element) :: (← sqlItems element vs))
end

/-- The self-describing SQL literal of a value of a type. -/
def sqlLiteral (v : Value) (t : SqlType) : Except LiteralError String := sqlIn .typed v t

end Literal

end PgMigrate
