import PgMigrate.Search
/-
  Identifiers, quoted only when they must be.

  The server folds an unquoted identifier to lower case and refuses a reserved keyword, so a
  name is written bare exactly when it is a plain lower-case word — a lower-case ASCII letter
  or `_`, then lower-case letters, digits, `_` or `$` — that is not reserved (the reserved
  keywords are a table in ascending order, searched by halving).  Any other name is written
  between double quotes, each `"` inside doubled; the server reads that back as the name
  itself.

  `qualify` writes `schema.name` with each part delimited on its own; `splitSchema` cuts a
  dotted name at its first dot.
-/
namespace PgMigrate

namespace Ident

/-- The keywords the server reserves outright, in ascending order. -/
def reservedKeywords : Array String := #[
  "all", "analyse", "analyze", "and", "any", "array", "as", "asc", "asymmetric", "both",
  "case", "cast", "check", "collate", "column", "constraint", "create", "current_catalog",
  "current_date", "current_role", "current_time", "current_timestamp", "current_user",
  "default", "deferrable", "desc", "distinct", "do", "else", "end", "except", "false",
  "fetch", "for", "foreign", "from", "grant", "group", "having", "in", "initially",
  "intersect", "into", "lateral", "leading", "limit", "localtime", "localtimestamp", "not",
  "null", "offset", "on", "only", "or", "order", "placing", "primary", "references",
  "returning", "select", "session_user", "some", "symmetric", "table", "then", "to",
  "trailing", "true", "union", "unique", "user", "using", "variadic", "when", "where",
  "window", "with"]

/-- A character that may start a bare identifier. -/
def isBareStart (c : Char) : Bool := ('a' ≤ c && c ≤ 'z') || c == '_'

/-- A character that may follow in a bare identifier. -/
def isBareRest (c : Char) : Bool := isBareStart c || c.isDigit || c == '$'

/-- Whether a name has to be quoted to read back as itself. -/
def requiresQuoting (name : String) : Bool :=
  match name.toList with
  | [] => true
  | c :: rest =>
    !isBareStart c || !rest.all isBareRest || (binarySearch reservedKeywords name).isOk

/-- The characters of a quoted identifier's body: each `"` doubled. -/
def escapeQuotes (cs : List Char) : List Char :=
  cs.flatMap fun c => if c == '"' then ['"', '"'] else [c]

theorem escapeQuotes_cons (c : Char) (cs : List Char) :
    escapeQuotes (c :: cs) = (if c = '"' then ['"', '"'] else [c]) ++ escapeQuotes cs := by
  simp [escapeQuotes]

/-- A name as it is written in SQL. -/
def delimit (name : String) : String :=
  if requiresQuoting name then String.ofList ('"' :: escapeQuotes name.toList ++ ['"'])
  else name

/-- A name written after its schema, when it has one. -/
def qualify (name : String) (schema : Option String) : String :=
  match schema with
  | some s => delimit s ++ "." ++ delimit name
  | none => delimit name

/-- A dotted name cut at its first dot into schema and name. -/
def splitSchema (name : String) : Option String × String :=
  let cs := name.toList
  match cs.findIdx? (· == '.') with
  | some i => (some (String.ofList (cs.take i)), String.ofList (cs.drop (i + 1)))
  | none => (none, name)

end Ident

end PgMigrate
