import PgMigrate.Schema.Index
import PgMigrate.Text.Quote
/-
  Builder calls: the method calls that reproduce annotations in generated model code.

  A call is written `.method(arg, arg)`: strings as quoted literals, optional strings as
  `Some("…")` or `None`, string lists as `&["…", …]`, booleans bare, and sort orders as
  `&[SortOrder::Descending, …]`.  A chain puts each call on its own indented line after
  the receiver and ends with `;` and a newline.
-/
namespace PgMigrate

/-- One argument of a builder call. -/
inductive CallArgument where
  | str (s : String)
  | optStr (s : Option String)
  | strList (items : List String)
  | bool (b : Bool)
  | sortOrders (orders : List SortOrder)
  | nullSortOrders (orders : List NullSortOrder)
deriving Repr, DecidableEq

namespace CallArgument

/-- The argument as written in a call. -/
def render : CallArgument → String
  | .str s => callQuote s
  | .optStr (some s) => "Some(" ++ callQuote s ++ ")"
  | .optStr none => "None"
  | .strList items => "&[" ++ ", ".intercalate (items.map callQuote) ++ "]"
  | .bool b => if b then "true" else "false"
  | .sortOrders os => "&[" ++ ", ".intercalate (os.map ("SortOrder::" ++ ·.name)) ++ "]"
  | .nullSortOrders os =>
    "&[" ++ ", ".intercalate (os.map ("NullSortOrder::" ++ ·.name)) ++ "]"

end CallArgument

/-- A builder method with its arguments in order. -/
structure BuilderCall where
  method : String
  arguments : List CallArgument := []
deriving Repr, DecidableEq

namespace BuilderCall

/-- Adds an argument. -/
def arg (c : BuilderCall) (a : CallArgument) : BuilderCall := { c with arguments := c.arguments ++ [a] }

/-- `.method(arg, arg)`. -/
def render (c : BuilderCall) : String :=
  "." ++ c.method ++ "(" ++ ", ".intercalate (c.arguments.map CallArgument.render) ++ ")"

end BuilderCall

/-- Calls chained on a receiver, one per line. -/
def renderChain (receiver : String) (calls : List BuilderCall) : String :=
  receiver ++ String.join (calls.map fun c => "\n    " ++ c.render) ++ ";\n"

end PgMigrate
