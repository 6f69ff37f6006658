/-
  The tree of a TOML document, and the rules that say which lines may add to which tables.

  A document is a table: a list of entries in the order they were first written.  A table
  remembers how it came to be, because TOML lets a table be defined only once:

  * `header` — opened by a `[a.b]` line;
  * `implicit` — named on the way to a header's table (`a` for `[a.b]`); a later `[a]`
    may still open it, once;
  * `dotted` — made by a dotted key (`a.b = 1` makes `a`); only more dotted keys of the
    same kind may add to it, and no header may open it;
  * `inline` — written whole as `{ ... }`; nothing may add to it afterwards.

  An array of tables (`[[a]]`) is a list of tables; the lines after a `[[a]]` header fill
  its last element.

  A key–value line `p.k = v` in the current table walks the dotted prefix `p`: a missing
  step makes a dotted table; an existing step must be a dotted or implicit table, or the
  last table of an array of tables.  The table it lands in must be dotted exactly when the
  prefix is not empty, and must not have `k` yet.  Inside an inline table the same walk may
  enter dotted and inline tables and nothing else.  A header `[p.k]` walks `p` through any
  table but an inline one (making implicit tables); `k` must be new or an implicit table.
  A header `[[p.k]]` needs `k` new or an array of tables, and adds an empty table to it.
-/
namespace PgMigrate

/-- How a table of a TOML document came to be. -/
inductive TableKind where
  | header
  | implicit
  | dotted
  | inline
deriving Repr, DecidableEq, Inhabited

/-- A TOML value.  Floats and date-times keep their text: a reader only checks them. -/
inductive TomlValue where
  | string (s : String)
  | integer (i : Int)
  | float (text : String)
  | boolean (b : Bool)
  | dateTime (text : String)
  | array (items : List TomlValue)
  | table (kind : TableKind) (entries : List (String × TomlValue))
  | tableArray (tables : List (List (String × TomlValue)))
deriving Repr, Inhabited

namespace Toml

/-- The entries of a table, in the order first written. -/
abbrev Entries := List (String × TomlValue)

/-- Replaces the entry under a key. -/
def setEntry (key : String) (v : TomlValue) (es : Entries) : Entries :=
  es.map fun (k, w) => if k == key then (k, v) else (k, w)

/-- Changes the last table of a list of tables. -/
def updateLast (ts : List Entries) (f : Entries → Option Entries) : Option (List Entries) :=
  match ts.getLast? with
  | some t => do pure (ts.dropLast ++ [← f t])
  | none => none

/-- Adds `key = v` under the dotted prefix `path` to a table (`dottedHere` tells whether that
    table is dotted).  `inInline` selects the rules inside an inline table; `viaPrefix` is
    whether the whole prefix is non-empty. -/
def place (inInline viaPrefix : Bool) (key : String) (v : TomlValue) :
    List String → Bool → Entries → Option Entries
  | [], dottedHere, es =>
    if dottedHere != viaPrefix || (es.lookup key).isSome then none else some (es ++ [(key, v)])
  | k :: ks, _, es =>
    match es.lookup k with
    | none => do
      let child ← place inInline viaPrefix key v ks true []
      pure (es ++ [(k, .table .dotted child)])
    | some (.table .dotted cs) => do
      pure (setEntry k (.table .dotted (← place inInline viaPrefix key v ks true cs)) es)
    | some (.table .implicit cs) =>
      if inInline then none
      else do pure (setEntry k (.table .implicit (← place inInline viaPrefix key v ks false cs)) es)
    | some (.table .inline cs) =>
      if inInline then do
        pure (setEntry k (.table .inline (← place inInline viaPrefix key v ks false cs)) es)
      else none
    | some (.tableArray ts) =>
      if inInline then none
      else do
        pure (setEntry k (.tableArray (← updateLast ts (place inInline viaPrefix key v ks false))) es)
    | some _ => none

/-- Adds a key–value line (`path` is its whole dotted key) to a table that is not dotted. -/
def addKeyValue (inInline : Bool) (path : List String) (v : TomlValue) (es : Entries) :
    Option Entries :=
  match path.getLast? with
  | some key => place inInline (path.length > 1) key v path.dropLast false es
  | none => none

/-- Changes the table at a header path, making implicit tables on the way; an array of
    tables is entered at its last table. -/
def atPath (f : Entries → Option Entries) : List String → Entries → Option Entries
  | [], es => f es
  | k :: ks, es =>
    match es.lookup k with
    | none => do pure (es ++ [(k, .table .implicit (← atPath f ks []))])
    | some (.table kind cs) =>
      if kind == .inline then none else do pure (setEntry k (.table kind (← atPath f ks cs)) es)
    | some (.tableArray ts) => do pure (setEntry k (.tableArray (← updateLast ts (atPath f ks))) es)
    | some _ => none

/-- Opens the table of a `[path]` header. -/
def openTable (path : List String) (root : Entries) : Option Entries :=
  match path.getLast? with
  | some key =>
    atPath (fun es =>
      match es.lookup key with
      | none => some (es ++ [(key, .table .header [])])
      | some (.table .implicit cs) => some (setEntry key (.table .header cs) es)
      | some _ => none) path.dropLast root
  | none => none

/-- Opens a new table of a `[[path]]` header. -/
def openTableArray (path : List String) (root : Entries) : Option Entries :=
  match path.getLast? with
  | some key =>
    atPath (fun es =>
      match es.lookup key with
      | none => some (es ++ [(key, .tableArray [[]])])
      | some (.tableArray ts) => some (setEntry key (.tableArray (ts ++ [[]])) es)
      | some _ => none) path.dropLast root
  | none => none

end Toml

end PgMigrate
