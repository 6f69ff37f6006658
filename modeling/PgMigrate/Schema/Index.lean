/-
  Indexes.

  Per-column modifiers are positional: the `i`-th operator class, collation, sort order
  and null order apply to the `i`-th column, a list shorter than the columns leaves the
  rest at their defaults, and an empty operator class or collation means none.  Only the
  default access method, btree, supports ordering modifiers.
-/
namespace PgMigrate

/-- The order of an index column. -/
inductive SortOrder where
  | ascending | descending
deriving Repr, DecidableEq, Inhabited

/-- Where nulls sort in an index column. -/
inductive NullSortOrder where
  | unspecified | nullsFirst | nullsLast
deriving Repr, DecidableEq, Inhabited

namespace SortOrder

/-- The order's name. -/
def name : SortOrder → String
  | .ascending => "Ascending"
  | .descending => "Descending"

/-- The order with a name. -/
def ofName? : String → Option SortOrder
  | "Ascending" => some .ascending
  | "Descending" => some .descending
  | _ => none

end SortOrder

namespace NullSortOrder

/-- The null order's name. -/
def name : NullSortOrder → String
  | .unspecified => "Unspecified"
  | .nullsFirst => "NullsFirst"
  | .nullsLast => "NullsLast"

/-- The null order with a name. -/
def ofName? : String → Option NullSortOrder
  | "Unspecified" => some .unspecified
  | "NullsFirst" => some .nullsFirst
  | "NullsLast" => some .nullsLast
  | _ => none

/-- `NULLS FIRST` / `NULLS LAST`, nothing when unspecified. -/
def sql : NullSortOrder → Option String
  | .unspecified => none
  | .nullsFirst => some "NULLS FIRST"
  | .nullsLast => some "NULLS LAST"

end NullSortOrder

/-- The options of an index. -/
structure IndexOptions where
  method : Option String := none
  operators : List String := []
  collations : List String := []
  sortOrders : List SortOrder := []
  nullSortOrders : List NullSortOrder := []
  included : List String := []
deriving Repr, DecidableEq, Inhabited

/-- Whether the access method allows `DESC` and `NULLS` modifiers: only btree does. -/
def IndexOptions.supportsOrdering (o : IndexOptions) : Bool :=
  match o.method with
  | none => true
  | some m => m == "btree"

/-- An index. -/
structure Index where
  name : String
  schema : Option String := none
  table : String
  columns : List String
  unique : Bool := false
  filter : Option String := none
  options : IndexOptions := {}
deriving Repr, DecidableEq, Inhabited

/-- One column of an index with its modifiers. -/
structure IndexColumn where
  name : String
  operator : Option String
  collation : Option String
  sortOrder : SortOrder
  nullSortOrder : NullSortOrder
deriving Repr, DecidableEq

namespace Index

/-- A non-empty entry at a position. -/
def entryAt (xs : List String) (i : Nat) : Option String :=
  (xs[i]?).filter (!·.isEmpty)

/-- The columns zipped with their positional modifiers. -/
def indexColumns (ix : Index) : List IndexColumn :=
  let o := ix.options
  (List.range ix.columns.length).zip ix.columns |>.map fun (i, name) =>
    { name, operator := entryAt o.operators i, collation := entryAt o.collations i,
      sortOrder := (o.sortOrders[i]?).getD .ascending,
      nullSortOrder := (o.nullSortOrders[i]?).getD .unspecified }

end Index

end PgMigrate
