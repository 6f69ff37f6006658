import PgMigrate.Proofs.Statements
/-
  `CREATE INDEX` applies per-column modifiers by position.

  The program: `Generator.createIndex` zips an index's columns with the positions of its
  modifier lists (`Index.indexColumns`), writes each column with its operator class, its
  collation and, where the access method sorts, its order and null order (`indexItem`), then
  the method, the included columns and the filter around them.

  The specification (`createIndex_applies_modifiers_by_position`): the statement lists one
  item per column, in order, and the `k`-th item carries the operator class and the collation
  at position `k` when that entry is there and not empty, and `DESC` and `NULLS FIRST|LAST`
  from the orders at position `k` when those entries are there, are not the defaults, and the
  method is absent or is `btree`; a list shorter than the columns leaves the rest at their
  defaults.  `USING` stands when the method is there and not empty, `INCLUDE` when columns are
  included, `WHERE` when there is a filter.

  The two gates on the method differ on the empty method: it writes no `USING`, so the server
  takes its default, btree, yet it sorts nothing (`blankMethod_drops_order`).

  The crux is `indexColumns_eq_mapIdx`: the zip with the positions is the column list mapped
  with each column's position.
-/
namespace PgMigrate

namespace IndexOptions

/-- The method sorts: it is left to the server, whose default is btree, or it is `btree`. -/
def Sorts (o : IndexOptions) : Prop := o.method = none ∨ o.method = some "btree"

instance (o : IndexOptions) : Decidable o.Sorts :=
  inferInstanceAs (Decidable (o.method = none ∨ o.method = some "btree"))

theorem supportsOrdering_iff (o : IndexOptions) : o.supportsOrdering = true ↔ o.Sorts := by
  unfold supportsOrdering Sorts
  cases o.method with
  | none => simp
  | some m => simp

/-- The `k`-th item of an index's column list: the column's name; the operator class at
    position `k`, its `schema.name` parts delimited apart, when that entry is there and not
    empty; `COLLATE` and the collation at position `k` when that entry is there and not empty;
    and, when the method sorts, `DESC` when the order at `k` is descending and `NULLS FIRST` or
    `NULLS LAST` when the null order at `k` says so.  A position past the end of a list has
    no entry, which is the default. -/
def itemAt (o : IndexOptions) (k : Nat) (name : String) : String :=
  Ident.delimit name ++
    (match Index.entryAt o.operators k with
      | some op => " " ++ Clause.delimitOperator op
      | none => "") ++
    (match Index.entryAt o.collations k with
      | some c => " COLLATE " ++ c
      | none => "") ++
    (if o.Sorts ∧ o.sortOrders[k]? = some .descending then " DESC" else "") ++
    (if o.Sorts ∧ o.nullSortOrders[k]? = some .nullsFirst then " NULLS FIRST"
      else if o.Sorts ∧ o.nullSortOrders[k]? = some .nullsLast then " NULLS LAST"
      else "")

end IndexOptions

namespace Index

/-- `CREATE [UNIQUE] INDEX name ON table`, then `USING` and the method when it is there and
    not empty, the items of the columns in order, `INCLUDE` and the included columns when there
    are any, and `WHERE` and the filter when there is one. -/
def statement (ix : Index) : String :=
  "CREATE " ++ (if ix.unique then "UNIQUE " else "") ++ "INDEX " ++ Ident.delimit ix.name ++
    " ON " ++ Ident.qualify ix.table ix.schema ++
    (match ix.options.method with
      | some m => if m = "" then "" else " USING " ++ m
      | none => "") ++
    " (" ++ ", ".intercalate (ix.columns.mapIdx ix.options.itemAt) ++ ")" ++
    (if ix.options.included = [] then ""
      else " INCLUDE (" ++ Clause.columnList ix.options.included ++ ")") ++
    (match ix.filter with
      | some f => " WHERE " ++ f
      | none => "")

/-- The modifiers of the `k`-th column, read at position `k` of each list. -/
def columnAt (o : IndexOptions) (k : Nat) (name : String) : IndexColumn :=
  { name, operator := entryAt o.operators k, collation := entryAt o.collations k,
    sortOrder := (o.sortOrders[k]?).getD .ascending,
    nullSortOrder := (o.nullSortOrders[k]?).getD .unspecified }

/-- The columns zipped with their positions are the columns mapped with their positions. -/
theorem indexColumns_eq_mapIdx (ix : Index) :
    ix.indexColumns = ix.columns.mapIdx (columnAt ix.options) := by
  apply List.ext_getElem
  · simp [indexColumns]
  · intro k h₁ h₂
    simp [indexColumns, columnAt]

end Index

namespace Generator

/-- A column's item is the `k`-th item of the specification. -/
theorem indexItem_columnAt (o : IndexOptions) (k : Nat) (name : String) :
    indexItem o.supportsOrdering (Index.columnAt o k name) = o.itemAt k name := by
  unfold indexItem IndexOptions.itemAt Index.columnAt
  simp only [String.append_assoc]
  -- name, operator class and collation are read alike; the orders pass the same gate
  congr 3
  by_cases hs : o.Sorts
  · rw [if_pos ((o.supportsOrdering_iff).2 hs)]
    simp only [hs, true_and]
    congr 1
    · cases o.sortOrders[k]? with
      | none => rfl
      | some d => cases d <;> rfl
    · cases o.nullSortOrders[k]? with
      | none => rfl
      | some n => cases n <;> rfl
  · rw [if_neg (mt (o.supportsOrdering_iff).1 hs)]
    simp [hs]

/-- The items written are the specification's, column by column. -/
theorem items_eq_mapIdx (ix : Index) :
    ix.indexColumns.map (indexItem ix.options.supportsOrdering) =
      ix.columns.mapIdx ix.options.itemAt := by
  rw [Index.indexColumns_eq_mapIdx]
  apply List.ext_getElem
  · simp
  · intro k h₁ h₂
    simp [indexItem_columnAt]

/-- The index's statement is the specification's, in a command of its own. -/
theorem createIndex_eq_command (ix : Index) : createIndex ix = command ix.statement := by
  unfold createIndex Index.statement
  -- the method and the filter are read alike, case by case
  cases hm : ix.options.method <;> cases hf : ix.filter <;>
    simp only [hm, items_eq_mapIdx, String.isEmpty_iff, List.isEmpty_iff, String.append_assoc]

/-- Modifier lists shorter than the columns leave the second column at its defaults. -/
example :
    createIndex
        { name := "ix", table := "t", columns := ["a", "b"],
          options := { operators := ["text_pattern_ops"], sortOrders := [.descending] } } =
      command "CREATE INDEX ix ON t (a text_pattern_ops DESC, b)" := by
  decide

/-- `CREATE INDEX` applies per-column modifiers by position and sorts only where the method
    sorts.  Creating an index generates one command holding its statement: `USING` and the
    method when it is there and not empty; one item per column, in order, the `k`-th carrying
    the operator class at position `k` (its `schema.name` parts delimited apart) and `COLLATE`
    with the collation at position `k`, each when that entry is there and not empty, and `DESC`
    and `NULLS FIRST|LAST` from the orders at position `k` when those entries are there, are not
    the defaults, and the method is absent or is `btree`, a list shorter than the columns
    leaving the rest at their defaults; `INCLUDE` when columns are included; `WHERE` and the
    filter when there is one. -/
theorem createIndex_applies_modifiers_by_position (g : Generator) (model : Option DatabaseModel)
    (ix : Index) :
    g.generate [.createIndex ix] model = .ok [{ sql := ix.statement ++ ";\n" }] := by
  have hemit : g.emissions model (.createIndex ix) = .ok (batch [ix.statement]) := by
    show Except.ok (createIndex ix) = _
    rw [createIndex_eq_command]
    rfl
  rw [generate_batch g model hemit, if_neg (List.cons_ne_nil _ _)]
  simp [terminated]

/-- An empty method writes no `USING`, so the server builds the index with its default method,
    btree, which sorts; yet the column's descending order is dropped, where leaving the method
    out keeps it. -/
theorem blankMethod_drops_order :
    let ix : Index :=
      { name := "ix", table := "t", columns := ["a"],
        options := { method := some "", sortOrders := [.descending] } }
    createIndex ix = command "CREATE INDEX ix ON t (a)" ∧
      createIndex { ix with options := { ix.options with method := none } } =
        command "CREATE INDEX ix ON t (a DESC)" := by
  intro ix
  rw [createIndex_eq_command, createIndex_eq_command]
  constructor <;> decide

end Generator

end PgMigrate
