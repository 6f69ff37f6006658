import PgMigrate.Annotation.Basic
import PgMigrate.Schema.Model
import PgMigrate.Ident
/-
  Reading options from annotations and writing them back.

  Each kind of object reads the annotations it owns, in order, and ignores the others; a
  later annotation of a name overrides an earlier one, and `Null` unsets.  A value of the
  wrong kind is an error naming the kind expected.  Storage parameters are read from
  `Postgres:StorageParameter:<key>` in order, from storage, boolean or text values.
  Objects are keyed by the part of the name after their prefix, `[schema.]name`, cut at
  the first dot; an empty key or name is an error.  A range's value lists its subtype and
  four hooks, empty strings for unset hooks.

  Writing emits the set options in a fixed order, so that reading what was written gives
  the options back.
-/
namespace PgMigrate

namespace AnnotationValue

/-- The text of a text value, nothing for `Null`. -/
def textOf (a : Annotation) : Except AnnotationError (Option String) :=
  match a.value with
  | .text s => .ok (some s)
  | .null => .ok none
  | _ => .error (AnnotationError.unexpected a "text")

/-- The items of a text-list value, none for `Null`. -/
def textListOf (a : Annotation) : Except AnnotationError (List String) :=
  match a.value with
  | .textList xs => .ok xs
  | .null => .ok []
  | _ => .error (AnnotationError.unexpected a "text list")

/-- The strategy of a strategy value, nothing for `Null`. -/
def strategyOf (a : Annotation) : Except AnnotationError (Option Generation) :=
  match a.value with
  | .strategy g => .ok (some g)
  | .null => .ok none
  | _ => .error (AnnotationError.unexpected a "strategy")

end AnnotationValue

/-- A text annotation when the option is set. -/
def optionalText (name : String) : Option String → List Annotation
  | some v => [⟨name, .text v⟩]
  | none => []

/-- The dialect options of a column. -/
structure ColumnOptions where
  comment : Option String := none
  strategy : Option Generation := none
deriving Repr, DecidableEq, Inhabited

namespace ColumnOptions

/-- One annotation's effect on column options. -/
def step (o : ColumnOptions) (a : Annotation) : Except AnnotationError ColumnOptions :=
  if a.name == AnnotationName.valueGeneratedOnAdd then .error .legacyGeneratedOnAdd
  else if a.name == AnnotationName.comment then do
    pure { o with comment := ← AnnotationValue.textOf a }
  else if a.name == AnnotationName.valueGenerationStrategy then do
    pure { o with strategy := ← AnnotationValue.strategyOf a }
  else .ok o

/-- Column options from annotations. -/
def ofAnnotations (as : List Annotation) : Except AnnotationError ColumnOptions :=
  as.foldlM step {}

/-- The annotations of column options. -/
def toAnnotations (o : ColumnOptions) : List Annotation :=
  (match o.strategy with
    | some g => [⟨AnnotationName.valueGenerationStrategy, .strategy g⟩]
    | none => []) ++
  optionalText AnnotationName.comment o.comment

end ColumnOptions

namespace TableOptions

/-- One annotation's effect on table options. -/
def step (o : TableOptions) (a : Annotation) : Except AnnotationError TableOptions :=
  match a.suffixAfter? AnnotationName.storageParameterPrefix with
  | some key => do
    let value ← match a.value with
      | .storage v => pure v
      | .bool b => pure (.bool b)
      | .text s => pure (.str s)
      | _ => throw (AnnotationError.unexpected a "storage value")
    pure { o with storageParameters := o.storageParameters ++ [⟨key, value⟩] }
  | none =>
    if a.name == AnnotationName.comment then do
      pure { o with comment := ← AnnotationValue.textOf a }
    else if a.name == AnnotationName.unloggedTable then
      match a.value with
      | .bool b => .ok { o with unlogged := some b }
      | .null => .ok { o with unlogged := none }
      | _ => .error (AnnotationError.unexpected a "bool")
    else .ok o

/-- Table options from annotations. -/
def ofAnnotations (as : List Annotation) : Except AnnotationError TableOptions :=
  as.foldlM step {}

/-- The annotations of table options. -/
def toAnnotations (o : TableOptions) : List Annotation :=
  optionalText AnnotationName.comment o.comment ++
  (match o.unlogged with
    | some b => [⟨AnnotationName.unloggedTable, .bool b⟩]
    | none => []) ++
  o.storageParameters.map fun p =>
    ⟨AnnotationName.storageParameterPrefix ++ p.name, .storage p.value⟩

end TableOptions

namespace IndexOptions

/-- One annotation's effect on index options. -/
def step (o : IndexOptions) (a : Annotation) : Except AnnotationError IndexOptions :=
  if a.name == AnnotationName.indexMethod then do
    pure { o with method := ← AnnotationValue.textOf a }
  else if a.name == AnnotationName.indexOperators then do
    pure { o with operators := ← AnnotationValue.textListOf a }
  else if a.name == AnnotationName.indexCollation then do
    pure { o with collations := ← AnnotationValue.textListOf a }
  else if a.name == AnnotationName.indexInclude then do
    pure { o with included := ← AnnotationValue.textListOf a }
  else if a.name == AnnotationName.indexSortOrder then
    match a.value with
    | .sortOrders v => .ok { o with sortOrders := v }
    | _ => .error (AnnotationError.unexpected a "sort orders")
  else if a.name == AnnotationName.indexNullSortOrder then
    match a.value with
    | .nullSortOrders v => .ok { o with nullSortOrders := v }
    | _ => .error (AnnotationError.unexpected a "null sort orders")
  else .ok o

/-- Index options from annotations. -/
def ofAnnotations (as : List Annotation) : Except AnnotationError IndexOptions :=
  as.foldlM step {}

/-- The annotations of index options. -/
def toAnnotations (o : IndexOptions) : List Annotation :=
  optionalText AnnotationName.indexMethod o.method ++
  (if o.operators.isEmpty then [] else [⟨AnnotationName.indexOperators, .textList o.operators⟩]) ++
  (if o.collations.isEmpty then [] else [⟨AnnotationName.indexCollation, .textList o.collations⟩]) ++
  (if o.sortOrders.isEmpty then [] else [⟨AnnotationName.indexSortOrder, .sortOrders o.sortOrders⟩]) ++
  (if o.nullSortOrders.isEmpty then []
    else [⟨AnnotationName.indexNullSortOrder, .nullSortOrders o.nullSortOrders⟩]) ++
  (if o.included.isEmpty then [] else [⟨AnnotationName.indexInclude, .textList o.included⟩])

end IndexOptions

namespace Annotation

/-- The `[schema.]name` key after a prefix. -/
def objectKey (a : Annotation) (pfx : String) :
    Except AnnotationError (Option String × String) :=
  match a.suffixAfter? pfx with
  | some key =>
    if key.isEmpty then .error (.missingObjectName a.name)
    else
      let (schema, name) := Ident.splitSchema key
      if name.isEmpty then .error (.missingObjectName a.name) else .ok (schema, name)
  | none => .error (.missingObjectName a.name)

/-- The annotation name of an object: the prefix and `[schema.]name`. -/
def objectName (pfx : String) (schema : Option String) (name : String) : String :=
  match schema with
  | some s => pfx ++ s ++ "." ++ name
  | none => pfx ++ name

end Annotation

namespace Extension

/-- An extension from `Postgres:PostgresExtension:[schema.]name`, valued by its version. -/
def ofAnnotation (a : Annotation) : Except AnnotationError Extension := do
  let (schema, name) ← a.objectKey AnnotationName.extensionPrefix
  pure { schema, name, version := ← AnnotationValue.textOf a }

/-- The annotation of an extension. -/
def toAnnotation (e : Extension) : Annotation :=
  ⟨ Annotation.objectName AnnotationName.extensionPrefix e.schema e.name,
    match e.version with
    | some v => .text v
    | none => .null⟩

end Extension

namespace EnumType

/-- An enum from `Postgres:Enum:[schema.]name`, valued by its labels. -/
def ofAnnotation (a : Annotation) : Except AnnotationError EnumType := do
  let (schema, name) ← a.objectKey AnnotationName.enumPrefix
  pure { schema, name, labels := ← AnnotationValue.textListOf a }

/-- The annotation of an enum. -/
def toAnnotation (e : EnumType) : Annotation :=
  ⟨ Annotation.objectName AnnotationName.enumPrefix e.schema e.name, .textList e.labels⟩

end EnumType

namespace RangeType

/-- A hook from its annotation text: empty means unset. -/
def hook (s : String) : Option String := if s.isEmpty then none else some s

/-- A range type from `Postgres:Range:[schema.]name`, valued by its subtype and four
    hooks. -/
def ofAnnotation (a : Annotation) : Except AnnotationError RangeType := do
  let (schema, name) ← a.objectKey AnnotationName.rangePrefix
  let parts ← AnnotationValue.textListOf a
  match parts with
  | [subtype, canonical, opclass, collation, diff] =>
    if subtype.isEmpty then throw (.malformedRange a.name)
    pure
      { schema, name, subtype, canonicalFunction := hook canonical,
        subtypeOpclass := hook opclass, collation := hook collation, subtypeDiff := hook diff }
  | _ => throw (.malformedRange a.name)

/-- The annotation of a range type. -/
def toAnnotation (r : RangeType) : Annotation :=
  ⟨ Annotation.objectName AnnotationName.rangePrefix r.schema r.name,
    .textList [r.subtype, r.canonicalFunction.getD "", r.subtypeOpclass.getD "",
      r.collation.getD "", r.subtypeDiff.getD ""]⟩

end RangeType

namespace DatabaseModel

/-- The model-level annotations, in the order scaffolding emits them. -/
def toAnnotations (m : DatabaseModel) : List Annotation :=
  optionalText AnnotationName.defaultSchema m.defaultSchema ++
  (match m.strategy with
    | some g => [⟨AnnotationName.valueGenerationStrategy, .strategy g⟩]
    | none => []) ++
  optionalText AnnotationName.hiloSequenceName m.hiloSequenceName ++
  optionalText AnnotationName.hiloSequenceSchema m.hiloSequenceSchema ++
  optionalText AnnotationName.databaseTemplate m.databaseTemplate ++
  optionalText AnnotationName.tablespace m.tablespace ++
  m.extensions.map Extension.toAnnotation ++
  m.enums.map EnumType.toAnnotation ++
  m.ranges.map RangeType.toAnnotation

/-- One annotation's effect on a model's settings and objects. -/
def annotationStep (m : DatabaseModel) (a : Annotation) : Except AnnotationError DatabaseModel :=
  let starts := fun (pfx : String) => pfx.toList.isPrefixOf a.name.toList
  if starts AnnotationName.extensionPrefix then do
    pure { m with extensions := m.extensions ++ [← Extension.ofAnnotation a] }
  else if starts AnnotationName.enumPrefix then do
    pure { m with enums := m.enums ++ [← EnumType.ofAnnotation a] }
  else if starts AnnotationName.rangePrefix then do
    pure { m with ranges := m.ranges ++ [← RangeType.ofAnnotation a] }
  else if a.name == AnnotationName.defaultSchema then do
    pure { m with defaultSchema := ← AnnotationValue.textOf a }
  else if a.name == AnnotationName.hiloSequenceName then do
    pure { m with hiloSequenceName := ← AnnotationValue.textOf a }
  else if a.name == AnnotationName.hiloSequenceSchema then do
    pure { m with hiloSequenceSchema := ← AnnotationValue.textOf a }
  else if a.name == AnnotationName.databaseTemplate then do
    pure { m with databaseTemplate := ← AnnotationValue.textOf a }
  else if a.name == AnnotationName.tablespace then do
    pure { m with tablespace := ← AnnotationValue.textOf a }
  else if a.name == AnnotationName.valueGenerationStrategy then do
    pure { m with strategy := ← AnnotationValue.strategyOf a }
  else .ok m

/-- A model's settings and objects from annotations; tables and sequences stay empty. -/
def ofAnnotations (as : List Annotation) : Except AnnotationError DatabaseModel :=
  as.foldlM annotationStep {}

/-- Whether two models without tables agree on everything else. -/
def sameDeclarations (a b : DatabaseModel) : Bool :=
  a.defaultSchema == b.defaultSchema && a.strategy == b.strategy &&
    a.hiloSequenceName == b.hiloSequenceName && a.hiloSequenceSchema == b.hiloSequenceSchema &&
    a.databaseTemplate == b.databaseTemplate && a.tablespace == b.tablespace &&
    a.extensions == b.extensions && a.enums == b.enums && a.ranges == b.ranges &&
    a.sequences == b.sequences && a.tables.isEmpty && b.tables.isEmpty

/-- Whether reading a model's annotations gives its settings and objects back. -/
def annotationsRoundTrip (m : DatabaseModel) : Bool :=
  match ofAnnotations m.toAnnotations with
  | .ok m' => sameDeclarations m' m
  | .error _ => false

end DatabaseModel

/-- Whether reading the annotations of column options gives them back. -/
def ColumnOptions.roundTrips (o : ColumnOptions) : Bool :=
  match ColumnOptions.ofAnnotations o.toAnnotations with
  | .ok o' => o' == o
  | .error _ => false

/-- Whether reading the annotations of table options gives them back. -/
def TableOptions.roundTrips (o : TableOptions) : Bool :=
  match TableOptions.ofAnnotations o.toAnnotations with
  | .ok o' => o' == o
  | .error _ => false

/-- Whether reading the annotations of index options gives them back. -/
def IndexOptions.roundTrips (o : IndexOptions) : Bool :=
  match IndexOptions.ofAnnotations o.toAnnotations with
  | .ok o' => o' == o
  | .error _ => false

end PgMigrate
