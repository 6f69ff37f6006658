import PgMigrate.Scaffold.Call
import PgMigrate.Annotation.Options
import PgMigrate.Migration.Error
/-
  Classifying annotations for scaffolding.

  For each annotation a classifier says whether the zero-configuration model would carry
  it anyway (it is implied by convention) and which builder call reproduces it.  The
  built-in classifier owns the dialect's annotations: the default schema `public`, the
  `btree` index method and the conventional strategy of the target version are implied;
  extensions, enums and ranges become model calls; comments and logging table calls;
  strategies and comments column calls; index options index calls.  A HiLo strategy has
  no column call (it is configured model-wide), and the strategy `None` has no call.

  A registry chains classifiers: an annotation is implied when any classifier says so,
  the first classifier to answer gives the call, and an error stops scaffolding.
-/
namespace PgMigrate

/-- What an annotation is attached to. -/
inductive AnnotationTarget where
  | model | table | column | index
deriving Repr, DecidableEq

/-- The target with a name. -/
def AnnotationTarget.ofName? : String → Option AnnotationTarget
  | "Model" => some .model
  | "Table" => some .table
  | "Column" => some .column
  | "Index" => some .index
  | _ => none

/-- The built-in classifier for a target version. -/
structure Classifier where
  version : Option ServerVersion := none
deriving Repr, DecidableEq

namespace Classifier

/-- The error for an owned annotation carrying a value of the wrong kind. -/
def unexpected (a : Annotation) (expected : String) : MigrationError :=
  .annotationError (AnnotationError.unexpected a expected)

/-- The text of a text annotation. -/
def textOf (a : Annotation) : Except MigrationError String :=
  match a.value with
  | .text s => .ok s
  | _ => .error (unexpected a "text")

/-- The items of a text-list annotation. -/
def textListOf (a : Annotation) : Except MigrationError (List String) :=
  match a.value with
  | .textList xs => .ok xs
  | _ => .error (unexpected a "text list")

/-- An annotation decoder's error as a migration error. -/
def liftAnnotation {α : Type} (r : Except AnnotationError α) : Except MigrationError α :=
  r.mapError .annotationError

/-- A schema unless it is the default one. -/
def nonDefaultSchema (schema : Option String) : Option String :=
  schema.filter (· != DatabaseModel.publicSchema)

/-- The call declaring a model-level object. -/
def modelCall (a : Annotation) : Except MigrationError (Option BuilderCall) := do
  let starts := fun (pfx : String) => pfx.toList.isPrefixOf a.name.toList
  if starts AnnotationName.extensionPrefix then
    let e ← liftAnnotation (Extension.ofAnnotation a)
    return some ((BuilderCall.mk "has_postgres_extension" []).arg (.str e.name))
  if starts AnnotationName.enumPrefix then
    let e ← liftAnnotation (EnumType.ofAnnotation a)
    let schemaArgs := ((nonDefaultSchema e.schema).map CallArgument.str).toList
    return some ⟨"has_postgres_enum", schemaArgs ++ [.str e.name, .strList e.labels]⟩
  if starts AnnotationName.rangePrefix then
    let r ← liftAnnotation (RangeType.ofAnnotation a)
    let hooks := if r.hasCustomizations then
        [.optStr r.canonicalFunction, .optStr r.subtypeOpclass, .optStr r.collation,
          .optStr r.subtypeDiff]
      else []
    return some ⟨"has_postgres_range",
      [.optStr (nonDefaultSchema r.schema), .str r.name, .str r.subtype] ++ hooks⟩
  pure none

/-- The call setting a table option. -/
def tableCall (a : Annotation) : Except MigrationError (Option BuilderCall) :=
  if a.name == AnnotationName.comment then do
    pure (some ⟨"has_comment", [.str (← textOf a)]⟩)
  else if a.name == AnnotationName.unloggedTable then
    match a.value with
    | .bool b => .ok (some ⟨"is_unlogged", [.bool b]⟩)
    | _ => .error (unexpected a "bool")
  else .ok none

/-- The call setting a column option. -/
def columnCall (a : Annotation) : Except MigrationError (Option BuilderCall) :=
  if a.name == AnnotationName.valueGenerationStrategy then
    match a.value with
    | .strategy .serial => .ok (some ⟨"use_serial_column", []⟩)
    | .strategy .identityAlways => .ok (some ⟨"use_identity_always_column", []⟩)
    | .strategy .identityByDefault => .ok (some ⟨"use_identity_by_default_column", []⟩)
    | .strategy .hiLo => .error (.hiloScaffolding a.name)
    | .strategy .none => .ok none
    | _ => .error (unexpected a "strategy")
  else if a.name == AnnotationName.comment then do
    pure (some ⟨"has_comment", [.str (← textOf a)]⟩)
  else .ok none

/-- The call setting an index option. -/
def indexCall (a : Annotation) : Except MigrationError (Option BuilderCall) :=
  if a.name == AnnotationName.indexMethod then do
    pure (some ⟨"has_method", [.str (← textOf a)]⟩)
  else if a.name == AnnotationName.indexOperators then do
    pure (some ⟨"has_operators", [.strList (← textListOf a)]⟩)
  else if a.name == AnnotationName.indexCollation then do
    pure (some ⟨"has_collation", [.strList (← textListOf a)]⟩)
  else if a.name == AnnotationName.indexSortOrder then
    match a.value with
    | .sortOrders os => .ok (some ⟨"has_sort_order", [.sortOrders os]⟩)
    | _ => .error (unexpected a "sort orders")
  else if a.name == AnnotationName.indexNullSortOrder then
    match a.value with
    | .nullSortOrders os => .ok (some ⟨"has_null_sort_order", [.nullSortOrders os]⟩)
    | _ => .error (unexpected a "null sort orders")
  else if a.name == AnnotationName.indexInclude then do
    pure (some ⟨"include_properties", [.strList (← textListOf a)]⟩)
  else .ok none

/-- Whether the annotation restates the conventional default. -/
def isImplied (c : Classifier) (target : AnnotationTarget) (a : Annotation) : Bool :=
  match target with
  | .model => a.name == AnnotationName.defaultSchema && a.value.asText? == some DatabaseModel.publicSchema
  | .index => a.name == AnnotationName.indexMethod && a.value.asText? == some "btree"
  | .column =>
    a.name == AnnotationName.valueGenerationStrategy &&
      a.value == .strategy (Generation.conventional c.version)
  | .table => false

/-- The call reproducing the annotation, nothing when the classifier does not own it. -/
def builderCall (_ : Classifier) (target : AnnotationTarget) (a : Annotation) :
    Except MigrationError (Option BuilderCall) :=
  match target with
  | .model => modelCall a
  | .table => tableCall a
  | .column => columnCall a
  | .index => indexCall a

end Classifier

/-- An ordered chain of classifiers. -/
structure ClassifierRegistry where
  classifiers : List Classifier := []
deriving Repr

namespace ClassifierRegistry

/-- The registry holding only the built-in classifier. -/
def builtin (version : Option ServerVersion) : ClassifierRegistry := ⟨[⟨version⟩]⟩

/-- Adds a classifier at the end. -/
def register (r : ClassifierRegistry) (c : Classifier) : ClassifierRegistry :=
  ⟨r.classifiers ++ [c]⟩

/-- `ClassifierRegistry { classifiers: N }`. -/
def describe (r : ClassifierRegistry) : String :=
  "ClassifierRegistry \x7b classifiers: " ++ toString r.classifiers.length ++ " \x7d"

/-- Whether any classifier finds the annotation implied. -/
def isImplied (r : ClassifierRegistry) (target : AnnotationTarget) (a : Annotation) : Bool :=
  r.classifiers.any (·.isImplied target a)

/-- The first classifier's call for the annotation. -/
def builderCall (r : ClassifierRegistry) (target : AnnotationTarget) (a : Annotation) :
    Except MigrationError (Option BuilderCall) :=
  r.classifiers.foldlM (fun found c => match found with
    | some call => pure (some call)
    | none => c.builderCall target a) none

/-- The calls of the annotations that are neither implied nor unclaimed. -/
def scaffold (r : ClassifierRegistry) (target : AnnotationTarget) (as : List Annotation) :
    Except MigrationError (List BuilderCall) :=
  as.foldlM (fun calls a =>
    if r.isImplied target a then pure calls
    else do
      match ← r.builderCall target a with
      | some call => pure (calls ++ [call])
      | none => pure calls) []

end ClassifierRegistry

end PgMigrate
