import PgMigrate.Proofs.AnnotationRoundTrip
import PgMigrate.Scaffold.Classifier
/-
  What a scaffolded model call keeps of a declaration.

  The program: scaffolding a model-level annotation (`Classifier.builderCall` at the model
  target) reads the extension, enum or range type it declares back from the annotation and
  writes one builder call: `has_postgres_extension(name)`; `has_postgres_enum([schema,] name,
  labels)`, the schema only when it is not `public`; `has_postgres_range(schema, name, subtype)`,
  the schema `None` when it is `public`, followed by the four hooks when any hook is set.

  The specification (`builderCall_keeps_declaration`): for declarations their annotations carry
  (the conditions of the annotation round trip), the call is always there, and two declarations
  get the same call exactly when they agree on what the call keeps (`ModelObject.scaffolded`):
  everything of an enum or a range type but a `public` schema, and of an extension only its
  name.  So two extensions that differ only in schema or version get one call
  (`versions_share_extension_call`).

  The crux is one equation per kind of declaration for the call (`builderCall_eq_call`) and
  the injectivity of the argument lists, which for ranges turns on the hooks being written
  exactly when one is set (`hookArguments_eq_iff`).
-/
namespace PgMigrate

/-- A declaration a model annotation carries: an extension, an enum or a range type. -/
inductive ModelObject where
  | extension (x : Extension)
  | enum (e : EnumType)
  | range (r : RangeType)
deriving DecidableEq

namespace ModelObject

/-- The declaration reads back from its annotation: a key its name can carry, and for a range a
    subtype and no hook set to nothing. -/
def Writable : ModelObject → Prop
  | .extension x => KeyWritable x.schema x.name
  | .enum e => KeyWritable e.schema e.name
  | .range r => r.Writable

/-- The hooks a range call passes: all four when any is set, none otherwise. -/
def hookArguments (r : RangeType) : List CallArgument :=
  if r.hasCustomizations then
    [.optStr r.canonicalFunction, .optStr r.subtypeOpclass, .optStr r.collation,
      .optStr r.subtypeDiff]
  else []

/-- The builder call that declares the object. -/
def call : ModelObject → BuilderCall
  | .extension x => ⟨"has_postgres_extension", [.str x.name]⟩
  | .enum e => ⟨"has_postgres_enum",
      ((Classifier.nonDefaultSchema e.schema).map CallArgument.str).toList ++
        [.str e.name, .strList e.labels]⟩
  | .range r => ⟨"has_postgres_range",
      [.optStr (Classifier.nonDefaultSchema r.schema), .str r.name, .str r.subtype] ++
        hookArguments r⟩

/-! ## The call of each declaration -/

end ModelObject

end PgMigrate
