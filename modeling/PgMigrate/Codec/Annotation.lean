import PgMigrate.Codec.Schema
import PgMigrate.Annotation.Options
/-
  JSON forms of annotations.

  An annotation is `{"name", "value"}`; a value is `"Null"` or a one-member object naming
  its kind: `{"Bool": b}`, `{"Text": s}`, `{"TextList": [s]}`, `{"Strategy": g}`,
  `{"SortOrders": [..]}`, `{"NullSortOrders": [..]}` or `{"Storage": v}` with an untyped
  storage value.
-/
namespace PgMigrate

namespace Codec

/-- Reads an annotation value. -/
def annotationValue? : Json → Option AnnotationValue
  | .str "Null" => some .null
  | .obj [("Null", .null)] => some .null
  | .obj [("Bool", body)] => body.bool?.map .bool
  | .obj [("Text", body)] => body.str?.map .text
  | .obj [("TextList", body)] => (strings body).map .textList
  | .obj [("Strategy", body)] => (Generation.ofJson body).map .strategy
  | .obj [("SortOrders", body)] => (Json.list sortOrder? body).map .sortOrders
  | .obj [("NullSortOrders", body)] => (Json.list nullSortOrder? body).map .nullSortOrders
  | .obj [("Storage", body)] => (storageValue? body).map .storage
  | _ => none

/-- The JSON form of an annotation value. -/
def annotationValueJson : AnnotationValue → Json
  | .null => .str "Null"
  | .bool b => .obj [("Bool", .bool b)]
  | .text s => .obj [("Text", .str s)]
  | .textList xs => .obj [("TextList", .strs xs)]
  | .strategy g => .obj [("Strategy", g.toJson)]
  | .sortOrders os => .obj [("SortOrders", .arr (os.map fun o => .str o.name))]
  | .nullSortOrders os => .obj [("NullSortOrders", .arr (os.map fun o => .str o.name))]
  | .storage v => .obj [("Storage", storageValueJson v)]

/-- Reads an annotation. -/
def annotation? (j : Json) : Option Annotation := do
  guard j.isObject
  pure ⟨← j.req "name" Json.string, ← j.req "value" annotationValue?⟩

/-- The JSON form of an annotation. -/
def annotationJson (a : Annotation) : Json :=
  .obj [("name", .str a.name), ("value", annotationValueJson a.value)]

/-- The JSON form of an annotation error. -/
def annotationErrorJson (e : AnnotationError) : Json :=
  .obj [("error", .str e.kindName), ("message", .str e.message)]

end Codec

end PgMigrate
