import PgMigrate.Annotation.Options
/-
  Annotations read back.

  The program: the dialect options of a column, a table, an index and a model are written as
  a list of annotations (`toAnnotations`) and read by folding one step per annotation over the
  default options (`ofAnnotations`).  A model's extensions, enums and ranges carry their key
  in the annotation's name, `<prefix>[schema.]name`, which reading cuts after the prefix and
  at the first dot.

  The specification (`annotations_round_trip`): reading what was written gives the options
  back, for all column, table and index options (storage parameters in declaration order,
  repeated names kept), and for every model without tables and sequences whose objects have
  keys a name can carry (`KeyWritable`: a non-empty name, and no dot before the one the reader
  cuts at) and whose ranges have a subtype and no empty hook.

  The crux:
  * PARTS: what is written is a run of parts, each empty or one annotation for one setting
    (`foldlM_toList`, `foldlM_unlessEmpty`), then one annotation per parameter or object
    (`foldlM_appends`); reading a part over options that still hold the default sets that
    setting and nothing else, so the parts rebuild the options one field at a time;
  * NAMES: each written name is recognized by the step that wrote it and by none checked
    before it, either because the names differ or because two prefixes part within both
    (`isPrefixOf_append_eq_false`);
  * KEYS: the reader cuts `schema.name` at the dot right after the schema
    (`splitSchema_keyText`).
-/
namespace PgMigrate

theorem Except.ok_bind {ε α β : Type} (a : α) (f : α → Except ε β) : (Except.ok a >>= f) = f a :=
  rfl

/-! ## Reading a written list part by part -/

section Parts

variable {α β : Type} {f : α → Annotation → Except AnnotationError α} {o : α}

/-- An optional setting is written as one annotation when set, which reading takes as an
    update of the options: read over options holding the default, it sets the setting. -/
theorem foldlM_toList (x : Option β) (mk : β → Annotation) (set : α → Option β → α)
    (hnone : set o none = o) (hsome : ∀ o v, f o (mk v) = .ok (set o (some v))) :
    ((x.map mk).toList).foldlM f o = .ok (set o x) := by
  cases x with
  | none =>
    rw [hnone]
    rfl
  | some v =>
    show f o (mk v) >>= pure = _
    rw [hsome o v]
    rfl

/-- A list setting is written as one annotation when not empty. -/
theorem foldlM_unlessEmpty (xs : List β) (a : Annotation) (set : α → List β → α)
    (hnil : set o [] = o) (hstep : ∀ o, f o a = .ok (set o xs)) :
    (if xs.isEmpty then [] else [a]).foldlM f o = .ok (set o xs) := by
  cases xs with
  | nil =>
    rw [hnil]
    rfl
  | cons x xs =>
    show f o a >>= pure = _
    rw [hstep o]
    rfl

/-- One annotation per item, each read by appending its item to one list of the options
    (`get`, replaced by `set`): reading them all appends all the items, in order. -/
theorem foldlM_appends (xs : List β) (mk : β → Annotation) (get : α → List β)
    (set : α → List β → α) (hget : ∀ o ys, get (set o ys) = ys)
    (hset : ∀ o ys zs, set (set o ys) zs = set o zs) (hself : ∀ o, set o (get o) = o)
    (hstep : ∀ o, ∀ x ∈ xs, f o (mk x) = .ok (set o (get o ++ [x]))) :
    (xs.map mk).foldlM f o = .ok (set o (get o ++ xs)) := by
  induction xs generalizing o with
  | nil =>
    rw [List.append_nil, hself]
    rfl
  | cons x xs ih =>
    rw [List.map_cons, List.foldlM_cons, hstep o x List.mem_cons_self, Except.ok_bind,
      ih fun o' y hy => hstep o' y (List.mem_cons_of_mem x hy), hget, hset, List.append_assoc]
    rfl

end Parts

/-! ## Names and prefixes -/

/-- A list that parts from `q` within both is a prefix of nothing that starts with `q`. -/
theorem isPrefixOf_append_eq_false {p q : List Char} (hpq : p.isPrefixOf q = false)
    (hqp : q.isPrefixOf p = false) (r : List Char) : p.isPrefixOf (q ++ r) = false := by
  rw [← Bool.not_eq_true, List.isPrefixOf_iff_prefix]
  intro h
  rcases List.prefix_or_prefix_of_prefix h (List.prefix_append q r) with h' | h'
  · rw [← List.isPrefixOf_iff_prefix, hpq] at h'
    cases h'
  · rw [← List.isPrefixOf_iff_prefix, hqp] at h'
    cases h'

@[simp] theorem isPrefixOf_append_self (p q : List Char) : p.isPrefixOf (p ++ q) = true :=
  List.isPrefixOf_iff_prefix.2 (List.prefix_append p q)

theorem Annotation.suffixAfter?_append (pfx s : String) (v : AnnotationValue) :
    (⟨pfx ++ s, v⟩ : Annotation).suffixAfter? pfx = some s := by
  simp only [ Annotation.suffixAfter?, String.toList_append, isPrefixOf_append_self, if_true]
  rw [← String.length_toList, List.drop_left, String.ofList_toList]

theorem Annotation.suffixAfter?_eq_none {pfx name : String}
    (h : pfx.toList.isPrefixOf name.toList = false) (v : AnnotationValue) :
    (⟨name, v⟩ : Annotation).suffixAfter? pfx = none := by
  simp [ Annotation.suffixAfter?, h]

/-- The text written as text, whatever it is. -/
theorem optionalText_eq (name : String) (x : Option String) :
    optionalText name x = (x.map fun v => (⟨name, .text v⟩ : Annotation)).toList := by
  cases x <;> rfl

/-! ## Column options -/

namespace ColumnOptions

@[simp] theorem step_strategy (o : ColumnOptions) (g : Generation) :
    o.step ⟨AnnotationName.valueGenerationStrategy, .strategy g⟩ =
      .ok { o with strategy := some g } :=
  rfl

@[simp] theorem step_comment (o : ColumnOptions) (c : String) :
    o.step ⟨AnnotationName.comment, .text c⟩ = .ok { o with comment := some c } :=
  rfl

theorem toAnnotations_eq (o : ColumnOptions) :
    o.toAnnotations =
      (o.strategy.map fun g => (⟨AnnotationName.valueGenerationStrategy, .strategy g⟩ : Annotation)).toList ++
      optionalText AnnotationName.comment o.comment := by
  obtain ⟨comment, strategy⟩ := o
  cases strategy <;> rfl

/-- Column options read back from their annotations: the strategy, then the comment. -/
theorem ofAnnotations_toAnnotations (o : ColumnOptions) : ofAnnotations o.toAnnotations = .ok o := by
  obtain ⟨comment, strategy⟩ := o
  rw [ofAnnotations, toAnnotations_eq, List.foldlM_append, optionalText_eq]
  dsimp only
  rw [foldlM_toList (f := step) strategy _ (fun o g => { o with strategy := g }) rfl step_strategy,
    Except.ok_bind,
    foldlM_toList (f := step) comment _ (fun o c => { o with comment := c }) rfl step_comment]

end ColumnOptions

/-! ## Table options -/

namespace TableOptions

@[simp] theorem step_comment (o : TableOptions) (c : String) :
    o.step ⟨AnnotationName.comment, .text c⟩ = .ok { o with comment := some c } := by
  have hnone : (⟨AnnotationName.comment, .text c⟩ : Annotation).suffixAfter?
      AnnotationName.storageParameterPrefix = none := Annotation.suffixAfter?_eq_none (by decide) _
  simp only [step, hnone]
  rfl

@[simp] theorem step_unlogged (o : TableOptions) (b : Bool) :
    o.step ⟨AnnotationName.unloggedTable, .bool b⟩ = .ok { o with unlogged := some b } := by
  have hnone : (⟨AnnotationName.unloggedTable, .bool b⟩ : Annotation).suffixAfter?
      AnnotationName.storageParameterPrefix = none := Annotation.suffixAfter?_eq_none (by decide) _
  simp only [step, hnone]
  rfl

/-- A storage parameter's annotation appends the parameter, whatever its name. -/
@[simp] theorem step_storage (o : TableOptions) (p : StorageParameter) :
    o.step ⟨AnnotationName.storageParameterPrefix ++ p.name, .storage p.value⟩ =
      .ok { o with storageParameters := o.storageParameters ++ [p] } := by
  simp only [step, Annotation.suffixAfter?_append]
  rfl

theorem toAnnotations_eq (o : TableOptions) :
    o.toAnnotations = optionalText AnnotationName.comment o.comment ++
      (o.unlogged.map fun b => (⟨AnnotationName.unloggedTable, .bool b⟩ : Annotation)).toList ++
      o.storageParameters.map fun p =>
        ⟨AnnotationName.storageParameterPrefix ++ p.name, .storage p.value⟩ := by
  obtain ⟨comment, unlogged, params⟩ := o
  cases unlogged <;> rfl

/-- Table options read back from their annotations: the comment, the logging, then each
    storage parameter in order, repeated names kept. -/
theorem ofAnnotations_toAnnotations (o : TableOptions) : ofAnnotations o.toAnnotations = .ok o := by
  obtain ⟨comment, unlogged, params⟩ := o
  rw [ofAnnotations, toAnnotations_eq, List.foldlM_append, List.foldlM_append, optionalText_eq]
  dsimp only
  rw [foldlM_toList (f := step) comment _ (fun o c => { o with comment := c }) rfl step_comment,
    Except.ok_bind,
    foldlM_toList (f := step) unlogged _ (fun o u => { o with unlogged := u }) rfl step_unlogged,
    Except.ok_bind,
    foldlM_appends (f := step) params _ storageParameters
      (fun o ps => { o with storageParameters := ps }) (fun _ _ => rfl) (fun _ _ _ => rfl)
      (fun _ => rfl) fun o p _ => step_storage o p]
  rfl

end TableOptions

/-! ## Index options -/

namespace IndexOptions

@[simp] theorem step_method (o : IndexOptions) (m : String) :
    o.step ⟨AnnotationName.indexMethod, .text m⟩ = .ok { o with method := some m } := rfl

@[simp] theorem step_operators (o : IndexOptions) (xs : List String) :
    o.step ⟨AnnotationName.indexOperators, .textList xs⟩ = .ok { o with operators := xs } := rfl

@[simp] theorem step_collations (o : IndexOptions) (xs : List String) :
    o.step ⟨AnnotationName.indexCollation, .textList xs⟩ = .ok { o with collations := xs } := rfl

@[simp] theorem step_sortOrders (o : IndexOptions) (xs : List SortOrder) :
    o.step ⟨AnnotationName.indexSortOrder, .sortOrders xs⟩ = .ok { o with sortOrders := xs } := rfl

@[simp] theorem step_nullSortOrders (o : IndexOptions) (xs : List NullSortOrder) :
    o.step ⟨AnnotationName.indexNullSortOrder, .nullSortOrders xs⟩ =
      .ok { o with nullSortOrders := xs } := rfl

@[simp] theorem step_included (o : IndexOptions) (xs : List String) :
    o.step ⟨AnnotationName.indexInclude, .textList xs⟩ = .ok { o with included := xs } := rfl

/-- Index options read back from their annotations, one setting after the other; an empty
    list is written as nothing and read as the default. -/
theorem ofAnnotations_toAnnotations (o : IndexOptions) : ofAnnotations o.toAnnotations = .ok o := by
  obtain ⟨method, operators, collations, sortOrders, nullSortOrders, included⟩ := o
  simp only [ofAnnotations, toAnnotations, List.foldlM_append, optionalText_eq]
  rw [foldlM_toList (f := step) method _ (fun o m => { o with method := m }) rfl step_method,
    Except.ok_bind,
    foldlM_unlessEmpty (f := step) operators _ (fun o xs => { o with operators := xs }) rfl
      fun o => step_operators o operators, Except.ok_bind,
    foldlM_unlessEmpty (f := step) collations _ (fun o xs => { o with collations := xs }) rfl
      fun o => step_collations o collations, Except.ok_bind,
    foldlM_unlessEmpty (f := step) sortOrders _ (fun o xs => { o with sortOrders := xs }) rfl
      fun o => step_sortOrders o sortOrders, Except.ok_bind,
    foldlM_unlessEmpty (f := step) nullSortOrders _ (fun o xs => { o with nullSortOrders := xs })
      rfl fun o => step_nullSortOrders o nullSortOrders, Except.ok_bind,
    foldlM_unlessEmpty (f := step) included _ (fun o xs => { o with included := xs }) rfl
      fun o => step_included o included]

end IndexOptions

/-! ## Object keys -/

/-- A key an annotation name can carry: a name, and no dot before the dot the reader cuts
    at, that is in the schema when there is one, else in the name. -/
def KeyWritable (schema : Option String) (name : String) : Prop :=
  name ≠ "" ∧ '.' ∉ (schema.getD name).toList

/-- The text after an object's prefix in its annotation name. -/
def keyText (schema : Option String) (name : String) : String :=
  (schema.map (· ++ "." ++ name)).getD name

theorem Annotation.objectName_eq (pfx : String) (schema : Option String) (name : String) :
    Annotation.objectName pfx schema name = pfx ++ keyText schema name := by
  cases schema <;> simp [ Annotation.objectName, keyText, String.append_assoc]

theorem keyText_ne_empty {schema : Option String} {name : String} (h : name ≠ "") :
    keyText schema name ≠ "" := by
  cases schema with
  | none => exact h
  | some s =>
    intro he
    have hlen := congrArg String.length he
    simp [keyText] at hlen

/-- Where the text has no dot, the reader finds none. -/
theorem findIdx?_dot_eq_none {l : List Char} (h : '.' ∉ l) : l.findIdx? (· == '.') = none :=
  List.findIdx?_eq_none_iff.2 fun c hc => by
    have hne : c ≠ '.' := fun hc' => h (hc' ▸ hc)
    simpa using hne

/-- The reader cuts a written key at the dot after the schema, or keeps a name whole. -/
theorem splitSchema_keyText {schema : Option String} {name : String} (h : KeyWritable schema name) :
    Ident.splitSchema (keyText schema name) = (schema, name) := by
  obtain ⟨-, hdot⟩ := h
  cases schema with
  | none =>
    have hnone := findIdx?_dot_eq_none (l := name.toList) hdot
    simp [Ident.splitSchema, keyText, hnone]
  | some s =>
    -- the first dot is the one written right after the schema
    have hlist : (s ++ "." ++ name).toList = s.toList ++ '.' :: name.toList := by simp
    have hfind : (s.toList ++ '.' :: name.toList).findIdx? (· == '.') = some s.toList.length := by
      rw [List.findIdx?_append, findIdx?_dot_eq_none (l := s.toList) hdot, List.findIdx?_cons]
      simp
    simp only [Ident.splitSchema, keyText, Option.map_some, Option.getD_some, hlist, hfind,
      List.take_left, String.ofList_toList, Prod.mk.injEq, true_and]
    rw [show s.toList.length + 1 = s.toList.length + 1 from rfl, List.drop_append]
    simp

/-- An object's key read back from its annotation's name. -/
theorem Annotation.objectKey_objectName {schema : Option String} {name : String}
    (h : KeyWritable schema name) (pfx : String) (v : AnnotationValue) :
    (⟨ Annotation.objectName pfx schema name, v⟩ : Annotation).objectKey pfx = .ok (schema, name) := by
  have hkey : (keyText schema name).isEmpty = false := by
    rw [Bool.eq_false_iff, ne_eq, String.isEmpty_iff]
    exact keyText_ne_empty h.1
  have hname : name.isEmpty = false := by
    rw [Bool.eq_false_iff, ne_eq, String.isEmpty_iff]
    exact h.1
  simp only [ Annotation.objectKey, Annotation.objectName_eq, Annotation.suffixAfter?_append, hkey,
    splitSchema_keyText h, hname]
  rfl

/-! ## Database-level objects -/

theorem Extension.ofAnnotation_toAnnotation {x : Extension} (h : KeyWritable x.schema x.name) :
    Extension.ofAnnotation x.toAnnotation = .ok x := by
  obtain ⟨schema, name, version⟩ := x
  rw [Extension.ofAnnotation, Extension.toAnnotation, Annotation.objectKey_objectName h]
  cases version <;> rfl

theorem EnumType.ofAnnotation_toAnnotation {e : EnumType} (h : KeyWritable e.schema e.name) :
    EnumType.ofAnnotation e.toAnnotation = .ok e := by
  rw [EnumType.ofAnnotation, EnumType.toAnnotation, Annotation.objectKey_objectName h]
  rfl

/-- A range type its annotation carries: a key, a subtype, and no hook set to nothing (which
    the annotation could not tell from an unset one). -/
def RangeType.Writable (r : RangeType) : Prop :=
  KeyWritable r.schema r.name ∧ r.subtype ≠ "" ∧
    ∀ hook ∈ [r.canonicalFunction, r.subtypeOpclass, r.collation, r.subtypeDiff], hook ≠ some ""

/-- An unset hook is written empty, and only an unset hook. -/
theorem RangeType.hook_getD {x : Option String} (h : x ≠ some "") : RangeType.hook (x.getD "") = x := by
  cases x with
  | none => rfl
  | some v =>
    have hv : v.isEmpty = false := by
      rw [Bool.eq_false_iff, ne_eq, String.isEmpty_iff]
      exact fun hv => h (hv ▸ rfl)
    simp [RangeType.hook, hv]

theorem RangeType.ofAnnotation_toAnnotation {r : RangeType} (h : r.Writable) :
    RangeType.ofAnnotation r.toAnnotation = .ok r := by
  obtain ⟨hkey, hsub, hhooks⟩ := h
  have hsub' : r.subtype.isEmpty = false := by
    rw [Bool.eq_false_iff, ne_eq, String.isEmpty_iff]
    exact hsub
  simp only [List.mem_cons, List.not_mem_nil, or_false, forall_eq_or_imp, forall_eq] at hhooks
  obtain ⟨hc, ho, hl, hd⟩ := hhooks
  rw [RangeType.ofAnnotation, RangeType.toAnnotation, Annotation.objectKey_objectName hkey]
  simp only [AnnotationValue.textListOf, Except.ok_bind, hsub', RangeType.hook_getD hc,
    RangeType.hook_getD ho, RangeType.hook_getD hl, RangeType.hook_getD hd]
  rfl

/-! ## Which reader an object's annotation goes to -/

theorem Extension.toAnnotation_prefix (x : Extension) :
    AnnotationName.extensionPrefix.toList.isPrefixOf x.toAnnotation.name.toList = true := by
  simp [Extension.toAnnotation, Annotation.objectName_eq]

/-- An enum's annotation name starts with the enum prefix, not with the extension one. -/
theorem EnumType.toAnnotation_prefixes (e : EnumType) :
    AnnotationName.extensionPrefix.toList.isPrefixOf e.toAnnotation.name.toList = false ∧
      AnnotationName.enumPrefix.toList.isPrefixOf e.toAnnotation.name.toList = true := by
  simp only [EnumType.toAnnotation, Annotation.objectName_eq, String.toList_append]
  exact ⟨isPrefixOf_append_eq_false (by decide) (by decide) _, isPrefixOf_append_self _ _⟩

/-- A range's annotation name starts with the range prefix, not with the extension or the enum
    one. -/
theorem RangeType.toAnnotation_prefixes (r : RangeType) :
    AnnotationName.extensionPrefix.toList.isPrefixOf r.toAnnotation.name.toList = false ∧
      AnnotationName.enumPrefix.toList.isPrefixOf r.toAnnotation.name.toList = false ∧
      AnnotationName.rangePrefix.toList.isPrefixOf r.toAnnotation.name.toList = true := by
  simp only [RangeType.toAnnotation, Annotation.objectName_eq, String.toList_append]
  exact ⟨isPrefixOf_append_eq_false (by decide) (by decide) _,
    isPrefixOf_append_eq_false (by decide) (by decide) _, isPrefixOf_append_self _ _⟩

/-! ## Models -/

namespace DatabaseModel

@[simp] theorem annotationStep_defaultSchema (m : DatabaseModel) (s : String) :
    m.annotationStep ⟨AnnotationName.defaultSchema, .text s⟩ =
      .ok { m with defaultSchema := some s } := by
  simp [annotationStep, AnnotationName.extensionPrefix, AnnotationName.enumPrefix,
    AnnotationName.rangePrefix, AnnotationName.defaultSchema, AnnotationValue.textOf, Functor.map, Except.map]

@[simp] theorem annotationStep_strategy (m : DatabaseModel) (g : Generation) :
    m.annotationStep ⟨AnnotationName.valueGenerationStrategy, .strategy g⟩ =
      .ok { m with strategy := some g } := by
  simp [annotationStep, AnnotationName.extensionPrefix, AnnotationName.enumPrefix,
    AnnotationName.rangePrefix, AnnotationName.defaultSchema, AnnotationName.hiloSequenceName,
    AnnotationName.hiloSequenceSchema, AnnotationName.databaseTemplate, AnnotationName.tablespace,
    AnnotationName.valueGenerationStrategy, AnnotationValue.strategyOf, Functor.map, Except.map]

@[simp] theorem annotationStep_hiloSequenceName (m : DatabaseModel) (s : String) :
    m.annotationStep ⟨AnnotationName.hiloSequenceName, .text s⟩ =
      .ok { m with hiloSequenceName := some s } := by
  simp [annotationStep, AnnotationName.extensionPrefix, AnnotationName.enumPrefix,
    AnnotationName.rangePrefix, AnnotationName.defaultSchema, AnnotationName.hiloSequenceName,
    AnnotationValue.textOf, Functor.map, Except.map]

@[simp] theorem annotationStep_hiloSequenceSchema (m : DatabaseModel) (s : String) :
    m.annotationStep ⟨AnnotationName.hiloSequenceSchema, .text s⟩ =
      .ok { m with hiloSequenceSchema := some s } := by
  simp [annotationStep, AnnotationName.extensionPrefix, AnnotationName.enumPrefix,
    AnnotationName.rangePrefix, AnnotationName.defaultSchema, AnnotationName.hiloSequenceName,
    AnnotationName.hiloSequenceSchema, AnnotationValue.textOf, Functor.map, Except.map]

@[simp] theorem annotationStep_databaseTemplate (m : DatabaseModel) (s : String) :
    m.annotationStep ⟨AnnotationName.databaseTemplate, .text s⟩ =
      .ok { m with databaseTemplate := some s } := by
  simp [annotationStep, AnnotationName.extensionPrefix, AnnotationName.enumPrefix,
    AnnotationName.rangePrefix, AnnotationName.defaultSchema, AnnotationName.hiloSequenceName,
    AnnotationName.hiloSequenceSchema, AnnotationName.databaseTemplate, AnnotationValue.textOf, Functor.map, Except.map]

@[simp] theorem annotationStep_tablespace (m : DatabaseModel) (s : String) :
    m.annotationStep ⟨AnnotationName.tablespace, .text s⟩ = .ok { m with tablespace := some s } := by
  simp [annotationStep, AnnotationName.extensionPrefix, AnnotationName.enumPrefix,
    AnnotationName.rangePrefix, AnnotationName.defaultSchema, AnnotationName.hiloSequenceName,
    AnnotationName.hiloSequenceSchema, AnnotationName.databaseTemplate, AnnotationName.tablespace,
    AnnotationValue.textOf, Functor.map, Except.map]

/-- An extension's annotation is read by the extension reader, which appends it. -/
theorem annotationStep_extension (m : DatabaseModel) {x : Extension}
    (h : KeyWritable x.schema x.name) :
    m.annotationStep x.toAnnotation = .ok { m with extensions := m.extensions ++ [x] } := by
  simp only [annotationStep, x.toAnnotation_prefix, if_true, Extension.ofAnnotation_toAnnotation h]
  rfl

/-- An enum's annotation passes the extension reader by and is read by the enum reader. -/
theorem annotationStep_enum (m : DatabaseModel) {e : EnumType} (h : KeyWritable e.schema e.name) :
    m.annotationStep e.toAnnotation = .ok { m with enums := m.enums ++ [e] } := by
  obtain ⟨hext, henum⟩ := e.toAnnotation_prefixes
  simp only [annotationStep, hext, henum, Bool.false_eq_true, if_false, if_true,
    EnumType.ofAnnotation_toAnnotation h]
  rfl

/-- A range's annotation passes the extension and enum readers by and is read by the range
    reader. -/
theorem annotationStep_range (m : DatabaseModel) {r : RangeType} (h : r.Writable) :
    m.annotationStep r.toAnnotation = .ok { m with ranges := m.ranges ++ [r] } := by
  obtain ⟨hext, henum, hrange⟩ := r.toAnnotation_prefixes
  simp only [annotationStep, hext, henum, hrange, Bool.false_eq_true, if_false, if_true,
    RangeType.ofAnnotation_toAnnotation h]
  rfl

theorem toAnnotations_eq (m : DatabaseModel) :
    m.toAnnotations = optionalText AnnotationName.defaultSchema m.defaultSchema ++
      (m.strategy.map fun g =>
        (⟨AnnotationName.valueGenerationStrategy, .strategy g⟩ : Annotation)).toList ++
      optionalText AnnotationName.hiloSequenceName m.hiloSequenceName ++
      optionalText AnnotationName.hiloSequenceSchema m.hiloSequenceSchema ++
      optionalText AnnotationName.databaseTemplate m.databaseTemplate ++
      optionalText AnnotationName.tablespace m.tablespace ++
      m.extensions.map Extension.toAnnotation ++ m.enums.map EnumType.toAnnotation ++
      m.ranges.map RangeType.toAnnotation := by
  cases hs : m.strategy <;> simp [toAnnotations, hs]

/-- A model without tables and sequences read back from its annotations: the settings one
    after the other, then its extensions, enums and ranges in order. -/
theorem ofAnnotations_toAnnotations (m : DatabaseModel) (htables : m.tables = [])
    (hsequences : m.sequences = []) (hext : ∀ x ∈ m.extensions, KeyWritable x.schema x.name)
    (henum : ∀ e ∈ m.enums, KeyWritable e.schema e.name) (hrange : ∀ r ∈ m.ranges, r.Writable) :
    ofAnnotations m.toAnnotations = .ok m := by
  rw [ofAnnotations, toAnnotations_eq]
  simp only [List.foldlM_append, optionalText_eq]
  rw [foldlM_toList (f := annotationStep) m.defaultSchema _ (fun o x => { o with defaultSchema := x })
      rfl annotationStep_defaultSchema, Except.ok_bind,
    foldlM_toList (f := annotationStep) m.strategy _ (fun o x => { o with strategy := x }) rfl
      annotationStep_strategy, Except.ok_bind,
    foldlM_toList (f := annotationStep) m.hiloSequenceName _
      (fun o x => { o with hiloSequenceName := x }) rfl annotationStep_hiloSequenceName,
    Except.ok_bind,
    foldlM_toList (f := annotationStep) m.hiloSequenceSchema _
      (fun o x => { o with hiloSequenceSchema := x }) rfl annotationStep_hiloSequenceSchema,
    Except.ok_bind,
    foldlM_toList (f := annotationStep) m.databaseTemplate _
      (fun o x => { o with databaseTemplate := x }) rfl annotationStep_databaseTemplate,
    Except.ok_bind,
    foldlM_toList (f := annotationStep) m.tablespace _ (fun o x => { o with tablespace := x }) rfl
      annotationStep_tablespace, Except.ok_bind,
    foldlM_appends (f := annotationStep) m.extensions _ extensions
      (fun o xs => { o with extensions := xs }) (fun _ _ => rfl) (fun _ _ _ => rfl) (fun _ => rfl)
      fun o x hx => annotationStep_extension o (hext x hx), Except.ok_bind,
    foldlM_appends (f := annotationStep) m.enums _ enums (fun o es => { o with enums := es })
      (fun _ _ => rfl) (fun _ _ _ => rfl) (fun _ => rfl)
      fun o e he => annotationStep_enum o (henum e he), Except.ok_bind,
    foldlM_appends (f := annotationStep) m.ranges _ ranges (fun o rs => { o with ranges := rs })
      (fun _ _ => rfl) (fun _ _ _ => rfl) (fun _ => rfl)
      fun o r hr => annotationStep_range o (hrange r hr)]
  -- what was read is the model: the settings and objects copied, no tables or sequences
  obtain ⟨_, _, _, _, _, _, _, _, _, sequences, tables⟩ := m
  simp only at htables hsequences
  subst htables hsequences
  rfl

end DatabaseModel

/-- The annotation bridge round-trips: reading the annotations written for any column, table or
    index options gives them back (storage parameters in declaration order, repeated names
    kept), and so it does for a model without tables and sequences whose extensions, enums and
    ranges have keys a name can carry, whose ranges have a subtype and no hook set to nothing. -/
theorem annotations_round_trip :
    (∀ o : ColumnOptions, ColumnOptions.ofAnnotations o.toAnnotations = .ok o) ∧
    (∀ o : TableOptions, TableOptions.ofAnnotations o.toAnnotations = .ok o) ∧
    (∀ o : IndexOptions, IndexOptions.ofAnnotations o.toAnnotations = .ok o) ∧
    (∀ m : DatabaseModel, m.tables = [] → m.sequences = [] →
      (∀ x ∈ m.extensions, KeyWritable x.schema x.name) →
      (∀ e ∈ m.enums, KeyWritable e.schema e.name) → (∀ r ∈ m.ranges, r.Writable) →
      DatabaseModel.ofAnnotations m.toAnnotations = .ok m) :=
  ⟨ColumnOptions.ofAnnotations_toAnnotations, TableOptions.ofAnnotations_toAnnotations,
    IndexOptions.ofAnnotations_toAnnotations, DatabaseModel.ofAnnotations_toAnnotations⟩

/-- A model with a default schema, an identity strategy, an extension with a version, an enum
    in the default schema and a range in a named one reads back from its annotations. -/
theorem appModel_reads_back :
    let m : DatabaseModel :=
      { defaultSchema := some "app", strategy := some .identityAlways,
        extensions := [{ name := "hstore", version := some "1.4" }],
        enums := [{ name := "mood", labels := ["happy", "sad"] }],
        ranges := [{ schema := some "app", name := "floatrange", subtype := "double precision" }] }
    m.tables = [] ∧ m.sequences = [] ∧ (∀ x ∈ m.extensions, KeyWritable x.schema x.name) ∧
      (∀ e ∈ m.enums, KeyWritable e.schema e.name) ∧ (∀ r ∈ m.ranges, r.Writable) ∧
      DatabaseModel.ofAnnotations m.toAnnotations = .ok m := by
  intro m
  have hext : ∀ x ∈ m.extensions, KeyWritable x.schema x.name := by
    simp only [m, List.mem_singleton, forall_eq]
    exact ⟨by decide, by decide⟩
  have henum : ∀ e ∈ m.enums, KeyWritable e.schema e.name := by
    simp only [m, List.mem_singleton, forall_eq]
    exact ⟨by decide, by decide⟩
  have hrange : ∀ r ∈ m.ranges, r.Writable := by
    simp only [m, List.mem_singleton, forall_eq]
    exact ⟨⟨by decide, by decide⟩, by decide, by simp⟩
  exact ⟨rfl, rfl, hext, henum, hrange,
    annotations_round_trip.2.2.2 m rfl rfl hext henum hrange⟩

end PgMigrate
