import PgMigrate.Proofs.Statements
/-
  Every statement the generator writes reads back whole.

  Each emitter builds its statements from fixed words, names, literals, clauses and the SQL an
  operation gives verbatim.  The words are calm, names and literals neutral
  (`Proofs.NeutralText`, `Proofs.NeutralSql`), and each piece may follow the one before it
  (`Joins`); so a statement is neutral as soon as the verbatim SQL in it is.  Every statement
  starts with a keyword, so none is blank.

  A line of a range's definition is followed by `,` and a newline, or by a newline and `)`:
  a subtype or hook that ends in `;` ends the statement there, however neutral.

  Main statements:
  * `emissions_readable`: an operation other than raw SQL emits readable statements and cuts
    when its verbatim SQL and the model's store types are neutral;
  * `statements_of_generate`: then the statements of every command generated are those the
    generator appended to it, trimmed, in order;
  * `range_subtype_semicolon_splits`: a range subtype ending in `;` splits its statement;
  * `storage_string_quote_keeps_terminator`: a storage string holding a quote, written as it
    is, keeps the terminator inside its statement.
-/
namespace PgMigrate

open ScanState

/-! ## Readable statements from their pieces -/

/-- A neutral statement with a character that is not white space reads back whole. -/
theorem Readable.intro {s : String} (hn : Neutral s) (c : Char) (hc : c ∈ s.toList)
    (hw : Unicode.isWhiteSpace c = false) : Readable s :=
  ⟨hn, trimWhite_ne_empty hc hw⟩

/-- A calm text, a neutral piece and fixed words that start quietly: calm again. -/
theorem Calm.then {a x k : String} (ha : Calm a) (hx : Neutral x) (hk : Glue k) :
    Calm (a ++ x ++ k) :=
  (ha.append_neutral hx).append_glue hk

/-- A settled text, a newline and `)`: the close of a definition list. -/
theorem Settled.close {a : String} (ha : Settled a) : Calm (a ++ "\n)") :=
  ha.neutral.append_calm (by decide) (.of_settled ha (by decide)) (by decide)

/-- Fixed words and a name, a phrase that may follow any settled text. -/
theorem Settled.append_phrase {a k : String} (ha : Settled a) (hk : Glue k) (name : String) :
    Settled (a ++ (k ++ Ident.delimit name)) :=
  ha.append_quiet (hk.1.append_settled (delimit_settled name)) (hk.2.1.append hk.2.2 _)

/-- Definition lines, each indented, joined by `,` and a newline and closed by a newline
    and `)`: every line must be settled, the last one before the newline. -/
theorem definitionList_calm {a : String} (ha : Calm a) {lines : List String}
    (h : ∀ l ∈ lines, Settled l) :
    Calm (a ++ ",\n".intercalate (lines.map (Generator.indent ++ ·)) ++ "\n)") := by
  have hlines : Settled (",\n".intercalate (lines.map (Generator.indent ++ ·))) := by
    refine Settled.intercalate (by decide) (by decide) (by decide) fun x hx => ?_
    obtain ⟨l, hl, rfl⟩ := List.mem_map.1 hx
    exact Calm.append_settled (by decide) (h l hl)
  exact (ha.append_settled hlines).close

namespace Generator

variable (g : Generator) (model : Option DatabaseModel)

theorem batch_readable {stmts : List String} (h : ∀ s ∈ stmts, Readable s) :
    ∀ e ∈ batch stmts, e.Readable := by
  intro e he
  simp only [batch, List.mem_append, List.mem_map, List.mem_singleton] at he
  rcases he with ⟨s, hs, rfl⟩ | rfl
  · exact h s hs
  · trivial

theorem command_readable {s : String} (h : Readable s) : ∀ e ∈ command s, e.Readable :=
  batch_readable (by simpa using h)

/-! ## Columns -/

/-- A column found in a model carries one of the model's store types. -/
theorem mem_storeTypes {m : DatabaseModel} {schema : Option String} {table name : String}
    {c : Column} {st : String} (hc : m.findColumn schema table name = some c)
    (hs : c.storeType = some st) : st ∈ m.storeTypes := by
  obtain ⟨t, ht, hct⟩ := Option.bind_eq_some_iff.1 hc
  have htm : t ∈ m.tables := List.mem_of_find?_eq_some ht
  have hctm : c ∈ t.columns := List.mem_of_find?_eq_some hct
  exact List.mem_flatMap.2 ⟨t, htm, List.mem_filterMap.2 ⟨c, hctm, hs⟩⟩

/-- A column's store type is its own, one of the model's, or resolved from its SQL type. -/
theorem columnType_neutral {schema : Option String} {table : String} {c : Column}
    (hc : ∀ st ∈ c.storeType, Neutral st) (hm : ∀ m ∈ model, ∀ st ∈ m.storeTypes, Neutral st) :
    Neutral (columnType model schema table c) := by
  unfold columnType
  cases hs : c.storeType with
  | some st => exact hc st hs
  | none =>
    simp only
    split
    · rename_i st hst
      obtain ⟨col, hcol, hst⟩ := Option.bind_eq_some_iff.1 hst
      obtain ⟨m, hm', hfind⟩ := Option.bind_eq_some_iff.1 hcol
      exact hm m hm' st (mem_storeTypes hfind hst)
    · simp only [Column.ownStoreType, hs, Option.getD_none]
      exact (resolveStoreType_settled _ _ _).neutral

theorem serialStoreType_calm {s t : String} (h : serialStoreType s = some t) : Calm t := by
  unfold serialStoreType at h
  split at h
  · cases h; decide
  · split at h
    · cases h; decide
    · split at h
      · cases h; decide
      · cases h

/-- A column's definition ends settled: a default, an identity clause or `STORED` last. -/
theorem columnDefinition_settled {schema : Option String} {table : String} {c : Column}
    {d : String} (hc : ∀ f ∈ c.verbatim, Neutral f)
    (hm : ∀ m ∈ model, ∀ st ∈ m.storeTypes, Neutral st)
    (h : g.columnDefinition model schema table c = .ok d) : Settled d := by
  have htype : Neutral (columnType model schema table c) :=
    columnType_neutral model (fun st hst => hc st (by simp [Column.verbatim, Option.mem_def.1 hst])) hm
  have hname : Calm (Ident.delimit c.name ++ " ") := (delimit_settled _).neutral.append_glue (by decide)
  unfold columnDefinition at h
  cases hcomp : c.computedSql with
  | some sql =>
    -- a computed column: its expression in parentheses, then `STORED`
    have hsql : Neutral sql := hc sql (by simp [Column.verbatim, hcomp])
    simp only [hcomp] at h
    split at h
    · cases h
    · cases h
      exact ((hname.then htype (by decide)).then hsql (by decide)).settled
  | none =>
    simp only [hcomp] at h
    obtain ⟨-, -, h⟩ := Except.bind_eq_ok.1 h
    obtain ⟨defaultText, hdefault, h⟩ := Except.bind_eq_ok.1 h
    cases h
    have hserial : Neutral (if c.strategy == .serial then (serialStoreType (columnType model schema
        table c)).getD (columnType model schema table c) else columnType model schema table c) := by
      split
      · cases hs : serialStoreType (columnType model schema table c) with
        | none => exact htype
        | some t => exact (serialStoreType_calm hs).neutral
      · exact htype
    have hnull : Calm (if c.nullable then "NULL" else "NOT NULL") := by
      split <;> decide
    have hd := default_settled (fun sql hsql => hc sql (by simp [Column.verbatim, Option.mem_def.1 hsql]))
      hdefault
    have hbody := ((hname.then hserial (by decide : Glue " ")).append hnull).append_settled hd.1
    cases hid : c.strategy.identityClause with
    | none => simpa using hbody
    | some clause =>
      -- the identity clause's words are fixed
      have hclause : Glue (" GENERATED " ++ clause ++ " AS IDENTITY") := by
        cases hst : c.strategy <;> rw [hst] at hid <;> cases hid <;> decide
      exact (hbody.neutral.append_glue hclause).settled

/-! ## Tables -/

/-- What a successful `mapM` returns, each element came from one of the inputs. -/
theorem mem_of_mapM_ok {α β ε : Type} {f : α → Except ε β} {xs : List α} {ys : List β}
    (h : xs.mapM f = .ok ys) : ∀ y ∈ ys, ∃ x ∈ xs, f x = .ok y := by
  induction xs generalizing ys with
  | nil =>
    cases h
    simp
  | cons x xs ih =>
    rw [List.mapM_cons] at h
    obtain ⟨y, hy, h⟩ := Except.bind_eq_ok.1 h
    obtain ⟨ys', hys, h⟩ := Except.bind_eq_ok.1 h
    cases h
    intro z hz
    rcases List.mem_cons.1 hz with rfl | hz
    · exact ⟨x, by simp, hy⟩
    · obtain ⟨w, hw, hfw⟩ := ih hys z hz
      exact ⟨w, List.mem_cons_of_mem _ hw, hfw⟩

/-- `COMMENT ON COLUMN table.column IS literal`. -/
theorem columnComment_readable (qualified name : String) (hq : Settled qualified) {lit : String}
    (hl : Calm lit) :
    Readable ("COMMENT ON COLUMN " ++ qualified ++ "." ++ Ident.delimit name ++ " IS " ++ lit) := by
  refine Readable.intro ?_ 'C' (by simp [String.toList_append]) (by decide)
  have hcol : Calm ("COMMENT ON COLUMN " ++ qualified ++ "." ++ Ident.delimit name ++ " IS ") :=
    (Calm.then (by decide) hq.neutral (by decide)).then (delimit_settled name).neutral (by decide)
  exact (hcol.append hl).neutral

/-- `COMMENT ON TABLE table IS literal`. -/
theorem tableComment_readable (qualified : String) (hq : Settled qualified) {lit : String}
    (hl : Calm lit) : Readable ("COMMENT ON TABLE " ++ qualified ++ " IS " ++ lit) :=
  Readable.intro ((Calm.then (by decide) hq.neutral (by decide : Glue " IS ")).append hl).neutral 'C'
    (by simp [String.toList_append]) (by decide)

/-- The interleaving of a table in its parent: calm. -/
theorem interleave_calm (i : InterleaveInParent) :
    Calm ("\nINTERLEAVE IN PARENT " ++ Ident.qualify i.parentTable i.parentSchema ++ " (" ++
      Clause.columnList i.prefixColumns ++ ")") :=
  (Calm.then (by decide) (qualify_settled _ _).neutral (by decide : Glue " (")).wrap
    (columnList_settled _).neutral

/-- The storage parameters of a table, each name and value neutral, set in one clause. -/
theorem storageClause_neutral {o : TableOptions} (ho : ∀ f ∈ o.verbatim, Neutral f) :
    ∀ kv ∈ storageParameters o, Neutral kv.1 ∧ Neutral kv.2 := by
  intro kv hkv
  obtain ⟨p, hp, rfl⟩ := mem_storageParameters hkv
  exact ⟨ho _ (List.mem_flatMap.2 ⟨p, hp, by simp⟩), ho _ (List.mem_flatMap.2 ⟨p, hp, by simp⟩)⟩

theorem createTable_readable {t : Table} {es : List Emission} (hv : ∀ f ∈ t.verbatim, Neutral f)
    (hm : ∀ m ∈ model, ∀ st ∈ m.storeTypes, Neutral st) (h : g.createTable model t = .ok es) :
    ∀ e ∈ es, e.Readable := by
  obtain ⟨cols, hcols, h⟩ := Except.bind_eq_ok.1 h
  cases h
  have hq := qualify_settled t.name t.schema
  -- every line of the definition is settled: columns, then constraints
  have hcol : ∀ c ∈ t.columns, ∀ f ∈ c.verbatim, Neutral f := fun c hc f hf =>
    hv f (by simp only [Table.verbatim, List.mem_append, List.mem_flatMap]; exact .inl (.inl ⟨c, hc, hf⟩))
  have hlines : ∀ l ∈ cols ++ (t.primaryKey.map Clause.primaryKey).toList ++
      t.uniqueConstraints.map Clause.unique ++ t.checkConstraints.map Clause.check ++
      t.foreignKeys.map Clause.foreignKey, Settled l := by
    intro l hl
    simp only [List.mem_append, List.mem_map, Option.mem_toList, Option.map_eq_some_iff] at hl
    rcases hl with (((hl | ⟨k, -, rfl⟩) | ⟨k, -, rfl⟩) | ⟨k, hk, rfl⟩) | ⟨k, -, rfl⟩
    · obtain ⟨c, hc, hcd⟩ := mem_of_mapM_ok hcols l hl
      exact g.columnDefinition_settled model (hcol c (List.mem_filter.1 hc).1) hm hcd
    · exact (primaryKey_calm k).settled
    · exact (unique_calm k).settled
    · refine (check_calm (hv _ ?_)).settled
      simp only [Table.verbatim, List.mem_append, List.mem_map]
      exact .inl (.inr ⟨k, hk, rfl⟩)
    · exact foreignKey_settled k
  have hopen : Calm ("CREATE " ++ (if t.options.isUnlogged then "UNLOGGED " else "") ++ "TABLE " ++
      Ident.qualify t.name t.schema ++ " (\n") := by
    refine Calm.then ?_ hq.neutral (by decide)
    split <;> decide
  have hstorage : Calm (if (storageParameters t.options).isEmpty then ""
      else "\nWITH (" ++ formatAssignments (storageParameters t.options) ++ ")") := by
    split
    · exact calm_empty
    · refine Calm.wrap (by decide) (formatAssignments_neutral (storageClause_neutral fun f hf => hv f ?_))
      simp only [Table.verbatim, List.mem_append]
      exact .inr hf
  refine batch_readable ?_
  intro s hs
  simp only [List.mem_cons, List.mem_append] at hs
  rcases hs with (rfl | hs) | hs
  · refine Readable.intro (((definitionList_calm hopen hlines).append ?_).append hstorage).neutral 'C'
      (by simp [String.toList_append]) (by decide)
    -- the interleaving in a parent, if any
    split
    · exact interleave_calm _
    · exact calm_empty
  · split at hs
    · split at hs
      · simp at hs
      · simp only [List.mem_singleton] at hs
        subst hs
        exact tableComment_readable _ hq (sqlQuote_calm _)
    · simp at hs
  · obtain ⟨c, -, hc⟩ := List.mem_filterMap.1 hs
    obtain ⟨cm, -, rfl⟩ := Option.map_eq_some_iff.1 hc
    exact columnComment_readable _ _ hq (sqlQuote_calm cm)

/-- A batch emitted only when it holds something. -/
theorem batch_ite_readable {c : Prop} [Decidable c] {stmts : List String}
    (h : ∀ s ∈ stmts, Readable s) : ∀ e ∈ (if c then [] else batch stmts), e.Readable := by
  split
  · simp
  · exact batch_readable h

theorem eq_of_mem_ite_nil {c : Prop} [Decidable c] {s x : String} (h : s ∈ (if c then [] else [x])) :
    s = x := by
  split at h
  · simp at h
  · exact List.mem_singleton.1 h

theorem mem_set_between {old new : TableOptions} {kv : String × String}
    (h : kv ∈ (StorageDiff.between old new).set) : kv ∈ storageParameters new :=
  (List.mem_filter.1 h).1

theorem mem_reset_between {old new : TableOptions} {k : String}
    (h : k ∈ (StorageDiff.between old new).reset) : ∃ kv ∈ storageParameters old, kv.1 = k := by
  obtain ⟨kv, hkv, rfl⟩ := List.mem_map.1 h
  exact ⟨kv, (List.mem_filter.1 hkv).1, rfl⟩

/-- Altering a table sets its new parameters and resets the names of the old ones. -/
theorem alterTable_readable {schema : Option String} {name : String} {old new : TableOptions}
    (hold : ∀ p ∈ old.storageParameters, Neutral p.name) (hnew : ∀ f ∈ new.verbatim, Neutral f) :
    ∀ e ∈ alterTable schema name old new, e.Readable := by
  have hq := qualify_settled name schema
  have hfixed : ∀ k : String, Glue k → Calm ("ALTER TABLE " ++ Ident.qualify name schema ++ k) :=
    fun k hk => Calm.then (by decide) hq.neutral hk
  unfold alterTable
  refine batch_ite_readable fun s hs => ?_
  simp only [List.mem_append] at hs
  rcases hs with ((hs | hs) | hs) | hs <;> obtain rfl := eq_of_mem_ite_nil hs
  · -- the parameters to set, each a parameter of the new table
    refine Readable.intro ((hfixed _ (by decide)).wrap (formatAssignments_neutral ?_)).neutral 'A'
      (by simp [String.toList_append]) (by decide)
    intro kv hkv
    exact storageClause_neutral hnew kv (mem_set_between hkv)
  · -- the names to reset, each the name of an old parameter
    refine Readable.intro ((hfixed _ (by decide)).wrap (Neutral.intercalate (by decide) (by decide)
      (by decide) ?_)).neutral 'A' (by simp [String.toList_append]) (by decide)
    intro k hk
    obtain ⟨kv, hkv, rfl⟩ := mem_reset_between hk
    obtain ⟨p, hp, rfl⟩ := mem_storageParameters hkv
    exact hold p hp
  · exact tableComment_readable _ hq (commentLiteral_calm _)
  · refine Readable.intro ((hfixed _ (by decide)).append ?_).neutral 'A' (by simp [String.toList_append])
      (by decide)
    split <;> decide

/-- Renaming an object, then moving it to another schema. -/
theorem rename_readable {kind : String} (hk : Calm ("ALTER " ++ kind ++ " ")) (r : Rename) :
    ∀ e ∈ rename kind r, e.Readable := by
  -- both statements: the kind, a name, fixed words and a name
  have hstmt : ∀ (q : String), Settled q → ∀ (k : String), Glue k → ∀ n : String,
      Readable ("ALTER " ++ kind ++ " " ++ q ++ k ++ Ident.delimit n) := by
    intro q hq k hk' n
    exact Readable.intro ((hk.then hq.neutral hk').append_settled (delimit_settled n)).neutral 'A'
      (by simp [String.toList_append]) (by decide)
  unfold rename
  refine batch_readable fun s hs => ?_
  simp only [List.mem_append] at hs
  rcases hs with hs | hs
  · -- renamed, when the name changes
    cases hn : r.newName with
    | none => simp [hn] at hs
    | some n =>
      simp only [hn] at hs
      split at hs
      · simp at hs
      · rw [List.mem_singleton] at hs
        subst hs
        exact hstmt _ (qualify_settled _ _) _ (by decide) n
  · -- moved, when the schema changes, under the name it has by then
    cases hs' : r.newSchema with
    | none => simp [hs'] at hs
    | some sc =>
      simp only [hs'] at hs
      split at hs
      · simp at hs
      · rw [List.mem_singleton] at hs
        subst hs
        exact hstmt _ (qualify_settled _ _) _ (by decide) sc

theorem addColumn_readable {schema : Option String} {table : String} {c : Column}
    {es : List Emission} (hc : ∀ f ∈ c.verbatim, Neutral f)
    (hm : ∀ m ∈ model, ∀ st ∈ m.storeTypes, Neutral st)
    (h : g.addColumn model schema table c = .ok es) : ∀ e ∈ es, e.Readable := by
  unfold addColumn at h
  split at h
  · cases h
    simp
  obtain ⟨definition, hdef, h⟩ := Except.bind_eq_ok.1 h
  cases h
  have hq := qualify_settled table schema
  refine batch_readable ?_
  intro s hs
  rcases List.mem_cons.1 hs with rfl | hs
  · exact Readable.intro ((Calm.then (by decide) hq.neutral (by decide)).append_settled
      (g.columnDefinition_settled model hc hm hdef)).neutral 'A' (by simp [String.toList_append]) (by decide)
  · split at hs
    · split at hs
      · simp at hs
      · simp only [List.mem_singleton] at hs
        subst hs
        exact columnComment_readable _ _ hq (sqlQuote_calm _)
    · simp at hs

theorem dropColumn_readable (schema : Option String) (table name : String) :
    ∀ e ∈ dropColumn schema table name, e.Readable := by
  unfold dropColumn
  split
  · simp
  · exact command_readable (Readable.intro ((Calm.then (by decide) (qualify_settled _ _).neutral
      (by decide)).append_settled (delimit_settled name)).neutral 'A' (by simp [String.toList_append])
      (by decide))

theorem createSequence_readable (q : Sequence) : ∀ e ∈ g.createSequence q, e.Readable := by
  have hname : Settled ("CREATE SEQUENCE " ++ Ident.qualify q.name q.schema ++
      (if q.sqlType != .bigInt && atLeast g.version 10 0 then " AS " ++ q.sqlType.storeType else "")) := by
    have hq : Settled ("CREATE SEQUENCE " ++ Ident.qualify q.name q.schema) :=
      Calm.append_settled (by decide) (qualify_settled q.name q.schema)
    split
    · obtain ⟨hs, -, -⟩ := storeType_settled q.sqlType
      exact hq.append_quiet (Calm.append_settled (by decide : Calm " AS ") hs)
        (by simp [QuietStart, String.toList_append])
    · simpa using hq
  unfold createSequence
  refine command_readable (Readable.intro ?_ 'C' (by simp [String.toList_append]) (by decide))
  exact ((hname.neutral.append_glue (by decide)).append_settled (inert_intToString _).settled).append_inert
    (sequenceOptions_inert q) |>.neutral

/-- A generation change writes readable statements, each after the column's `ALTER COLUMN`
    words or about the column's sequence; a sequence it creates has a settled name. -/
theorem strategyTransition_readable {schema : Option String} {table : String} {c : Column}
    {columnType alterBase : String} {source : Generation} {es : List Emission}
    {owned : Option String} (hb : Calm alterBase) (ha : 'A' ∈ alterBase.toList)
    (h : g.strategyTransition schema table c columnType alterBase source = .ok (es, owned)) :
    (∀ e ∈ es, e.Readable) ∧ ∀ s ∈ owned, Settled s := by
  have hbase : ∀ k : String, Settled k → Readable (alterBase ++ k) := fun k hk =>
    Readable.intro (hb.append_settled hk).neutral 'A' (by simp [String.toList_append, ha]) (by decide)
  have hclause : Calm (c.strategy.identityClause.getD "") := by
    cases c.strategy <;> decide
  -- the statements of every transition, for any names of the sequences
  have hq : ∀ n : String, Settled (Ident.qualify n schema) := fun n => qualify_settled n schema
  have hcascade : ∀ n : String, Readable ("DROP SEQUENCE " ++ Ident.qualify n schema ++ " CASCADE") :=
    fun n => Readable.intro ((Calm.append_settled (by decide) (hq n)).append_inert (by decide)).neutral 'D'
      (by simp [String.toList_append]) (by decide)
  have hdropSequence : ∀ n : String, Readable ("DROP SEQUENCE " ++ Ident.qualify n schema) :=
    fun n => Readable.intro (Calm.append_settled (by decide) (hq n)).neutral 'D'
      (by simp [String.toList_append]) (by decide)
  have hrenameSequence : ∀ n m : String,
      Readable ("ALTER SEQUENCE " ++ Ident.qualify n schema ++ " RENAME TO " ++ Ident.delimit m) :=
    fun n m => Readable.intro ((Calm.then (by decide) (hq n).neutral (by decide)).append_settled
      (delimit_settled m)).neutral 'A' (by simp [String.toList_append]) (by decide)
  have hsetval : ∀ x y : String, Readable ("SELECT * FROM setval(" ++ sqlQuote x ++ ", nextval(" ++
      sqlQuote y ++ "), false)") :=
    fun x y => Readable.intro ((Calm.then (by decide) (sqlQuote_calm x).neutral (by decide)).then
      (sqlQuote_calm y).neutral (by decide)).neutral 'S' (by simp [String.toList_append]) (by decide)
  have hnextval : ∀ x : String, Readable (alterBase ++ "SET DEFAULT (nextval(" ++ sqlQuote x ++ "))") :=
    fun x => Readable.intro ((hb.append (by decide)).then (sqlQuote_calm x).neutral (by decide)).neutral
      'A' (by simp [String.toList_append, ha]) (by decide)
  have hdropDefault : Readable (alterBase ++ "DROP DEFAULT") := hbase _ (by decide)
  have hdropIdentity : Readable (alterBase ++ "DROP IDENTITY") := hbase _ (by decide)
  have hsetGenerated : Readable (alterBase ++ "SET GENERATED " ++ c.strategy.identityClause.getD "") := by
    rw [String.append_assoc]
    exact hbase _ (Calm.append (by decide) hclause).settled
  have haddGenerated : Readable (alterBase ++ "ADD GENERATED " ++ c.strategy.identityClause.getD "" ++
      " AS IDENTITY") := by
    rw [String.append_assoc, String.append_assoc]
    exact hbase _ (Calm.append (by decide) (hclause.append (by decide))).settled
  simp only [strategyTransition, bind, Except.bind] at h
  split at h
  · cases h
  split at h
  case h_14 =>
    -- to serial: the sequence's own command, then the default that draws from it
    split at h
    · cases h
    simp only [pure, Except.pure, Except.ok.injEq, Prod.mk.injEq] at h
    obtain ⟨rfl, rfl⟩ := h
    refine ⟨fun e he => ?_, fun s hs => ?_⟩
    · rcases List.mem_append.1 he with he | he
      · exact g.createSequence_readable _ e he
      · rw [List.mem_singleton] at he
        subst he
        exact hnextval _
    · cases hs
      exact hq _
  all_goals simp only [pure, Except.pure, throw, throwThe, MonadExceptOf.throw, Except.ok.injEq,
      Prod.mk.injEq, reduceCtorEq] at h
  all_goals obtain ⟨rfl, rfl⟩ := h
  all_goals simp [Emission.Readable, hcascade, hdropSequence, hrenameSequence, hsetval, hdropDefault,
    hdropIdentity, hsetGenerated, haddGenerated]

theorem strategyChange_readable {schema : Option String} {table : String} {old new : Column}
    {columnType alterBase : String} {es : List Emission} {owned : Option String}
    (hb : Calm alterBase) (ha : 'A' ∈ alterBase.toList)
    (h : g.strategyChange schema table old new columnType alterBase = .ok (es, owned)) :
    (∀ e ∈ es, e.Readable) ∧ ∀ s ∈ owned, Settled s := by
  unfold strategyChange at h
  split at h
  · exact g.strategyTransition_readable hb ha h
  · cases h
    simp

/-- The default of a column that is not generated: dropped, or set to its new value. -/
theorem defaultChange_readable {new : Column} {alterBase : String} {stmts : List String}
    (hb : Calm alterBase) (ha : 'A' ∈ alterBase.toList) (hsql : ∀ sql ∈ new.defaultSql, Neutral sql)
    (h : defaultChange new alterBase = .ok stmts) : ∀ s ∈ stmts, Readable s := by
  unfold defaultChange at h
  split at h
  · obtain ⟨d, hd, rfl⟩ := Except.map_eq_ok.1 h
    intro s hs
    rw [List.mem_singleton] at hs
    subst hs
    refine Readable.intro (hb.append_settled ?_).neutral 'A' (by simp [String.toList_append, ha])
      (by decide)
    split
    · decide
    · exact Calm.append_settled (by decide) (default_settled hsql hd).1
  · cases h
    simp

theorem alterColumn_readable {schema : Option String} {table : String} {old new : Column}
    {es : List Emission} (hc : ∀ f ∈ new.verbatim, Neutral f)
    (hm : ∀ m ∈ model, ∀ st ∈ m.storeTypes, Neutral st)
    (h : g.alterColumn model schema table old new = .ok es) : ∀ e ∈ es, e.Readable := by
  unfold alterColumn at h
  split at h
  · cases h
    simp
  split at h
  · -- a computed column is dropped and added again
    obtain ⟨added, hadd, rfl⟩ := Except.map_eq_ok.1 h
    intro e he
    rcases List.mem_append.1 he with he | he
    · exact dropColumn_readable _ _ _ e he
    · exact g.addColumn_readable model hc hm hadd e he
  split at h
  · cases h
  obtain ⟨⟨transition, owned⟩, htr, h⟩ := Except.bind_eq_ok.1 h
  dsimp only at h
  obtain ⟨default, hdef, h⟩ := Except.bind_eq_ok.1 h
  cases h
  -- every statement but the sequence's starts with the column's `ALTER COLUMN` words
  have hq := qualify_settled table schema
  have hb : Calm ("ALTER TABLE " ++ Ident.qualify table schema ++ " ALTER COLUMN " ++
      Ident.delimit new.name ++ " ") :=
    (Calm.then (by decide) hq.neutral (by decide)).then (delimit_settled _).neutral (by decide)
  have ha : 'A' ∈ ("ALTER TABLE " ++ Ident.qualify table schema ++ " ALTER COLUMN " ++
      Ident.delimit new.name ++ " ").toList := by
    simp [String.toList_append]
  obtain ⟨htransition, howned⟩ := g.strategyChange_readable hb ha htr
  have hdefault := defaultChange_readable hb ha
    (fun sql hsql => hc sql (by simp [Column.verbatim, Option.mem_def.1 hsql])) hdef
  have htype : Neutral (columnType model schema table new) :=
    columnType_neutral model (fun st hst => hc st (by simp [Column.verbatim, Option.mem_def.1 hst])) hm
  intro e he
  simp only [List.mem_append, List.mem_cons, List.not_mem_nil, or_false] at he
  rcases he with ((rfl | rfl) | he) | he
  · exact Readable.intro ((hb.append (by decide)).append_neutral htype) 'A'
      (by simp [String.toList_append]) (by decide)
  · refine Readable.intro (hb.append ?_).neutral 'A' (by simp [String.toList_append]) (by decide)
    split <;> decide
  · exact htransition e he
  · refine batch_readable (fun s hs => ?_) e he
    simp only [List.mem_append] at hs
    rcases hs with (hs | hs) | hs
    · exact hdefault s hs
    · -- the sequence created for the column now belongs to it
      cases hown : owned with
      | none => simp [hown] at hs
      | some sequence =>
        simp only [hown, List.mem_singleton] at hs
        subst hs
        have hsequence := howned sequence hown
        refine Readable.intro ?_ 'A' (by simp [String.toList_append]) (by decide)
        exact ((Calm.then (by decide) hsequence.neutral (by decide)).then hq.neutral
          (by decide)).append_settled (delimit_settled _) |>.neutral
    · obtain rfl := eq_of_mem_ite_nil hs
      exact columnComment_readable _ _ hq (commentLiteral_calm _)

/-! ## Indexes -/

/-- A collation of an index column is one of the index's collations. -/
theorem collation_mem {ix : Index} {c : IndexColumn} {coll : String} (hc : c ∈ ix.indexColumns)
    (h : c.collation = some coll) : coll ∈ ix.options.collations := by
  unfold Index.indexColumns at hc
  obtain ⟨⟨i, name⟩, -, rfl⟩ := List.mem_map.1 hc
  dsimp only at h
  unfold Index.entryAt at h
  exact List.mem_of_getElem? (Option.eq_some_of_filter_eq_some h)

/-- The ordering words of an index column hold no quote and start with a space, if any. -/
theorem ordering_settled (supports : Bool) (c : IndexColumn) :
    Settled (if supports then (if c.sortOrder == .descending then " DESC" else "") ++
      (match c.nullSortOrder.sql with
        | some nulls => " " ++ nulls
        | none => "") else "") ∧
    QuietStart (if supports then (if c.sortOrder == .descending then " DESC" else "") ++
      (match c.nullSortOrder.sql with
        | some nulls => " " ++ nulls
        | none => "") else "") := by
  cases supports <;> cases c.sortOrder <;> cases c.nullSortOrder <;> decide

theorem indexItem_neutral {ix : Index} (hcoll : ∀ f ∈ ix.options.collations, Neutral f)
    {c : IndexColumn} (hc : c ∈ ix.indexColumns) (supports : Bool) :
    Neutral (indexItem supports c) := by
  have hop : Settled (Ident.delimit c.name ++ (match c.operator with
      | some op => " " ++ Clause.delimitOperator op
      | none => "")) := by
    cases c.operator with
    | none => simpa using delimit_settled c.name
    | some op =>
      obtain ⟨hs, hq⟩ := delimitOperator_settled op
      exact (delimit_settled c.name).append_quiet (Calm.append_settled (by decide) hs)
        (by simp [QuietStart, String.toList_append])
  have hcollation : Neutral (Ident.delimit c.name ++ (match c.operator with
      | some op => " " ++ Clause.delimitOperator op
      | none => "") ++ (match c.collation with
      | some coll => " COLLATE " ++ coll
      | none => "")) := by
    cases hcl : c.collation with
    | none => simpa using hop.neutral
    | some coll =>
      have hn := hcoll coll (collation_mem hc hcl)
      exact hop.neutral.append_quiet ((by decide : Calm " COLLATE ").append_neutral hn)
        (by simp [QuietStart, String.toList_append])
  obtain ⟨hs, hq⟩ := ordering_settled supports c
  unfold indexItem
  exact hcollation.append_quiet hs.neutral hq

theorem createIndex_readable {ix : Index} (hv : ∀ f ∈ ix.verbatim, Neutral f) :
    ∀ e ∈ createIndex ix, e.Readable := by
  have hcoll : ∀ f ∈ ix.options.collations, Neutral f := fun f hf =>
    hv f (by simp [Index.verbatim, hf])
  have hname : Calm ("CREATE " ++ (if ix.unique then "UNIQUE " else "") ++ "INDEX " ++
      Ident.delimit ix.name ++ " ON ") := by
    refine Calm.then ?_ (delimit_settled _).neutral (by decide)
    split <;> decide
  -- the method, when named, in words of its own
  have hmethod : Neutral (("CREATE " ++ (if ix.unique then "UNIQUE " else "") ++ "INDEX " ++
      Ident.delimit ix.name ++ " ON ") ++ Ident.qualify ix.table ix.schema ++ (match ix.options.method with
      | some m => if m.isEmpty then "" else " USING " ++ m
      | none => "")) := by
    have hon := hname.append_settled (qualify_settled ix.table ix.schema)
    cases hm : ix.options.method with
    | none =>
      show Neutral (_ ++ "")
      rw [String.append_empty]
      exact hon.neutral
    | some m =>
      show Neutral (_ ++ (if m.isEmpty then "" else " USING " ++ m))
      by_cases hme : m.isEmpty = true
      · rw [if_pos hme, String.append_empty]
        exact hon.neutral
      · rw [if_neg hme]
        exact hon.neutral.append_quiet ((by decide : Calm " USING ").append_neutral
          (hv m (by simp [Index.verbatim, hm]))) (by simp [QuietStart, String.toList_append])
  have hcolumns : Neutral (", ".intercalate (ix.indexColumns.map (indexItem ix.options.supportsOrdering))) := by
    refine Neutral.intercalate (by decide) (by decide) (by decide) fun x hx => ?_
    obtain ⟨c, hc, rfl⟩ := List.mem_map.1 hx
    exact indexItem_neutral hcoll hc _
  have hincluded : Calm (if ix.options.included.isEmpty then ""
      else " INCLUDE (" ++ Clause.columnList ix.options.included ++ ")") := by
    split
    · exact calm_empty
    · exact Calm.wrap (by decide) (columnList_settled _).neutral
  have hfilter : ∀ a : String, Calm a → Neutral (a ++ (match ix.filter with
      | some f => " WHERE " ++ f
      | none => "")) := by
    intro a ha
    cases hf : ix.filter with
    | none => simpa using ha.neutral
    | some f => exact ha.append_neutral ((by decide : Calm " WHERE ").append_neutral
        (hv f (by simp [Index.verbatim, hf])))
  unfold createIndex
  refine command_readable (Readable.intro ?_ 'C' (by simp [String.toList_append]) (by decide))
  exact hfilter _ (((hmethod.append_glue (by decide)).wrap hcolumns).append hincluded)

/-! ## Schemas, types, extensions and databases -/

theorem ensureSchema_readable (name : String) : ∀ e ∈ ensureSchema name, e.Readable := by
  unfold ensureSchema
  split
  · simp
  · exact command_readable (Readable.intro (Calm.append_settled (by decide) (delimit_settled name)).neutral
      'C' (by simp [String.toList_append]) (by decide))

theorem createEnum_readable (e : EnumType) : ∀ x ∈ g.createEnum model e, x.Readable := by
  have hlabels : Neutral (", ".intercalate (e.labels.map sqlQuote)) := by
    refine Neutral.intercalate (by decide) (by decide) (by decide) fun x hx => ?_
    obtain ⟨l, -, rfl⟩ := List.mem_map.1 hx
    exact (sqlQuote_calm l).neutral
  unfold createEnum
  intro x hx
  rcases List.mem_append.1 hx with hx | hx
  · -- the type's schema, ensured in a command of its own
    split at hx
    · exact ensureSchema_readable _ x hx
    · simp at hx
  · rw [List.mem_singleton] at hx
    subst hx
    exact Readable.intro ((Calm.then (by decide) (qualify_settled _ _).neutral (by decide)).wrap
      hlabels).neutral 'C' (by simp [String.toList_append]) (by decide)

/-- Every line of a range's definition is fixed words and a piece of its verbatim SQL. -/
theorem mem_rangeDefinition {r : RangeType} {l : String}
    (h : l ∈ ["SUBTYPE = " ++ r.subtype] ++ (r.canonicalFunction.map ("CANONICAL" ++ " = " ++ ·)).toList ++
      (r.subtypeOpclass.map ("SUBTYPE_OPCLASS" ++ " = " ++ ·)).toList ++
      (r.collation.map ("COLLATION" ++ " = " ++ ·)).toList ++
      (r.subtypeDiff.map ("SUBTYPE_DIFF" ++ " = " ++ ·)).toList) :
    ∃ k f, l = k ++ f ∧ Calm k ∧ f ∈ r.verbatim := by
  simp only [List.mem_append, List.mem_singleton, Option.mem_toList, Option.map_eq_some_iff] at h
  rcases h with (((rfl | ⟨f, hf, rfl⟩) | ⟨f, hf, rfl⟩) | ⟨f, hf, rfl⟩) | ⟨f, hf, rfl⟩
  · exact ⟨_, _, rfl, by decide, by simp [RangeType.verbatim]⟩
  · exact ⟨_, _, rfl, by decide, by simp [RangeType.verbatim, hf]⟩
  · exact ⟨_, _, rfl, by decide, by simp [RangeType.verbatim, hf]⟩
  · exact ⟨_, _, rfl, by decide, by simp [RangeType.verbatim, hf]⟩
  · exact ⟨_, _, rfl, by decide, by simp [RangeType.verbatim, hf]⟩

/-- A range's definition lines end in its subtype and hooks: none may end in `;`. -/
theorem createRange_readable {r : RangeType}
    (hv : ∀ f ∈ r.verbatim, Neutral f ∧ f.endsWith ";" = false) :
    ∀ x ∈ g.createRange model r, x.Readable := by
  unfold createRange
  intro x hx
  rcases List.mem_append.1 hx with hx | hx
  · -- the type's schema, ensured in a command of its own
    split at hx
    · exact ensureSchema_readable _ x hx
    · simp at hx
  · rw [List.mem_singleton] at hx
    subst hx
    refine Readable.intro (definitionList_calm (Calm.then (by decide) (qualify_settled _ _).neutral
      (by decide)) fun l hl => ?_).neutral 'C' (by simp [String.toList_append]) (by decide)
    obtain ⟨k, f, rfl, hk, hf⟩ := mem_rangeDefinition hl
    exact hk.append_settled (Settled.of_neutral (hv f hf).1 (hv f hf).2)

theorem dropType_readable (schema : Option String) (name : String) :
    (g.dropType model schema name).Readable :=
  Readable.intro (Calm.append_settled (by decide) (qualify_settled _ _)).neutral 'D'
    (by simp [String.toList_append]) (by decide)

theorem createExtension_readable (e : Extension) : (createExtension e).Readable := by
  have hname : Settled ("CREATE EXTENSION IF NOT EXISTS " ++ Ident.delimit e.name) :=
    Calm.append_settled (by decide) (delimit_settled _)
  refine Readable.intro ?_ 'C' (by simp [String.toList_append]) (by decide)
  -- the schema and the version, each optional
  cases e.schema <;> cases e.version <;> simp only [String.append_empty]
  · exact hname.neutral
  · exact (hname.append_phrase (by decide) _).neutral
  · exact (hname.append_phrase (by decide) _).neutral
  · exact ((hname.append_phrase (by decide) _).append_phrase (by decide) _).neutral

theorem createDatabase_readable (name : String) (template tablespace : Option String) :
    ∀ e ∈ createDatabase name template tablespace, e.Readable := by
  have hname : Settled ("CREATE DATABASE " ++ Ident.delimit name) :=
    Calm.append_settled (by decide) (delimit_settled _)
  unfold createDatabase
  simp only [List.mem_cons, List.not_mem_nil, or_false, forall_eq_or_imp, forall_eq]
  refine ⟨Readable.intro ?_ 'C' (by simp [String.toList_append]) (by decide), trivial⟩
  -- the template and the tablespace, each optional
  cases template <;> cases tablespace <;> simp only [String.append_empty]
  · exact hname.neutral
  · exact (hname.append_phrase (by decide) _).neutral
  · exact (hname.append_phrase (by decide) _).neutral
  · exact ((hname.append_phrase (by decide) _).append_phrase (by decide) _).neutral

theorem dropDatabase_readable (name : String) : ∀ e ∈ dropDatabase name, e.Readable := by
  have hd := delimit_settled name
  unfold dropDatabase
  simp only [List.mem_cons, List.not_mem_nil, or_false, forall_eq_or_imp, forall_eq]
  refine ⟨?_, ?_, trivial, ?_, trivial⟩
  · exact Readable.intro (Calm.then (by decide) hd.neutral (by decide)).neutral 'R'
      (by simp [String.toList_append]) (by decide)
  · exact Readable.intro (Calm.append (by decide) (sqlQuote_calm name)).neutral 'S'
      (by simp [String.toList_append]) (by decide)
  · exact Readable.intro (Calm.append_settled (by decide) hd).neutral 'D'
      (by simp [String.toList_append]) (by decide)

/-- Altering the database's objects creates new enums and ranges, drops the ones gone and
    creates the extensions; the ranges created are among the new ones. -/
theorem alterDatabase_readable {old new : DatabaseObjects} {es : List Emission}
    (hv : ∀ r ∈ new.ranges, ∀ f ∈ r.verbatim, Neutral f ∧ f.endsWith ";" = false)
    (h : g.alterDatabase model old new = .ok es) : ∀ e ∈ es, e.Readable := by
  unfold alterDatabase at h
  dsimp only at h
  split at h
  · cases h
  · cases h
  cases h
  intro e he
  simp only [List.mem_append, List.mem_flatMap, List.mem_map, List.mem_filter,
    List.mem_singleton] at he
  rcases he with (((((⟨n, -, he⟩ | ⟨o, -, rfl⟩) | ⟨r, ⟨hr, -⟩, he⟩) | ⟨o, -, rfl⟩) | ⟨x, -, rfl⟩) | rfl)
  · exact g.createEnum_readable model n e he
  · exact g.dropType_readable model _ _
  · exact g.createRange_readable model (hv r hr) e he
  · exact g.dropType_readable model _ _
  · exact createExtension_readable x
  · trivial

/-! ## Every operation -/

theorem addConstraint_readable (schema : Option String) (table : String) {clause : String}
    (h : Neutral clause) : ∀ e ∈ addConstraint schema table clause, e.Readable :=
  command_readable (Readable.intro ((Calm.then (by decide) (qualify_settled _ _).neutral
    (by decide)).append_neutral h) 'A' (by simp [String.toList_append]) (by decide))

/-- Fixed words, then a name: a statement naming the object it drops. -/
theorem dropping_readable {k x : String} (hk : Calm k) (hx : Settled x) (c : Char) (hc : c ∈ k.toList)
    (hw : Unicode.isWhiteSpace c = false) : Readable (k ++ x) :=
  Readable.intro (hk.append_settled hx).neutral c (by simp [String.toList_append, hc]) hw

/-- Fixed words, a name, fixed words and a name. -/
theorem renaming_readable {k k' x y : String} (hk : Calm k) (hx : Settled x) (hk' : Glue k')
    (hy : Settled y) (c : Char) (hc : c ∈ k.toList) (hw : Unicode.isWhiteSpace c = false) :
    Readable (k ++ x ++ k' ++ y) :=
  Readable.intro ((hk.then hx.neutral hk').append_settled hy).neutral c
    (by simp [String.toList_append, hc]) hw

/-- An operation other than raw SQL emits only readable statements and cuts, when the SQL it
    copies verbatim is neutral, no line of a range's definition ends in `;`, and the model's
    store types are neutral. -/
theorem emissions_readable {op : SchemaOperation} {es : List Emission} (hsql : op.isSql = false)
    (hverbatim : ∀ f ∈ op.verbatim, Neutral f) (hlines : ∀ f ∈ op.lineEnds, f.endsWith ";" = false)
    (hm : ∀ m ∈ model, ∀ st ∈ m.storeTypes, Neutral st) (h : g.emissions model op = .ok es) :
    ∀ e ∈ es, e.Readable := by
  have hq := qualify_settled
  have hd := delimit_settled
  cases op with
  | createTable t => exact g.createTable_readable model hverbatim hm h
  | addColumn schema table c => exact g.addColumn_readable model hverbatim hm h
  | alterColumn schema table old new => exact g.alterColumn_readable model hverbatim hm h
  | alterDatabase old new =>
    refine g.alterDatabase_readable model (fun r hr f hf => ⟨hverbatim f ?_, hlines f ?_⟩) h <;>
      exact List.mem_flatMap.2 ⟨r, hr, hf⟩
  | sql text suppress => cases hsql
  | alterTable schema name old new =>
    cases h
    refine alterTable_readable (fun p hp => hverbatim _ ?_) (fun f hf => hverbatim f ?_)
    · exact List.mem_append_left _ (List.mem_map_of_mem hp)
    · exact List.mem_append_right _ hf
  | createIndex ix => cases h; exact createIndex_readable hverbatim
  | renameTable r => cases h; exact rename_readable (by decide) r
  | renameSequence r => cases h; exact rename_readable (by decide) r
  | dropColumn schema table name => cases h; exact dropColumn_readable _ _ _
  | createSequence q => cases h; exact g.createSequence_readable q
  | ensureSchema name => cases h; exact ensureSchema_readable name
  | createDatabase name template tablespace => cases h; exact createDatabase_readable _ _ _
  | dropDatabase name => cases h; exact dropDatabase_readable name
  | addPrimaryKey schema table k => cases h; exact addConstraint_readable _ _ (primaryKey_calm k).neutral
  | addUniqueConstraint schema table k => cases h; exact addConstraint_readable _ _ (unique_calm k).neutral
  | addForeignKey schema table k => cases h; exact addConstraint_readable _ _ (foreignKey_settled k).neutral
  | addCheckConstraint schema table k =>
    cases h
    exact addConstraint_readable _ _ (check_calm (hverbatim k.sql (List.mem_singleton_self _))).neutral
  | dropTable schema name => cases h; exact command_readable (dropping_readable (by decide) (hq _ _) 'D'
      (by decide) (by decide))
  | dropIndex schema name => cases h; exact command_readable (dropping_readable (by decide) (hq _ _) 'D'
      (by decide) (by decide))
  | dropSequence schema name => cases h; exact command_readable (dropping_readable (by decide) (hq _ _)
      'D' (by decide) (by decide))
  | dropSchema name => cases h; exact command_readable (dropping_readable (by decide) (hd _) 'D'
      (by decide) (by decide))
  | alterSequence q =>
    cases h
    exact command_readable (Readable.intro ((Calm.append_settled (by decide) (hq _ _)).append_inert
      (sequenceOptions_inert q)).neutral 'A' (by simp [String.toList_append]) (by decide))
  | restartSequence schema name start =>
    cases h
    exact command_readable (Readable.intro ((Calm.then (by decide) (hq _ _).neutral (by decide)).append_settled
      (inert_intToString start).settled).neutral 'A' (by simp [String.toList_append]) (by decide))
  | renameColumn schema table name newName =>
    cases h
    refine command_readable (Readable.intro ?_ 'A' (by simp [String.toList_append]) (by decide))
    exact ((renaming_readable (by decide) (hq _ _) (by decide) (hd name) 'A' (by decide)
      (by decide)).1.append_glue (by decide : Glue " TO ")).append_settled (hd newName) |>.neutral
  | renameIndex schema name newName =>
    cases h
    refine batch_readable fun s hs => ?_
    obtain rfl := eq_of_mem_ite_nil hs
    exact renaming_readable (by decide) (hq _ _) (by decide) (hd newName) 'A' (by decide) (by decide)
  | dropPrimaryKey schema table name | dropUniqueConstraint schema table name
  | dropForeignKey schema table name | dropCheckConstraint schema table name =>
    cases h
    exact command_readable (renaming_readable (by decide) (hq _ _) (by decide) (hd name) 'A' (by decide)
      (by decide))

end Generator

/-! ## Statements of the commands generated -/

/-- Without raw SQL, when the SQL the operations give verbatim and the model's store types are
    neutral and no subtype or hook of a new range ends in `;`, the commands generated are the
    batches of statements the operations emit: each command's SQL is its statements, each
    ended by `;` and a newline, and its statements read back are these, trimmed, in order. -/
theorem statements_of_generate (g : Generator) (model : Option DatabaseModel)
    (ops : List SchemaOperation) (hsql : ∀ op ∈ ops, op.isSql = false)
    (hverbatim : ∀ op ∈ ops, ∀ f ∈ op.verbatim, Neutral f)
    (hlines : ∀ op ∈ ops, ∀ f ∈ op.lineEnds, f.endsWith ";" = false)
    (hmodel : ∀ m ∈ model, ∀ st ∈ m.storeTypes, Neutral st) {cs : List MigrationCommand}
    (h : g.generate ops model = .ok cs) :
    ∃ ess, ops.mapM (g.emissions model) = .ok ess ∧
      cs.map (·.sql) = (Emission.batches ess.flatten).map terminated ∧
      cs.map MigrationCommand.statements = (Emission.batches ess.flatten).map (·.map trimWhite) := by
  rw [generate_eq_emitAll] at h
  obtain ⟨ess, hess, rfl⟩ := Except.map_eq_ok.1 h
  -- every emission of every operation is readable
  have hread : ∀ e ∈ ess.flatten, e.Readable := by
    intro e he
    obtain ⟨es, hes, he⟩ := List.mem_flatten.1 he
    obtain ⟨op, hop, hopes⟩ := Generator.mem_of_mapM_ok hess es hes
    exact g.emissions_readable model (hsql op hop) (hverbatim op hop) (hlines op hop) hmodel hopes e he
  have hsql' := @emitAll_build_sql ess.flatten (fun e he t het => by
    have := hread e he
    rw [het] at this
    exact this) {} [] rfl
  simp only [List.nil_append, List.map_nil] at hsql'
  exact ⟨ess, hess, hsql', statements_of_readable hread⟩

/-- A table whose default, check constraint and comment quote `;` and newlines: its two
    statements read back whole. -/
theorem notes_table_reads_back :
    (∀ f ∈ (SchemaOperation.createTable
      { name := "notes"
        columns := [{ name := "body", sqlType := .text, defaultSql := some "'it''s;\n'" }]
        checkConstraints := [{ name := some "c", sql := "body <> E';\\';\n'" }]
        options := { comment := some "it's" } }).verbatim, Neutral f) ∧
    ∃ ess, [SchemaOperation.createTable
      { name := "notes"
        columns := [{ name := "body", sqlType := .text, defaultSql := some "'it''s;\n'" }]
        checkConstraints := [{ name := some "c", sql := "body <> E';\\';\n'" }]
        options := { comment := some "it's" } }].mapM (({} : Generator).emissions none) = .ok ess ∧
      [({ sql := "CREATE TABLE notes (\n    body text NOT NULL DEFAULT ('it''s;\n'),\n    " ++
          "CONSTRAINT c CHECK (body <> E';\\';\n')\n);\nCOMMENT ON TABLE notes IS 'it''s';\n" } :
          MigrationCommand)].map (·.sql) = (Emission.batches ess.flatten).map terminated ∧
      [({ sql := "CREATE TABLE notes (\n    body text NOT NULL DEFAULT ('it''s;\n'),\n    " ++
          "CONSTRAINT c CHECK (body <> E';\\';\n')\n);\nCOMMENT ON TABLE notes IS 'it''s';\n" } :
          MigrationCommand)].map MigrationCommand.statements =
        (Emission.batches ess.flatten).map (·.map trimWhite) :=
  ⟨by decide, statements_of_generate {} none _ (by decide) (by decide) (by decide) (by simp)
    (by decide +kernel)⟩

/-- A range whose subtype ends in `;`: the subtype is neutral, yet the `;` ends its line and,
    with the newline after it, the one statement appended reads back as two. -/
theorem range_subtype_semicolon_splits :
    Neutral "int4;" ∧
    ({} : Generator).emissions none (.alterDatabase {} { ranges := [{ name := "r", subtype := "int4;" }] }) =
      .ok [.statement "CREATE TYPE r AS RANGE (\n    SUBTYPE = int4;\n)", .cut false] ∧
    ({} : Generator).generate [.alterDatabase {} { ranges := [{ name := "r", subtype := "int4;" }] }]
      none = .ok [{ sql := "CREATE TYPE r AS RANGE (\n    SUBTYPE = int4;\n);\n" }] ∧
    MigrationCommand.statements { sql := "CREATE TYPE r AS RANGE (\n    SUBTYPE = int4;\n);\n" } =
      ["CREATE TYPE r AS RANGE (\n    SUBTYPE = int4", ")"] := by
  refine ⟨by decide, by decide +kernel, by decide +kernel, ?_⟩
  rw [@statements_of_neutral _ ["CREATE TYPE r AS RANGE (\n    SUBTYPE = int4", ")"] (by decide) (by decide)]
  decide

/-- A storage string holding a quote: the value is written between quotes as it is, so it
    leaves a quote open; the terminator falls inside it, and the one statement appended reads
    back with its `;`. -/
theorem storage_string_quote_keeps_terminator :
    ¬ Neutral (StorageValue.str "it's").render ∧
    ({} : Generator).emissions none
        (.alterTable none "t" {} { storageParameters := [⟨"p", .str "it's"⟩] }) =
      .ok [.statement "ALTER TABLE t SET (p='it's')", .cut false] ∧
    ({} : Generator).generate
        [.alterTable none "t" {} { storageParameters := [⟨"p", .str "it's"⟩] }] none =
      .ok [{ sql := "ALTER TABLE t SET (p='it's');\n" }] ∧
    MigrationCommand.statements { sql := "ALTER TABLE t SET (p='it's');\n" } =
      ["ALTER TABLE t SET (p='it's');"] :=
  ⟨by decide, by decide +kernel, by decide +kernel, by decide +kernel⟩

end PgMigrate
