import Mathlib.Data.List.TakeWhile
import PgMigrate.Proofs.NeutralSql
/-
  Statements read back from the generator's commands.

  The generator appends each statement with `;` and a newline and cuts the text into
  commands; `MigrationCommand.statements` scans a command's SQL back into statements.  Here
  the operations' emissions are grouped into the batches of statements each command receives,
  and a command list built from readable statements (neutral for the scanner, and not blank)
  splits back into exactly those batches.  Which SQL an operation copies as it is, and so must
  be neutral itself, is recorded with the operation; string values of storage parameters are
  written between quotes as they are, so they count among it.

  Main statements:
  * `emitAll_build_sql`: without raw text, the SQL of the commands is the emitted statements,
    grouped between cuts, each ended by `;` and a newline;
  * `generate_eq_emitAll`: generating performs the operations' emissions in order;
  * `statements_of_readable`: readable statements split back into their batches.
-/
namespace PgMigrate

open ScanState

/-! ## Verbatim SQL of the operations -/

/-- SQL a column carries as it is: its store type, its default and computed expressions. -/
def Column.verbatim (c : Column) : List String :=
  c.storeType.toList ++ c.defaultSql.toList ++ c.computedSql.toList

/-- Storage parameters as they are written: names as they are, values as rendered (a string
    value between quotes, as it is). -/
def TableOptions.verbatim (o : TableOptions) : List String :=
  o.storageParameters.flatMap fun p => [p.name, p.value.render]

/-- SQL a table carries as it is: its columns', its check constraints', its storage's. -/
def Table.verbatim (t : Table) : List String :=
  t.columns.flatMap Column.verbatim ++ t.checkConstraints.map (·.sql) ++ t.options.verbatim

/-- SQL an index carries as it is: its filter, its method, its collations. -/
def Index.verbatim (ix : Index) : List String :=
  ix.filter.toList ++ ix.options.method.toList ++ ix.options.collations

/-- SQL a range type carries as it is: its subtype and its hooks. -/
def RangeType.verbatim (r : RangeType) : List String :=
  r.subtype :: (r.canonicalFunction.toList ++ r.subtypeOpclass.toList ++ r.collation.toList ++
    r.subtypeDiff.toList)

/-- The store types a model gives its columns. -/
def DatabaseModel.storeTypes (m : DatabaseModel) : List String :=
  m.tables.flatMap fun t => t.columns.filterMap (·.storeType)

namespace SchemaOperation

/-- The SQL an operation gives that the generator copies as it is. -/
def verbatim : SchemaOperation → List String
  | .createTable t => t.verbatim
  | .alterTable _ _ old new => old.storageParameters.map (·.name) ++ new.verbatim
  | .addColumn _ _ c => c.verbatim
  | .alterColumn _ _ _ new => new.verbatim
  | .createIndex ix => ix.verbatim
  | .addCheckConstraint _ _ k => [k.sql]
  | .alterDatabase _ new => new.ranges.flatMap RangeType.verbatim
  | _ => []

/-- The verbatim SQL that ends a line of a definition: the subtypes and hooks of ranges. -/
def lineEnds : SchemaOperation → List String
  | .alterDatabase _ new => new.ranges.flatMap RangeType.verbatim
  | _ => []

/-- Raw SQL, which the generator copies into a command of its own. -/
def isSql : SchemaOperation → Bool
  | .sql .. => true
  | _ => false

end SchemaOperation

/-! ## Commands of emitted statements -/

/-- Statements as a command holds them: each ended by `;` and a newline. -/
def terminated (stmts : List String) : String := String.join (stmts.map (· ++ ";\n"))

theorem terminated_eq_empty {stmts : List String} : terminated stmts = "" ↔ stmts = [] := by
  constructor
  · intro h
    cases stmts with
    | nil => rfl
    | cons s ss =>
      rw [← String.toList_inj] at h
      simp [terminated, String.toList_append] at h
  · rintro rfl
    rfl

namespace Emission

/-- The statements of each command an emission list makes: those emitted between two cuts, a
    cut with none since the last making no command.  Raw text carries no statement. -/
def batchesFrom : List String → List Emission → List (List String)
  | pending, [] => if pending.isEmpty then [] else [pending]
  | pending, .statement s :: es => batchesFrom (pending ++ [s]) es
  | pending, .text _ :: es => batchesFrom pending es
  | pending, .cut _ :: es => (if pending.isEmpty then [] else [pending]) ++ batchesFrom [] es

/-- The statements of each command an emission list makes. -/
def batches (es : List Emission) : List (List String) := batchesFrom [] es

theorem mem_batchesFrom {pending : List String} {es : List Emission} {b : List String}
    {s : String} (hb : b ∈ batchesFrom pending es) (hs : s ∈ b) :
    s ∈ pending ∨ .statement s ∈ es := by
  induction es generalizing pending with
  | nil =>
    simp only [batchesFrom] at hb
    split at hb
    · simp at hb
    · simp only [List.mem_singleton] at hb
      subst hb
      exact .inl hs
  | cons e es ih =>
    cases e with
    | statement t =>
      rcases ih hb with h | h
      · rcases List.mem_append.1 h with h | h
        · exact .inl h
        · exact .inr (by simp_all)
      · exact .inr (List.mem_cons_of_mem _ h)
    | text t =>
      rcases ih hb with h | h
      · exact .inl h
      · exact .inr (List.mem_cons_of_mem _ h)
    | cut f =>
      simp only [batchesFrom, List.mem_append] at hb
      rcases hb with hb | hb
      · split at hb
        · simp at hb
        · simp only [List.mem_singleton] at hb
          subst hb
          exact .inl hs
      · rcases ih hb with h | h
        · simp at h
        · exact .inr (List.mem_cons_of_mem _ h)

end Emission

/-- The run lemma of cutting: with no raw text, the SQL of the commands built is that of the
    commands before, then each batch of emitted statements, terminated.  The invariant: the
    buffer holds the statements pending since the last cut. -/
theorem emitAll_build_sql {es : List Emission} (hes : ∀ e ∈ es, ∀ t, e ≠ .text t) :
    ∀ (b : CommandList) (pending : List String), b.buffer = terminated pending →
      (b.emitAll es).build.map (·.sql) =
        b.commands.map (·.sql) ++ (Emission.batchesFrom pending es).map terminated := by
  induction es with
  | nil =>
    intro b pending hb
    simp only [CommandList.emitAll, List.foldl_nil, CommandList.build, CommandList.endCommand,
      Emission.batchesFrom, hb]
    by_cases hp : pending = []
    · subst hp
      simp [terminated]
    · have hne : ¬ terminated pending = "" := fun h => hp (terminated_eq_empty.1 h)
      simp [hp, hne]
  | cons e es ih =>
    intro b pending hb
    have hrest : ∀ e ∈ es, ∀ t, e ≠ .text t := fun e he => hes e (List.mem_cons_of_mem _ he)
    cases e with
    | statement s =>
      show ((b.appendStatement s).emitAll es).build.map (·.sql) = _
      rw [ih hrest (b.appendStatement s) (pending ++ [s])
        (by simp [CommandList.appendStatement, CommandList.append, hb, terminated])]
      rfl
    | text t => exact absurd rfl (hes _ (by simp) t)
    | cut f =>
      show ((b.endCommand f).emitAll es).build.map (·.sql) = _
      rw [ih hrest (b.endCommand f) [] (by simp [terminated])]
      simp only [CommandList.endCommand, Emission.batchesFrom, hb]
      by_cases hp : pending = []
      · subst hp
        simp [terminated]
      · have hne : ¬ terminated pending = "" := fun h => hp (terminated_eq_empty.1 h)
        simp [hp, hne]

/-! ## Generation as emission -/

section Generate

variable (g : Generator) (model : Option DatabaseModel)

/-- Performing the operations one by one performs their emissions in order. -/
theorem foldlM_operation_emitAll (ops : List SchemaOperation) (b : CommandList) :
    ops.foldlM (g.operation model) b =
      (fun ess => b.emitAll ess.flatten) <$> ops.mapM (g.emissions model) := by
  induction ops generalizing b with
  | nil => rfl
  | cons op ops ih =>
    rw [List.foldlM_cons, List.mapM_cons]
    unfold Generator.operation
    cases g.emissions model op with
    | error e => rfl
    | ok es =>
      show ops.foldlM (g.operation model) (b.emitAll es) = _
      rw [ih (b.emitAll es)]
      cases ops.mapM (g.emissions model) with
      | error e => rfl
      | ok ess =>
        show Except.ok _ = Except.ok _
        simp only [List.flatten_cons, CommandList.emitAll_append]

theorem generate_eq_emitAll (ops : List SchemaOperation) :
    g.generate ops model =
      (fun ess => (({} : CommandList).emitAll ess.flatten).build) <$> ops.mapM (g.emissions model) := by
  unfold Generator.generate
  rw [foldlM_operation_emitAll]
  cases ops.mapM (g.emissions model) <;> rfl

/-- Statements extend the pending command, each terminated. -/
theorem emitAll_statements (b : CommandList) (stmts : List String) :
    b.emitAll (stmts.map .statement) = { b with buffer := b.buffer ++ terminated stmts } := by
  induction stmts generalizing b with
  | nil => simp [CommandList.emitAll, terminated]
  | cons s ss ih =>
    have hstep : (b.emit (.statement s)).buffer = b.buffer ++ (s ++ ";\n") := rfl
    rw [List.map_cons, CommandList.emitAll, List.foldl_cons, ← CommandList.emitAll, ih, hstep]
    simp [terminated, CommandList.emit, CommandList.appendStatement, CommandList.append,
      String.append_assoc]

/-- An operation that emits one batch generates one command holding its statements, each
    terminated, or no command when the batch is empty. -/
theorem generate_batch {op : SchemaOperation} {stmts : List String}
    (h : g.emissions model op = .ok (Generator.batch stmts)) :
    g.generate [op] model = .ok (if stmts = [] then [] else [{ sql := terminated stmts }]) := by
  rw [generate_eq_emitAll, List.mapM_cons, List.mapM_nil, h]
  show Except.ok (({} : CommandList).emitAll (Generator.batch stmts ++ [])).build = _
  rw [List.append_nil, Generator.batch, CommandList.emitAll_append, emitAll_statements]
  by_cases hs : stmts = []
  · subst hs
    rfl
  · have hne : (terminated stmts).isEmpty = false := by
      rw [Bool.eq_false_iff]
      intro hem
      exact hs (terminated_eq_empty.1 (String.isEmpty_iff.1 hem))
    simp [CommandList.emitAll, CommandList.emit, CommandList.endCommand, CommandList.build, hne,
      hs]

end Generate

/-! ## Statements read back -/

/-- A statement the scanner reads back whole: neutral, and not blank. -/
def Readable (s : String) : Prop := Neutral s ∧ trimWhite s ≠ ""

/-- An emission a command splits back: a readable statement, or a cut; raw text is not. -/
def Emission.Readable : Emission → Prop
  | .statement s => PgMigrate.Readable s
  | .text _ => False
  | .cut _ => True

/-- A text with a character that is not white space does not trim to nothing. -/
theorem trimWhite_ne_empty {s : String} {c : Char} (hc : c ∈ s.toList)
    (hw : Unicode.isWhiteSpace c = false) : trimWhite s ≠ "" := by
  intro h
  have hnil : trimChars s.toList = [] := by
    rw [← @String.toList_ofList (trimChars s.toList)]
    unfold trimWhite at h
    rw [h]
    rfl
  unfold trimChars trimEndChars at hnil
  cases hstart : trimStartChars s.toList with
  | nil =>
    -- everything was dropped as white space
    unfold trimStartChars at hstart
    have := (List.dropWhile_eq_nil_iff.1 hstart) c hc
    simp_all
  | cons d rest =>
    -- the first character kept is not white, and trimming the end keeps it
    have hd := trimStartChars_head hstart
    rw [hstart, List.reverse_eq_nil_iff] at hnil
    unfold trimStartChars at hnil
    have := (List.dropWhile_eq_nil_iff.1 hnil) d (by simp)
    simp_all

/-- A command list's commands, when its emissions are readable, split back into the batches
    of statements emitted. -/
theorem statements_of_readable {es : List Emission} (hes : ∀ e ∈ es, e.Readable) :
    ((({} : CommandList).emitAll es).build).map MigrationCommand.statements =
      (Emission.batches es).map (·.map trimWhite) := by
  have hsql := @emitAll_build_sql es (fun e he t het => by
    have := hes e he
    rw [het] at this
    exact this) {} [] rfl
  simp only [List.nil_append, List.map_nil] at hsql
  -- every statement of every batch was emitted, hence is readable
  have hread : ∀ b ∈ Emission.batches es, ∀ s ∈ b, Neutral s ∧ trimWhite s ≠ "" := by
    intro b hb s hs
    rcases Emission.mem_batchesFrom hb hs with h | h
    · simp at h
    · exact hes _ h
  unfold Emission.batches at hread ⊢
  generalize (({} : CommandList).emitAll es).build = cs at hsql
  generalize Emission.batchesFrom [] es = bs at hsql hread
  induction cs generalizing bs with
  | nil =>
    cases bs with
    | nil => rfl
    | cons _ _ => simp at hsql
  | cons c cs ih =>
    cases bs with
    | nil => simp at hsql
    | cons b bs =>
      simp only [List.map_cons, List.cons.injEq] at hsql ⊢
      exact ⟨statements_of_neutral hsql.1 (hread b (by simp)),
        ih bs hsql.2 fun b' hb' => hread b' (List.mem_cons_of_mem _ hb')⟩

end PgMigrate
