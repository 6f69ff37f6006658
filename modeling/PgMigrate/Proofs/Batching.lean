import PgMigrate.Migration.Generator
/-
  Command batching is compositional and all-or-nothing.

  The program: `Generator.generate` folds `Generator.operation` over the operations from an
  empty `CommandList`, each operation performing the list of emissions (statements, text,
  command cuts) that `Generator.emissions` gives for it, and finally closes the pending command.
  The first operation that fails stops the fold.

  The specification (`generate_compositional`): generating `a ++ b` fails with the first
  failure of `a`, else with the first failure of `b`, else gives the commands of `a` followed
  by those of `b`.  Hence the commands of a list are those of its operations, one after the
  other; every command is a non-empty text ending in a newline; and a command runs outside a
  transaction exactly when its operation is `CREATE DATABASE`, `DROP DATABASE` or raw SQL
  flagged so.

  The crux is a frame property and an invariant.
  * FRAME (`emitAll_prepend`): performing emissions only appends to the commands already cut,
    so commands cut earlier can be put in front afterwards.
  * INVARIANT (`operation_settled`): after every operation that succeeds the pending buffer is
    empty, because every operation's emission list is empty or ends with a cut (`Closes`).
  Together they make the state after `a` "the empty list, with `a`'s commands in front", on
  which `b` runs as it would on the empty list (`foldlM_operation_settled`).

  The text of each command comes from `Clean`: pending text always ends a line, and every
  operation but raw SQL emits only statements (which end in `;` and a newline) and cuts with
  one flag (`Plain`).
-/
namespace PgMigrate

/-! ## Text that ends a line -/

/-- Text ending in a newline; such a text is not empty. -/
def EndsLine (s : String) : Prop := ∃ body, s = body ++ "\n"

theorem EndsLine.ne_empty {s : String} (h : EndsLine s) : s ≠ "" := by
  obtain ⟨body, rfl⟩ := h
  intro he
  have := congrArg String.length he
  simp at this

theorem EndsLine.append_left {t : String} (h : EndsLine t) (s : String) : EndsLine (s ++ t) := by
  obtain ⟨body, rfl⟩ := h
  exact ⟨s ++ body, by rw [String.append_assoc]⟩

/-- A statement with its terminator ends a line, whatever stands before it. -/
theorem EndsLine.newline (s : String) : EndsLine (s ++ "\n") := ⟨s, rfl⟩

theorem endsLine_statement (s sql : String) : EndsLine (s ++ (sql ++ ";\n")) :=
  EndsLine.append_left ⟨sql ++ ";", by rw [String.append_assoc]; rfl⟩ s

/-- The program's own test for a final newline. -/
theorem endsLine_of_endsWith {s : String} (h : s.endsWith "\n" = true) : EndsLine s := by
  rw [String.endsWith_eq_endsWith_toSlice, String.Slice.endsWith_string_iff] at h
  simp only [String.copy_toSlice] at h
  obtain ⟨t, ht⟩ := h
  exact ⟨String.ofList t, by rw [← String.toList_inj]; simp [← ht]⟩

/-! ## The frame: emissions only append to what was cut before -/

namespace CommandList

/-- The same pending text, with `cs` cut before the commands already cut. -/
def prepend (cs : List MigrationCommand) (b : CommandList) : CommandList :=
  { b with commands := cs ++ b.commands }

variable {b : CommandList} {cs : List MigrationCommand}

@[simp] theorem prepend_buffer : (b.prepend cs).buffer = b.buffer := rfl

@[simp] theorem prepend_commands : (b.prepend cs).commands = cs ++ b.commands := rfl

@[simp] theorem prepend_prepend (cs' : List MigrationCommand) :
    (b.prepend cs').prepend cs = b.prepend (cs ++ cs') := by
  simp [prepend]

theorem append_append (x y : String) : (b.append x).append y = b.append (x ++ y) := by
  simp [append, String.append_assoc]

/-- Closing a command leaves nothing pending (an empty command is not cut at all). -/
@[simp] theorem endCommand_buffer (s : Bool) : (b.endCommand s).buffer = "" := by
  unfold endCommand
  split
  · rename_i h
    simpa using h
  · rfl

/-- The step lemma of the frame: one action commutes with putting commands in front. -/
theorem emit_prepend (e : Emission) : (b.prepend cs).emit e = (b.emit e).prepend cs := by
  cases e with
  | text sql => rfl
  | statement sql => rfl
  | cut s =>
    by_cases hb : b.buffer.isEmpty <;> simp [emit, endCommand, hb, prepend]

/-- The run lemma of the frame, by induction on the actions. -/
theorem emitAll_prepend (es : List Emission) :
    (b.prepend cs).emitAll es = (b.emitAll es).prepend cs := by
  induction es generalizing b with
  | nil => rfl
  | cons e es ih =>
    simp only [emitAll, List.foldl_cons] at ih ⊢
    rw [emit_prepend, ih]

theorem emitAll_append (es fs : List Emission) : b.emitAll (es ++ fs) = (b.emitAll es).emitAll fs :=
  List.foldl_append

/-- A command list with nothing pending is the empty one with its commands in front. -/
theorem eq_prepend_of_settled (h : b.buffer = "") : b = ({} : CommandList).prepend b.commands := by
  cases b
  simp_all [prepend]

/-- With nothing pending, building adds no command. -/
theorem build_of_settled (h : b.buffer = "") : b.build = b.commands := by
  simp [build, endCommand, h]

end CommandList

/-! ## Emission lists that close what they open -/

/-- An emission list that leaves nothing pending: it is empty or ends with a cut. -/
def Closes (es : List Emission) : Prop := es = [] ∨ ∃ init s, es = init ++ [.cut s]

theorem closes_nil : Closes [] := .inl rfl

theorem closes_append_cut (init : List Emission) (s : Bool) : Closes (init ++ [.cut s]) :=
  .inr ⟨init, s, rfl⟩

/-- Whatever comes before, a list ending with a closed batch closes. -/
theorem closes_append_batch (es : List Emission) (stmts : List String) :
    Closes (es ++ Generator.batch stmts) :=
  .inr ⟨es ++ stmts.map .statement, false, by simp [Generator.batch]⟩

theorem Closes.append {es fs : List Emission} (he : Closes es) (hf : Closes fs) :
    Closes (es ++ fs) := by
  rcases hf with rfl | ⟨init, s, rfl⟩
  · simpa using he
  · exact .inr ⟨es ++ init, s, by simp⟩

/-- Performing a closing list on a settled command list leaves it settled. -/
theorem emitAll_settled {b : CommandList} {es : List Emission} (hb : b.buffer = "")
    (h : Closes es) : (b.emitAll es).buffer = "" := by
  rcases h with rfl | ⟨init, s, rfl⟩
  · exact hb
  · simp [CommandList.emitAll, CommandList.emit]

/-! ## Clean command lists: every command ends a line and carries one flag -/

/-- A statement, or a cut with flag `s`: all that an operation other than raw SQL emits. -/
def Emission.isPlain (s : Bool) : Emission → Bool
  | .text _ => false
  | .statement _ => true
  | .cut s' => s' == s

@[simp] theorem Emission.isPlain_text (s : Bool) (sql : String) :
    (Emission.text sql).isPlain s = false := rfl

@[simp] theorem Emission.isPlain_statement (s : Bool) (sql : String) :
    (Emission.statement sql).isPlain s = true := rfl

@[simp] theorem Emission.isPlain_cut (s s' : Bool) : (Emission.cut s').isPlain s = (s' == s) := rfl

/-- Every emission of the list is plain for flag `s`. -/
def Plain (s : Bool) (es : List Emission) : Prop := ∀ e ∈ es, e.isPlain s = true

section Plain

variable {s : Bool} {es fs : List Emission}

@[simp] theorem plain_nil : Plain s [] := by simp [Plain]

@[simp] theorem plain_cons {e : Emission} : Plain s (e :: es) ↔ e.isPlain s = true ∧ Plain s es := by
  simp [Plain]

@[simp] theorem plain_append : Plain s (es ++ fs) ↔ Plain s es ∧ Plain s fs := by
  simp only [Plain, List.mem_append]
  constructor
  · intro h
    exact ⟨fun e he => h e (.inl he), fun e he => h e (.inr he)⟩
  · rintro ⟨h1, h2⟩ e (he | he)
    · exact h1 e he
    · exact h2 e he

@[simp] theorem plain_map {α : Type} (l : List α) (f : α → Emission) :
    Plain s (l.map f) ↔ ∀ a ∈ l, (f a).isPlain s = true := by
  simp [Plain]

@[simp] theorem plain_flatMap {α : Type} (l : List α) (f : α → List Emission) :
    Plain s (l.flatMap f) ↔ ∀ a ∈ l, Plain s (f a) := by
  simp only [Plain, List.mem_flatMap]
  constructor
  · intro h a ha e he
    exact h e ⟨a, ha, he⟩
  · rintro h e ⟨a, ha, he⟩
    exact h a ha e he

end Plain

/-- Pending text is empty or ends a line, and every command cut ends a line and carries
    flag `s`. -/
structure Clean (s : Bool) (b : CommandList) : Prop where
  pending : b.buffer = "" ∨ EndsLine b.buffer
  cut : ∀ c ∈ b.commands, EndsLine c.sql ∧ c.suppressTransaction = s

namespace Clean

variable {s : Bool} {b : CommandList}

theorem empty : Clean s {} := ⟨.inl rfl, by simp⟩

theorem appendStatement (h : Clean s b) (sql : String) : Clean s (b.appendStatement sql) :=
  ⟨.inr (endsLine_statement _ _), h.cut⟩

theorem append (h : Clean s b) {t : String} (ht : EndsLine t) : Clean s (b.append t) :=
  ⟨.inr (ht.append_left _), h.cut⟩

/-- Cutting with the list's own flag: the pending text, when there is any, ends a line. -/
theorem endCommand (h : Clean s b) : Clean s (b.endCommand s) := by
  unfold CommandList.endCommand
  split
  · exact h
  · rename_i hne
    have hline : EndsLine b.buffer := by
      rcases h.pending with hb | hb
      · simp [hb] at hne
      · exact hb
    refine ⟨.inl rfl, ?_⟩
    intro c hc
    simp only [List.mem_append, List.mem_singleton] at hc
    rcases hc with hc | rfl
    · exact h.cut c hc
    · exact ⟨hline, rfl⟩

/-- The step lemma: a plain action keeps a command list clean. -/
theorem emit (h : Clean s b) {e : Emission} (he : e.isPlain s = true) : Clean s (b.emit e) := by
  cases e with
  | text sql => simp [Emission.isPlain] at he
  | statement sql => exact h.appendStatement sql
  | cut s' =>
    simp only [Emission.isPlain, beq_iff_eq] at he
    subst he
    exact h.endCommand

/-- Raw SQL: its text, made to end a line, forms one command with its own flag. -/
theorem emitAll_text (h : Clean s b) (text : String) :
    Clean s (b.emitAll (.text text :: (if text.endsWith "\n" then [] else [.text "\n"]) ++
      [.cut s])) := by
  by_cases hend : text.endsWith "\n" = true
  · simp only [hend, if_true, List.nil_append, List.cons_append, CommandList.emitAll,
      List.foldl_cons, List.foldl_nil, CommandList.emit]
    exact (h.append (endsLine_of_endsWith hend)).endCommand
  · simp only [hend, Bool.false_eq_true, if_false, List.cons_append, CommandList.emitAll,
      List.foldl_cons, CommandList.emit, CommandList.append_append]
    exact (h.append (EndsLine.newline text)).endCommand

/-- The run lemma: plain actions keep a command list clean. -/
theorem emitAll (h : Clean s b) {es : List Emission} (he : Plain s es) : Clean s (b.emitAll es) := by
  induction es generalizing b with
  | nil => exact h
  | cons e es ih =>
    rw [plain_cons] at he
    exact ih (h.emit he.1) he.2

end Clean

/-! ## What each emitter emits -/

theorem Except.bind_eq_ok {ε α β : Type} {x : Except ε α} {f : α → Except ε β} {b : β} :
    x >>= f = .ok b ↔ ∃ a, x = .ok a ∧ f a = .ok b := by
  cases x <;> simp [bind, Except.bind]

theorem Except.map_eq_ok {ε α β : Type} {x : Except ε α} {f : α → β} {b : β} :
    f <$> x = .ok b ↔ ∃ a, x = .ok a ∧ f a = b := by
  cases x <;> simp [Functor.map, Except.map]


/-- A run of whole commands with flag `s`: statements and cuts with flag `s`, ending with a cut
    when not empty. -/
structure Batched (s : Bool) (es : List Emission) : Prop where
  closes : Closes es
  plain : Plain s es

theorem Batched.nil {s : Bool} : Batched s [] := ⟨closes_nil, plain_nil⟩

theorem Batched.append {s : Bool} {es fs : List Emission} (he : Batched s es) (hf : Batched s fs) :
    Batched s (es ++ fs) :=
  ⟨he.closes.append hf.closes, plain_append.2 ⟨he.plain, hf.plain⟩⟩

namespace Generator

variable (g : Generator) (model : Option DatabaseModel)

theorem batched_batch (stmts : List String) : Batched false (batch stmts) :=
  ⟨closes_append_cut _ _, by simp [batch]⟩

theorem batched_command (sql : String) : Batched false (command sql) := batched_batch [sql]

/-- The shape of the emitters that skip their work in some case. -/
theorem batched_ite_nil (c : Prop) [Decidable c] (stmts : List String) :
    Batched false (if c then [] else batch stmts) := by
  split
  · exact .nil
  · exact batched_batch _

theorem strategyTransition_plain {schema : Option String} {table : String} {c : Column}
    {columnType alterBase : String} {source : Generation} {es : List Emission}
    {owned : Option String}
    (h : g.strategyTransition schema table c columnType alterBase source = .ok (es, owned)) :
    Plain false es := by
  simp only [strategyTransition, bind, Except.bind] at h
  split at h
  · cases h
  · split at h
    all_goals simp only [pure, Except.pure, throw, throwThe, MonadExceptOf.throw, Except.ok.injEq,
      Prod.mk.injEq, reduceCtorEq] at h
    all_goals grind [Plain, Emission.isPlain, createSequence, command, batch]

theorem createTable_batched {t : Table} {es : List Emission} (h : g.createTable model t = .ok es) :
    Batched false es := by
  obtain ⟨cols, -, h⟩ := Except.bind_eq_ok.1 h
  cases h
  exact batched_batch _

theorem alterTable_batched (schema : Option String) (name : String) (old new : TableOptions) :
    Batched false (alterTable schema name old new) := by
  unfold alterTable
  exact batched_ite_nil _ _

theorem rename_batched (kind : String) (r : Rename) : Batched false (rename kind r) := by
  unfold rename
  exact batched_batch _

theorem addColumn_batched {schema : Option String} {table : String} {c : Column}
    {es : List Emission} (h : g.addColumn model schema table c = .ok es) : Batched false es := by
  unfold addColumn at h
  split at h
  · cases h
    exact .nil
  · obtain ⟨definition, -, h⟩ := Except.bind_eq_ok.1 h
    cases h
    exact batched_batch _

theorem dropColumn_batched (schema : Option String) (table name : String) :
    Batched false (dropColumn schema table name) := by
  unfold dropColumn
  exact batched_ite_nil _ _

theorem ensureSchema_batched (name : String) : Batched false (ensureSchema name) := by
  unfold ensureSchema
  exact batched_ite_nil _ _

/-- Creating an enum may close the command ensuring its schema, but leaves its own statement
    pending. -/
theorem createEnum_plain (e : EnumType) : Plain false (g.createEnum model e) := by
  unfold createEnum
  refine plain_append.2 ⟨?_, by simp⟩
  split
  · exact (ensureSchema_batched _).plain
  · exact plain_nil

theorem createRange_plain (r : RangeType) : Plain false (g.createRange model r) := by
  unfold createRange
  refine plain_append.2 ⟨?_, by simp⟩
  split
  · exact (ensureSchema_batched _).plain
  · exact plain_nil

theorem alterDatabase_batched {old new : DatabaseObjects} {es : List Emission}
    (h : g.alterDatabase model old new = .ok es) : Batched false es := by
  unfold alterDatabase at h
  dsimp only at h
  split at h
  · cases h
  · cases h
  · cases h
    refine ⟨closes_append_cut _ _, ?_⟩
    simp [createEnum_plain, createRange_plain, dropType, createExtension]

theorem strategyChange_plain {schema : Option String} {table : String} {old new : Column}
    {columnType alterBase : String} {es : List Emission} {owned : Option String}
    (h : g.strategyChange schema table old new columnType alterBase = .ok (es, owned)) :
    Plain false es := by
  unfold strategyChange at h
  split at h
  · exact g.strategyTransition_plain h
  · cases h
    exact plain_nil

theorem alterColumn_batched {schema : Option String} {table : String} {old new : Column}
    {es : List Emission} (h : g.alterColumn model schema table old new = .ok es) :
    Batched false es := by
  unfold alterColumn at h
  split at h
  · cases h
    exact .nil
  · split at h
    · -- a computed column: the drop's command, then the add's
      obtain ⟨added, hadd, rfl⟩ := Except.map_eq_ok.1 h
      exact (dropColumn_batched _ _ _).append (g.addColumn_batched model hadd)
    · split at h
      · cases h
      · obtain ⟨⟨transition, owned⟩, htr, h⟩ := Except.bind_eq_ok.1 h
        obtain ⟨default, -, h⟩ := Except.bind_eq_ok.1 h
        cases h
        refine ⟨closes_append_batch _ _, ?_⟩
        simp [g.strategyChange_plain htr, batch]

theorem createDatabase_batched (name : String) (template tablespace : Option String) :
    Batched true (createDatabase name template tablespace) :=
  ⟨closes_append_cut [_] true, by simp [createDatabase]⟩

/-- Sessions are cut off in one command and the database dropped in another, both outside a
    transaction. -/
theorem dropDatabase_batched (name : String) : Batched true (dropDatabase name) :=
  ⟨closes_append_cut [_, _, .cut true, _] true, by simp [dropDatabase]⟩

end Generator

/-- The operations whose commands run outside a transaction: creating or dropping a database,
    and raw SQL that asks for it. -/
def SchemaOperation.suppressesTransaction : SchemaOperation → Bool
  | .createDatabase .. | .dropDatabase _ => true
  | .sql _ suppress => suppress
  | _ => false

namespace Generator

variable (g : Generator) (model : Option DatabaseModel)

/-- What one operation emits: raw SQL is its text, made to end a line, and one cut; every other
    operation emits whole commands carrying the operation's flag. -/
theorem emissions_shape {op : SchemaOperation} {es : List Emission}
    (h : g.emissions model op = .ok es) :
    (∃ text, es = .text text :: (if text.endsWith "\n" then [] else [.text "\n"]) ++
      [.cut op.suppressesTransaction]) ∨ Batched op.suppressesTransaction es := by
  cases op with
  | createTable t => exact .inr (g.createTable_batched model h)
  | alterTable schema name old new => cases h; exact .inr (alterTable_batched _ _ _ _)
  | renameTable r | renameSequence r => cases h; exact .inr (rename_batched _ _)
  | addColumn schema table c => exact .inr (g.addColumn_batched model h)
  | dropColumn schema table name => cases h; exact .inr (dropColumn_batched _ _ _)
  | alterColumn schema table old new => exact .inr (g.alterColumn_batched model h)
  | createIndex ix => cases h; exact .inr (batched_command _)
  | renameIndex schema name newName => cases h; exact .inr (batched_batch _)
  | createSequence q => cases h; exact .inr (batched_command _)
  | ensureSchema name => cases h; exact .inr (ensureSchema_batched _)
  | alterDatabase old new => exact .inr (g.alterDatabase_batched model h)
  | createDatabase name template tablespace => cases h; exact .inr (createDatabase_batched _ _ _)
  | dropDatabase name => cases h; exact .inr (dropDatabase_batched _)
  | sql text suppress => cases h; exact .inl ⟨text, rfl⟩
  | dropTable _ _ | renameColumn _ _ _ _ | dropIndex _ _ | alterSequence _ | dropSequence _ _
  | restartSequence _ _ _ | dropSchema _ | addPrimaryKey _ _ _ | addUniqueConstraint _ _ _
  | addForeignKey _ _ _ | addCheckConstraint _ _ _ | dropPrimaryKey _ _ _
  | dropUniqueConstraint _ _ _ | dropForeignKey _ _ _ | dropCheckConstraint _ _ _ =>
    cases h
    exact .inr (batched_command _)

theorem emissions_closes {op : SchemaOperation} {es : List Emission}
    (h : g.emissions model op = .ok es) : Closes es := by
  rcases g.emissions_shape model h with ⟨text, rfl⟩ | hes
  · exact closes_append_cut (.text text :: _) _
  · exact hes.closes

/-- The step lemma of cleanliness: an operation keeps a command list with its flag clean. -/
theorem emissions_clean {op : SchemaOperation} {es : List Emission}
    (h : g.emissions model op = .ok es) {b : CommandList}
    (hb : Clean op.suppressesTransaction b) : Clean op.suppressesTransaction (b.emitAll es) := by
  rcases g.emissions_shape model h with ⟨text, rfl⟩ | hes
  · exact hb.emitAll_text text
  · exact hb.emitAll hes.plain

/-! ## One operation, then a run of them -/

variable {out out' : CommandList} {op : SchemaOperation}

/-- The invariant: after an operation that succeeds, nothing is pending. -/
theorem operation_settled (hb : out.buffer = "") (h : g.operation model out op = .ok out') :
    out'.buffer = "" := by
  obtain ⟨es, hes, rfl⟩ := Except.map_eq_ok.1 h
  exact emitAll_settled hb (g.emissions_closes model hes)

/-- The frame for one operation. -/
theorem operation_prepend (cs : List MigrationCommand) :
    g.operation model (out.prepend cs) op = (·.prepend cs) <$> g.operation model out op := by
  unfold operation
  cases g.emissions model op <;> simp [Functor.map, Except.map, CommandList.emitAll_prepend]

/-- On a settled command list an operation acts as on the empty one. -/
theorem operation_of_settled (hb : out.buffer = "") :
    g.operation model out op = (·.prepend out.commands) <$> g.operation model {} op := by
  have h : g.operation model (({} : CommandList).prepend out.commands) op = _ :=
    g.operation_prepend model out.commands
  rwa [← CommandList.eq_prepend_of_settled hb] at h

/-- The run lemma of the invariant, by induction on the operations. -/
theorem foldlM_settled (ops : List SchemaOperation) (hb : out.buffer = "")
    (h : ops.foldlM (g.operation model) out = .ok out') : out'.buffer = "" := by
  induction ops generalizing out with
  | nil =>
    cases h
    exact hb
  | cons op ops ih =>
    obtain ⟨mid, hmid, h⟩ := Except.bind_eq_ok.1 h
    exact ih (g.operation_settled model hb hmid) h

/-- The run lemma of the frame: operations on a settled command list act as on the empty one,
    after its commands. -/
theorem foldlM_operation_settled (ops : List SchemaOperation) (hb : out.buffer = "") :
    ops.foldlM (g.operation model) out =
      (·.prepend out.commands) <$> ops.foldlM (g.operation model) {} := by
  induction ops generalizing out with
  | nil =>
    show pure out = pure (({} : CommandList).prepend out.commands)
    rw [← CommandList.eq_prepend_of_settled hb]
  | cons op ops ih =>
    simp only [List.foldlM_cons]
    rw [g.operation_of_settled model hb]
    cases hop : g.operation model {} op with
    | error e => rfl
    | ok mid =>
      have hmid : mid.buffer = "" := g.operation_settled model rfl hop
      simp only [Functor.map, Except.map, bind, Except.bind]
      rw [ih (by simpa using hmid), ih hmid]
      cases ops.foldlM (g.operation model) {} <;> simp [Functor.map, Except.map]

/-! ## Whole generations -/

/-- The compositional law: generating `a ++ b` fails with `a`'s first failure, else with `b`'s,
    else gives `a`'s commands followed by `b`'s. -/
theorem generate_append (a b : List SchemaOperation) :
    g.generate (a ++ b) model = (do
      let ca ← g.generate a model
      let cb ← g.generate b model
      pure (ca ++ cb)) := by
  unfold generate
  rw [List.foldlM_append]
  cases ha : a.foldlM (g.operation model) {} with
  | error e => rfl
  | ok oa =>
    have hsa : oa.buffer = "" := g.foldlM_settled model a rfl ha
    simp only [bind, Except.bind, pure, Except.pure]
    rw [g.foldlM_operation_settled model b hsa]
    cases hb : b.foldlM (g.operation model) {} with
    | error e => rfl
    | ok ob =>
      have hsb : ob.buffer = "" := g.foldlM_settled model b rfl hb
      simp [Functor.map, Except.map, CommandList.build_of_settled, hsa, hsb]

/-- Generating nothing gives no command. -/
theorem generate_nil : g.generate [] model = .ok [] := rfl

/-- The commands of a list of operations are those of each operation, one after the other; the
    first operation that fails gives the error. -/
theorem generate_eq_flatten (ops : List SchemaOperation) :
    g.generate ops model = List.flatten <$> ops.mapM fun op => g.generate [op] model := by
  induction ops with
  | nil => rfl
  | cons op ops ih =>
    rw [← List.singleton_append, g.generate_append model, ih]
    simp only [List.mapM_cons, List.singleton_append]
    cases g.generate [op] model with
    | error e => rfl
    | ok c =>
      cases ops.mapM fun op => g.generate [op] model <;> rfl

/-- The commands of one operation end a line and carry the operation's flag. -/
theorem generate_singleton_clean {op : SchemaOperation} {cs : List MigrationCommand}
    (h : g.generate [op] model = .ok cs) :
    ∀ c ∈ cs, EndsLine c.sql ∧ c.suppressTransaction = op.suppressesTransaction := by
  obtain ⟨out, hout, h⟩ := Except.bind_eq_ok.1 h
  cases h
  obtain ⟨out, hop, hout⟩ := Except.bind_eq_ok.1 hout
  cases hout
  obtain ⟨es, hes, rfl⟩ := Except.map_eq_ok.1 hop
  have hclean := g.emissions_clean model hes Clean.empty
  rw [CommandList.build_of_settled (emitAll_settled rfl (g.emissions_closes model hes))]
  exact hclean.cut

/-- Every command of a generation is a non-empty text ending in a newline. -/
theorem generate_endsLine {ops : List SchemaOperation} {cs : List MigrationCommand}
    (h : g.generate ops model = .ok cs) : ∀ c ∈ cs, EndsLine c.sql := by
  induction ops generalizing cs with
  | nil =>
    rw [generate_nil] at h
    cases h
    simp
  | cons op ops ih =>
    rw [← List.singleton_append, g.generate_append model] at h
    obtain ⟨ca, hca, h⟩ := Except.bind_eq_ok.1 h
    obtain ⟨cb, hcb, h⟩ := Except.bind_eq_ok.1 h
    cases h
    intro c hc
    rcases List.mem_append.1 hc with hc | hc
    · exact (g.generate_singleton_clean model hca c hc).1
    · exact ih hcb c hc

end Generator

/-- Command batching is compositional and all-or-nothing.  Generating `a ++ b` fails with the
    first failure of `a`, else with the first failure of `b`, else gives `a`'s commands followed
    by `b`'s; so the commands of a list are those of its operations, in order.  Every command is
    a non-empty text ending in a newline, and runs outside a transaction exactly when its
    operation creates or drops a database or is raw SQL flagged so.  Behind it: after every
    operation that succeeds nothing is left pending. -/
theorem generate_compositional (g : Generator) (model : Option DatabaseModel) :
    (∀ a b : List SchemaOperation, g.generate (a ++ b) model = (do
      let ca ← g.generate a model
      let cb ← g.generate b model
      pure (ca ++ cb))) ∧
    (∀ ops : List SchemaOperation,
      g.generate ops model = List.flatten <$> ops.mapM fun op => g.generate [op] model) ∧
    (∀ ops cs, g.generate ops model = .ok cs → ∀ c ∈ cs, EndsLine c.sql) ∧
    (∀ op cs, g.generate [op] model = .ok cs →
      ∀ c ∈ cs, c.suppressTransaction = op.suppressesTransaction) ∧
    (∀ out op out', out.buffer = "" → g.operation model out op = .ok out' → out'.buffer = "") :=
  ⟨g.generate_append model, g.generate_eq_flatten model,
    fun _ _ h => g.generate_endsLine model h,
    fun _ _ h c hc => (g.generate_singleton_clean model h c hc).2,
    fun _ _ _ hb h => g.operation_settled model hb h⟩

end PgMigrate
