import PgMigrate.Proofs.TypeDiff
/-
  Altering a column follows the transition table of generation strategies.

  The program: `Generator.alterColumn` rewrites a column in place, unless it is a system column
  (nothing is written) or becomes computed (it is dropped and added again).  It changes the
  column's type to its resolved store type and its nullability, moves it from its old
  generation strategy to its new one when they differ, sets or drops its default when the new
  strategy is none, hands a sequence created for it over to it, and restates its comment when
  the comment changed.

  The specification (`alterColumn_follows_transition_table`): every column altered in place
  gets, in order, the type statement, the nullability statement, the statements the
  `transitionTable` gives for its pair of strategies (a pair the table has no rule for does not
  succeed), its default when its new strategy is none, the ownership of the sequence created
  when it turns from none to serial, and its comment when that changed.  All of it makes one
  command, except that turning a column serial closes a first command right after the sequence
  is created.

  The crux is the step from the strategies' pair to the statements, `strategyChange_spec`, one
  row of the table per case; the batches follow from `batchesFrom_statements`.
-/
namespace PgMigrate

/-! ## Commands of plain statements -/

namespace Emission

/-- Statements append to the pending command. -/
theorem batchesFrom_statements (pending stmts : List String) (es : List Emission) :
    batchesFrom pending (stmts.map .statement ++ es) = batchesFrom (pending ++ stmts) es := by
  induction stmts generalizing pending with
  | nil => simp
  | cons s stmts ih =>
    rw [List.map_cons, List.cons_append, batchesFrom, ih, List.append_assoc, List.singleton_append]

/-- Statements closed by a cut make one command, when there are any. -/
theorem batchesFrom_cut (pending : List String) (h : pending ≠ []) (f : Bool)
    (es : List Emission) :
    batchesFrom pending (.cut f :: es) = pending :: batchesFrom [] es := by
  rw [batchesFrom]
  simp [h]

/-- Statements closed by a cut make one command of their own. -/
theorem batches_statements_cut (stmts : List String) (h : stmts ≠ []) (f : Bool)
    (es : List Emission) :
    batches (stmts.map .statement ++ .cut f :: es) = stmts :: batches es := by
  rw [batches, batchesFrom_statements, List.nil_append, batchesFrom_cut stmts h]
  rfl

@[simp] theorem statements_map_statement (stmts : List String) :
    statements (stmts.map .statement) = stmts := by
  induction stmts with
  | nil => rfl
  | cons s stmts ih => simp [ih]

end Emission

/-! ## The transition table -/

namespace Generator

variable (g : Generator) (schema : Option String) (table column : String)

/-- The words every statement altering the column starts with. -/
def alterPrefix : String :=
  "ALTER TABLE " ++ Ident.qualify table schema ++ " ALTER COLUMN " ++ Ident.delimit column ++ " "

/-- The sequence a serial column owns: `<table>_<column>_seq`, in the table's schema. -/
def ownedSequence : String := Ident.qualify (table ++ "_" ++ column ++ "_seq") schema

/-- The name the owned sequence is set aside under while an identity takes its place. -/
def retiredSequenceName : String := table ++ "_" ++ column ++ "_old_seq"

/-- Creating a serial column's sequence: it counts in the column's integer type, written
    `AS <type>` from version 10 on unless that is `bigint`, from 1 by 1 and without bounds. -/
def serialSequenceStatement (columnType : String) : String :=
  "CREATE SEQUENCE " ++ ownedSequence schema table column ++
    (if Clause.integerSqlType columnType ≠ .bigInt ∧ atLeast g.version 10 0 then
      " AS " ++ (Clause.integerSqlType columnType).storeType
    else "") ++
    " START WITH 1 INCREMENT BY 1 NO MINVALUE NO MAXVALUE NO CYCLE"

/-- Turning a serial column into an identity: the owned sequence is set aside, the default
    dropped, the identity added and started where the old sequence stood, which is then
    dropped. -/
def serialToIdentity (clause : String) : List String :=
  let retired := Ident.qualify (retiredSequenceName table column) schema
  ["ALTER SEQUENCE " ++ ownedSequence schema table column ++ " RENAME TO " ++
      Ident.delimit (retiredSequenceName table column),
    alterPrefix schema table column ++ "DROP DEFAULT",
    alterPrefix schema table column ++ "ADD GENERATED " ++ clause ++ " AS IDENTITY",
    "SELECT * FROM setval(" ++ sqlQuote (ownedSequence schema table column) ++ ", nextval(" ++
      sqlQuote retired ++ "), false)",
    "DROP SEQUENCE " ++ retired]

/-- The transition table: the statements that move a column from one generation strategy to
    another; nothing for a strategy kept, or when leaving HiLo, whose sequence is managed apart;
    no rule into HiLo, nor from an identity back to serial. -/
def transitionTable (columnType : String) : Generation → Generation → Option (List String)
  | .none, .identityAlways =>
    some [alterPrefix schema table column ++ "ADD GENERATED ALWAYS AS IDENTITY"]
  | .none, .identityByDefault =>
    some [alterPrefix schema table column ++ "ADD GENERATED BY DEFAULT AS IDENTITY"]
  | .none, .serial =>
    some [g.serialSequenceStatement schema table column columnType,
      alterPrefix schema table column ++ "SET DEFAULT (nextval(" ++
        sqlQuote (ownedSequence schema table column) ++ "))"]
  | .serial, .none => some ["DROP SEQUENCE " ++ ownedSequence schema table column ++ " CASCADE"]
  | .serial, .identityAlways => some (serialToIdentity schema table column "ALWAYS")
  | .serial, .identityByDefault => some (serialToIdentity schema table column "BY DEFAULT")
  | .identityAlways, .none | .identityByDefault, .none =>
    some [alterPrefix schema table column ++ "DROP IDENTITY"]
  | .identityAlways, .identityByDefault =>
    some [alterPrefix schema table column ++ "SET GENERATED BY DEFAULT"]
  | .identityByDefault, .identityAlways =>
    some [alterPrefix schema table column ++ "SET GENERATED ALWAYS"]
  | .hiLo, _ => some []
  | source, target => if source = target then some [] else none

/-- The sequence created for a column turned from none to serial passes to the column. -/
def ownershipStatements (source target : Generation) : List String :=
  if source = .none ∧ target = .serial then
    ["ALTER SEQUENCE " ++ ownedSequence schema table column ++ " OWNED BY " ++
      Ident.qualify table schema ++ "." ++ Ident.delimit column]
  else []

/-- A changed comment is stated again; `NULL` removes it. -/
def commentStatements (old new : Option String) : List String :=
  if old = new then []
  else ["COMMENT ON COLUMN " ++ Ident.qualify table schema ++ "." ++ Ident.delimit column ++
    " IS " ++ Clause.commentLiteral new]

/-- The default of a column left without a generation strategy is set, or dropped when it has
    none; a generated column's default belongs to its strategy. -/
def DefaultStatements (c : Column) (stmts : List String) : Prop :=
  if c.strategy = .none then
    ∃ d, Clause.default c = .ok d ∧
      stmts =
        [alterPrefix schema table c.name ++ (if d.isEmpty then "DROP DEFAULT" else "SET" ++ d)]
  else stmts = []

theorem transitionTable_self (columnType : String) (s : Generation) :
    g.transitionTable schema table column columnType s s = some [] := by
  cases s <;> rfl

/-- A serial column's sequence, created in a command of its own. -/
theorem createSequence_serial (columnType : String) :
    g.createSequence
        { name := table ++ "_" ++ column ++ "_seq", schema,
          sqlType := Clause.integerSqlType columnType } =
      [.statement (g.serialSequenceStatement schema table column columnType), .cut false] := by
  have hone : Int.repr 1 = "1" := by decide
  unfold createSequence command batch serialSequenceStatement Clause.sequenceOptions
  simp [hone, ownedSequence, String.append_assoc]

theorem strategyChange_spec {old new : Column} {columnType : String} {ts : List Emission}
    {owned : Option String}
    (h : g.strategyChange schema table old new columnType (alterPrefix schema table new.name) =
      .ok (ts, owned)) :
    ∃ stmts, g.transitionTable schema table new.name columnType old.strategy new.strategy =
        some stmts ∧
      if old.strategy = .none ∧ new.strategy = .serial then
        owned = some (ownedSequence schema table new.name) ∧
          ∃ c d, stmts = [c, d] ∧ ts = [.statement c, .cut false, .statement d]
      else owned = none ∧ ts = stmts.map .statement := by
  unfold strategyChange at h
  split at h
  · rename_i hne
    unfold strategyTransition at h
    obtain ⟨-, -, h⟩ := Except.bind_eq_ok.1 h
    dsimp only at h
    generalize old.strategy = s at h hne ⊢
    generalize new.strategy = t at h hne ⊢
    -- the strategies differ; one case per row of the table
    cases s <;> cases t <;> simp at hne <;> dsimp only at h
    case none.hiLo | serial.hiLo | identityAlways.hiLo | identityByDefault.hiLo
      | identityAlways.serial | identityByDefault.serial => cases h
    case none.serial =>
      -- a column that is no integer fails; otherwise its sequence is created in a command of
      -- its own, then its default draws from it
      split at h
      · cases h
      · cases h
        refine ⟨_, rfl, ?_⟩
        rw [if_pos ⟨rfl, rfl⟩]
        refine ⟨rfl, _, _, rfl, ?_⟩
        rw [createSequence_serial]
        rfl
    all_goals
      cases h
      refine ⟨_, rfl, ?_⟩
      rw [if_neg (by decide)]
      refine ⟨rfl, ?_⟩
      simp [serialToIdentity, retiredSequenceName, ownedSequence, Generation.identityClause,
        String.append_assoc]
  · -- the strategy is kept: no statement, no sequence
    rename_i heq
    have hsame : old.strategy = new.strategy := by simpa using heq
    cases h
    refine ⟨[], by rw [hsame]; exact g.transitionTable_self .., ?_⟩
    rw [if_neg fun ⟨hs, ht⟩ => by rw [hs, ht] at hsame; cases hsame]
    exact ⟨rfl, rfl⟩

theorem defaultChange_spec {new : Column} {stmts : List String}
    (h : defaultChange new (alterPrefix schema table new.name) = .ok stmts) :
    DefaultStatements schema table new stmts := by
  unfold defaultChange at h
  unfold DefaultStatements
  by_cases hs : new.strategy = .none
  · rw [if_pos (by simp [hs])] at h
    rw [if_pos hs]
    obtain ⟨d, hd, rfl⟩ := Except.map_eq_ok.1 h
    exact ⟨d, hd, rfl⟩
  · rw [if_neg (by simp [hs])] at h
    rw [if_neg hs]
    cases h
    rfl

/-! ## Altering a column -/

section Shape

variable (typeChange nullChange : String) (rest : List String)

/-- The statements of an alteration: the type and nullability changes, the transition's, then
    the rest of its command. -/
theorem statements_alteration (ts : List Emission) :
    Emission.statements ([.statement typeChange, .statement nullChange] ++ ts ++ batch rest) =
      [typeChange, nullChange] ++ Emission.statements ts ++ rest := by
  simp [batch]

/-- A transition of plain statements leaves the alteration one command. -/
theorem batches_alteration_plain (stmts : List String) :
    Emission.batches ([.statement typeChange, .statement nullChange] ++ stmts.map .statement ++
      batch rest) = [[typeChange, nullChange] ++ stmts ++ rest] := by
  have hshape : [Emission.statement typeChange, .statement nullChange] ++ stmts.map .statement ++
      batch rest = ([typeChange, nullChange] ++ stmts ++ rest).map .statement ++ [.cut false] := by
    simp [batch]
  rw [hshape, Emission.batches_statements_cut _ (by simp)]
  rfl

/-- A transition that creates a sequence in a command of its own splits the alteration in two
    commands, the first ending with the sequence. -/
theorem batches_alteration_cut (created setDefault : String) :
    Emission.batches ([.statement typeChange, .statement nullChange] ++
      [.statement created, .cut false, .statement setDefault] ++ batch rest) =
      [[typeChange, nullChange, created], setDefault :: rest] := by
  have hshape : [Emission.statement typeChange, .statement nullChange] ++
      [.statement created, .cut false, .statement setDefault] ++ batch rest =
      [typeChange, nullChange, created].map .statement ++
        .cut false :: ((setDefault :: rest).map .statement ++ [.cut false]) := by
    simp [batch]
  rw [hshape, Emission.batches_statements_cut _ (by simp),
    Emission.batches_statements_cut _ (by simp)]
  rfl

end Shape

/-- Altering a column in place follows the transition table: its type, its nullability, the
    table's statements for its pair of strategies, its default when it has no strategy, the
    ownership of the sequence a serial column gets, and its comment when that changed; all in
    one command, except that creating the sequence ends a first one. -/
theorem alterColumn_follows_transition_table (g : Generator) (model : Option DatabaseModel)
    (schema : Option String) (table : String) {old new : Column} {es : List Emission}
    (h : g.alterColumn model schema table old new = .ok es)
    (hsys : isSystemColumn new.name = false) (hcomputed : new.computedSql = none) :
    ∃ stmts defaults,
      g.transitionTable schema table new.name (columnType model schema table new) old.strategy
        new.strategy = some stmts ∧
      DefaultStatements schema table new defaults ∧
      Emission.statements es =
        [alterPrefix schema table new.name ++ "TYPE " ++ columnType model schema table new,
          alterPrefix schema table new.name ++
            (if new.nullable then "DROP NOT NULL" else "SET NOT NULL")] ++
        stmts ++ defaults ++ ownershipStatements schema table new.name old.strategy new.strategy ++
        commentStatements schema table new.name old.comment new.comment ∧
      Emission.batches es =
        if old.strategy = .none ∧ new.strategy = .serial then
          [(Emission.statements es).take 3, (Emission.statements es).drop 3]
        else [Emission.statements es] := by
  unfold alterColumn at h
  rw [if_neg (by simp [hsys]), if_neg (by simp [hcomputed])] at h
  split at h
  · cases h
  · dsimp only at h
    obtain ⟨⟨ts, owned⟩, hts, h⟩ := Except.bind_eq_ok.1 h
    dsimp only at h
    obtain ⟨defaults, hdefaults, h⟩ := Except.bind_eq_ok.1 h
    cases h
    obtain ⟨stmts, hrow, hcase⟩ := g.strategyChange_spec schema table hts
    refine ⟨stmts, defaults, hrow, defaultChange_spec schema table hdefaults, ?_⟩
    have hcomment : (if (old.comment == new.comment) = true then [] else
        ["COMMENT ON COLUMN " ++ Ident.qualify table schema ++ "." ++ Ident.delimit new.name ++
          " IS " ++ Clause.commentLiteral new.comment]) =
        commentStatements schema table new.name old.comment new.comment := by
      simp [commentStatements]
    -- the statements altering the column start as the specification writes them
    have hbase : "ALTER TABLE " ++ Ident.qualify table schema ++ " ALTER COLUMN " ++
        Ident.delimit new.name ++ " " = alterPrefix schema table new.name := rfl
    rw [hcomment, hbase, statements_alteration]
    by_cases hns : old.strategy = .none ∧ new.strategy = .serial
    · -- turned serial: the sequence is created in its own command, then handed over
      rw [if_pos hns] at hcase
      obtain ⟨rfl, c, d, rfl, rfl⟩ := hcase
      rw [batches_alteration_cut, if_pos hns]
      simp [ownershipStatements, hns, ownedSequence]
    · rw [if_neg hns] at hcase
      obtain ⟨rfl, rfl⟩ := hcase
      rw [batches_alteration_plain, if_neg hns]
      simp [ownershipStatements, hns]

/-- An integer key turned serial: it alters, and its statements and commands are those the
    table gives. -/
theorem id_turns_serial :
    let old : Column := { name := "id", sqlType := .integer, storeType := some "int" }
    let new : Column := { old with strategy := .serial }
    ∃ es, ({} : Generator).alterColumn none none "people" old new = .ok es ∧
      isSystemColumn new.name = false ∧ new.computedSql = none ∧
      ∃ stmts defaults,
        ({} : Generator).transitionTable none "people" new.name (columnType none none "people" new)
          old.strategy new.strategy = some stmts ∧
        DefaultStatements none "people" new defaults ∧
        Emission.statements es =
          [alterPrefix none "people" new.name ++ "TYPE " ++ columnType none none "people" new,
            alterPrefix none "people" new.name ++
              (if new.nullable then "DROP NOT NULL" else "SET NOT NULL")] ++
          stmts ++ defaults ++
          ownershipStatements none "people" new.name old.strategy new.strategy ++
          commentStatements none "people" new.name old.comment new.comment ∧
        Emission.batches es =
          if old.strategy = .none ∧ new.strategy = .serial then
            [(Emission.statements es).take 3, (Emission.statements es).drop 3]
          else [Emission.statements es] := by
  intro old new
  have hsys : isSystemColumn new.name = false := by decide
  obtain ⟨es, hes⟩ : ∃ es, ({} : Generator).alterColumn none none "people" old new = .ok es :=
    ⟨_, rfl⟩
  exact ⟨es, hes, hsys, rfl,
    alterColumn_follows_transition_table {} none none "people" hes hsys rfl⟩

end Generator

end PgMigrate
