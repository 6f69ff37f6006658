import PgMigrate.Proofs.Statements
/-
  Storage-parameter differences and table alterations are exact.

  The program: `storageParameters` reads a table's parameters into rendered `(key, value)`
  pairs, a key declared twice keeping its first position and its last value.
  `StorageDiff.between` sets the pairs of the new table that the old one does not have, in the
  new order, and resets the keys that the new table lacks, in the old order.
  `Generator.alterTable` writes `SET (…)`, `RESET (…)`, the comment and the logging mode, each
  when it changed, all in one command.

  The specification (`alterTable_exact_diff`): read as maps from keys to rendered values
  (`TableOptions.storageMap`), the keys set and reset are distinct and apart; applying the
  difference to the old map gives the new one; the pairs set are those of the new table whose
  value is new or changed, the keys reset those of the old table the new one lacks; the
  difference is empty exactly when the maps agree.  Altering a table generates nothing when
  its maps, comments and logging agree, and otherwise one command of the statements of the
  facets that changed, in order.

  The crux: parameter lists have distinct keys (`keys_storageParameters_nodup`), so a pair is
  in the list exactly when the map gives it (`mem_iff_lookup`); every law follows from that.
-/
namespace PgMigrate

/-! ## Pairs with distinct keys -/

section Lookup

variable {β : Type} {ps : List (String × β)} {k : String} {v : β}

theorem lookup_cons_eq (k' : String) (v' : β) :
    ((k', v') :: ps).lookup k = if k = k' then some v' else ps.lookup k := by
  rw [List.lookup_cons]
  split <;> simp_all

theorem lookup_eq_none_iff_not_mem : ps.lookup k = none ↔ k ∉ ps.map Prod.fst := by
  rw [List.lookup_eq_none_iff]
  constructor
  · intro h hk
    obtain ⟨p, hp, rfl⟩ := List.mem_map.1 hk
    simpa using h p hp
  · intro h p hp
    have hne : k ≠ p.1 := fun he => h (List.mem_map.2 ⟨p, hp, he.symm⟩)
    simpa using hne

/-- With distinct keys, a pair is in the list exactly when the lookup of its key gives its
    value. -/
theorem mem_iff_lookup (h : (ps.map Prod.fst).Nodup) : (k, v) ∈ ps ↔ ps.lookup k = some v := by
  induction ps with
  | nil => simp
  | cons p ps ih =>
    obtain ⟨k', v'⟩ := p
    rw [List.map_cons, List.nodup_cons] at h
    rw [List.mem_cons, lookup_cons_eq]
    by_cases hk : k = k'
    · -- the head holds the key, which the tail does not have
      subst hk
      have hnot : (k, v) ∉ ps := fun hm => h.1 (List.mem_map.2 ⟨(k, v), hm, rfl⟩)
      simp [hnot, eq_comm]
    · rw [if_neg hk, ← ih h.2]
      simp [hk]

/-- With distinct keys, looking up in the pairs a filter keeps finds the pair of the whole list
    when the filter keeps it. -/
theorem lookup_filter (h : (ps.map Prod.fst).Nodup) (q : String × β → Bool) :
    (ps.filter q).lookup k = (ps.lookup k).filter fun v => q (k, v) := by
  induction ps with
  | nil => rfl
  | cons p ps ih =>
    obtain ⟨k', v'⟩ := p
    rw [List.map_cons, List.nodup_cons] at h
    have hwhole : ((k', v') :: ps).lookup k = if k = k' then some v' else ps.lookup k :=
      lookup_cons_eq k' v'
    rw [hwhole, List.filter_cons]
    by_cases hk : k = k'
    · -- the key is the head's, and no pair the filter keeps from the tail has it
      subst hk
      have hnone : (ps.filter q).lookup k = none := by
        rw [lookup_eq_none_iff_not_mem]
        exact fun hm => h.1 (((List.filter_sublist).map Prod.fst).subset hm)
      rw [if_pos rfl]
      by_cases hq : q (k, v') = true
      · rw [if_pos hq, lookup_cons_eq, if_pos rfl,
          Option.filter_some_pos (p := fun v => q (k, v)) hq]
      · rw [if_neg hq, hnone, Option.filter_some_neg (p := fun v => q (k, v)) (by simpa using hq)]
    · rw [if_neg hk, ← ih h.2]
      split
      · rw [lookup_cons_eq, if_neg hk]
      · rfl

end Lookup

/-! ## Reading the parameters -/

/-- Setting a key keeps the keys when it is there, else adds it last. -/
theorem keys_assignParameter (key value : String) (ps : List (String × String)) :
    (assignParameter key value ps).map Prod.fst =
      if key ∈ ps.map Prod.fst then ps.map Prod.fst else ps.map Prod.fst ++ [key] := by
  induction ps with
  | nil => simp [assignParameter]
  | cons p ps ih =>
    obtain ⟨k, v⟩ := p
    by_cases hk : k = key
    · subst hk
      simp [assignParameter]
    · have hbeq : (k == key) = false := by simpa using hk
      have hne : key ≠ k := fun h => hk h.symm
      simp only [assignParameter, hbeq, Bool.false_eq_true, if_false, List.map_cons, ih,
        List.mem_cons, hne, false_or]
      split <;> rfl

/-- After setting a key, its lookup gives the value set and every other lookup is unchanged. -/
theorem lookup_assignParameter (key value j : String) (ps : List (String × String)) :
    (assignParameter key value ps).lookup j = if j = key then some value else ps.lookup j := by
  induction ps with
  | nil => simp [assignParameter]
  | cons p ps ih =>
    obtain ⟨k, v⟩ := p
    by_cases hk : k = key
    · -- the key is replaced where it stands
      subst hk
      have hset : assignParameter k value ((k, v) :: ps) = (k, value) :: ps := by
        simp [assignParameter]
      rw [hset, lookup_cons_eq, lookup_cons_eq]
      by_cases hj : j = k <;> simp [hj]
    · have hbeq : (k == key) = false := by simpa using hk
      have hrest : assignParameter key value ((k, v) :: ps) =
          (k, v) :: assignParameter key value ps := by
        simp [assignParameter, hbeq]
      rw [hrest, lookup_cons_eq, lookup_cons_eq, ih]
      by_cases hj : j = key
      · have hjk : ¬j = k := fun h => hk (h.symm.trans hj)
        rw [if_neg hjk, if_pos hj, if_pos hj]
      · simp only [if_neg hj]

/-- Parameters are read by setting each one in turn. -/
def assignAll (acc : List (String × String)) (ps : List StorageParameter) :
    List (String × String) :=
  ps.foldl (fun acc p => assignParameter p.name p.value.render acc) acc

theorem storageParameters_eq (o : TableOptions) :
    storageParameters o = assignAll [] o.storageParameters := rfl

theorem keys_assignAll_nodup (ps : List StorageParameter) :
    ∀ acc : List (String × String), (acc.map Prod.fst).Nodup →
      ((assignAll acc ps).map Prod.fst).Nodup := by
  induction ps with
  | nil => exact fun acc h => h
  | cons p ps ih =>
    intro acc h
    apply ih
    rw [keys_assignParameter]
    split
    · exact h
    · rename_i hnot
      refine List.nodup_append.2 ⟨h, by simp, ?_⟩
      intro a ha b hb hab
      rw [List.mem_singleton] at hb
      rw [hab, hb] at ha
      exact hnot ha

/-- A table's rendered parameters have distinct keys. -/
theorem keys_storageParameters_nodup (o : TableOptions) :
    ((storageParameters o).map Prod.fst).Nodup :=
  keys_assignAll_nodup o.storageParameters [] List.nodup_nil

/-- Reading parameters keeps the keys already there and adds each new name at its first
    declaration. -/
theorem keys_assignAll (ps : List StorageParameter) :
    ∀ acc : List (String × String), (assignAll acc ps).map Prod.fst =
      acc.map Prod.fst ++ ((ps.map (·.name)).removeAll (acc.map Prod.fst)).eraseDups := by
  induction ps with
  | nil => intro acc; simp [assignAll, List.removeAll]
  | cons p ps ih =>
    intro acc
    have hstep : assignAll acc (p :: ps) =
        assignAll (assignParameter p.name p.value.render acc) ps := rfl
    rw [hstep, ih, keys_assignParameter]
    by_cases hp : p.name ∈ acc.map Prod.fst
    · rw [if_pos hp]
      simp [List.removeAll, hp]
    · rw [if_neg hp, List.append_assoc]
      simp only [List.removeAll, List.map_cons, List.filter_cons, List.elem_eq_mem, hp,
        decide_false, Bool.not_false, if_true, List.eraseDups_cons, List.filter_filter]
      rw [List.singleton_append]
      -- a later name is kept once it is neither among the old keys nor this one
      congr 3
      apply List.filter_congr
      intro x _
      rw [Bool.eq_iff_iff]
      simp [or_comm]

/-- A table's keys are its parameters' names, each at its first declaration. -/
theorem keys_storageParameters (o : TableOptions) :
    (storageParameters o).map Prod.fst = (o.storageParameters.map (·.name)).eraseDups := by
  rw [storageParameters_eq, keys_assignAll]
  simp [List.removeAll, List.filter_eq_self.2]

/-- The lookup of a key after reading parameters gives the last value declared for it, or
    what it gave before when none is. -/
theorem lookup_assignAll (k : String) (ps : List StorageParameter) :
    ∀ acc : List (String × String), (assignAll acc ps).lookup k =
      (((ps.filter (·.name = k)).getLast?).map (·.value.render)).or (acc.lookup k) := by
  induction ps with
  | nil => intro acc; simp [assignAll]
  | cons p ps ih =>
    intro acc
    have hstep : assignAll acc (p :: ps) = assignAll (assignParameter p.name p.value.render acc) ps :=
      rfl
    rw [hstep, ih, lookup_assignParameter]
    by_cases hp : p.name = k
    · -- this declaration counts unless a later one of the key follows
      rw [if_pos hp.symm, List.filter_cons_of_pos (by simpa using hp), List.getLast?_cons]
      cases (ps.filter (·.name = k)).getLast? <;> simp
    · rw [if_neg (fun h => hp h.symm), List.filter_cons_of_neg (by simpa using hp)]

/-! ## The difference of two tables' parameters -/

/-- The parameters of a table as a map from keys to rendered values. -/
def TableOptions.storageMap (o : TableOptions) (k : String) : Option String :=
  (PgMigrate.storageParameters o).lookup k

/-- A key maps to the last value declared for it. -/
theorem storageMap_eq_last (o : TableOptions) (k : String) :
    o.storageMap k =
      ((o.storageParameters.filter (·.name = k)).getLast?).map (·.value.render) := by
  rw [TableOptions.storageMap, storageParameters_eq, lookup_assignAll]
  simp

/-- A pair is among a table's parameters exactly when the map gives its value. -/
theorem mem_storageParameters_iff (o : TableOptions) {k v : String} :
    (k, v) ∈ storageParameters o ↔ o.storageMap k = some v :=
  mem_iff_lookup (keys_storageParameters_nodup o)

/-- A key is among a table's parameters exactly when the map gives it a value. -/
theorem storageMap_ne_none_iff (o : TableOptions) {k : String} :
    o.storageMap k ≠ none ↔ k ∈ (storageParameters o).map Prod.fst := by
  rw [TableOptions.storageMap, Ne, lookup_eq_none_iff_not_mem, not_not]

namespace StorageDiff

/-- A map with the difference applied: the pairs set override it, the keys reset leave it. -/
def apply (d : StorageDiff) (m : String → Option String) (k : String) : Option String :=
  if k ∈ d.reset then none else (d.set.lookup k).or (m k)

section Between

variable (old new : TableOptions)

/-- The pairs set are those of the new table whose value the old map does not give. -/
theorem set_between :
    (between old new).set =
      (storageParameters new).filter fun p => old.storageMap p.1 ≠ some p.2 := by
  unfold between
  apply List.filter_congr
  intro ⟨k, v⟩ _
  simp [mem_storageParameters_iff old]

/-- The keys reset are those of the old table the new map does not give. -/
theorem reset_between :
    (between old new).reset =
      ((storageParameters old).map Prod.fst).filter fun k => new.storageMap k = none := by
  unfold between TableOptions.storageMap
  dsimp only
  rw [List.filter_map]
  congr 1
  apply List.filter_congr
  intro ⟨k, v⟩ _
  -- both sides say that no pair of the new list has the key
  show (!(storageParameters new).any fun x => x.fst == k) =
    decide ((storageParameters new).lookup k = none)
  simp only [lookup_eq_none_iff_not_mem, decide_not, Bool.not_inj_iff]
  rw [Bool.eq_iff_iff, List.any_eq_true, decide_eq_true_iff, List.mem_map]
  simp

theorem keys_set_nodup : ((between old new).set.map Prod.fst).Nodup := by
  rw [set_between]
  exact (keys_storageParameters_nodup new).sublist ((List.filter_sublist).map Prod.fst)

theorem reset_nodup : (between old new).reset.Nodup := by
  rw [reset_between]
  exact (keys_storageParameters_nodup old).filter _

/-- A key set has a value in the new map. -/
theorem storageMap_of_mem_set {k v : String} (h : (k, v) ∈ (between old new).set) :
    new.storageMap k = some v := by
  rw [set_between, List.mem_filter] at h
  exact (mem_storageParameters_iff new).1 h.1

/-- A key reset has no value in the new map. -/
theorem storageMap_of_mem_reset {k : String} (h : k ∈ (between old new).reset) :
    new.storageMap k = none := by
  rw [reset_between, List.mem_filter] at h
  simpa using h.2

/-- No key is both set and reset. -/
theorem not_mem_reset_of_set {k : String} (h : k ∈ (between old new).set.map Prod.fst) :
    k ∉ (between old new).reset := by
  obtain ⟨⟨k', v⟩, hp, rfl⟩ := List.mem_map.1 h
  intro hr
  have hset := storageMap_of_mem_set old new hp
  rw [storageMap_of_mem_reset old new hr] at hset
  cases hset

/-- The pairs set give the new map on the keys they hold. -/
theorem lookup_set (k : String) :
    (between old new).set.lookup k =
      if old.storageMap k = new.storageMap k then none else new.storageMap k := by
  rw [set_between, lookup_filter (keys_storageParameters_nodup new)]
  -- the new table's pair for the key is set when the old map gives another value
  change (new.storageMap k).filter _ = _
  cases hnew : new.storageMap k with
  | none => simp
  | some v => by_cases hold : old.storageMap k = some v <;> simp [hold]

/-- Applying the difference to the old map gives the new map. -/
theorem apply_between : (between old new).apply old.storageMap = new.storageMap := by
  funext k
  unfold apply
  by_cases hr : k ∈ (between old new).reset
  · -- a key reset has no value left
    rw [if_pos hr, storageMap_of_mem_reset old new hr]
  · rw [if_neg hr, lookup_set]
    by_cases hsame : old.storageMap k = new.storageMap k
    · rw [if_pos hsame, Option.none_or, hsame]
    · rw [if_neg hsame]
      cases hnew : new.storageMap k with
      | some v => rfl
      | none =>
        -- a key the new map lacks and the old map has would be reset
        exfalso
        apply hr
        rw [reset_between, List.mem_filter]
        refine ⟨(storageMap_ne_none_iff old).1 fun hk => hsame (hk.trans hnew.symm), ?_⟩
        simpa using hnew

/-- Some pair is set exactly when the new map gives a key a value the old map does not. -/
theorem set_ne_nil_iff :
    (between old new).set ≠ [] ↔
      ∃ k v, new.storageMap k = some v ∧ old.storageMap k ≠ some v := by
  rw [set_between, Ne, List.filter_eq_nil_iff]
  constructor
  · intro h
    by_contra hnone
    apply h
    intro ⟨k, v⟩ hp hkeep
    exact hnone ⟨k, v, (mem_storageParameters_iff new).1 hp, by simpa using hkeep⟩
  · rintro ⟨k, v, hnew, hold⟩ hall
    exact hall (k, v) ((mem_storageParameters_iff new).2 hnew) (by simpa using hold)

/-- Some key is reset exactly when the old map gives a key a value and the new map none. -/
theorem reset_ne_nil_iff :
    (between old new).reset ≠ [] ↔ ∃ k, old.storageMap k ≠ none ∧ new.storageMap k = none := by
  rw [reset_between, Ne, List.filter_eq_nil_iff]
  constructor
  · intro h
    by_contra hnone
    apply h
    intro k hk hgone
    exact hnone ⟨k, (storageMap_ne_none_iff old).2 hk, by simpa using hgone⟩
  · rintro ⟨k, hold, hnew⟩ hall
    exact hall k ((storageMap_ne_none_iff old).1 hold) (by simpa using hnew)

/-- The difference is empty exactly when the two maps agree. -/
theorem isEmpty_between_iff :
    (between old new).isEmpty = true ↔ old.storageMap = new.storageMap := by
  rw [isEmpty, Bool.and_eq_true, List.isEmpty_iff, List.isEmpty_iff]
  constructor
  · -- nothing set and nothing reset: the difference applies as the identity
    rintro ⟨hset, hreset⟩
    rw [← apply_between old new]
    funext k
    simp [apply, hset, hreset]
  · intro hmaps
    constructor
    · by_contra hne
      obtain ⟨k, v, hnew, hold⟩ := (set_ne_nil_iff old new).1 hne
      exact hold (hmaps ▸ hnew)
    · by_contra hne
      obtain ⟨k, hold, hnew⟩ := (reset_ne_nil_iff old new).1 hne
      exact hold (hmaps ▸ hnew)

end Between

end StorageDiff

/-! ## Altering a table -/

/-- A statement that stands when its facet changed. -/
def whenever (changed : Prop) [Decidable changed] (stmt : String) : List String :=
  if changed then [stmt] else []

theorem whenever_eq_nil (changed : Prop) [Decidable changed] (stmt : String) :
    whenever changed stmt = [] ↔ ¬changed := by
  unfold whenever
  split <;> simp_all

namespace Generator

/-- The statements altering a table's options: `SET (…)` with the pairs set, `RESET (…)` with
    the keys reset, `COMMENT ON TABLE … IS` the new comment (`NULL` when there is none), and
    `SET LOGGED` or `SET UNLOGGED`, each when its facet changed, in this order. -/
def optionChanges (schema : Option String) (name : String) (old new : TableOptions) :
    List String :=
  let table := Ident.qualify name schema
  let d := StorageDiff.between old new
  whenever (d.set ≠ []) ("ALTER TABLE " ++ table ++ " SET (" ++ formatAssignments d.set ++ ")") ++
    whenever (d.reset ≠ [])
      ("ALTER TABLE " ++ table ++ " RESET (" ++ ", ".intercalate d.reset ++ ")") ++
    whenever (old.comment ≠ new.comment)
      ("COMMENT ON TABLE " ++ table ++ " IS " ++ Clause.commentLiteral new.comment) ++
    whenever (old.isUnlogged ≠ new.isUnlogged)
      ("ALTER TABLE " ++ table ++ " SET " ++ (if new.isUnlogged then "UNLOGGED" else "LOGGED"))

variable (schema : Option String) (name : String) (old new : TableOptions)

/-- Nothing changes exactly when the maps, the comments and the logging agree. -/
theorem optionChanges_eq_nil_iff :
    optionChanges schema name old new = [] ↔
      old.storageMap = new.storageMap ∧ old.comment = new.comment ∧
        old.isUnlogged = new.isUnlogged := by
  simp only [optionChanges, List.append_eq_nil_iff, whenever_eq_nil, not_not]
  rw [← StorageDiff.isEmpty_between_iff, StorageDiff.isEmpty, Bool.and_eq_true,
    List.isEmpty_iff, List.isEmpty_iff]
  exact and_assoc

/-- The emissions altering a table: nothing when nothing changed, else the changes in one
    command. -/
theorem alterTable_eq :
    alterTable schema name old new =
      if optionChanges schema name old new = [] then []
      else batch (optionChanges schema name old new) := by
  unfold alterTable optionChanges whenever
  simp only [List.isEmpty_iff, beq_iff_eq, ite_not]

/-- A changed value is set in the new order, a dropped key reset, an equal one left alone. -/
example :
    optionChanges none "people"
        { storageParameters := [⟨"fillfactor", .int 70⟩, ⟨"user_catalog_table", .bool true⟩,
            ⟨"parallel_workers", .int 8⟩] }
        { storageParameters := [⟨"fillfactor", .int 80⟩, ⟨"autovacuum_enabled", .bool true⟩,
            ⟨"parallel_workers", .int 8⟩] } =
      ["ALTER TABLE people SET (fillfactor=80, autovacuum_enabled=true)",
        "ALTER TABLE people RESET (user_catalog_table)"] := by
  decide

/-- Altering a table generates nothing when nothing changed, else one command holding the
    changes, each terminated. -/
theorem generate_alterTable (g : Generator) (model : Option DatabaseModel) :
    g.generate [.alterTable schema name old new] model =
      .ok (if optionChanges schema name old new = [] then []
        else [{ sql := terminated (optionChanges schema name old new) }]) := by
  by_cases hnil : optionChanges schema name old new = []
  · have hemit : g.emissions model (.alterTable schema name old new) = .ok [] := by
      show Except.ok (alterTable schema name old new) = _
      rw [alterTable_eq, if_pos hnil]
    rw [generate_eq_emitAll, List.mapM_cons, List.mapM_nil, hemit, if_pos hnil]
    rfl
  · have hemit : g.emissions model (.alterTable schema name old new) =
        .ok (batch (optionChanges schema name old new)) := by
      show Except.ok (alterTable schema name old new) = _
      rw [alterTable_eq, if_neg hnil]
    exact generate_batch g model hemit

/-- The storage difference and table alteration are exact.  A table's parameters are read with
    each key at its first declaration and with its last value.  Read as maps from keys to
    rendered values, the keys set and the keys reset are each distinct, and none is both; the old map
    with the pairs set put in and the keys reset taken out is the new map; the pairs set are
    those of the new table, in its order, whose value the old map does not give, and the keys
    reset those of the old table, in its order, that the new map lacks; the difference is empty
    exactly when the maps agree.  Altering a table generates no command when its maps, comments
    and logging agree, and otherwise one command holding `SET (…)`, `RESET (…)`, `COMMENT ON
    TABLE` and `SET LOGGED|UNLOGGED`, in this order, each exactly when its facet changed. -/
theorem alterTable_exact_diff (g : Generator) (model : Option DatabaseModel) :
    let d := StorageDiff.between old new
    (∀ o : TableOptions,
      (storageParameters o).map Prod.fst = (o.storageParameters.map (·.name)).eraseDups ∧
      ∀ k, o.storageMap k =
        ((o.storageParameters.filter (·.name = k)).getLast?).map (·.value.render)) ∧
    ((d.set.map Prod.fst).Nodup ∧ d.reset.Nodup ∧ ∀ k ∈ d.set.map Prod.fst, k ∉ d.reset) ∧
    d.apply old.storageMap = new.storageMap ∧
    d.set = (storageParameters new).filter (fun p => old.storageMap p.1 ≠ some p.2) ∧
    d.reset = ((storageParameters old).map Prod.fst).filter (fun k => new.storageMap k = none) ∧
    (d.isEmpty = true ↔ old.storageMap = new.storageMap) ∧
    g.generate [.alterTable schema name old new] model =
      .ok (if optionChanges schema name old new = [] then []
        else [{ sql := terminated (optionChanges schema name old new) }]) ∧
    (optionChanges schema name old new = [] ↔
      old.storageMap = new.storageMap ∧ old.comment = new.comment ∧
        old.isUnlogged = new.isUnlogged) ∧
    (d.set ≠ [] ↔ ∃ k v, new.storageMap k = some v ∧ old.storageMap k ≠ some v) ∧
    (d.reset ≠ [] ↔ ∃ k, old.storageMap k ≠ none ∧ new.storageMap k = none) := by
  intro d
  refine ⟨fun o => ⟨keys_storageParameters o, storageMap_eq_last o⟩, ⟨StorageDiff.keys_set_nodup old new, StorageDiff.reset_nodup old new,
    fun k hk => StorageDiff.not_mem_reset_of_set old new hk⟩, ?_, ?_, ?_, ?_, ?_, ?_, ?_, ?_⟩
  · exact StorageDiff.apply_between old new
  · exact StorageDiff.set_between old new
  · exact StorageDiff.reset_between old new
  · exact StorageDiff.isEmpty_between_iff old new
  · exact generate_alterTable schema name old new g model
  · exact optionChanges_eq_nil_iff schema name old new
  · exact StorageDiff.set_ne_nil_iff old new
  · exact StorageDiff.reset_ne_nil_iff old new

end Generator

end PgMigrate
