import Mathlib.Data.List.Nodup
import PgMigrate.Schema.Model
/-
  A model keeps its invariants under every change.

  The program: a `DatabaseModel` is built from the empty one by its operations: setting the
  default schema, adding a table, switching key generation to HiLo (declaring its sequence
  unless a sequence of that name resolves to that schema) or to a column strategy (forgetting
  the HiLo sequence), and declaring extensions, enums and ranges by key, keeping a declaration
  already there (`ModelChange`, `DatabaseModel.change`, `DatabaseModel.build`).

  The specification (`model_changes_keep_invariants`), for every model so built:
  * no two extensions, no two enums and no two ranges share a key (schema as written, name);
  * a declaration returns the one element with the key asked for, keeps every element already
    there as it was and in place, and returns an element already declared without adding one
    (`GetsOrAdds`);
  * the HiLo sequence's name and schema are unset unless the strategy is HiLo;
  * under a HiLo strategy the HiLo sequence is declared: a sequence of its name resolves to its
    schema under some default schema (the one in force when HiLo was chosen).  The lookup under
    the current default finds it in every run that does not change the default while the
    strategy is HiLo; a change of default can move the lookup away (`hilo_lookup_moved`).

  The crux is one step lemma per operation, gathered in `WellKept.change`, and the run lemma
  `wellKept_build` by induction on the changes; the declarations share one list lemma
  (`getsOrAdds_of_find?_some`, `getsOrAdds_of_find?_none`).
-/
namespace PgMigrate

/-- An operation that changes a model. -/
inductive ModelChange where
  | withDefaultSchema (schema : String)
  | withTable (t : Table)
  | useHilo (name schema : Option String)
  | useSerialColumns
  | useIdentityAlwaysColumns
  | useIdentityByDefaultColumns
  | useIdentityColumns
  | getOrAddExtension (schema : Option String) (name : String) (version : Option String)
  | getOrAddEnum (schema : Option String) (name : String) (labels : List String)
  | getOrAddRange (r : RangeType)

namespace DatabaseModel

/-- The model after one change. -/
def change (m : DatabaseModel) : ModelChange → DatabaseModel
  | .withDefaultSchema s => m.withDefaultSchema s
  | .withTable t => m.withTable t
  | .useHilo name schema => m.useHilo name schema
  | .useSerialColumns => m.useColumnStrategy .serial
  | .useIdentityAlwaysColumns => m.useColumnStrategy .identityAlways
  | .useIdentityByDefaultColumns | .useIdentityColumns => m.useColumnStrategy .identityByDefault
  | .getOrAddExtension schema name version => (m.getOrAddExtension schema name version).1
  | .getOrAddEnum schema name labels => (m.getOrAddEnum schema name labels).1
  | .getOrAddRange r => (m.getOrAddRange r).1

/-- The model a run of changes builds from the empty one. -/
def build (cs : List ModelChange) : DatabaseModel := cs.foldl change {}

end DatabaseModel

/-- The key an extension is declared under: its schema as written, and its name. -/
def Extension.key (x : Extension) : Option String × String := (x.schema, x.name)

/-! ## Getting or adding an element by key -/

/-- What declaring by key promises: the element returned has the key asked for and is the one
    element of the new list with it; the old list stays in front, element by element; and an
    element already there is returned as it is, the list unchanged. -/
structure GetsOrAdds {α κ : Type} (key : α → κ) (k : κ) (old new : List α) (x : α) :
    Prop where
  key_eq : key x = k
  mem : x ∈ new
  unique : ∀ y ∈ new, key y = k → y = x
  kept : old <+: new
  existing : ∀ y ∈ old, key y = k → x = y ∧ new = old

section GetsOrAdds

variable {α κ : Type} [DecidableEq κ] {key : α → κ} {k : κ} {l : List α}

/-- An element found by its key is returned, the list kept. -/
theorem getsOrAdds_of_find?_some {y : α} (hl : (l.map key).Nodup)
    (h : l.find? (fun e => decide (key e = k)) = some y) : GetsOrAdds key k l l y := by
  have hy : key y = k := by simpa using List.find?_some h
  have hmem : y ∈ l := List.mem_of_find?_eq_some h
  -- the keys are distinct, so an element with the key is the one found
  have hone : ∀ z ∈ l, key z = k → z = y := fun z hz hzk =>
    List.inj_on_of_nodup_map hl hz hmem (hzk.trans hy.symm)
  exact ⟨hy, hmem, hone, List.prefix_refl l, fun z hz hzk => ⟨(hone z hz hzk).symm, rfl⟩⟩

/-- A key not found is declared by appending the new element. -/
theorem getsOrAdds_of_find?_none {x : α} (hx : key x = k)
    (h : l.find? (fun e => decide (key e = k)) = none) : GetsOrAdds key k l (l ++ [x]) x := by
  have hnone : ∀ y ∈ l, key y ≠ k := fun y hy hyk =>
    List.find?_eq_none.1 h y hy (decide_eq_true hyk)
  refine ⟨hx, List.mem_append_right l (List.mem_singleton_self x), ?_,
    List.prefix_append l [x], ?_⟩
  · intro y hy hyk
    rcases List.mem_append.1 hy with hy | hy
    · exact absurd hyk (hnone y hy)
    · exact List.mem_singleton.1 hy
  · intro y hy hyk
    exact absurd hyk (hnone y hy)

/-- Appending an element whose key is not there keeps the keys distinct. -/
theorem nodup_map_append_of_find?_none {x : α} (hx : key x = k) (hl : (l.map key).Nodup)
    (h : l.find? (fun e => decide (key e = k)) = none) : ((l ++ [x]).map key).Nodup := by
  rw [List.map_append, List.nodup_append]
  refine ⟨hl, List.nodup_singleton _, ?_⟩
  intro a ha b hb hab
  obtain ⟨y, hy, rfl⟩ := List.mem_map.1 ha
  rw [List.map_singleton, List.mem_singleton] at hb
  exact List.find?_eq_none.1 h y hy (decide_eq_true (hab.trans (hb.trans hx)))

end GetsOrAdds

namespace DatabaseModel

variable (m : DatabaseModel)

/-! ## Declarations by key -/

theorem getOrAddExtension_spec (schema : Option String) (name : String) (version : Option String)
    (h : (m.extensions.map Extension.key).Nodup) :
    GetsOrAdds Extension.key (schema, name) m.extensions
      (m.getOrAddExtension schema name version).1.extensions
      (m.getOrAddExtension schema name version).2 ∧
    ((m.getOrAddExtension schema name version).1.extensions.map Extension.key).Nodup ∧
    (m.getOrAddExtension schema name version).1 =
      { m with extensions := (m.getOrAddExtension schema name version).1.extensions } := by
  have hp : (fun e : Extension => e.name == name && e.schema == schema) =
      fun e => decide (e.key = (schema, name)) := by
    funext e
    rw [Bool.eq_iff_iff]
    simp [Extension.key, Prod.ext_iff, and_comm]
  unfold getOrAddExtension
  rw [hp]
  split
  · rename_i e he
    exact ⟨getsOrAdds_of_find?_some h he, h, rfl⟩
  · rename_i he
    exact ⟨getsOrAdds_of_find?_none rfl he, nodup_map_append_of_find?_none rfl h he, rfl⟩

theorem getOrAddEnum_spec (schema : Option String) (name : String) (labels : List String)
    (h : (m.enums.map EnumType.key).Nodup) :
    GetsOrAdds EnumType.key (schema, name) m.enums (m.getOrAddEnum schema name labels).1.enums
      (m.getOrAddEnum schema name labels).2 ∧
    ((m.getOrAddEnum schema name labels).1.enums.map EnumType.key).Nodup ∧
    (m.getOrAddEnum schema name labels).1 =
      { m with enums := (m.getOrAddEnum schema name labels).1.enums } := by
  have hp : (fun e : EnumType => e.schema == schema && e.name == name) =
      fun e => decide (e.key = (schema, name)) := by
    funext e
    rw [Bool.eq_iff_iff]
    simp [EnumType.key, Prod.ext_iff]
  unfold getOrAddEnum
  rw [hp]
  split
  · rename_i e he
    exact ⟨getsOrAdds_of_find?_some h he, h, rfl⟩
  · rename_i he
    exact ⟨getsOrAdds_of_find?_none rfl he, nodup_map_append_of_find?_none rfl h he, rfl⟩

theorem getOrAddRange_spec (r : RangeType) (h : (m.ranges.map RangeType.key).Nodup) :
    GetsOrAdds RangeType.key r.key m.ranges (m.getOrAddRange r).1.ranges (m.getOrAddRange r).2 ∧
    ((m.getOrAddRange r).1.ranges.map RangeType.key).Nodup ∧
    (m.getOrAddRange r).1 = { m with ranges := (m.getOrAddRange r).1.ranges } := by
  have hp : (fun q : RangeType => q.schema == r.schema && q.name == r.name) =
      fun q => decide (q.key = r.key) := by
    funext q
    rw [Bool.eq_iff_iff]
    simp [RangeType.key, Prod.ext_iff]
  unfold getOrAddRange
  rw [hp]
  split
  · rename_i q hq
    exact ⟨getsOrAdds_of_find?_some h hq, h, rfl⟩
  · rename_i hq
    exact ⟨getsOrAdds_of_find?_none rfl hq, nodup_map_append_of_find?_none rfl h hq, rfl⟩

/-! ## The HiLo sequence -/

section UseHilo

variable (name schema : Option String)

/-- Switching to HiLo touches only the strategy, the HiLo fields and the sequences. -/
theorem useHilo_frame :
    (m.useHilo name schema).defaultSchema = m.defaultSchema ∧
    (m.useHilo name schema).extensions = m.extensions ∧
    (m.useHilo name schema).enums = m.enums ∧ (m.useHilo name schema).ranges = m.ranges := by
  unfold useHilo
  dsimp only
  split <;> exact ⟨rfl, rfl, rfl, rfl⟩

@[simp] theorem useHilo_strategy : (m.useHilo name schema).strategy = some .hiLo := by
  unfold useHilo
  dsimp only

@[simp] theorem useHilo_hiloName :
    (m.useHilo name schema).hiloName = name.getD defaultHiloSequenceName := by
  unfold useHilo
  dsimp only
  rfl

@[simp] theorem useHilo_hiloSequenceSchema :
    (m.useHilo name schema).hiloSequenceSchema = schema := by
  unfold useHilo
  dsimp only

/-- Under the model's own default schema the lookup is the model's. -/
theorem findSequence_withDefaultSchema_schemaDefault (n : String) (s : Option String) :
    (m.withDefaultSchema m.schemaDefault).findSequence n s = m.findSequence n s := by
  simp [findSequence, withDefaultSchema, schemaOrDefault, schemaDefault]

/-- Switching to HiLo leaves a sequence that the lookup of the HiLo name and schema finds:
    the one found before, or the one declared. -/
theorem findSequence_useHilo :
    (m.useHilo name schema).findSequence (name.getD defaultHiloSequenceName) schema ≠ none := by
  unfold useHilo
  dsimp only
  split
  · -- a sequence was found, and the switch keeps the sequences and the default schema
    rename_i hfound
    show m.findSequence _ _ ≠ none
    exact Option.ne_none_iff_isSome.2 hfound
  · -- none was found: the one appended matches, so the lookup finds it or an earlier one
    unfold findSequence
    simp only [List.find?_append, List.find?_singleton]
    simp [schemaOrDefault]

end UseHilo

/-- The HiLo sequence is declared: a sequence of the HiLo name resolves to the HiLo schema
    under some default schema. -/
def HiloDeclared : Prop :=
  ∃ d, (m.withDefaultSchema d).findSequence m.hiloName m.hiloSequenceSchema ≠ none

/-- Under a HiLo strategy, the lookup under the current default schema finds the HiLo
    sequence. -/
def HiloFound : Prop :=
  m.strategy = some .hiLo → m.findSequence m.hiloName m.hiloSequenceSchema ≠ none

/-! ## The invariants and their step lemmas -/

/-- The invariants of a model built by its operations. -/
structure WellKept : Prop where
  extensions_nodup : (m.extensions.map Extension.key).Nodup
  enums_nodup : (m.enums.map EnumType.key).Nodup
  ranges_nodup : (m.ranges.map RangeType.key).Nodup
  hilo_unset :
    m.strategy ≠ some .hiLo → m.hiloSequenceName = none ∧ m.hiloSequenceSchema = none
  hilo_declared : m.strategy = some .hiLo → m.HiloDeclared

variable {m}

theorem wellKept_empty : WellKept {} :=
  ⟨List.nodup_nil, List.nodup_nil, List.nodup_nil, fun _ => ⟨rfl, rfl⟩, fun h => by cases h⟩

/-- Setting the default schema moves no declaration; the HiLo sequence stays declared, under
    the default it was declared for. -/
theorem WellKept.withDefaultSchema (hi : m.WellKept) (s : String) :
    (m.withDefaultSchema s).WellKept :=
  ⟨hi.extensions_nodup, hi.enums_nodup, hi.ranges_nodup, hi.hilo_unset, hi.hilo_declared⟩

theorem WellKept.withTable (hi : m.WellKept) (t : Table) : (m.withTable t).WellKept :=
  ⟨hi.extensions_nodup, hi.enums_nodup, hi.ranges_nodup, hi.hilo_unset, hi.hilo_declared⟩

theorem WellKept.useHilo (hi : m.WellKept) (name schema : Option String) :
    (m.useHilo name schema).WellKept := by
  obtain ⟨hdefault, hext, henum, hrange⟩ := m.useHilo_frame name schema
  refine ⟨hext ▸ hi.extensions_nodup, henum ▸ hi.enums_nodup, hrange ▸ hi.ranges_nodup,
    fun h => absurd (m.useHilo_strategy name schema) h, fun _ => ⟨m.schemaDefault, ?_⟩⟩
  -- the switch keeps the default schema, so the old default is the current one
  have hsame : (m.useHilo name schema).schemaDefault = m.schemaDefault := by
    rw [schemaDefault, hdefault]
    rfl
  rw [← hsame, findSequence_withDefaultSchema_schemaDefault, useHilo_hiloName,
    useHilo_hiloSequenceSchema]
  exact m.findSequence_useHilo name schema

theorem WellKept.useColumnStrategy (hi : m.WellKept) {g : Generation} (hg : g ≠ .hiLo) :
    (m.useColumnStrategy g).WellKept := by
  have hstrategy : (m.useColumnStrategy g).strategy ≠ some .hiLo := fun h =>
    hg (Option.some.inj h)
  exact ⟨hi.extensions_nodup, hi.enums_nodup, hi.ranges_nodup, fun _ => ⟨rfl, rfl⟩,
    fun h => absurd h hstrategy⟩

theorem WellKept.getOrAddExtension (hi : m.WellKept) (schema : Option String) (name : String)
    (version : Option String) : (m.getOrAddExtension schema name version).1.WellKept := by
  obtain ⟨-, hnodup, hframe⟩ := m.getOrAddExtension_spec schema name version hi.extensions_nodup
  rw [hframe]
  exact ⟨hnodup, hi.enums_nodup, hi.ranges_nodup, hi.hilo_unset, hi.hilo_declared⟩

theorem WellKept.getOrAddEnum (hi : m.WellKept) (schema : Option String) (name : String)
    (labels : List String) : (m.getOrAddEnum schema name labels).1.WellKept := by
  obtain ⟨-, hnodup, hframe⟩ := m.getOrAddEnum_spec schema name labels hi.enums_nodup
  rw [hframe]
  exact ⟨hi.extensions_nodup, hnodup, hi.ranges_nodup, hi.hilo_unset, hi.hilo_declared⟩

theorem WellKept.getOrAddRange (hi : m.WellKept) (r : RangeType) :
    (m.getOrAddRange r).1.WellKept := by
  obtain ⟨-, hnodup, hframe⟩ := m.getOrAddRange_spec r hi.ranges_nodup
  rw [hframe]
  exact ⟨hi.extensions_nodup, hi.enums_nodup, hnodup, hi.hilo_unset, hi.hilo_declared⟩

/-- The step lemma: every change keeps the invariants. -/
theorem WellKept.change (hi : m.WellKept) (c : ModelChange) : (m.change c).WellKept := by
  cases c with
  | withDefaultSchema s => exact hi.withDefaultSchema s
  | withTable t => exact hi.withTable t
  | useHilo name schema => exact hi.useHilo name schema
  | useSerialColumns => exact hi.useColumnStrategy (by decide)
  | useIdentityAlwaysColumns => exact hi.useColumnStrategy (by decide)
  | useIdentityByDefaultColumns | useIdentityColumns => exact hi.useColumnStrategy (by decide)
  | getOrAddExtension schema name version => exact hi.getOrAddExtension schema name version
  | getOrAddEnum schema name labels => exact hi.getOrAddEnum schema name labels
  | getOrAddRange r => exact hi.getOrAddRange r

/-- The run lemma: every model built by changes keeps the invariants. -/
theorem wellKept_build (cs : List ModelChange) : (build cs).WellKept := by
  suffices h : ∀ m : DatabaseModel, m.WellKept → (cs.foldl change m).WellKept from
    h {} wellKept_empty
  induction cs with
  | nil => exact fun m hm => hm
  | cons c cs ih => exact fun m hm => ih (m.change c) (hm.change c)

/-! ## The HiLo lookup along a run -/

/-- The step lemma of the lookup: every change keeps it, but a change of default schema only
    while the strategy is not HiLo. -/
theorem HiloFound.change (hi : m.WellKept) (hf : m.HiloFound) (c : ModelChange)
    (hc : ∀ s, c = .withDefaultSchema s → m.strategy ≠ some .hiLo) :
    (m.change c).HiloFound := by
  cases c with
  | withDefaultSchema s => exact fun h => absurd h (hc s rfl)
  | withTable t => exact hf
  | useHilo name schema =>
    intro _
    show (m.useHilo name schema).findSequence (m.useHilo name schema).hiloName
      (m.useHilo name schema).hiloSequenceSchema ≠ none
    rw [useHilo_hiloName, useHilo_hiloSequenceSchema]
    exact m.findSequence_useHilo name schema
  | useSerialColumns | useIdentityAlwaysColumns | useIdentityByDefaultColumns
  | useIdentityColumns => exact fun h => by cases h
  -- a declaration changes only its own list, which the lookup does not read
  | getOrAddExtension schema name version =>
    obtain ⟨-, -, hframe⟩ := m.getOrAddExtension_spec schema name version hi.extensions_nodup
    show (m.getOrAddExtension schema name version).1.HiloFound
    rw [hframe]
    exact hf
  | getOrAddEnum schema name labels =>
    obtain ⟨-, -, hframe⟩ := m.getOrAddEnum_spec schema name labels hi.enums_nodup
    show (m.getOrAddEnum schema name labels).1.HiloFound
    rw [hframe]
    exact hf
  | getOrAddRange r =>
    obtain ⟨-, -, hframe⟩ := m.getOrAddRange_spec r hi.ranges_nodup
    show (m.getOrAddRange r).1.HiloFound
    rw [hframe]
    exact hf

/-- The run lemma of the lookup: a run that changes the default schema only while the strategy
    is not HiLo keeps it. -/
theorem HiloFound.run (cs : List ModelChange) (hi : m.WellKept) (hf : m.HiloFound)
    (hcs : ∀ pre s post, cs = pre ++ .withDefaultSchema s :: post →
      (pre.foldl DatabaseModel.change m).strategy ≠ some .hiLo) :
    (cs.foldl DatabaseModel.change m).HiloFound := by
  induction cs generalizing m with
  | nil => exact hf
  | cons c cs ih =>
    -- the first change is checked at the front of the run, the rest after it
    have hc : ∀ s, c = .withDefaultSchema s → m.strategy ≠ some .hiLo := by
      rintro s rfl
      exact hcs [] s cs rfl
    refine ih (hi.change c) (hf.change hi c hc) fun pre s post h => ?_
    exact hcs (c :: pre) s post (by rw [h, List.cons_append])

/-! ## Every model built by changes -/

/-- A model built by changes keeps its invariants, declares by key as `GetsOrAdds` says, and,
    when the run changes the default schema only while the strategy is not HiLo, finds the HiLo
    sequence under the current default. -/
theorem model_changes_keep_invariants (cs : List ModelChange) :
    (build cs).WellKept ∧
    (∀ schema name version,
      GetsOrAdds Extension.key (schema, name) (build cs).extensions
        ((build cs).getOrAddExtension schema name version).1.extensions
        ((build cs).getOrAddExtension schema name version).2) ∧
    (∀ schema name labels,
      GetsOrAdds EnumType.key (schema, name) (build cs).enums
        ((build cs).getOrAddEnum schema name labels).1.enums
        ((build cs).getOrAddEnum schema name labels).2) ∧
    (∀ r, GetsOrAdds RangeType.key r.key (build cs).ranges ((build cs).getOrAddRange r).1.ranges
        ((build cs).getOrAddRange r).2) ∧
    ((∀ pre s post, cs = pre ++ .withDefaultSchema s :: post →
        (build pre).strategy ≠ some .hiLo) → (build cs).HiloFound) := by
  have hi := wellKept_build cs
  refine ⟨hi, fun schema name version => ?_, fun schema name labels => ?_, fun r => ?_,
    fun hcs => ?_⟩
  · exact ((build cs).getOrAddExtension_spec schema name version hi.extensions_nodup).1
  · exact ((build cs).getOrAddEnum_spec schema name labels hi.enums_nodup).1
  · exact ((build cs).getOrAddRange_spec r hi.ranges_nodup).1
  · -- the empty model has no strategy, so the lookup holds vacuously at the start of the run
    have hfound : HiloFound {} := fun h => by cases h
    exact HiloFound.run cs wellKept_empty hfound hcs

/-- Both ways of asking for HiLo, then a change of default schema: the strategy is HiLo, yet
    the lookup of the HiLo sequence under the new default finds nothing. -/
theorem hilo_lookup_moved :
    let m := build [.useHilo none none, .useHilo none (some "public"), .withDefaultSchema "app"]
    m.strategy = some .hiLo ∧ m.findSequence m.hiloName m.hiloSequenceSchema = none := by
  decide

/-- A run that sets the default schema before choosing HiLo finds the HiLo sequence. -/
theorem ids_sequence_found :
    let cs := [ModelChange.withDefaultSchema "app", .useHilo (some "ids") (some "app"),
      .getOrAddEnum none "mood" ["happy", "sad"]]
    (∀ pre s post, cs = pre ++ .withDefaultSchema s :: post →
        (build pre).strategy ≠ some .hiLo) ∧ (build cs).HiloFound := by
  intro cs
  -- only the first change sets the default schema, so it is checked on the empty model
  have hcs : ∀ pre s post, cs = pre ++ .withDefaultSchema s :: post →
      (build pre).strategy ≠ some .hiLo := by
    intro pre s post h
    rcases pre with _ | ⟨c1, _ | ⟨c2, _ | ⟨c3, rest⟩⟩⟩
    · exact fun h => by cases h
    all_goals simp [cs] at h
  exact ⟨hcs, (model_changes_keep_invariants cs).2.2.2.2 hcs⟩

end DatabaseModel

end PgMigrate
