import Mathlib.Data.List.Forall2
import PgMigrate.Proofs.Statements
/-
  Altering a database's types is a difference of two declaration lists, by key.

  The program: `Generator.alterDatabase` takes the enums, ranges and extensions declared before
  and after.  It creates each enum and range of the new list whose key (schema as written, and
  name) no declaration of the old list has, ensuring its schema first; drops each one of the old
  list whose key the new list lacks; refuses an enum or range kept under its key but changed,
  enums checked first; and creates every extension of the new list.

  The specification (`alterDatabase_keyed_difference`): the operation fails exactly when a
  declaration is kept under its key but changed, naming that declaration by its resolved name,
  and with a range only when no enum is changed.  Otherwise its statements (`AltersTypes`) are
  the creations of the keys new to the list, in order and each right after the statement that
  ensures its schema, the drops of the keys gone, and the extensions, and nothing else.  Keys
  are compared as written: an enum without a schema and one in the default schema resolve to
  one name, yet they are two keys, so one is dropped and the other created
  (`resolved_name_recreated`).

  The crux is `TypeBlocks`, the statements of the types created with their schemas ensured,
  read through each kind of statement by one lemma each, and the inversion lemma
  `alterDatabase_eq_ok`.
-/
namespace PgMigrate

/-! ## The statements of an emission list -/

namespace Emission

/-- The statement an emission appends, if any. -/
@[simp] def statement? : Emission → Option String
  | .statement s => some s
  | _ => none

/-- The statements an emission list appends, in order. -/
def statements (es : List Emission) : List String := es.filterMap statement?

@[simp] theorem statements_nil : statements [] = [] := rfl

@[simp] theorem statements_cons (e : Emission) (es : List Emission) :
    statements (e :: es) = (e.statement?).toList ++ statements es := by
  cases e <;> rfl

@[simp] theorem statements_append (es fs : List Emission) :
    statements (es ++ fs) = statements es ++ statements fs :=
  List.filterMap_append

@[simp] theorem statements_flatMap {α : Type} (l : List α) (f : α → List Emission) :
    statements (l.flatMap f) = l.flatMap fun x => statements (f x) :=
  List.filterMap_flatMap

end Emission

/-! ## Statements by their first words -/

section Heads

variable {s head p : String} {rest : List Char}

theorem startsWith_of_head (hs : s.toList = head.toList ++ rest) (hp : p.toList <+: head.toList) :
    s.startsWith p = true := by
  rw [String.startsWith_string_iff, hs]
  exact hp.trans (List.prefix_append _ _)

theorem startsWith_eq_false_of_head (hs : s.toList = head.toList ++ rest)
    (hp : ¬p.toList <+: head.toList) (hh : ¬head.toList <+: p.toList) :
    s.startsWith p = false := by
  rw [← Bool.not_eq_true, String.startsWith_string_iff, hs]
  intro h
  -- two prefixes of one list: one is a prefix of the other
  rcases List.prefix_or_prefix_of_prefix h (List.prefix_append _ _) with h' | h'
  · exact hp h'
  · exact hh h'

/-- A filter on first words that part from those of every statement keeps none. -/
theorem filter_of_heads_eq_nil {l : List String}
    (h : ∀ s ∈ l, ∃ rest, s.toList = head.toList ++ rest)
    (hp : ¬p.toList <+: head.toList) (hh : ¬head.toList <+: p.toList) :
    l.filter (fun s => s.startsWith p) = [] := by
  rw [List.filter_eq_nil_iff]
  intro s hs
  obtain ⟨rest, hr⟩ := h s hs
  rw [startsWith_eq_false_of_head hr hp hh]
  decide

/-- A filter on the first words of every statement keeps them all. -/
theorem filter_of_heads_self {l : List String}
    (h : ∀ s ∈ l, ∃ rest, s.toList = head.toList ++ rest)
    (hp : p.toList <+: head.toList) : l.filter (fun s => s.startsWith p) = l := by
  rw [List.filter_eq_self]
  intro s hs
  obtain ⟨rest, hr⟩ := h s hs
  exact startsWith_of_head hr hp

end Heads

/-! ## Declarations by key -/

section Keys

variable {α : Type}

/-- The declarations of `new` whose key none of `old` has. -/
def keyedAdded (key : α → Option String × String) (old new : List α) : List α :=
  new.filter fun x => key x ∉ old.map key

/-- One of `old` declares `x` under its key, differently. -/
def Alters (key : α → Option String × String) (old : List α) (x : α) : Prop :=
  ∃ o ∈ old, key o = key x ∧ o ≠ x

variable (key : α → Option String × String) (old new : List α)

theorem filter_not_any_key :
    new.filter (fun n => !old.any (key · == key n)) = keyedAdded key old new := by
  unfold keyedAdded
  congr 1
  funext n
  rw [Bool.eq_iff_iff]
  simp

variable [DecidableEq α]

theorem find?_alters_eq_none :
    new.find? (fun n => old.any fun o => key o == key n && o != n) = none ↔
      ¬∃ x ∈ new, Alters key old x := by
  rw [List.find?_eq_none]
  simp [Alters]

/-- A changed declaration is found by the search for one. -/
theorem exists_find?_alters (h : ∃ x ∈ new, Alters key old x) :
    ∃ y, new.find? (fun n => old.any fun o => key o == key n && o != n) = some y :=
  Option.ne_none_iff_exists'.1 fun hnone => (find?_alters_eq_none key old new).1 hnone h

theorem alters_of_find?_eq_some {x : α}
    (h : new.find? (fun n => old.any fun o => key o == key n && o != n) = some x) :
    x ∈ new ∧ Alters key old x := by
  refine ⟨List.mem_of_find?_eq_some h, ?_⟩
  have hx := List.find?_some h
  simpa [Alters] using hx

end Keys

/-- The keys of the types `new` declares and `old` does not: the enums, then the ranges. -/
def addedTypes (old new : DatabaseObjects) : List (Option String × String) :=
  (keyedAdded EnumType.key old.enums new.enums).map EnumType.key ++
    (keyedAdded RangeType.key old.ranges new.ranges).map RangeType.key

/-- An enum of `new` is declared in `old` under its key, differently. -/
def EnumAltered (old new : DatabaseObjects) : Prop :=
  ∃ e ∈ new.enums, Alters EnumType.key old.enums e

/-- A range of `new` is declared in `old` under its key, differently. -/
def RangeAltered (old new : DatabaseObjects) : Prop :=
  ∃ r ∈ new.ranges, Alters RangeType.key old.ranges r

/-- The statements that make sure a schema exists: none for `public`, which always does. -/
def schemaEnsured : Option String → List String
  | some s => if s = "public" then [] else ["CREATE SCHEMA IF NOT EXISTS " ++ Ident.delimit s]
  | none => []

theorem eq_of_mem_schemaEnsured {schema : Option String} {s : String}
    (h : s ∈ schemaEnsured schema) : schemaEnsured schema = [s] := by
  unfold schemaEnsured at h ⊢
  split
  · split
    · simp_all
    · simp_all
  · simp_all

namespace Generator

variable (g : Generator) (model : Option DatabaseModel)

/-! ## The statements of the types created -/

/-- The statement creates the type of the key, named by its resolved name. -/
def CreatesType (k : Option String × String) (s : String) : Prop :=
  s.startsWith ("CREATE TYPE " ++ g.objectName model k.1 k.2 ++ " AS ")

/-- The statements creating the types of the keys, in order, each right after the statements
    that ensure its resolved schema. -/
inductive TypeBlocks : List (Option String × String) → List String → Prop
  | nil : TypeBlocks [] []
  | cons {k : Option String × String} {t : String} {ks : List (Option String × String)}
      {ss : List String} :
      g.CreatesType model k t → TypeBlocks ks ss →
      TypeBlocks (k :: ks) (schemaEnsured (g.objectSchema model k.1) ++ t :: ss)

/-- What the statements of a database alteration are: the creations of the types new to the
    list, in order, each right after the statement ensuring its schema when that is not
    `public`; the drops of the types gone, by resolved name; one creation per extension; and
    nothing else. -/
structure AltersTypes (old new : DatabaseObjects) (stmts : List String) : Prop where
  created : List.Forall₂ (g.CreatesType model) (addedTypes old new)
    (stmts.filter fun s => s.startsWith "CREATE TYPE ")
  ensured : ∀ k ∈ addedTypes old new, ∀ s ∈ schemaEnsured (g.objectSchema model k.1),
    ∃ t, g.CreatesType model k t ∧ [s, t] <:+: stmts
  schemas : (stmts.filter fun s => s.startsWith "CREATE SCHEMA ") =
    (addedTypes old new).flatMap fun k => schemaEnsured (g.objectSchema model k.1)
  dropped : (stmts.filter fun s => s.startsWith "DROP TYPE ") =
    (addedTypes new old).map fun k => "DROP TYPE " ++ g.objectName model k.1 k.2
  extensions : List.Forall₂
    (fun x s => ∃ rest, s = "CREATE EXTENSION IF NOT EXISTS " ++ Ident.delimit x.name ++ rest)
    new.extensions (stmts.filter fun s => s.startsWith "CREATE EXTENSION ")
  kinds : ∀ s ∈ stmts, s.startsWith "CREATE SCHEMA " ∨ s.startsWith "CREATE TYPE " ∨
    s.startsWith "DROP TYPE " ∨ s.startsWith "CREATE EXTENSION "

theorem statements_ensureSchema (s : String) :
    Emission.statements (ensureSchema s) = schemaEnsured (some s) := by
  unfold ensureSchema schemaEnsured
  by_cases h : s = "public"
  · simp [h]
  · simp [h, command, batch]

theorem statements_createEnum (e : EnumType) :
    ∃ t, g.CreatesType model e.key t ∧
      Emission.statements (g.createEnum model e) =
        schemaEnsured (g.objectSchema model e.schema) ++ [t] := by
  unfold createEnum
  dsimp only
  rw [Emission.statements_append]
  refine ⟨_, ?creates, congrArg₂ (· ++ ·) ?ensured rfl⟩
  case ensured =>
    split
    · rename_i s hs
      rw [hs, statements_ensureSchema]
    · rename_i hs
      rw [hs]
      rfl
  case creates =>
    rw [CreatesType, String.startsWith_string_iff]
    simp [objectName, EnumType.key]

theorem statements_createRange (r : RangeType) :
    ∃ t, g.CreatesType model r.key t ∧
      Emission.statements (g.createRange model r) =
        schemaEnsured (g.objectSchema model r.schema) ++ [t] := by
  unfold createRange
  dsimp only
  rw [Emission.statements_append]
  refine ⟨_, ?creates, congrArg₂ (· ++ ·) ?ensured rfl⟩
  case ensured =>
    split
    · rename_i s hs
      rw [hs, statements_ensureSchema]
    · rename_i hs
      rw [hs]
      rfl
  case creates =>
    rw [CreatesType, String.startsWith_string_iff]
    simp [objectName, RangeType.key]

theorem CreatesType.head {k : Option String × String} {t : String} (h : g.CreatesType model k t) :
    ∃ rest, t.toList = "CREATE TYPE ".toList ++ rest := by
  rw [CreatesType, String.startsWith_string_iff] at h
  obtain ⟨u, hu⟩ := h
  exact ⟨(g.objectName model k.1 k.2 ++ " AS ").toList ++ u, by rw [← hu]; simp⟩

end Generator

theorem schemaEnsured_head {schema : Option String} {s : String} (h : s ∈ schemaEnsured schema) :
    ∃ rest, s.toList = "CREATE SCHEMA IF NOT EXISTS ".toList ++ rest := by
  unfold schemaEnsured at h
  split at h
  · split at h
    · simp at h
    · rw [List.mem_singleton] at h
      exact ⟨_, h ▸ String.toList_append⟩
  · simp at h

namespace Generator

variable {g : Generator} {model : Option DatabaseModel}

namespace TypeBlocks

variable {ks : List (Option String × String)} {ss : List String}

theorem append {ks' : List (Option String × String)} {ss' : List String}
    (h : g.TypeBlocks model ks ss) (h' : g.TypeBlocks model ks' ss') :
    g.TypeBlocks model (ks ++ ks') (ss ++ ss') := by
  induction h with
  | nil => exact h'
  | cons ht _ ih =>
    rw [List.cons_append, List.append_assoc, List.cons_append]
    exact .cons ht ih

/-- The first words of the statements creating types, and of those ensuring schemas. -/
theorem heads (h : g.TypeBlocks model ks ss) : ∀ s ∈ ss,
    (∃ rest, s.toList = "CREATE SCHEMA IF NOT EXISTS ".toList ++ rest) ∨
    ∃ rest, s.toList = "CREATE TYPE ".toList ++ rest := by
  induction h with
  | nil => simp
  | cons ht _ ih =>
    intro s hs
    rcases List.mem_append.1 hs with hs | hs
    · exact .inl (schemaEnsured_head hs)
    · rcases List.mem_cons.1 hs with rfl | hs
      · exact .inr ht.head
      · exact ih s hs

/-- The statements creating types are one per key, in order. -/
theorem filter_createType (h : g.TypeBlocks model ks ss) :
    List.Forall₂ (g.CreatesType model) ks (ss.filter fun s => s.startsWith "CREATE TYPE ") := by
  induction h with
  | nil => exact .nil
  | cons ht _ ih =>
    obtain ⟨rest, hr⟩ := ht.head
    have hty : _ = true := startsWith_of_head (p := "CREATE TYPE ") hr (List.prefix_refl _)
    rw [List.filter_append,
      filter_of_heads_eq_nil (fun _ => schemaEnsured_head) (by simp) (by simp),
      List.nil_append, List.filter_cons, if_pos hty]
    exact .cons ht ih

/-- The statements ensuring schemas are those of the keys, in order. -/
theorem filter_createSchema (h : g.TypeBlocks model ks ss) :
    (ss.filter fun s => s.startsWith "CREATE SCHEMA ") =
      ks.flatMap fun k => schemaEnsured (g.objectSchema model k.1) := by
  induction h with
  | nil => rfl
  | cons ht _ ih =>
    obtain ⟨rest, hr⟩ := ht.head
    have hty : _ = false :=
      startsWith_eq_false_of_head (p := "CREATE SCHEMA ") hr (by simp) (by simp)
    rw [List.filter_append, filter_of_heads_self (fun _ => schemaEnsured_head) (by simp),
      List.filter_cons, hty, ih, List.flatMap_cons]
    rfl

/-- No statement of the blocks starts with words that part from both of theirs. -/
theorem filter_eq_nil (h : g.TypeBlocks model ks ss) {p : String}
    (hp : ¬p.toList <+: "CREATE SCHEMA IF NOT EXISTS ".toList)
    (hh : ¬"CREATE SCHEMA IF NOT EXISTS ".toList <+: p.toList)
    (hp' : ¬p.toList <+: "CREATE TYPE ".toList) (hh' : ¬"CREATE TYPE ".toList <+: p.toList) :
    ss.filter (fun s => s.startsWith p) = [] := by
  rw [List.filter_eq_nil_iff]
  intro s hs
  rcases h.heads s hs with ⟨rest, hr⟩ | ⟨rest, hr⟩
  · rw [startsWith_eq_false_of_head hr hp hh]
    decide
  · rw [startsWith_eq_false_of_head hr hp' hh']
    decide

/-- Each statement ensuring a key's schema stands right before the statement creating it. -/
theorem ensured (h : g.TypeBlocks model ks ss) : ∀ k ∈ ks,
    ∀ s ∈ schemaEnsured (g.objectSchema model k.1),
      ∃ t, g.CreatesType model k t ∧ [s, t] <:+: ss := by
  induction h with
  | nil => simp
  | @cons k t ks ss ht _ ih =>
    intro k' hk' s hs
    rcases List.mem_cons.1 hk' with rfl | hk'
    · -- the block's own schema: one statement, right before the block's type
      refine ⟨t, ht, ?_⟩
      rw [eq_of_mem_schemaEnsured hs]
      exact ⟨[], ss, rfl⟩
    · obtain ⟨t', ht', hinf⟩ := ih k' hk' s hs
      exact ⟨t', ht', hinf.trans
        ((List.suffix_cons _ _).trans (List.suffix_append _ _)).isInfix⟩

end TypeBlocks

/-- Creating each of a list of types, each by a block of its ensured schema and its own
    statement, makes the blocks of their keys. -/
theorem typeBlocks_flatMap {α : Type} (l : List α) (key : α → Option String × String)
    (f : α → List String)
    (h : ∀ x ∈ l, ∃ t, g.CreatesType model (key x) t ∧
      f x = schemaEnsured (g.objectSchema model (key x).1) ++ [t]) :
    g.TypeBlocks model (l.map key) (l.flatMap f) := by
  induction l with
  | nil => exact .nil
  | cons x xs ih =>
    obtain ⟨t, ht, hf⟩ := h x (List.mem_cons_self ..)
    rw [List.map_cons, List.flatMap_cons, hf, List.append_assoc, List.singleton_append]
    exact .cons ht (ih fun y hy => h y (List.mem_cons_of_mem x hy))

variable (g model)

/-- The statements of the enums created: the blocks of their keys. -/
theorem typeBlocks_createEnums (l : List EnumType) :
    g.TypeBlocks model (l.map EnumType.key)
      (Emission.statements (l.flatMap (g.createEnum model))) := by
  rw [Emission.statements_flatMap]
  exact typeBlocks_flatMap l EnumType.key _ fun e _ => g.statements_createEnum model e

theorem typeBlocks_createRanges (l : List RangeType) :
    g.TypeBlocks model (l.map RangeType.key)
      (Emission.statements (l.flatMap (g.createRange model))) := by
  rw [Emission.statements_flatMap]
  exact typeBlocks_flatMap l RangeType.key _ fun r _ => g.statements_createRange model r

theorem statements_dropTypes {α : Type} (l : List α) (key : α → Option String × String) :
    Emission.statements (l.map fun x => g.dropType model (key x).1 (key x).2) =
      (l.map key).map fun k => "DROP TYPE " ++ g.objectName model k.1 k.2 := by
  induction l with
  | nil => rfl
  | cons x xs ih =>
    rw [List.map_cons, Emission.statements_cons, ih]
    rfl

/-- One statement per extension, in order, each naming it. -/
theorem forall₂_createExtensions (l : List Extension) :
    List.Forall₂
      (fun x s => ∃ rest, s = "CREATE EXTENSION IF NOT EXISTS " ++ Ident.delimit x.name ++ rest)
      l (Emission.statements (l.map createExtension)) := by
  induction l with
  | nil => exact .nil
  | cons x xs ih =>
    rw [List.map_cons, Emission.statements_cons]
    exact .cons ⟨_, String.append_assoc⟩ ih

theorem dropTypes_heads (ks : List (Option String × String)) :
    ∀ s ∈ ks.map (fun k => "DROP TYPE " ++ g.objectName model k.1 k.2),
      ∃ rest, s.toList = "DROP TYPE ".toList ++ rest := by
  intro s hs
  obtain ⟨k, -, rfl⟩ := List.mem_map.1 hs
  exact ⟨_, String.toList_append⟩

theorem createExtensions_heads {l : List Extension} {X : List String}
    (h : List.Forall₂
      (fun x s => ∃ rest, s = "CREATE EXTENSION IF NOT EXISTS " ++ Ident.delimit x.name ++ rest)
      l X) :
    ∀ s ∈ X, ∃ rest, s.toList = "CREATE EXTENSION IF NOT EXISTS ".toList ++ rest := by
  induction h with
  | nil => simp
  | @cons x t xs ts ht _ ih =>
    intro s hmem
    rcases List.mem_cons.1 hmem with rfl | hmem
    · obtain ⟨rest, rfl⟩ := ht
      exact ⟨(Ident.delimit x.name ++ rest).toList, by simp [String.toList_append]⟩
    · exact ih s hmem

variable {g model}

/-- The statements of an alteration, read from its runs: the types created, the enums dropped,
    the ranges created, the ranges dropped, the extensions. -/
theorem altersTypes_of_runs {old new : DatabaseObjects} {E R X : List String}
    {kE kR dE dR : List (Option String × String)}
    (hE : g.TypeBlocks model kE E) (hR : g.TypeBlocks model kR R)
    (hX : List.Forall₂
      (fun x s => ∃ rest, s = "CREATE EXTENSION IF NOT EXISTS " ++ Ident.delimit x.name ++ rest)
      new.extensions X)
    (hadded : addedTypes old new = kE ++ kR) (hdropped : addedTypes new old = dE ++ dR) :
    g.AltersTypes model old new
      (E ++ dE.map (fun k => "DROP TYPE " ++ g.objectName model k.1 k.2) ++ R ++
        dR.map (fun k => "DROP TYPE " ++ g.objectName model k.1 k.2) ++ X) := by
  have hDE := g.dropTypes_heads model dE
  have hDR := g.dropTypes_heads model dR
  have hXh := createExtensions_heads hX
  refine ⟨?created, ?ensured, ?schemas, ?dropped, ?extensions, ?kinds⟩
  case created =>
    -- the type creations are the blocks' own
    simp only [List.filter_append,
      filter_of_heads_eq_nil (p := "CREATE TYPE ") hDE (by simp) (by simp),
      filter_of_heads_eq_nil (p := "CREATE TYPE ") hDR (by simp) (by simp),
      filter_of_heads_eq_nil (p := "CREATE TYPE ") hXh (by simp) (by simp), List.append_nil]
    rw [← List.filter_append, hadded]
    exact (hE.append hR).filter_createType
  case ensured =>
    intro k hk s hs
    rw [hadded] at hk
    rcases List.mem_append.1 hk with hk | hk
    · -- the enums' blocks open the statements
      obtain ⟨t, ht, hinf⟩ := hE.ensured k hk s hs
      exact ⟨t, ht, hinf.trans ((((List.prefix_append _ _).trans (List.prefix_append _ _)).trans
        (List.prefix_append _ _)).trans (List.prefix_append _ _)).isInfix⟩
    · -- the ranges' blocks stand between the two runs of drops
      obtain ⟨t, ht, hinf⟩ := hR.ensured k hk s hs
      exact ⟨t, ht, hinf.trans
        ((List.infix_append _ _ _).trans (List.prefix_append _ _).isInfix)⟩
  case schemas =>
    simp only [List.filter_append, hE.filter_createSchema, hR.filter_createSchema,
      filter_of_heads_eq_nil (p := "CREATE SCHEMA ") hDE (by simp) (by simp),
      filter_of_heads_eq_nil (p := "CREATE SCHEMA ") hDR (by simp) (by simp),
      filter_of_heads_eq_nil (p := "CREATE SCHEMA ") hXh (by simp) (by simp), List.append_nil]
    rw [hadded, List.flatMap_append]
  case dropped =>
    simp only [List.filter_append,
      hE.filter_eq_nil (p := "DROP TYPE ") (by simp) (by simp) (by simp) (by simp),
      hR.filter_eq_nil (p := "DROP TYPE ") (by simp) (by simp) (by simp) (by simp),
      filter_of_heads_self (p := "DROP TYPE ") hDE (by simp),
      filter_of_heads_self (p := "DROP TYPE ") hDR (by simp),
      filter_of_heads_eq_nil (p := "DROP TYPE ") hXh (by simp) (by simp),
      List.nil_append, List.append_nil]
    rw [hdropped, List.map_append]
  case extensions =>
    simp only [List.filter_append,
      hE.filter_eq_nil (p := "CREATE EXTENSION ") (by simp) (by simp) (by simp) (by simp),
      hR.filter_eq_nil (p := "CREATE EXTENSION ") (by simp) (by simp) (by simp) (by simp),
      filter_of_heads_eq_nil (p := "CREATE EXTENSION ") hDE (by simp) (by simp),
      filter_of_heads_eq_nil (p := "CREATE EXTENSION ") hDR (by simp) (by simp),
      filter_of_heads_self (p := "CREATE EXTENSION ") hXh (by simp), List.nil_append]
    exact hX
  case kinds =>
    intro s hs
    simp only [List.mem_append] at hs
    rcases hs with (((hs | hs) | hs) | hs) | hs
    · rcases hE.heads s hs with ⟨rest, hr⟩ | ⟨rest, hr⟩
      · exact .inl (startsWith_of_head hr (by simp))
      · exact .inr (.inl (startsWith_of_head hr (by simp)))
    · obtain ⟨rest, hr⟩ := hDE s hs
      exact .inr (.inr (.inl (startsWith_of_head hr (by simp))))
    · rcases hR.heads s hs with ⟨rest, hr⟩ | ⟨rest, hr⟩
      · exact .inl (startsWith_of_head hr (by simp))
      · exact .inr (.inl (startsWith_of_head hr (by simp)))
    · obtain ⟨rest, hr⟩ := hDR s hs
      exact .inr (.inr (.inl (startsWith_of_head hr (by simp))))
    · obtain ⟨rest, hr⟩ := hXh s hs
      exact .inr (.inr (.inr (startsWith_of_head hr (by simp))))

variable (g model)

/-- The inversion lemma of success: with no enum and no range changed under its key, the
    alteration succeeds, and its statements are those `AltersTypes` describes. -/
theorem alterDatabase_eq_ok {old new : DatabaseObjects} (hE : ¬EnumAltered old new)
    (hR : ¬RangeAltered old new) :
    ∃ es, g.alterDatabase model old new = .ok es ∧
      g.AltersTypes model old new (Emission.statements es) := by
  have hfE := (find?_alters_eq_none EnumType.key old.enums new.enums).2 hE
  have hfR := (find?_alters_eq_none RangeType.key old.ranges new.ranges).2 hR
  unfold alterDatabase
  dsimp only
  rw [hfE, hfR]
  refine ⟨_, rfl, ?_⟩
  rw [filter_not_any_key, filter_not_any_key, filter_not_any_key, filter_not_any_key]
  -- the drops, read by their keys
  have hdE : Emission.statements ((keyedAdded EnumType.key new.enums old.enums).map
      fun e => g.dropType model e.schema e.name) = _ :=
    g.statements_dropTypes model (keyedAdded EnumType.key new.enums old.enums) EnumType.key
  have hdR : Emission.statements ((keyedAdded RangeType.key new.ranges old.ranges).map
      fun r => g.dropType model r.schema r.name) = _ :=
    g.statements_dropTypes model (keyedAdded RangeType.key new.ranges old.ranges) RangeType.key
  have hcut : Emission.statements [.cut false] = [] := rfl
  simp only [Emission.statements_append, hdE, hdR, hcut, List.append_nil]
  exact altersTypes_of_runs (g.typeBlocks_createEnums model _) (g.typeBlocks_createRanges model _)
    (forall₂_createExtensions _) rfl rfl

/-- The inversion lemma of failure: an enum changed under its key, named; or, with no enum
    changed, a range changed under its key, named. -/
theorem alterDatabase_eq_error {old new : DatabaseObjects} {err : MigrationError}
    (h : g.alterDatabase model old new = .error err) :
    (∃ e ∈ new.enums, Alters EnumType.key old.enums e ∧
      err = .enumAlteration (g.objectName model e.schema e.name)) ∨
    (¬EnumAltered old new ∧ ∃ r ∈ new.ranges, Alters RangeType.key old.ranges r ∧
      err = .rangeAlteration (g.objectName model r.schema r.name)) := by
  unfold alterDatabase at h
  dsimp only at h
  split at h
  · rename_i e hfind
    obtain ⟨he, ha⟩ := alters_of_find?_eq_some EnumType.key old.enums new.enums hfind
    cases h
    exact .inl ⟨e, he, ha, rfl⟩
  · rename_i r hnone hfind
    obtain ⟨hr, ha⟩ := alters_of_find?_eq_some RangeType.key old.ranges new.ranges hfind
    have hE := (find?_alters_eq_none EnumType.key old.enums new.enums).1 hnone
    cases h
    exact .inr ⟨hE, r, hr, ha, rfl⟩
  · cases h

theorem alterDatabase_of_enumAltered {old new : DatabaseObjects} (hE : EnumAltered old new) :
    ∃ n, g.alterDatabase model old new = .error (.enumAlteration n) := by
  obtain ⟨e, hfind⟩ := exists_find?_alters EnumType.key old.enums new.enums hE
  unfold alterDatabase
  dsimp only
  rw [hfind]
  exact ⟨_, rfl⟩

theorem alterDatabase_of_rangeAltered {old new : DatabaseObjects} (hE : ¬EnumAltered old new)
    (hR : RangeAltered old new) :
    ∃ n, g.alterDatabase model old new = .error (.rangeAlteration n) := by
  -- no enum is found changed, and the search for a changed range finds one
  have hfE := (find?_alters_eq_none EnumType.key old.enums new.enums).2 hE
  obtain ⟨r, hfind⟩ := exists_find?_alters RangeType.key old.ranges new.ranges hR
  unfold alterDatabase
  dsimp only
  rw [hfE, hfind]
  exact ⟨_, rfl⟩

/-- Altering a database's types is the difference of the two declaration lists by key: it
    fails exactly when an enum, or else a range, is kept under its key but changed, naming it
    by its resolved name; otherwise its statements create what is new, each in a schema
    ensured right before, drop what is gone, create the extensions, and do nothing else. -/
theorem alterDatabase_keyed_difference (g : Generator) (model : Option DatabaseModel)
    (old new : DatabaseObjects) :
    ((∃ n, g.alterDatabase model old new = .error (.enumAlteration n)) ↔
      EnumAltered old new) ∧
    ((∃ n, g.alterDatabase model old new = .error (.rangeAlteration n)) ↔
      ¬EnumAltered old new ∧ RangeAltered old new) ∧
    (∀ err, g.alterDatabase model old new = .error err →
      (∃ e ∈ new.enums, Alters EnumType.key old.enums e ∧
        err = .enumAlteration (g.objectName model e.schema e.name)) ∨
      (∃ r ∈ new.ranges, Alters RangeType.key old.ranges r ∧
        err = .rangeAlteration (g.objectName model r.schema r.name))) ∧
    (¬EnumAltered old new → ¬RangeAltered old new →
      ∃ es, g.alterDatabase model old new = .ok es ∧
        g.AltersTypes model old new (Emission.statements es)) := by
  refine ⟨⟨fun ⟨n, h⟩ => ?_, g.alterDatabase_of_enumAltered model⟩,
    ⟨fun ⟨n, h⟩ => ?_, fun ⟨hE, hR⟩ => g.alterDatabase_of_rangeAltered model hE hR⟩,
    fun err h => ?_, g.alterDatabase_eq_ok model⟩
  · -- a failure naming an enum comes from a changed enum
    rcases g.alterDatabase_eq_error model h with ⟨e, he, ha, _⟩ | ⟨_, _, _, _, hn⟩
    · exact ⟨e, he, ha⟩
    · cases hn
  · -- a failure naming a range comes from a changed range, no enum changed
    rcases g.alterDatabase_eq_error model h with ⟨_, _, _, hn⟩ | ⟨hE, r, hr, ha, _⟩
    · cases hn
    · exact ⟨hE, r, hr, ha⟩
  · rcases g.alterDatabase_eq_error model h with he | ⟨-, hr⟩
    · exact .inl he
    · exact .inr hr

/-- Two moods, in no schema and in `some_schema`, replacing an old one: both are created, the
    second after its schema, and the old one is dropped. -/
theorem moods_altered_by_key :
    let old : DatabaseObjects := { enums := [{ name := "old_mood", labels := ["a"] }] }
    let new : DatabaseObjects := { enums := [{ name := "mood", labels := ["happy", "sad"] },
      { schema := some "some_schema", name := "mood", labels := ["happy", "sad"] }] }
    ¬EnumAltered old new ∧ ¬RangeAltered old new ∧
      ∃ es, ({} : Generator).alterDatabase none old new = .ok es ∧
        ({} : Generator).AltersTypes none old new (Emission.statements es) := by
  intro old new
  have hE : ¬EnumAltered old new := by simp [old, new, EnumAltered, Alters, EnumType.key]
  have hR : ¬RangeAltered old new := by simp [old, new, RangeAltered]
  exact ⟨hE, hR, (alterDatabase_keyed_difference {} none old new).2.2.2 hE hR⟩

/-- An enum without a schema and one in the default schema `app` resolve to one name, yet
    they are two keys: changing the labels this way drops and recreates the type instead of
    failing. -/
theorem resolved_name_recreated :
    let g : Generator := { defaultSchema := some "app" }
    let old : DatabaseObjects := { enums := [{ name := "mood", labels := ["a"] }] }
    let new : DatabaseObjects :=
      { enums := [{ schema := some "app", name := "mood", labels := ["a", "b"] }] }
    g.objectName none none "mood" = g.objectName none (some "app") "mood" ∧
    g.alterDatabase none old new = .ok [.statement "CREATE SCHEMA IF NOT EXISTS app", .cut false,
      .statement "CREATE TYPE app.mood AS ENUM ('a', 'b')", .statement "DROP TYPE app.mood",
      .cut false] := by
  exact ⟨rfl, rfl⟩

end Generator

end PgMigrate
