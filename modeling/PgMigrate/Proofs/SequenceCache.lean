import Mathlib.Data.Finset.Card
import PgMigrate.Proofs.StorageChanges
import PgMigrate.Migration.HiLo
/-
  One HiLo state per sequence key, the first stored winning.

  The program: `HiLoPool.stateFor` looks a sequence's key (`schema.name`, or `name`) up in the
  cache; a key seen before gives the slot stored for it, a new key gets a fresh state, sized by
  that sequence's increment, in a new slot that the cache then remembers.

  The specification (`stateFor_shares_by_key`): over any run of calls from an empty pool, two
  calls answer the same slot exactly when their sequences have the same key; the state in a
  call's slot is the fresh state of the first sequence of the run with that key, so its block
  size is that sequence's increment (at least one); and the cache holds as many entries as the
  run has distinct keys.  The key tells sequences apart whose names have no dot; a dotted name
  can share its key with a schema-qualified one (`dotted_name_shares_state`).

  The crux is the invariant `Cached`: distinct keys, distinct slots within the pool, the keys
  those of the sequences seen, each slot holding the state of the first sequence seen with its
  key.  `Cached.stateFor` is the step lemma, `Cached.statesFor` the run lemma.
-/
namespace PgMigrate

/-! ## The key -/

theorem sequenceKey_toList (q : Sequence) :
    (sequenceKey q).toList =
      match q.schema with
      | some s => s.toList ++ '.' :: q.name.toList
      | none => q.name.toList := by
  unfold sequenceKey
  cases q.schema <;> simp

/-- Text cut at its last dot: the parts before and after it are determined. -/
theorem eq_of_append_dot {a b a' b' : List Char} (hb : '.' ∉ b) (hb' : '.' ∉ b')
    (h : a ++ '.' :: b = a' ++ '.' :: b') : a = a' ∧ b = b' := by
  -- read from the end, the first dot is the one before the name
  have hrev : b.reverse ++ '.' :: a.reverse = b'.reverse ++ '.' :: a'.reverse := by
    simpa using congrArg List.reverse h
  have hlen : b.length = b'.length := by
    by_contra hne
    rcases Nat.lt_or_gt_of_ne hne with hlt | hlt
    · -- the longer name would hold the dot that follows the shorter one
      have hdot : b'.reverse[b.length]? = some '.' := by
        have := congrArg (·[b.length]?) hrev
        simp only [List.getElem?_append_right (by simp : b.reverse.length ≤ b.length),
          List.length_reverse, Nat.sub_self, List.getElem?_cons_zero] at this
        rw [List.getElem?_append_left (by simpa using hlt)] at this
        exact this.symm
      exact hb' (List.mem_reverse.1 (List.mem_of_getElem? hdot))
    · have hdot : b.reverse[b'.length]? = some '.' := by
        have := congrArg (·[b'.length]?) hrev
        simp only [List.getElem?_append_right (by simp : b'.reverse.length ≤ b'.length),
          List.length_reverse, Nat.sub_self, List.getElem?_cons_zero] at this
        rw [List.getElem?_append_left (by simpa using hlt)] at this
        exact this
      exact hb (List.mem_reverse.1 (List.mem_of_getElem? hdot))
  obtain ⟨hbb, hrest⟩ := List.append_inj hrev (by simpa using hlen)
  have ha : a.reverse = a'.reverse := List.cons_injective hrest
  exact ⟨List.reverse_injective ha, List.reverse_injective hbb⟩

/-- Sequences whose names have no dot have the same key exactly when they have the same schema
    and name. -/
theorem sequenceKey_eq_iff {q q' : Sequence} (hq : '.' ∉ q.name.toList)
    (hq' : '.' ∉ q'.name.toList) :
    sequenceKey q = sequenceKey q' ↔ q.schema = q'.schema ∧ q.name = q'.name := by
  constructor
  · intro h
    have hl := congrArg String.toList h
    rw [sequenceKey_toList, sequenceKey_toList] at hl
    cases hs : q.schema <;> cases hs' : q'.schema <;> simp only [hs, hs'] at hl
    case none.none => exact ⟨rfl, String.toList_inj.1 hl⟩
    case none.some s' => exact absurd (hl ▸ List.mem_append_right _ List.mem_cons_self) hq
    case some.none s => exact absurd (hl ▸ List.mem_append_right _ List.mem_cons_self) hq'
    case some.some s s' =>
      obtain ⟨hss, hnn⟩ := eq_of_append_dot hq hq' hl
      exact ⟨congrArg some (String.toList_inj.1 hss), String.toList_inj.1 hnn⟩
  · rintro ⟨hs, hn⟩
    unfold sequenceKey
    rw [hs, hn]

namespace HiLoPool

/-! ## Runs of calls -/

/-- Calls in a row, one per sequence: the pool after them and the slot each call answered. -/
def statesFor (p : HiLoPool) : List Sequence → HiLoPool × List Nat
  | [] => (p, [])
  | q :: qs =>
    let r := (p.stateFor q).1.statesFor qs
    (r.1, (p.stateFor q).2 :: r.2)

/-- The first sequence seen with a key. -/
def firstWith (seen : List Sequence) (key : String) : Option Sequence :=
  seen.find? fun q => sequenceKey q == key

/-- What the calls on the sequences `seen` leave in the pool: distinct keys, each with a slot
    of its own inside the pool, the keys those of the sequences seen, and each slot holding the
    fresh state of the first sequence seen with its key. -/
structure Cached (p : HiLoPool) (seen : List Sequence) : Prop where
  keys_nodup : (p.cache.map Prod.fst).Nodup
  slots_nodup : (p.cache.map Prod.snd).Nodup
  slot_lt : ∀ e ∈ p.cache, e.2 < p.states.length
  mem_keys : ∀ key, key ∈ p.cache.map Prod.fst ↔ ∃ q ∈ seen, sequenceKey q = key
  state_eq : ∀ e ∈ p.cache, ∃ q, firstWith seen e.1 = some q ∧
    p.states[e.2]? = some (HiLoState.forSequence q)

theorem cached_empty : Cached {} [] where
  keys_nodup := List.nodup_nil
  slots_nodup := List.nodup_nil
  slot_lt := by simp
  mem_keys := by simp
  state_eq := by simp

/-- The first sequence seen with a key stays the first when more are seen. -/
theorem firstWith_append {seen : List Sequence} {key : String} {q : Sequence}
    (h : firstWith seen key = some q) (more : List Sequence) :
    firstWith (seen ++ more) key = some q := by
  rw [firstWith, List.find?_append, ← firstWith, h]
  rfl

/-- A key seen before: the call answers its slot and the pool stays. -/
theorem stateFor_of_lookup {p : HiLoPool} {q : Sequence} {slot : Nat}
    (h : p.cache.lookup (sequenceKey q) = some slot) : p.stateFor q = (p, slot) := by
  simp [stateFor, h]

/-- A new key: its sequence's fresh state goes in a new slot after the others, and the cache
    remembers it last. -/
theorem stateFor_of_lookup_none {p : HiLoPool} {q : Sequence}
    (h : p.cache.lookup (sequenceKey q) = none) :
    p.stateFor q =
      ({ states := p.states ++ [HiLoState.forSequence q],
         cache := p.cache ++ [(sequenceKey q, p.states.length)] }, p.states.length) := by
  simp [stateFor, h, add]

/-- A key the cache gives a slot keeps it through a call. -/
theorem lookup_stateFor {p : HiLoPool} {key : String} {slot : Nat}
    (h : p.cache.lookup key = some slot) (q : Sequence) :
    (p.stateFor q).1.cache.lookup key = some slot := by
  cases hl : p.cache.lookup (sequenceKey q) with
  | some s => rw [stateFor_of_lookup hl, h]
  | none =>
    rw [stateFor_of_lookup_none hl]
    simp only [List.lookup_append, h]
    rfl

/-- A key the cache gives a slot keeps it through calls in a row. -/
theorem lookup_statesFor {p : HiLoPool} {key : String} {slot : Nat}
    (h : p.cache.lookup key = some slot) (qs : List Sequence) :
    (p.statesFor qs).1.cache.lookup key = some slot := by
  induction qs generalizing p with
  | nil => exact h
  | cons q qs ih => exact ih (lookup_stateFor h q)

namespace Cached

variable {p : HiLoPool} {seen : List Sequence}

/-- The slot the cache gives a key holds the state of the first sequence seen with it. -/
theorem lookup_state (hc : Cached p seen) {key : String} {slot : Nat}
    (h : p.cache.lookup key = some slot) :
    ∃ q, firstWith seen key = some q ∧ p.states[slot]? = some (HiLoState.forSequence q) :=
  hc.state_eq (key, slot) ((mem_iff_lookup hc.keys_nodup).2 h)

/-- Distinct keys have distinct slots. -/
theorem key_eq_of_lookup (hc : Cached p seen) {key key' : String} {slot : Nat}
    (h : p.cache.lookup key = some slot) (h' : p.cache.lookup key' = some slot) :
    key = key' := by
  have hm := (mem_iff_lookup hc.keys_nodup).2 h
  have hm' := (mem_iff_lookup hc.keys_nodup).2 h'
  have heq := List.inj_on_of_nodup_map hc.slots_nodup hm hm' rfl
  exact congrArg Prod.fst heq

/-- The step lemma: one call keeps the invariant, with its sequence seen last, and the cache
    then gives the sequence's key the slot the call answered. -/
theorem stateFor (hc : Cached p seen) (q : Sequence) :
    Cached (p.stateFor q).1 (seen ++ [q]) ∧
      (p.stateFor q).1.cache.lookup (sequenceKey q) = some (p.stateFor q).2 := by
  cases hl : p.cache.lookup (sequenceKey q) with
  | some slot =>
    -- a key seen before: nothing changes, and the key's first sequence stays the first
    rw [stateFor_of_lookup hl]
    refine ⟨⟨hc.keys_nodup, hc.slots_nodup, hc.slot_lt, ?_, ?_⟩, hl⟩
    · intro key
      rw [hc.mem_keys key]
      constructor
      · rintro ⟨q', hq', rfl⟩
        exact ⟨q', List.mem_append_left _ hq', rfl⟩
      · rintro ⟨q', hq', rfl⟩
        rcases List.mem_append.1 hq' with hs | hs
        · exact ⟨q', hs, rfl⟩
        · rw [List.mem_singleton.1 hs, ← hc.mem_keys]
          exact List.mem_map.2 ⟨_, (mem_iff_lookup hc.keys_nodup).2 hl, rfl⟩
    · intro e he
      obtain ⟨q', hfirst, hstate⟩ := hc.state_eq e he
      exact ⟨q', firstWith_append hfirst [q], hstate⟩
  | none =>
    -- a new key: a new slot, past every slot stored, for the first sequence with the key
    rw [stateFor_of_lookup_none hl]
    have hnew : sequenceKey q ∉ p.cache.map Prod.fst := lookup_eq_none_iff_not_mem.1 hl
    have hfresh : p.states.length ∉ p.cache.map Prod.snd := by
      intro hm
      obtain ⟨e, he, hslot⟩ := List.mem_map.1 hm
      exact absurd (hc.slot_lt e he) (by omega)
    have hfirst : firstWith (seen ++ [q]) (sequenceKey q) = some q := by
      have hnone : firstWith seen (sequenceKey q) = none := by
        rw [firstWith, List.find?_eq_none]
        intro q' hq' hkey
        exact hnew ((hc.mem_keys _).2 ⟨q', hq', by simpa using hkey⟩)
      rw [firstWith, List.find?_append, ← firstWith, hnone]
      simp
    refine ⟨⟨?_, ?_, ?_, ?_, ?_⟩, ?_⟩
    · rw [List.map_append, List.map_singleton, List.nodup_append]
      refine ⟨hc.keys_nodup, List.nodup_singleton _, fun a ha b hb => ?_⟩
      rw [List.mem_singleton.1 hb]
      rintro rfl
      exact hnew ha
    · rw [List.map_append, List.map_singleton, List.nodup_append]
      refine ⟨hc.slots_nodup, List.nodup_singleton _, fun a ha b hb => ?_⟩
      rw [List.mem_singleton.1 hb]
      rintro rfl
      exact hfresh ha
    · intro e he
      rcases List.mem_append.1 he with he | he
      · have := hc.slot_lt e he
        simp only [List.length_append, List.length_singleton]
        omega
      · simp [List.mem_singleton.1 he]
    · intro key
      simp only [List.map_append, List.map_singleton, List.mem_append, List.mem_singleton,
        hc.mem_keys, List.mem_append, List.mem_singleton]
      constructor
      · rintro (⟨q', hq', rfl⟩ | rfl)
        · exact ⟨q', Or.inl hq', rfl⟩
        · exact ⟨q, Or.inr rfl, rfl⟩
      · rintro ⟨q', hq' | rfl, rfl⟩
        · exact Or.inl ⟨q', hq', rfl⟩
        · exact Or.inr rfl
    · intro e he
      rcases List.mem_append.1 he with he | he
      · obtain ⟨q', hfirst', hstate⟩ := hc.state_eq e he
        refine ⟨q', firstWith_append hfirst' [q], ?_⟩
        rw [List.getElem?_append_left (hc.slot_lt e he), hstate]
      · rw [List.mem_singleton.1 he]
        exact ⟨q, hfirst, List.getElem?_concat_length⟩
    · rw [List.lookup_append, lookup_eq_none_iff_not_mem.2 hnew]
      simp

/-- The run lemma: calls in a row keep the invariant, with their sequences seen after the
    others, and the cache then gives each call's key the slot that call answered. -/
theorem statesFor (hc : Cached p seen) (qs : List Sequence) :
    Cached (p.statesFor qs).1 (seen ++ qs) ∧
      List.Forall₂ (fun q slot => (p.statesFor qs).1.cache.lookup (sequenceKey q) = some slot)
        qs (p.statesFor qs).2 := by
  induction qs generalizing p seen with
  | nil => simpa [HiLoPool.statesFor] using hc
  | cons q qs ih =>
    obtain ⟨hstep, hlookup⟩ := hc.stateFor q
    obtain ⟨hrun, hslots⟩ := ih hstep
    rw [List.append_assoc, List.singleton_append] at hrun
    exact ⟨hrun, List.Forall₂.cons (lookup_statesFor hlookup qs) hslots⟩

/-- The cache holds one entry per distinct key of the sequences seen. -/
theorem cache_length (hc : Cached p seen) :
    p.cache.length = (seen.map sequenceKey).toFinset.card := by
  have hkeys : (p.cache.map Prod.fst).toFinset = (seen.map sequenceKey).toFinset := by
    ext key
    rw [List.mem_toFinset, List.mem_toFinset, hc.mem_keys, List.mem_map]
  rw [← List.length_map (f := Prod.fst), ← List.toFinset_card_of_nodup hc.keys_nodup, hkeys]

end Cached

/-! ## Runs from an empty pool -/

/-- Each call of a run from an empty pool answers the slot the cache ends up giving its key. -/
theorem statesFor_slot (qs : List Sequence) {i : Nat} (hi : i < qs.length) :
    ∃ slot, (({} : HiLoPool).statesFor qs).2[i]? = some slot ∧
      (({} : HiLoPool).statesFor qs).1.cache.lookup (sequenceKey qs[i]) = some slot := by
  have hslots := (cached_empty.statesFor qs).2
  have hlen : i < (({} : HiLoPool).statesFor qs).2.length := hslots.length_eq ▸ hi
  exact ⟨_, List.getElem?_eq_getElem hlen, hslots.get hi hlen⟩

/-- HiLo states are shared by sequence key, the first stored winning.  Over any run of calls
    from an empty pool, one per sequence: each call answers a slot; two calls answer the same
    slot exactly when their sequences have the same key (`schema.name`, or `name`), which for
    names without a dot is having the same schema and name; the state in a call's slot is the
    fresh state of the first sequence of the run with that key, its block size that sequence's
    increment, at least one; and the cache holds one entry per distinct key of the run. -/
theorem stateFor_shares_by_key (qs : List Sequence) :
    let run := ({} : HiLoPool).statesFor qs
    run.2.length = qs.length ∧
    (∀ i j (hi : i < qs.length) (hj : j < qs.length),
      run.2[i]? = run.2[j]? ↔ sequenceKey qs[i] = sequenceKey qs[j]) ∧
    (∀ i (hi : i < qs.length), ∃ slot first, run.2[i]? = some slot ∧
      firstWith qs (sequenceKey qs[i]) = some first ∧
      run.1.states[slot]? = some (HiLoState.forSequence first) ∧
      (HiLoState.forSequence first).blockSize = max first.incrementBy 1) ∧
    run.1.cache.length = (qs.map sequenceKey).toFinset.card ∧
    (∀ q q' : Sequence, '.' ∉ q.name.toList → '.' ∉ q'.name.toList →
      (sequenceKey q = sequenceKey q' ↔ q.schema = q'.schema ∧ q.name = q'.name)) := by
  intro run
  have hc : Cached run.1 qs := by simpa using (cached_empty.statesFor qs).1
  refine ⟨(cached_empty.statesFor qs).2.length_eq.symm, ?_, ?_, hc.cache_length,
    fun q q' hq hq' => sequenceKey_eq_iff hq hq'⟩
  · intro i j hi hj
    obtain ⟨s, hs, hls⟩ := statesFor_slot qs hi
    obtain ⟨s', hs', hls'⟩ := statesFor_slot qs hj
    rw [hs, hs', Option.some.injEq]
    constructor
    · -- one slot for two keys: the cache holds distinct slots
      rintro rfl
      exact hc.key_eq_of_lookup hls hls'
    · intro hkey
      rw [hkey, hls'] at hls
      exact (Option.some.inj hls).symm
  · intro i hi
    obtain ⟨s, hs, hls⟩ := statesFor_slot qs hi
    obtain ⟨first, hfirst, hstate⟩ := hc.lookup_state hls
    exact ⟨s, first, hs, hfirst, hstate, rfl⟩

/-- A sequence named `a.b` without a schema and the sequence `b` of schema `a` have one key: the
    second call answers the first call's slot, whose state is sized by the first sequence, and
    the cache holds one entry for the two schema and name pairs. -/
theorem dotted_name_shares_state :
    let qs : List Sequence := [{ name := "a.b" }, { schema := some "a", name := "b", incrementBy := 5 }]
    let run := ({} : HiLoPool).statesFor qs
    (qs[0].schema, qs[0].name) ≠ (qs[1].schema, qs[1].name) ∧ run.2 = [0, 0] ∧
      run.1.cache.length = 1 ∧ run.1.states.map (·.blockSize) = [1] := by
  decide

end HiLoPool

end PgMigrate
