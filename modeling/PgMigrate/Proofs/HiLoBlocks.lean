import Mathlib.Data.List.Nodup
import PgMigrate.Migration.HiLo
/-
  A HiLo state hands out consecutive blocks of keys.

  The program: `HiLoState.nextValue` gives the next key of the current block.  When the block
  is used up (at the very first call too) it first runs its fetch for a new hi value, and the
  block becomes `hi, hi + 1, …`: as many keys as the block size, or as fit up to `maxKey`,
  where the block's end saturates.  A fetch that fails gives its error and leaves the state as
  it was, so the next call fetches again.

  The specification (`nextValue_hands_out_blocks`): a call's effect is its fetch's, run once,
  when its block is used up, and nothing otherwise; over any run of calls from a fresh state,
  each call with a fetch of its own, the keys handed out followed by those left in the current
  block are the blocks of the hi values fetched, in order, and the errors answered are the
  fetches' errors, in order; so when the hi values are at least a block apart no key is handed
  out twice.

  A run is observed through fetches that record that they ran (`recorded`).  The crux is the
  step lemma `Keeps.step`: one call keeps "keys handed out ++ keys left = blocks fetched";
  the run lemma `calls_keep` follows by induction on the calls.
-/
namespace PgMigrate

namespace HiLoState

/-! ## Consecutive keys -/

/-- The `n` consecutive keys from `a`. -/
def keysFrom (a : Int) : Nat → List Int
  | 0 => []
  | n + 1 => a :: keysFrom (a + 1) n

theorem mem_keysFrom {a x : Int} {n : Nat} : x ∈ keysFrom a n ↔ a ≤ x ∧ x < a + n := by
  induction n generalizing a with
  | zero =>
    simp only [keysFrom, List.not_mem_nil, false_iff]
    omega
  | succ n ih =>
    rw [keysFrom, List.mem_cons, ih]
    omega

theorem nodup_keysFrom (a : Int) (n : Nat) : (keysFrom a n).Nodup := by
  induction n generalizing a with
  | zero => exact List.nodup_nil
  | succ n ih =>
    refine List.nodup_cons.2 ⟨fun h => ?_, ih (a + 1)⟩
    have hlow := (mem_keysFrom.1 h).1
    omega

/-! ## The current block and the blocks fetched -/

/-- The keys left in the current block. -/
def remaining (s : HiLoState) : List Int := keysFrom s.next (s.stop - s.next).toNat

/-- The block a hi value opens when blocks have `size` keys: `hi, hi + 1, …`, `size` of them,
    or as many as fit up to `maxKey`. -/
def block (size hi : Int) : List Int := keysFrom hi (min size (maxKey - hi)).toNat

/-- A used-up block has no key left. -/
theorem remaining_eq_nil {s : HiLoState} (h : s.exhausted = true) : s.remaining = [] := by
  have hle : s.stop - s.next ≤ 0 := by
    simp only [exhausted, decide_eq_true_eq] at h
    omega
  rw [remaining, Int.toNat_eq_zero.2 hle, keysFrom]

/-- A block not used up hands out its next key and keeps the rest. -/
theorem remaining_of_not_exhausted {s : HiLoState} (h : s.exhausted = false) :
    s.remaining = s.next :: { s with next := s.next + 1 }.remaining := by
  have hlt : s.next < s.stop := by
    simp only [exhausted, decide_eq_false_iff_not, Int.not_le] at h
    exact h
  have hcount : (s.stop - s.next).toNat = (s.stop - (s.next + 1)).toNat + 1 := by omega
  rw [remaining, hcount, keysFrom]
  rfl

/-- A hi value below `maxKey` is the first key of its block, and the state the fetch leaves
    holds the rest. -/
theorem block_eq_cons {ε : Type} (s : HiLoState) {hi : Int} (h : hi < maxKey) :
    block s.blockSize hi = hi :: (s.afterFetch (.ok hi : Except ε Int)).2.remaining := by
  have hsize := s.one_le_blockSize
  have hcount : (min s.blockSize (maxKey - hi)).toNat =
      (min (hi + s.blockSize) maxKey - (hi + 1)).toNat + 1 := by omega
  rw [block, hcount, keysFrom]
  rfl

/-- Blocks of hi values at least a block apart share no key. -/
theorem disjoint_block {size x y : Int} (h : x + size ≤ y ∨ y + size ≤ x) :
    (block size x).Disjoint (block size y) := by
  intro k hx hy
  have hkx := mem_keysFrom.1 hx
  have hky := mem_keysFrom.1 hy
  omega

/-- Blocks of hi values at least a block apart have distinct keys, and so have the keys handed
    out before some of the last block's. -/
theorem nodup_of_apart {size : Int} {his handed rest : List Int}
    (hapart : his.Pairwise fun x y => x + size ≤ y ∨ y + size ≤ x)
    (heq : handed ++ rest = his.flatMap (block size)) : handed.Nodup := by
  have hblocks : (his.flatMap (block size)).Nodup :=
    List.nodup_flatMap.2 ⟨fun hi _ => nodup_keysFrom _ _, hapart.imp disjoint_block⟩
  rw [← heq] at hblocks
  exact hblocks.sublist (List.sublist_append_left handed rest)

/-- A fresh state has no key left, so its first call fetches. -/
theorem create_exhausted (b : Int) : (create b).exhausted = true := by
  simp [create, exhausted]

/-! ## One call -/

variable {ε : Type}

/-- A fetch that answers `r` and records in the log that it ran. -/
def recorded (r : Except ε Int) : StateM (List (Except ε Int)) (Except ε Int) := do
  modify (· ++ [r])
  pure r

/-- One call with a recorded fetch answering `r`, from an empty log: the answer, the state
    after the call, and the fetch that ran, if one did. -/
def call (s : HiLoState) (r : Except ε Int) : (Except ε Int × HiLoState) × List (Except ε Int) :=
  ((nextValue (recorded r)).run s).run []

/-- When its block is used up a call runs its fetch, whose answer decides the call's;
    otherwise it hands out the next key and runs nothing. -/
theorem call_eq (s : HiLoState) (r : Except ε Int) :
    s.call r =
      if s.exhausted then (s.afterFetch r, [r])
      else ((.ok s.next, { s with next := s.next + 1 }), []) := by
  cases h : s.exhausted
  · simp only [call, StateT.run, nextValue, h]
    rfl
  · simp only [call, StateT.run, nextValue, h, if_true]
    rfl

/-- A call only adds to the log. -/
theorem nextValue_recorded_run (s : HiLoState) (r : Except ε Int) (log : List (Except ε Int)) :
    ((nextValue (recorded r)).run s).run log = ((s.call r).1, log ++ (s.call r).2) := by
  cases h : s.exhausted
  · -- nothing runs, so nothing is logged
    simp only [call, StateT.run, nextValue, h, Bool.false_eq_true, if_false]
    exact Prod.ext rfl (List.append_nil log).symm
  · simp only [call, StateT.run, nextValue, h, if_true]
    rfl

/-- The keys among the answers. -/
def keys (rs : List (Except ε Int)) : List Int := rs.filterMap Except.toOption

/-- The failures among the answers. -/
def failures (rs : List (Except ε Int)) : List (Except ε Int) := rs.filter fun r => !r.isOk

@[simp] theorem keys_nil : keys ([] : List (Except ε Int)) = [] := rfl

@[simp] theorem keys_cons_ok (h : Int) (rs : List (Except ε Int)) :
    keys (.ok h :: rs) = h :: keys rs := rfl

@[simp] theorem keys_cons_error (e : ε) (rs : List (Except ε Int)) :
    keys (.error e :: rs) = keys rs := rfl

@[simp] theorem failures_cons_ok (h : Int) (rs : List (Except ε Int)) :
    failures (.ok h :: rs) = failures rs := rfl

@[simp] theorem failures_cons_error (e : ε) (rs : List (Except ε Int)) :
    failures (.error e :: rs) = .error e :: failures rs := rfl

/-! ## Runs of calls -/

/-- Calls in a row on one state, the `i`-th with a recorded fetch answering `rs[i]`. -/
def calls (rs : List (Except ε Int)) :
    StateT HiLoState (StateM (List (Except ε Int))) (List (Except ε Int)) :=
  rs.mapM fun r => nextValue (recorded r)

theorem calls_run_cons (s : HiLoState) (r : Except ε Int) (rs : List (Except ε Int))
    (log : List (Except ε Int)) :
    ((calls (r :: rs)).run s).run log =
      let x := ((nextValue (recorded r)).run s).run log
      let y := ((calls rs).run x.1.2).run x.2
      ((x.1.1 :: y.1.1, y.1.2), y.2) := by
  simp only [calls, List.mapM_cons]
  rfl

/-- What a run from `s` to `s'` keeps, given the answers `outs` and the fetches that ran:
    the keys handed out, then the keys left, are the keys left before, then the blocks of the
    hi values fetched; the errors answered are the fetches' errors; the block size stays. -/
structure Keeps (s : HiLoState) (outs : List (Except ε Int)) (s' : HiLoState)
    (fetched : List (Except ε Int)) : Prop where
  keys_eq : keys outs ++ s'.remaining = s.remaining ++ (keys fetched).flatMap (block s.blockSize)
  failures_eq : failures outs = failures fetched
  blockSize_eq : s'.blockSize = s.blockSize

namespace Keeps

/-- Nothing is kept by no call. -/
theorem nil (s : HiLoState) : Keeps s ([] : List (Except ε Int)) s [] :=
  ⟨by simp, rfl, rfl⟩

/-- The step lemma: one call, then a run that keeps the invariant, keeps it. -/
theorem step {s s' : HiLoState} {r : Except ε Int} {outs fetched : List (Except ε Int)}
    (hr : ∀ h, r = .ok h → h < maxKey) (hrest : Keeps (s.call r).1.2 outs s' fetched) :
    Keeps s ((s.call r).1.1 :: outs) s' ((s.call r).2 ++ fetched) := by
  rw [call_eq] at hrest ⊢
  cases hs : s.exhausted
  · -- the block is not used up: its next key is handed out, nothing is fetched
    simp only [hs, Bool.false_eq_true, if_false] at hrest ⊢
    refine ⟨?_, hrest.failures_eq, hrest.blockSize_eq⟩
    have hkeys := hrest.keys_eq
    rw [remaining_of_not_exhausted hs]
    simpa using hkeys
  · simp only [hs, if_true] at hrest ⊢
    cases r with
    | error e =>
      -- a failed fetch: its error is the answer and the state stays
      simp only [afterFetch] at hrest ⊢
      refine ⟨?_, by simp [hrest.failures_eq], hrest.blockSize_eq⟩
      simpa using hrest.keys_eq
    | ok h =>
      -- a fetched hi value opens a block whose first key is the answer
      have hblock := block_eq_cons (ε := ε) s (hr h rfl)
      simp only [afterFetch] at hrest hblock ⊢
      refine ⟨?_, by simpa using hrest.failures_eq, hrest.blockSize_eq⟩
      have hkeys := hrest.keys_eq
      calc keys (.ok h :: outs) ++ s'.remaining = h :: (keys outs ++ s'.remaining) := rfl
        _ = block s.blockSize h ++ (keys fetched).flatMap (block s.blockSize) := by
          rw [hkeys, hblock]
          rfl
        _ = s.remaining ++ (keys ([.ok h] ++ fetched)).flatMap (block s.blockSize) := by
          rw [remaining_eq_nil hs]
          rfl

end Keeps

/-- The run lemma: a run of calls keeps the invariant, the fetches that ran being logged after
    those before. -/
theorem calls_keep (rs : List (Except ε Int)) (hrs : ∀ h, .ok h ∈ rs → h < maxKey)
    (s : HiLoState) (log : List (Except ε Int)) :
    ∃ fetched, (((calls rs).run s).run log).2 = log ++ fetched ∧
      Keeps s (((calls rs).run s).run log).1.1 (((calls rs).run s).run log).1.2 fetched := by
  induction rs generalizing s log with
  | nil => exact ⟨[], (List.append_nil log).symm, Keeps.nil s⟩
  | cons r rs ih =>
    obtain ⟨fetched, hlog, hkeeps⟩ :=
      ih (fun h hh => hrs h (List.mem_cons_of_mem _ hh)) (s.call r).1.2 (log ++ (s.call r).2)
    refine ⟨(s.call r).2 ++ fetched, ?_, ?_⟩
    · rw [calls_run_cons, nextValue_recorded_run]
      simpa using hlog
    · rw [calls_run_cons, nextValue_recorded_run]
      exact Keeps.step (fun h hh => hrs h (hh ▸ List.mem_cons_self)) hkeeps

/-! ## Runs from a fresh state -/

/-- HiLo keys come in consecutive blocks.  A call's effect is its fetch's, run once, when its
    block is used up, as it is at the first call, and nothing otherwise; a failed fetch gives
    its error and leaves the state as it was, so the next call fetches again.  Over any run of
    calls from a fresh state with blocks of `b` keys (stored as at least one), the `i`-th call
    with a fetch of its own answering `rs[i]`, the keys handed out, then those left in the
    block, are the blocks of the hi values fetched, in order, each `max b 1` keys long or as
    many as fit up to `maxKey`; the errors answered are the failed fetches', in order; and hi
    values at least a block apart give keys that are all distinct. -/
theorem nextValue_hands_out_blocks (b : Int) (rs : List (Except ε Int))
    (hrs : ∀ h, .ok h ∈ rs → h < maxKey) :
    (∀ {m : Type → Type} [Monad m] (fetch : m (Except ε Int)) (s : HiLoState),
      (nextValue fetch).run s =
        if s.exhausted then s.afterFetch <$> fetch
        else pure (.ok s.next, { s with next := s.next + 1 })) ∧
    (create b).exhausted = true ∧
    (∀ (s : HiLoState) (e : ε), s.afterFetch (.error e) = (.error e, s)) ∧
    let run := ((calls rs).run (create b)).run []
    keys run.1.1 ++ run.1.2.remaining = (keys run.2).flatMap (block (max b 1)) ∧
    failures run.1.1 = failures run.2 ∧
    ((keys run.2).Pairwise (fun h h' => h + max b 1 ≤ h' ∨ h' + max b 1 ≤ h) →
      (keys run.1.1).Nodup) := by
  refine ⟨fun fetch s => rfl, create_exhausted b, fun s e => rfl, ?_⟩
  intro run
  obtain ⟨fetched, hlog, hkeeps⟩ := calls_keep rs hrs (create b) []
  -- the log starts empty, so it holds exactly the fetches that ran
  have hfetched : run.2 = fetched := by simpa using hlog
  have hkeys : keys run.1.1 ++ run.1.2.remaining = (keys fetched).flatMap (block (max b 1)) := by
    have h := hkeeps.keys_eq
    rw [remaining_eq_nil (create_exhausted b), List.nil_append] at h
    exact h
  rw [hfetched]
  exact ⟨hkeys, hkeeps.failures_eq, fun hapart => nodup_of_apart hapart hkeys⟩

/-- Blocks of two keys: a first fetch fails and is answered as it is, the next fetches 100,
    and the call after it hands out 101 without fetching. -/
theorem downThenHundred_blocks :
    let rs : List (Except String Int) := [.error "down", .ok 100, .ok 500]
    (∀ h, .ok h ∈ rs → h < maxKey) ∧
    let run := ((calls rs).run (create 2)).run []
    keys run.1.1 ++ run.1.2.remaining = (keys run.2).flatMap (block (max 2 1)) ∧
    failures run.1.1 = failures run.2 ∧
    ((keys run.2).Pairwise (fun h h' => h + max 2 1 ≤ h' ∨ h' + max 2 1 ≤ h) →
      (keys run.1.1).Nodup) := by
  intro rs
  have hrs : ∀ h, .ok h ∈ rs → h < maxKey := by
    intro h hh
    simp only [rs, List.mem_cons, Except.ok.injEq, reduceCtorEq, List.not_mem_nil,
      or_false, false_or] at hh
    rcases hh with rfl | rfl <;> decide
  exact ⟨hrs, (nextValue_hands_out_blocks 2 rs hrs).2.2.2⟩

/-- Blocks of three: the calls hand out 10, 11, 12, 20, 21, 22, 30, and only the first, fourth
    and seventh calls fetch. -/
example :
    let rs : List (Except String Int) := [.ok 10, .ok 0, .ok 0, .ok 20, .ok 0, .ok 0, .ok 30]
    let run := ((calls rs).run (create 3)).run []
    keys run.1.1 = [10, 11, 12, 20, 21, 22, 30] ∧ run.2 = [.ok 10, .ok 20, .ok 30] := by
  decide

end HiLoState

end PgMigrate
