import Mathlib
import PgMigrate.Search
/-
  Binary search finds exactly the keys of a sorted table.

  The table is sorted when each entry compares at most equal to every later one, under a
  comparison that is transitive and says `.eq` of equal keys only.  The search keeps a window
  `[base, base + size)`; the invariant is that the window lies in the table, is not empty, is
  covered by the rounds left, and holds the key whenever the table does.  A round keeps it:
  when the middle entry is greater, every entry from it on is greater too; otherwise an entry
  of the key below the middle is at most the middle entry, which is at most the key, so the
  middle entry is the key.

  Main statements:
  * `narrowWindow_mem`: the window narrows without leaving itself (no order needed);
  * `narrowWindow_finds`: on a sorted table a window holding the key narrows to it;
  * `binarySearch_isOk_iff`: on a sorted table the search succeeds exactly for the keys the
    table holds.
-/
namespace PgMigrate

section

variable {α : Type} [Ord α]

/-- A table in ascending order: each entry compares at most equal to every later one. -/
def Ascending (table : Array α) : Prop :=
  table.toList.Pairwise fun a b => (compare a b).isLE

/-- A table is in ascending order as soon as each entry compares at most equal to the next:
    the comparison is transitive. -/
theorem ascending_of_isChain [Std.TransOrd α] {table : Array α}
    (h : table.toList.IsChain fun a b => (compare a b).isLE) : Ascending table := by
  have : Trans (fun a b : α => (compare a b).isLE = true) (fun a b => (compare a b).isLE = true)
      (fun a b => (compare a b).isLE = true) := ⟨Std.TransCmp.isLE_trans⟩
  exact List.isChain_iff_pairwise.1 h

theorem Ascending.isLE [Std.ReflOrd α] {table : Array α} (hs : Ascending table) {i j : Nat}
    (hij : i ≤ j) (hj : j < table.size) : (compare table[i] table[j]).isLE := by
  rcases Nat.lt_or_eq_of_le hij with hlt | rfl
  · have h := List.pairwise_iff_getElem.1 hs i j (by simp; omega) (by simpa using hj) hlt
    simpa using h
  · exact Std.ReflCmp.isLE_rfl

/-- An entry greater than the key stands after every entry of the key. -/
theorem Ascending.lt_of_compare_gt [Std.ReflOrd α] {table : Array α} {key : α}
    (hs : Ascending table) {i m : Nat} (hi : i < table.size) (hm : m < table.size)
    (hkey : table[i] = key) (hgt : compare table[m] key = .gt) : i < m := by
  apply Nat.lt_of_not_le
  intro hle
  have hmle := hs.isLE hle hi
  rw [hkey, hgt] at hmle
  exact absurd hmle (by decide)

/-- An entry at most the key, standing after an entry of the key, is the key. -/
theorem Ascending.eq_of_compare_ne_gt [Std.TransOrd α] [Std.LawfulEqOrd α] {table : Array α}
    {key : α} (hs : Ascending table) {i m : Nat} (him : i ≤ m) (hm : m < table.size)
    (hkey : table[i] = key) (hngt : compare table[m] key ≠ .gt) : table[m] = key := by
  have hle := hs.isLE him hm
  rw [hkey] at hle
  have hge : (compare table[m] key).isLE := by
    cases h : compare table[m] key <;> simp_all
  exact Std.LawfulEqOrd.eq_of_compare (Std.OrientedCmp.isLE_antisymm hge hle)

/-- The window narrows to one of its own entries, whatever the table holds. -/
theorem narrowWindow_mem [Inhabited α] (table : Array α) (key : α) (rounds : Nat) :
    ∀ base size, 1 ≤ size →
      base ≤ narrowWindow table key rounds base size ∧
        narrowWindow table key rounds base size < base + size := by
  induction rounds with
  | zero =>
    intro base size hsize
    simp only [narrowWindow]
    omega
  | succ rounds ih =>
    intro base size hsize
    simp only [narrowWindow]
    split
    · omega
    · split
      · -- the lower half `[base, base + size - size / 2)`
        have := ih base (size - size / 2) (by omega)
        omega
      · -- the upper half `[base + size / 2, base + size)`
        have := ih (base + size / 2) (size - size / 2) (by omega)
        omega

/-- On a sorted table, a window that holds the key narrows to an entry of the key, as long as
    the rounds left cover the window. -/
theorem narrowWindow_finds [Inhabited α] [Std.TransOrd α] [Std.LawfulEqOrd α]
    {table : Array α} {key : α} (hs : Ascending table) (rounds : Nat) :
    ∀ base size, 1 ≤ size → size ≤ rounds + 1 → base + size ≤ table.size →
      ∀ i, base ≤ i → i < base + size → table[i]! = key →
        table[narrowWindow table key rounds base size]! = key := by
  induction rounds with
  | zero =>
    intro base size hsize hrounds hfit i hlo hhi hi
    -- one entry is left, and it is the key's
    have hbase : i = base := by omega
    subst hbase
    simpa [narrowWindow] using hi
  | succ rounds ih =>
    intro base size hsize hrounds hfit i hlo hhi hi
    simp only [narrowWindow]
    split
    · have hbase : i = base := by omega
      subst hbase
      exact hi
    · have hmid : base + size / 2 < table.size := by omega
      have hi' : i < table.size := by omega
      rw [getElem!_pos table i hi'] at hi
      split
      · -- the middle entry is greater: the key lies in the lower half
        rename_i hgt
        rw [getElem!_pos table _ hmid] at hgt
        have hbelow := hs.lt_of_compare_gt hi' hmid hi hgt
        exact ih base (size - size / 2) (by omega) (by omega) (by omega) i hlo (by omega)
          (by rw [getElem!_pos table i hi', hi])
      · -- otherwise the upper half holds the key: at `i`, or at the middle entry itself
        rename_i hngt
        rw [getElem!_pos table _ hmid] at hngt
        by_cases habove : base + size / 2 ≤ i
        · exact ih (base + size / 2) (size - size / 2) (by omega) (by omega) (by omega) i
            habove (by omega) (by rw [getElem!_pos table i hi', hi])
        · have hmidkey := hs.eq_of_compare_ne_gt (Nat.le_of_not_le habove) hmid hi hngt
          exact ih (base + size / 2) (size - size / 2) (by omega) (by omega) (by omega)
            (base + size / 2) (Nat.le_refl _) (by omega)
            (by rw [getElem!_pos table _ hmid, hmidkey])

/-- A search that succeeds points at an entry of the key, whatever the table holds. -/
theorem binarySearch_eq_ok [Inhabited α] [Std.LawfulEqOrd α] {table : Array α} {key : α}
    {i : Nat} (h : binarySearch table key = .ok i) : ∃ hi : i < table.size, table[i] = key := by
  unfold binarySearch at h
  split at h
  · cases h
  · rename_i hne
    have hwin := narrowWindow_mem table key table.size 0 table.size (by omega)
    have hbase : narrowWindow table key table.size 0 table.size < table.size := by omega
    simp only at h
    split at h
    · rename_i heq
      cases h
      rw [getElem!_pos table _ hbase] at heq
      exact ⟨hbase, Std.LawfulEqOrd.eq_of_compare heq⟩
    · cases h
    · cases h

/-- On a sorted table, the search succeeds exactly for the keys the table holds. -/
theorem binarySearch_isOk_iff [Inhabited α] [Std.TransOrd α] [Std.LawfulEqOrd α]
    {table : Array α} {key : α} (hs : Ascending table) :
    (binarySearch table key).isOk = true ↔ key ∈ table := by
  constructor
  · intro h
    cases hres : binarySearch table key with
    | error i => simp [hres, Except.isOk, Except.toBool] at h
    | ok i =>
      obtain ⟨hi, hkey⟩ := binarySearch_eq_ok hres
      exact hkey ▸ Array.getElem_mem hi
  · intro hmem
    obtain ⟨i, hi, hkey⟩ := Array.mem_iff_getElem.1 hmem
    have hne : table.size ≠ 0 := by omega
    have hwin := narrowWindow_mem table key table.size 0 table.size (by omega)
    have hbase : narrowWindow table key table.size 0 table.size < table.size := by omega
    have hfound := narrowWindow_finds hs table.size 0 table.size (by omega) (by omega)
      (by omega) i (Nat.zero_le i) (by omega) (by rw [getElem!_pos table i hi, hkey])
    unfold binarySearch
    rw [if_neg hne]
    simp only
    rw [hfound, Std.ReflOrd.compare_self]
    rfl

end

end PgMigrate
