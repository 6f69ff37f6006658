/-
  Binary search of a sorted table, in the form the standard slice search runs it.

  The search keeps a window `[base, base + size)` of the table that holds the key whenever
  the table does.  Each round compares the entry half-way into the window with the key and
  keeps the half that can still hold it: the lower half when that entry is greater, else the
  upper half starting at it.  The number of rounds depends on the table's size only.  When one
  entry is left, it is compared last.

  A round leaves at most `size - 1` entries, so the table's size bounds the rounds; the search
  counts them down and so runs by structural recursion, which lets closed searches evaluate.
-/
namespace PgMigrate

/-- Narrows the window `[base, base + size)` down to one entry, in at most `rounds` rounds. -/
def narrowWindow [Ord α] [Inhabited α] (table : Array α) (key : α) :
    (rounds base size : Nat) → Nat
  | 0, base, _ => base
  | rounds + 1, base, size =>
    if size ≤ 1 then base
    else
      let half := size / 2
      match compare table[base + half]! key with
      | .gt => narrowWindow table key rounds base (size - half)
      | _ => narrowWindow table key rounds (base + half) (size - half)

/-- Searches a sorted table: `.ok i` when the entry at `i` is the key, otherwise `.error i`
    with `i` the place where the key would be inserted. -/
def binarySearch [Ord α] [Inhabited α] (table : Array α) (key : α) : Except Nat Nat :=
  if table.size = 0 then .error 0
  else
    let base := narrowWindow table key table.size 0 table.size
    match compare table[base]! key with
    | .eq => .ok base
    | .lt => .error (base + 1)
    | .gt => .error base

end PgMigrate
