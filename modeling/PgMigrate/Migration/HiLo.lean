import PgMigrate.Schema.Sequence
/-
  HiLo key allocation.

  A HiLo state hands out keys from a block: when the block is used up it asks the database
  for a new "hi" value, and the block becomes `hi, hi + 1, …, hi + blockSize - 1` (the end
  saturates at `i64::MAX`).  The block size is at least one; a sequence's state uses the
  sequence's increment.  Asking is the caller's fetch, a computation in any monad that answers
  a hi value or an error: it runs once when the block is used up and not at all otherwise, and
  a failed fetch gives its error and leaves the state as it was.

  Every column fed by one sequence must share one state, so states live in a pool and a
  cache maps a sequence's key (`schema.name`, or `name`) to its slot: the first state
  stored for a key is the one every later caller gets.
-/
namespace PgMigrate

/-- The allocator of one sequence: the next key and the end of the current block, whose size
    is at least one. -/
structure HiLoState where
  blockSize : Int
  next : Int := 0
  stop : Int := 0
  one_le_blockSize : 1 ≤ blockSize
deriving Repr, DecidableEq

namespace HiLoState

/-- The largest 64-bit integer. -/
def maxKey : Int := 9223372036854775807

/-- A fresh state with blocks of `blockSize` keys (at least one). -/
def create (blockSize : Int) : HiLoState :=
  { blockSize := max blockSize 1, one_le_blockSize := Int.le_max_right blockSize 1 }

/-- The state of a sequence: blocks as wide as its increment. -/
def forSequence (q : Sequence) : HiLoState := create q.incrementBy

/-- Whether the next key needs a new block. -/
def exhausted (s : HiLoState) : Bool := s.stop ≤ s.next

/-- The answer and the state once the fetch has answered: a hi value opens a block whose end
    saturates at `maxKey`, and is the key handed out; an error is passed on and the state stays
    as it was. -/
def afterFetch {ε : Type} (s : HiLoState) : Except ε Int → Except ε Int × HiLoState
  | .ok hi => (.ok hi, { s with next := hi + 1, stop := min (hi + s.blockSize) maxKey })
  | .error e => (.error e, s)

/-- The next key.  `fetch` asks for a new hi value; it runs only when the block is used up. -/
def nextValue {m : Type → Type} [Monad m] {ε : Type} (fetch : m (Except ε Int)) :
    StateT HiLoState m (Except ε Int) := fun s =>
  if s.exhausted then s.afterFetch <$> fetch
  else pure (.ok s.next, { s with next := s.next + 1 })

end HiLoState

/-- The cache key of a sequence: `schema.name`, or `name`. -/
def sequenceKey (q : Sequence) : String :=
  match q.schema with
  | some s => s ++ "." ++ q.name
  | none => q.name

/-- States in slots, and the cache from sequence keys to slots. -/
structure HiLoPool where
  states : List HiLoState := []
  cache : List (String × Nat) := []
deriving Repr

namespace HiLoPool

/-- Puts a state in a new slot. -/
def add (p : HiLoPool) (s : HiLoState) : HiLoPool × Nat :=
  ({ p with states := p.states ++ [s] }, p.states.length)

/-- The slot of a sequence's state, stored on first use. -/
def stateFor (p : HiLoPool) (q : Sequence) : HiLoPool × Nat :=
  let key := sequenceKey q
  match p.cache.lookup key with
  | some slot => (p, slot)
  | none =>
    let (p, slot) := p.add (HiLoState.forSequence q)
    ({ p with cache := p.cache ++ [(key, slot)] }, slot)

/-- Draws the next key from a slot's state; `fetch` is the hi value a fetch would answer
    (`none` when it fails). -/
def draw (p : HiLoPool) (slot : Nat) (fetch : Option Int) : Option (Option Int × HiLoPool) :=
  match p.states[slot]? with
  | none => none
  | some s =>
    let (r, s') := (HiLoState.nextValue (m := Id) (pure (fetch.elim (.error ()) .ok))).run s
    some (r.toOption, { p with states := p.states.set slot s' })

end HiLoPool

end PgMigrate
