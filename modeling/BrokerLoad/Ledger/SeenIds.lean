import Std.Data.TreeSet

/-!
# The ids seen so far

Consumers share one set of the message ids they have seen.  So that many of them
can use it at once it is kept in sixteen shards, each a search tree of its own: an id
belongs to the shard of its remainder modulo sixteen, and an operation on an id
touches that shard only.  `insert` looks and adds in one step, which is what makes
its answer tell a first sight from a repeat.
-/

namespace BrokerLoad

/-- How many shards the seen ids are kept in. -/
def shardCount : Nat := 16

/-- The set of ids seen so far, in shards. -/
structure SeenIds where
  shards : Vector (Std.TreeSet UInt64) shardCount := .replicate shardCount {}

namespace SeenIds

/-- The shard an id belongs to. -/
def shardOf (id : UInt64) : Fin shardCount :=
  ⟨id.toNat % shardCount, Nat.mod_lt _ (by decide)⟩

/-- The ids of the shard that an id belongs to. -/
def shard (seen : SeenIds) (id : UInt64) : Std.TreeSet UInt64 :=
  seen.shards[shardOf id]

/-- Whether an id has been seen. -/
def contains (seen : SeenIds) (id : UInt64) : Bool :=
  (seen.shard id).contains id

/-- Adds an id, and tells whether it was new. -/
def insert (seen : SeenIds) (id : UInt64) : Bool × SeenIds :=
  if seen.contains id then
    (false, seen)
  else
    (true, ⟨seen.shards.set (shardOf id) ((seen.shard id).insert id)⟩)

/-- How many ids have been seen: the shards' sizes added up. -/
def size (seen : SeenIds) : Nat :=
  (seen.shards.toList.map Std.TreeSet.size).foldl (· + ·) 0

/-- Adds an arithmetic progression of ids, wrapping around at the largest word, and
counts how many of them were new. -/
def insertProgression (start step : UInt64) : Nat → SeenIds → Nat × SeenIds
  | 0, seen => (0, seen)
  | count + 1, seen =>
    let (fresh, seen) := seen.insert start
    let (others, seen) := insertProgression (start + step) step count seen
    ((if fresh then 1 else 0) + others, seen)

end SeenIds
end BrokerLoad
