/-!
# Minting message ids

Every message of a run gets an id of its own.  The mint remembers the last id it
gave out; the first one is 1, and 0 is never given out before the counter has
gone all the way round.
-/

namespace BrokerLoad

/-- The source of message ids. -/
structure IdMint where
  /-- The id given out last, 0 before the first. -/
  latest : UInt64 := 0
  deriving DecidableEq

namespace IdMint

/-- Gives out the next id. -/
def next (mint : IdMint) : UInt64 × IdMint :=
  (mint.latest + 1, ⟨mint.latest + 1⟩)

/-- The id given out is the latest from then on. -/
@[simp] theorem latest_next (mint : IdMint) : mint.next.2.latest = mint.next.1 := rfl

end IdMint
end BrokerLoad
