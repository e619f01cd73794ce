/-!
# Byte strings and big-endian words

A byte string is a list of bytes, first byte first.  A 64-bit word is written as
eight bytes, the most significant first, and read back by shifting each byte in
from the right.  The two functions are written independently of each other: the
writer takes the byte at each shift, the reader is one left fold, and neither
knows how many bytes the other handles beyond the list it is given.
-/

namespace BrokerLoad

/-- A byte string, first byte first. -/
abbrev Bytes : Type := List UInt8

namespace BigEndian

/-- How far right each byte of a word is shifted when it is written, in the order
of writing. -/
def shifts : List UInt64 := [56, 48, 40, 32, 24, 16, 8, 0]

/-- The eight bytes of a word, most significant first. -/
def ofWord (word : UInt64) : Bytes :=
  shifts.map fun shift => (word >>> shift).toUInt8

/-- The word whose digits in base 256 are the given bytes, most significant first.
Of more than eight bytes only the last eight count. -/
def toWord (bytes : Bytes) : UInt64 :=
  bytes.foldl (fun word byte => (word <<< 8) ||| byte.toUInt64) 0

/-- A word takes eight bytes. -/
@[simp] theorem length_ofWord (word : UInt64) : (ofWord word).length = 8 := rfl

end BigEndian
end BrokerLoad
