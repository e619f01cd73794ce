import BrokerLoad.Envelope
import BrokerLoad.Producer.Policy

/-!
# Envelopes survive the wire

What is written is read back: the reader of a word undoes its writer
(`BigEndian.toWord_ofWord`), and so the reader of an envelope undoes its writer
(`Envelope.decode_encode`).  The two are written independently of each other.  What
joins them is the value of the reader after each byte, which is the word shifted right
by what is still to come: one byte further on, the shift is smaller by eight
(`BigEndian.read_next`).

`Bytes.id?` is the id that a byte string carries, if it is an envelope.  Every message
of a producer carries the id that it was made for.
-/

namespace BrokerLoad

namespace BigEndian

/-- A word is what is left of it above its last byte, and that byte. -/
theorem shift_or_last (word : UInt64) : (word >>> 8) <<< 8 ||| word.toUInt8.toUInt64 = word := by
  apply UInt64.toNat_inj.1
  have hbyte : word.toNat % 2 ^ 8 < 2 ^ 8 := Nat.mod_lt _ (by decide)
  have hfits : (word.toNat >>> 8) <<< 8 % 2 ^ 64 = (word.toNat >>> 8) <<< 8 := by
    refine Nat.mod_eq_of_lt ?_
    have hword := word.toNat_lt
    rw [Nat.shiftRight_eq_div_pow, Nat.shiftLeft_eq]
    omega
  have hsplit : ((word >>> 8) <<< 8 ||| word.toUInt8.toUInt64).toNat =
      (word.toNat >>> 8) <<< 8 ||| word.toNat % 2 ^ 8 := by
    calc ((word >>> 8) <<< 8 ||| word.toUInt8.toUInt64).toNat
        = (word.toNat >>> 8) <<< 8 % 2 ^ 64 ||| word.toNat % 2 ^ 8 := by simp
      _ = (word.toNat >>> 8) <<< 8 ||| word.toNat % 2 ^ 8 := by rw [hfits]
  rw [hsplit, ← Nat.shiftLeft_add_eq_or_of_lt hbyte, Nat.shiftRight_eq_div_pow, Nat.shiftLeft_eq]
  omega

theorem shift_shift_eight (word shift : UInt64) (hshift : shift.toNat < 56) :
    word >>> (shift + 8) = (word >>> shift) >>> 8 := by
  apply UInt64.toNat_inj.1
  have hsum : (shift + 8).toNat = shift.toNat + 8 := by
    rw [UInt64.toNat_add, Nat.mod_eq_of_lt] <;> simp; omega
  rw [UInt64.toNat_shiftRight, UInt64.toNat_shiftRight, UInt64.toNat_shiftRight, hsum,
    ← Nat.shiftRight_add]
  congr 1
  simp
  omega

theorem read_next (word before shift : UInt64) (hbefore : before = shift + 8)
    (hshift : shift.toNat < 56) :
    (word >>> before) <<< 8 ||| (word >>> shift).toUInt8.toUInt64 = word >>> shift := by
  rw [hbefore, shift_shift_eight word shift hshift, shift_or_last]

theorem read_first (word : UInt64) :
    (0 : UInt64) <<< 8 ||| (word >>> 56).toUInt8.toUInt64 = word >>> 56 := by
  have hnothing : (word >>> 56) >>> 8 = 0 := by
    apply UInt64.toNat_inj.1
    have hword := word.toNat_lt
    simp [Nat.shiftRight_eq_div_pow]
    omega
  calc (0 : UInt64) <<< 8 ||| (word >>> 56).toUInt8.toUInt64
      = ((word >>> 56) >>> 8) <<< 8 ||| (word >>> 56).toUInt8.toUInt64 := by rw [hnothing]
    _ = word >>> 56 := shift_or_last _

/-- A word is read back from its bytes. -/
@[simp] theorem toWord_ofWord (word : UInt64) : toWord (ofWord word) = word := by
  simp only [toWord, ofWord, shifts, List.map_cons, List.map_nil, List.foldl_cons,
    List.foldl_nil]
  rw [read_first, read_next word 56 48 rfl (by decide), read_next word 48 40 rfl (by decide),
    read_next word 40 32 rfl (by decide), read_next word 32 24 rfl (by decide),
    read_next word 24 16 rfl (by decide), read_next word 16 8 rfl (by decide),
    read_next word 8 0 rfl (by decide)]
  exact UInt64.shiftRight_zero

end BigEndian

/-- An envelope is read back from its wire form. -/
@[simp] theorem Envelope.decode_encode (envelope : Envelope) :
    decode envelope.encode = some envelope := by
  have hroom : ¬ envelope.encode.length < idSize := by
    rw [length_encode, wireSize]
    omega
  have hid : envelope.encode.take idSize = BigEndian.ofWord envelope.id :=
    List.take_left' (BigEndian.length_ofWord _)
  have hpayload : envelope.encode.drop idSize = envelope.payload :=
    List.drop_left' (BigEndian.length_ofWord _)
  rw [decode, if_neg hroom, hid, hpayload, BigEndian.toWord_ofWord]

/-- The id that a byte string carries, if it is an envelope. -/
def Bytes.id? (bytes : Bytes) : Option UInt64 := (Envelope.decode bytes).map Envelope.id

/-- A message carries the id it was made for. -/
@[simp] theorem Producer.Options.id?_message (options : Producer.Options) (id : UInt64)
    (attempt : UInt32) : Bytes.id? (options.message id attempt) = some id := by
  rw [Bytes.id?, message, Envelope.decode_encode, Option.map_some]

end BrokerLoad
