import BrokerLoad.Proofs.Envelope
import Mathlib.Data.List.Induction
import Mathlib.Data.Nat.Digits.Defs
import Mathlib.Data.Set.Function

/-!
# Wire forms are byte strings with room for an id

An envelope is read back from its wire form, and a byte string is written back from the envelope
that is read in it.  So envelopes and byte strings of at least eight bytes are the same thing in two
forms (`Envelope.isCodec`).

Up to eight bytes are a number in base 256, most significant digit first (`BigEndian.value`), and
the reader of a word reads this number off them (`BigEndian.toNat_toWord`): a byte that is shifted
in from the right leaves what is there untouched, as long as there are no more than eight.  Numbers
of equally many digits are in the order of their first difference, and so ids are in the order of
their bytes.
-/

namespace BrokerLoad
namespace BigEndian

/-- The number whose digits in base 256 are the bytes, most significant first. -/
def value (bytes : Bytes) : Nat := Nat.ofDigits 256 (bytes.map UInt8.toNat).reverse

theorem value_append (bytes more : Bytes) :
    value (bytes ++ more) = value bytes * 256 ^ more.length + value more := by
  rw [value, List.map_append, List.reverse_append, Nat.ofDigits_append, List.length_reverse,
    List.length_map, Nat.add_comm, Nat.mul_comm]
  rfl

theorem value_singleton (byte : UInt8) : value [byte] = byte.toNat := Nat.ofDigits_singleton

theorem value_cons (byte : UInt8) (rest : Bytes) :
    value (byte :: rest) = byte.toNat * 256 ^ rest.length + value rest := by
  rw [← List.singleton_append, value_append, value_singleton]

theorem digits_lt (bytes : Bytes) : ∀ digit ∈ (bytes.map UInt8.toNat).reverse, digit < 256 := by
  intro digit hdigit
  obtain ⟨byte, -, rfl⟩ := List.mem_map.1 (List.mem_reverse.1 hdigit)
  exact byte.toNat_lt

theorem value_lt (bytes : Bytes) : value bytes < 256 ^ bytes.length := by
  have hlt := Nat.ofDigits_lt_base_pow_length (by decide) (digits_lt bytes)
  rwa [List.length_reverse, List.length_map] at hlt

/-- Equally many digits are told from the number. -/
theorem value_inj {bytes other : Bytes} (length : bytes.length = other.length)
    (same : value bytes = value other) : bytes = other := by
  have hdigits := Nat.ofDigits_inj_of_len_eq (by decide) (by simp [length]) (digits_lt bytes)
    (digits_lt other) same
  exact (List.map_inj_right fun _ _ => UInt8.toNat_inj.1).1 (List.reverse_inj.1 hdigits)

/-- Numbers of equally many digits are in the order of their first difference. -/
theorem value_lt_value_iff {bytes other : Bytes} (length : bytes.length = other.length) :
    value bytes < value other ↔ bytes < other := by
  induction bytes generalizing other with
  | nil =>
    rw [List.eq_nil_of_length_eq_zero length.symm]
    simp
  | cons byte rest ih =>
    obtain ⟨byte', rest', rfl⟩ := List.exists_cons_of_length_eq_add_one length.symm
    have hlength : rest.length = rest'.length := Nat.succ.inj length
    have hrest := value_lt rest
    have hrest' := value_lt rest'
    rw [value_cons, value_cons, List.cons_lt_cons_iff, ← ih hlength, UInt8.lt_iff_toNat_lt,
      ← UInt8.toNat_inj]
    rw [← hlength] at hrest' ⊢
    -- One more in the first digit counts for more than all the digits behind it.
    rcases Nat.lt_trichotomy byte.toNat byte'.toNat with hlt | heq | hgt
    · have hmul := Nat.mul_le_mul_right (256 ^ rest.length) (Nat.succ_le_of_lt hlt)
      rw [Nat.succ_mul] at hmul
      omega
    · rw [heq]
      omega
    · have hmul := Nat.mul_le_mul_right (256 ^ rest.length) (Nat.succ_le_of_lt hgt)
      rw [Nat.succ_mul] at hmul
      omega

/-- A byte that is shifted in is the last digit, if there is room for it. -/
theorem toNat_shiftIn {word : UInt64} (room : word.toNat < 256 ^ 7) (byte : UInt8) :
    (word <<< 8 ||| byte.toUInt64).toNat = word.toNat * 256 + byte.toNat := by
  have hbyte : byte.toNat < 2 ^ 8 := byte.toNat_lt
  have hfits : word.toNat <<< 8 % 2 ^ 64 = word.toNat <<< 8 := by
    refine Nat.mod_eq_of_lt ?_
    rw [Nat.shiftLeft_eq]
    omega
  calc (word <<< 8 ||| byte.toUInt64).toNat
      = word.toNat <<< 8 % 2 ^ 64 ||| byte.toNat := by simp
    _ = word.toNat <<< 8 + byte.toNat := by rw [hfits, Nat.shiftLeft_add_eq_or_of_lt hbyte]
    _ = word.toNat * 256 + byte.toNat := by rw [Nat.shiftLeft_eq]

/-- Up to eight bytes are read as the number that they are. -/
theorem toNat_toWord {bytes : Bytes} (few : bytes.length ≤ 8) :
    (toWord bytes).toNat = value bytes := by
  induction bytes using List.reverseRecOn with
  | nil => rfl
  | append_singleton bytes byte ih =>
    rw [List.length_append, List.length_singleton] at few
    have hbytes := ih (Nat.le_of_succ_le few)
    have hroom : (toWord bytes).toNat < 256 ^ 7 := by
      rw [hbytes]
      exact Nat.lt_of_lt_of_le (value_lt bytes) (Nat.pow_le_pow_right (by decide) (by omega))
    rw [value_append, value_singleton, ← hbytes, toWord, List.foldl_append]
    exact toNat_shiftIn hroom byte

theorem value_ofWord (word : UInt64) : value (ofWord word) = word.toNat := by
  rw [← toNat_toWord (length_ofWord word).le, toWord_ofWord]

/-- Eight bytes are written back from their word. -/
theorem ofWord_toWord {bytes : Bytes} (eight : bytes.length = 8) :
    ofWord (toWord bytes) = bytes := by
  refine value_inj ((length_ofWord _).trans eight.symm) ?_
  rw [value_ofWord, toNat_toWord eight.le]

end BigEndian

namespace Envelope

theorem decode_eq_none_iff {bytes : Bytes} : decode bytes = none ↔ bytes.length < idSize := by
  rw [decode]
  split
  next hshort => exact iff_of_true rfl hshort
  next hroom => exact iff_of_false (Option.some_ne_none _) hroom

/-- A byte string is written back from the envelope that is read in it. -/
theorem encode_of_decode {bytes : Bytes} {envelope : Envelope}
    (read : decode bytes = some envelope) : envelope.encode = bytes := by
  rw [decode] at read
  split at read
  · cases read
  next hroom =>
    cases read
    have hid : BigEndian.ofWord (BigEndian.toWord (bytes.take idSize)) = bytes.take idSize :=
      BigEndian.ofWord_toWord (List.length_take_of_le (Nat.not_lt.1 hroom))
    rw [encode, hid, List.take_append_drop]

theorem encode_injective : Function.Injective encode := by
  intro one other hsame
  have hread := congrArg decode hsame
  rw [decode_encode, decode_encode] at hread
  exact Option.some.inj hread

theorem take_encode (envelope : Envelope) :
    envelope.encode.take idSize = BigEndian.ofWord envelope.id :=
  List.take_left' (BigEndian.length_ofWord _)

/-- Ids are in the order of their bytes. -/
theorem id_lt_iff {one other : Envelope} :
    one.id < other.id ↔ one.encode.take idSize < other.encode.take idSize := by
  have hlength : (BigEndian.ofWord one.id).length = (BigEndian.ofWord other.id).length := rfl
  rw [take_encode, take_encode, ← BigEndian.value_lt_value_iff hlength, BigEndian.value_ofWord,
    BigEndian.value_ofWord, UInt64.lt_iff_toNat_lt]

/-- What makes a writer and a reader of envelopes fit together, so that envelopes and byte strings
with room for an id are the same thing in two forms. -/
structure IsCodec (encode : Envelope → Bytes) (decode : Bytes → Option Envelope) : Prop where
  /-- An envelope is read back. -/
  decode_encode : ∀ envelope, decode (encode envelope) = some envelope
  length : ∀ envelope, (encode envelope).length = 8 + envelope.payload.length
  /-- The length is what the envelope says. -/
  wireSize : ∀ envelope, (encode envelope).length = envelope.wireSize
  /-- Without room for an id there is no envelope, and only then. -/
  decode_eq_none : ∀ bytes, decode bytes = none ↔ bytes.length < 8
  /-- A byte string is written back. -/
  encode_of_decode : ∀ bytes envelope, decode bytes = some envelope → encode envelope = bytes
  bijection : Set.BijOn encode Set.univ {bytes | 8 ≤ bytes.length}
  /-- Byte strings are told apart by their envelopes. -/
  same : ∀ bytes bytes' one other, decode bytes = some one → decode bytes' = some other →
    (one == other ↔ bytes = bytes')
  /-- The first eight bytes, as a number with the most significant byte first, are the id. -/
  id : ∀ bytes envelope, decode bytes = some envelope →
    envelope.id.toNat = BigEndian.value (bytes.take 8)
  /-- Ids are in the order of these bytes. -/
  order : ∀ bytes bytes' one other, decode bytes = some one → decode bytes' = some other →
    (one.id < other.id ↔ bytes.take 8 < bytes'.take 8)

theorem isCodec : IsCodec encode decode where
  decode_encode := decode_encode
  length := length_encode
  wireSize := length_encode
  decode_eq_none _ := decode_eq_none_iff
  encode_of_decode _ _ := encode_of_decode
  bijection := by
    refine ⟨fun envelope _ => ?_, encode_injective.injOn, fun bytes hroom => ?_⟩
    · show 8 ≤ envelope.encode.length
      rw [length_encode]
      exact Nat.le_add_right 8 _
    · cases hread : decode bytes with
      | none => exact absurd hroom (Nat.not_le.2 (decode_eq_none_iff.1 hread))
      | some envelope => exact ⟨envelope, trivial, encode_of_decode hread⟩
  same bytes bytes' one other hone hother := by
    rw [← encode_of_decode hone, ← encode_of_decode hother, beq_iff_eq, encode_injective.eq_iff]
  id bytes envelope hread := by
    rw [← encode_of_decode hread]
    exact (congrArg BigEndian.value (take_encode envelope)).trans (BigEndian.value_ofWord _) |>.symm
  order bytes bytes' one other hone hother := by
    rw [← encode_of_decode hone, ← encode_of_decode hother]
    exact id_lt_iff

/-- The id comes first, so an envelope of the id 258 begins with its two lowest bytes last. -/
example : encode ⟨258, [7]⟩ = [0, 0, 0, 0, 0, 0, 1, 2, 7] := by decide

end Envelope
end BrokerLoad
