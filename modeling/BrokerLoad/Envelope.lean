import BrokerLoad.Envelope.BigEndian

/-!
# Envelopes

What travels through a broker is an *envelope*: the id of the message and its
payload.  On the wire the id comes first, as eight big-endian bytes, and the
payload follows without a length of its own, so a byte string is an envelope
exactly when it has room for the id.
-/

namespace BrokerLoad

/-- A message as producers send it and consumers receive it. -/
structure Envelope where
  id : UInt64
  /-- What the message carries. -/
  payload : Bytes
  deriving DecidableEq

namespace Envelope

/-- How many bytes the id takes on the wire. -/
def idSize : Nat := 8

/-- The wire form: the id, then the payload. -/
def encode (envelope : Envelope) : Bytes :=
  BigEndian.ofWord envelope.id ++ envelope.payload

/-- The length of the wire form. -/
def wireSize (envelope : Envelope) : Nat :=
  idSize + envelope.payload.length

/-- Reads a wire form; there is none in fewer bytes than an id takes. -/
def decode (bytes : Bytes) : Option Envelope :=
  if bytes.length < idSize then
    none
  else
    some ⟨BigEndian.toWord (bytes.take idSize), bytes.drop idSize⟩

/-- Reads a wire form from a buffer that may be absent. -/
def decodeBuffer (buffer : Option Bytes) : Option Envelope :=
  buffer.bind decode

/-- An envelope whose payload is the given number of zero bytes. -/
def blank (id : UInt64) (payloadSize : Nat) : Envelope :=
  ⟨id, List.replicate payloadSize 0⟩

/-- The wire form is as long as `wireSize` says. -/
@[simp] theorem length_encode (envelope : Envelope) :
    envelope.encode.length = envelope.wireSize := by
  simp [encode, wireSize, idSize]

end Envelope
end BrokerLoad
