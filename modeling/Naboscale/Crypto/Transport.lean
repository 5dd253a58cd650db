import Naboscale.Crypto.Basic

/-!
# The data channel

`Transport` wraps snow's transport state in the 16-byte wire header of `transport.rs`. The
header carries an explicit counter, which `encrypt` writes and `decrypt` does not read.
-/

namespace Naboscale

open Rust

/-- `MESSAGE_TYPE_INIT`. -/
def messageTypeInit : UInt8 := 1
/-- `MESSAGE_TYPE_RESPONSE`. -/
def messageTypeResponse : UInt8 := 2
/-- `MESSAGE_TYPE_COOKIE`. -/
def messageTypeCookie : UInt8 := 3
/-- `MESSAGE_TYPE_TRANSPORT`. -/
def messageTypeTransport : UInt8 := 4
/-- `MESSAGE_TYPE_RELAY`. -/
def messageTypeRelay : UInt8 := 5

/-- `TRANSPORT_HEADER_SIZE`. -/
def transportHeaderSize : ℕ := 16

variable [Profile] [Primitives]

/-- `Transport`. -/
structure Transport where
  inner : TransportState
  senderId : UInt32
  sendCounter : UInt64

namespace Transport

/-- `Transport::new`. -/
def new (inner : TransportState) (senderId : UInt32) : Transport :=
  { inner, senderId, sendCounter := 0 }

/-- `counter + 1` on a `u64`. -/
def nextCounter (counter : UInt64) : Method Transport CryptoError UInt64 :=
  if counter.toNat + 1 < 2 ^ 64 then pure (counter + 1)
  else if Profile.overflowChecks then Method.panic
  else pure (counter + 1)

/-- `Transport::encrypt` into a buffer of `room` bytes: the bytes of the packet. The counter
advances before snow is called, also when snow then fails. -/
def encrypt (plaintext : Bytes) (receiverId : UInt32) (room : ℕ) :
    Method Transport CryptoError Bytes := do
  let self ← Method.get
  if room < transportHeaderSize + plaintext.length + 16 then
    Method.fail (.bufferTooSmall (transportHeaderSize + plaintext.length + 16) room)
  else
    let counter := self.sendCounter
    let next ← nextCounter counter
    let header := messageTypeTransport :: ([0, 0, 0] ++ (toLe 4 receiverId.toNat).val ++
      (toLe 8 counter.toNat).val)
    let (result, inner) := transportWrite self.inner plaintext (room - transportHeaderSize)
    Method.set { self with inner, sendCounter := next }
    match result with
    | .ok ciphertext => pure (header ++ ciphertext)
    | .error e => Method.fail (.noise e)

/-- `Transport::decrypt` into a buffer of `room` bytes: the plaintext. -/
def decrypt (ciphertext : Bytes) (room : ℕ) : Method Transport CryptoError Bytes := do
  let self ← Method.get
  if ciphertext.length < transportHeaderSize + 16 then
    Method.fail (.invalidLength (transportHeaderSize + 16) ciphertext.length)
  else
    let type ← index ciphertext 0
    if type ≠ messageTypeTransport then Method.fail (.invalidMessageType type)
    else
      let body ← slice ciphertext transportHeaderSize ciphertext.length
      let (result, inner) := transportRead self.inner body room
      Method.set { self with inner }
      Method.lift .noise result

end Transport

end Naboscale
