import Naboscale.Crypto.Primitives

/-!
# Errors, key pairs, MACs, and timestamps

The small modules of the crypto crate: `error.rs`, `keys.rs`, `mac.rs` and `timestamp.rs`.
-/

namespace Naboscale

open Rust

variable [Primitives]

/-- `naboscale_crypto::Error`. -/
inductive CryptoError where
  | noise (error : SnowError)
  | handshakeIncomplete
  | invalidLength (expected actual : ℕ)
  | invalidMessageType (byte : UInt8)
  | invalidTimestamp
  | replayDetected
  | macInvalid
  | cookieRequired
  | bufferTooSmall (needed actual : ℕ)
  | transport (message : String)

/-! ## Keys -/

/-- A key pair. The public half is always derived from the secret one. -/
structure Keypair where
  secret : Key
  deriving DecidableEq

/-- `Keypair::public`. -/
def Keypair.public (keypair : Keypair) : Key := Primitives.publicKey keypair.secret

/-! ## MACs -/

/-- `LABEL_MAC1`, the bytes of `mac1----`. -/
def labelMac1 : Bytes := [109, 97, 99, 49, 45, 45, 45, 45]

/-- `mac1_key`. -/
def mac1Key (responderPub : Key) : Key := Primitives.blake2s256 (labelMac1 ++ responderPub.val)

/-- `compute_mac1`. -/
def computeMac1 (key : Key) (msgBeforeMac : Bytes) : Arr 16 :=
  Primitives.blake2sMac key.val msgBeforeMac

/-- `compute_mac2`: the cookie echo. -/
def computeMac2 (cookie : Arr 16) (msg : Bytes) : Arr 16 :=
  Primitives.blake2sMac cookie.val msg

/-! ## Timestamps -/

/-- TAI64N: seconds and nanoseconds. `Tai64N::now` is a reading of the system clock and is an
argument wherever the code calls it. -/
structure Tai64N where
  seconds : UInt64
  nanos : UInt32
  deriving DecidableEq, Repr

namespace Tai64N

/-- `Tai64N::SIZE`. -/
def size : ℕ := 12

/-- `to_bytes`. -/
def toBytes (t : Tai64N) : Arr size :=
  ⟨(toBe 8 t.seconds.toNat).val ++ (toBe 4 t.nanos.toNat).val, by
    simp [(toBe 8 _).property, (toBe 4 _).property, size]⟩

/-- `from_bytes`. -/
def fromBytes (bytes : Arr size) : Tai64N :=
  { seconds := UInt64.ofNat (fromBe (bytes.val.take 8))
    nanos := UInt32.ofNat (fromBe (bytes.val.drop 8)) }

omit [Primitives] in
theorem fromBytes_toBytes (t : Tai64N) : fromBytes t.toBytes = t := by
  have hs : (toBe 8 t.seconds.toNat).val.length = 8 := (toBe 8 _).property
  have hseconds : t.seconds.toNat < 256 ^ 8 := t.seconds.toNat_lt
  have hnanos : t.nanos.toNat < 256 ^ 4 := t.nanos.toNat_lt
  simp only [fromBytes, toBytes, List.take_left' hs, List.drop_left' hs, fromBe_toBe hseconds,
    fromBe_toBe hnanos, UInt64.ofNat_toNat, UInt32.ofNat_toNat]

/-- The seconds as the handshake compares them: a `u64` read as an `i64`. -/
def signedSeconds (t : Tai64N) : ℤ := I64.wrap t.seconds.toNat

end Tai64N

end Naboscale
