import Naboscale.Rust.Bytes

/-!
# The cryptographic crates

`Primitives` is the interface of the crates that the tunnel rests on: `x25519-dalek`,
`blake2` and `snow`. Their code is not part of the repository, so every definition and
theorem is stated for an arbitrary implementation. What the code relies on is stated in the laws
below, such as `HandshakeLaws` and `TransportLaws`, which theorems take as hypotheses.
-/

namespace Naboscale

open Rust

/-- A key, a pre-shared key, or a cookie secret. -/
abbrev Key := Arr 32

instance : LawfulBEq Key := inferInstance

/-- The functions of `x25519-dalek`, `blake2` and `snow` that the code calls. Randomness is an
argument: `writeMessage` is given the ephemeral key it draws. The `room` of a call is the
length of the output buffer. -/
class Primitives where
  /-- `x25519_dalek::PublicKey::from`. -/
  publicKey : Key → Key
  /-- `Blake2s256` of a byte string. -/
  blake2s256 : Bytes → Arr 32
  /-- `Blake2sMac<U16>` under a key of at most 32 bytes. -/
  blake2sMac : Bytes → Bytes → Arr 16
  /-- `snow::Error`. -/
  SnowError : Type
  /-- `snow::HandshakeState`. -/
  HandshakeState : Type
  /-- `snow::TransportState`. -/
  TransportState : Type
  /-- What the random generator yields for one ephemeral key. -/
  Ephemeral : Type
  /-- The key of one direction of a transport. -/
  CipherKey : Type
  /-- `Builder::build_initiator` with a local private key, a remote public key, a prologue,
  and the PSK at position 2. -/
  buildInitiator : Key → Key → Bytes → Key → Except SnowError HandshakeState
  /-- `Builder::build_responder` with a local private key, a prologue, and the PSK. -/
  buildResponder : Key → Bytes → Key → Except SnowError HandshakeState
  /-- `HandshakeState::write_message`. -/
  writeMessage : HandshakeState → Ephemeral → (payload : Bytes) → (room : ℕ) →
    Except SnowError Bytes × HandshakeState
  /-- `HandshakeState::read_message`. -/
  readMessage : HandshakeState → (message : Bytes) → (room : ℕ) →
    Except SnowError Bytes × HandshakeState
  /-- `HandshakeState::get_remote_static`. -/
  getRemoteStatic : HandshakeState → Option Bytes
  /-- `HandshakeState::into_transport_mode`. -/
  intoTransportMode : HandshakeState → Except SnowError TransportState
  /-- `TransportState::write_message`. -/
  transportWrite : TransportState → (payload : Bytes) → (room : ℕ) →
    Except SnowError Bytes × TransportState
  /-- `TransportState::read_message`. -/
  transportRead : TransportState → (message : Bytes) → (room : ℕ) →
    Except SnowError Bytes × TransportState
  /-- `TransportState::get_remote_static`. -/
  transportRemoteStatic : TransportState → Option Bytes
  /-- `TransportState::sending_nonce`. -/
  sendingNonce : TransportState → ℕ
  /-- `TransportState::receiving_nonce`. -/
  receivingNonce : TransportState → ℕ
  /-- The key of the outgoing cipher state. -/
  sendingKey : TransportState → CipherKey
  /-- The key of the incoming cipher state. -/
  receivingKey : TransportState → CipherKey

export Primitives (SnowError HandshakeState TransportState Ephemeral CipherKey buildInitiator
  buildResponder writeMessage readMessage getRemoteStatic intoTransportMode transportWrite
  transportRead transportRemoteStatic sendingNonce receivingNonce sendingKey receivingKey)

variable [Primitives]

/-- The static key that a handshake authenticates is the one `get_remote_static` returns. An
initiator knows it from the start, nothing changes it once it is known, and the transport
keeps it. -/
structure StaticKeyLaws : Prop where
  initiator {localPrivate remotePublic psk : Key} {prologue : Bytes} {h : HandshakeState} :
    buildInitiator localPrivate remotePublic prologue psk = .ok h →
    getRemoteStatic h = some remotePublic.val
  write {h h' : HandshakeState} {rng : Ephemeral} {payload key : Bytes} {room : ℕ}
    {result : Except SnowError Bytes} :
    writeMessage h rng payload room = (result, h') → getRemoteStatic h = some key →
    getRemoteStatic h' = some key
  read {h h' : HandshakeState} {message key : Bytes} {room : ℕ}
    {result : Except SnowError Bytes} :
    readMessage h message room = (result, h') → getRemoteStatic h = some key →
    getRemoteStatic h' = some key
  transport {h : HandshakeState} {t : TransportState} :
    intoTransportMode h = .ok t → transportRemoteStatic t = getRemoteStatic h
  transport_write {t t' : TransportState} {payload : Bytes} {room : ℕ}
    {result : Except SnowError Bytes} :
    transportWrite t payload room = (result, t') →
    transportRemoteStatic t' = transportRemoteStatic t
  transport_read {t t' : TransportState} {message : Bytes} {room : ℕ}
    {result : Except SnowError Bytes} :
    transportRead t message room = (result, t') →
    transportRemoteStatic t' = transportRemoteStatic t

/-- A responder that has read the first message of IKpsk2 and written the second has finished:
it turns into a transport. -/
def ResponderFinishes : Prop :=
  ∀ (h h₁ h₂ : HandshakeState) (rng : Ephemeral) (message payload₁ payload₂ reply : Bytes)
    (room₁ room₂ : ℕ),
    readMessage h message room₁ = (.ok payload₁, h₁) →
    writeMessage h₁ rng payload₂ room₂ = (.ok reply, h₂) →
    ∃ t, intoTransportMode h₂ = .ok t

/-- snow builds a responder from every private key, prologue and PSK. -/
def ResponderBuilds : Prop :=
  ∀ (localPrivate psk : Key) (prologue : Bytes), ∃ h,
    buildResponder localPrivate prologue psk = .ok h

/-- The IKpsk2 exchange works: a responder that reads the first message of an initiator who
knows its public key learns the initiator's public key, and the initiator accepts the reply.
Both ends turn into transports whose directions have matching keys and fresh nonces. -/
structure HandshakeLaws : Prop where
  reads_static {initiator responder psk : Key} {prologue message payload p : Bytes}
    {hi hi' hr hr' : HandshakeState} {rng : Ephemeral} {room₁ room₂ : ℕ} :
    buildInitiator initiator (Primitives.publicKey responder) prologue psk = .ok hi →
    buildResponder responder prologue psk = .ok hr →
    writeMessage hi rng payload room₁ = (.ok message, hi') →
    readMessage hr message room₂ = (.ok p, hr') →
    getRemoteStatic hr' = some (Primitives.publicKey initiator).val
  accepts_reply {initiator responder psk : Key}
    {prologue message reply payload p q : Bytes} {hi hi₁ hr hr₁ hr₂ : HandshakeState}
    {rng rng' : Ephemeral} {room₁ room₂ room₃ room₄ : ℕ} :
    buildInitiator initiator (Primitives.publicKey responder) prologue psk = .ok hi →
    buildResponder responder prologue psk = .ok hr →
    writeMessage hi rng payload room₁ = (.ok message, hi₁) →
    readMessage hr message room₂ = (.ok p, hr₁) →
    writeMessage hr₁ rng' q room₃ = (.ok reply, hr₂) → q.length ≤ room₄ →
    ∃ hi₂ ti tr, readMessage hi₁ reply room₄ = (.ok q, hi₂) ∧
      intoTransportMode hi₂ = .ok ti ∧ intoTransportMode hr₂ = .ok tr ∧
      sendingKey ti = receivingKey tr ∧ sendingKey tr = receivingKey ti ∧
      sendingNonce ti = 0 ∧ receivingNonce ti = 0 ∧
      sendingNonce tr = 0 ∧ receivingNonce tr = 0

/-- Two parties that know each other's keys and the PSK complete the exchange: snow builds both
ends, each end reads what the other writes, and for a 12-byte payload the messages have 108 and
48 bytes. -/
structure CompletionLaws : Prop where
  builds_initiator (localPrivate remotePublic psk : Key) (prologue : Bytes) :
    ∃ h, buildInitiator localPrivate remotePublic prologue psk = .ok h
  builds_responder : ResponderBuilds
  writes_first {initiator responder psk : Key} {prologue payload : Bytes} {hi : HandshakeState}
    (rng : Ephemeral) :
    buildInitiator initiator (Primitives.publicKey responder) prologue psk = .ok hi →
    payload.length = 12 →
    ∃ message hi', writeMessage hi rng payload 108 = (.ok message, hi') ∧ message.length = 108
  reads_first {initiator responder psk : Key} {prologue message payload : Bytes}
    {hi hi' hr : HandshakeState} {rng : Ephemeral} :
    buildInitiator initiator (Primitives.publicKey responder) prologue psk = .ok hi →
    buildResponder responder prologue psk = .ok hr →
    writeMessage hi rng payload 108 = (.ok message, hi') → payload.length = 12 →
    ∃ hr', readMessage hr message 256 = (.ok payload, hr')
  writes_second {initiator responder psk : Key} {prologue message payload p : Bytes}
    {hi hi' hr hr' : HandshakeState} {rng : Ephemeral} (rng' : Ephemeral) :
    buildInitiator initiator (Primitives.publicKey responder) prologue psk = .ok hi →
    buildResponder responder prologue psk = .ok hr →
    writeMessage hi rng payload 108 = (.ok message, hi') →
    readMessage hr message 256 = (.ok p, hr') →
    ∃ reply hr'', writeMessage hr' rng' [] 48 = (.ok reply, hr'') ∧ reply.length = 48

/-- The handshake wrote a message and was not given one since. -/
inductive Written : HandshakeState → Prop
  | once {h h' : HandshakeState} {rng : Ephemeral} {payload message : Bytes} {room : ℕ} :
      writeMessage h rng payload room = (.ok message, h') → Written h'
  | again {h h' : HandshakeState} {rng : Ephemeral} {payload : Bytes} {room : ℕ}
      {result : Except SnowError Bytes} :
      Written h → writeMessage h rng payload room = (result, h') → Written h'

/-- A second `write_message` out of turn is an error. -/
def WritesOnce : Prop :=
  ∀ (h : HandshakeState) (rng : Ephemeral) (payload : Bytes) (room : ℕ), Written h →
    ∃ e h', writeMessage h rng payload room = (.error e, h')

/-- A responder that has written its reply has finished, and `read_message` is an error. -/
def RepliesOnce : Prop :=
  ∀ (h h₁ h₂ : HandshakeState) (rng : Ephemeral) (message payload₁ payload₂ reply : Bytes)
    (room₁ room₂ : ℕ),
    readMessage h message room₁ = (.ok payload₁, h₁) →
    writeMessage h₁ rng payload₂ room₂ = (.ok reply, h₂) →
    ∀ (other : Bytes) (room : ℕ), ∃ e h', readMessage h₂ other room = (.error e, h')

/-- The handshake has read a message, whatever was done with it since. -/
inductive HasRead : HandshakeState → Prop
  | once {h h' : HandshakeState} {message payload : Bytes} {room : ℕ} :
      readMessage h message room = (.ok payload, h') → HasRead h'
  | again {h h' : HandshakeState} {message : Bytes} {room : ℕ}
      {result : Except SnowError Bytes} :
      HasRead h → readMessage h message room = (result, h') → HasRead h'
  | wrote {h h' : HandshakeState} {rng : Ephemeral} {payload : Bytes} {room : ℕ}
      {result : Except SnowError Bytes} :
      HasRead h → writeMessage h rng payload room = (result, h') → HasRead h'

/-- Each party of IKpsk2 has one message to read, and `read_message` gives it the turn to write:
another `read_message` is an error. -/
def ReadsOnce : Prop :=
  ∀ (h : HandshakeState) (message : Bytes) (room : ℕ), HasRead h →
    ∃ e h', readMessage h message room = (.error e, h')

/-- A `read_message` that fails restores the handshake: what can be read afterwards is what could
be read before. -/
def ReadRestores : Prop :=
  ∀ (h h' : HandshakeState) (message : Bytes) (room : ℕ) (e : SnowError),
    readMessage h message room = (.error e, h') →
    ∀ (other payload : Bytes) (room' : ℕ) (next : HandshakeState),
      readMessage h' other room' = (.ok payload, next) ↔
        readMessage h other room' = (.ok payload, next)

/-- Both directions of the transport of a finished handshake start at nonce zero. -/
def FreshNonces : Prop :=
  ∀ (h : HandshakeState) (t : TransportState), intoTransportMode h = .ok t →
    sendingNonce t = 0 ∧ receivingNonce t = 0

/-- A transport direction has a sequential nonce that advances only on a successful write or
read, and a ciphertext made at nonce `n` is opened, under the same key, only at nonce `n`. -/
structure TransportLaws : Prop where
  write_ok {t t' : TransportState} {payload c : Bytes} {room : ℕ} :
    transportWrite t payload room = (.ok c, t') →
    c.length = payload.length + 16 ∧ c.length ≤ room ∧
      sendingNonce t' = sendingNonce t + 1 ∧ receivingNonce t' = receivingNonce t ∧
      sendingKey t' = sendingKey t ∧ receivingKey t' = receivingKey t
  write_error {t t' : TransportState} {payload : Bytes} {room : ℕ} {e : SnowError} :
    transportWrite t payload room = (.error e, t') → t' = t
  read_ok {t t' : TransportState} {message p : Bytes} {room : ℕ} :
    transportRead t message room = (.ok p, t') →
    sendingNonce t' = sendingNonce t ∧ receivingNonce t' = receivingNonce t + 1 ∧
      sendingKey t' = sendingKey t ∧ receivingKey t' = receivingKey t
  read_error {t t' : TransportState} {message : Bytes} {room : ℕ} {e : SnowError} :
    transportRead t message room = (.error e, t') → t' = t
  opens {a a' b : TransportState} {payload c : Bytes} {room room' : ℕ} :
    transportWrite a payload room = (.ok c, a') → sendingKey a = receivingKey b →
    sendingNonce a = receivingNonce b → payload.length ≤ room' →
    ∃ b', transportRead b c room' = (.ok payload, b')
  opens_only {a a' b b' : TransportState} {payload c p : Bytes} {room room' : ℕ} :
    transportWrite a payload room = (.ok c, a') → sendingKey a = receivingKey b →
    transportRead b c room' = (.ok p, b') → sendingNonce a = receivingNonce b

/-- snow seals every payload that the buffer and a Noise message have room for, as long as the
nonces are not used up. -/
def TransportSeals : Prop :=
  ∀ (t : TransportState) (payload : Bytes) (room : ℕ), payload.length + 16 ≤ room →
    payload.length + 16 ≤ 65535 → sendingNonce t + 1 < 2 ^ 64 →
    ∃ c t', transportWrite t payload room = (.ok c, t')

/-- snow seals no payload that a Noise message has no room for, and none at the last nonce. -/
def TransportLimits : Prop :=
  ∀ (t t' : TransportState) (payload c : Bytes) (room : ℕ),
    transportWrite t payload room = (.ok c, t') →
    payload.length + 16 ≤ 65535 ∧ sendingNonce t + 1 < 2 ^ 64

end Naboscale
