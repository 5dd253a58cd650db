import Naboscale.Crypto.Transport

/-!
# The Noise IKpsk2 handshake

`Initiator` and `Responder` of `handshake.rs`: the framing of the two messages around snow's
handshake state, the mac1 checks, and the replay window on the initiator's timestamp.
-/

namespace Naboscale

open Rust

/-- `INIT_SIZE`. -/
def initSize : ℕ := 148
/-- `INIT_WITH_COOKIE_SIZE`. -/
def initWithCookieSize : ℕ := initSize + 16
/-- `RESPONSE_SIZE`. -/
def responseSize : ℕ := 92
/-- `COOKIE_SIZE`. -/
def cookieSize : ℕ := 64
/-- `REPLAY_WINDOW_SECONDS`. -/
def replayWindowSeconds : ℤ := 120
/-- `NOISE_INIT_PAYLOAD_OFFSET`. -/
def noiseInitPayloadOffset : ℕ := 8
/-- `NOISE_INIT_PAYLOAD_SIZE`. -/
def noiseInitPayloadSize : ℕ := 108
/-- `NOISE_RESPONSE_PAYLOAD_OFFSET`. -/
def noiseResponsePayloadOffset : ℕ := 12
/-- `NOISE_RESPONSE_PAYLOAD_SIZE`. -/
def noiseResponsePayloadSize : ℕ := 48
/-- `MAC1_OFFSET_INIT`. -/
def mac1OffsetInit : ℕ := 132
/-- `MAC1_OFFSET_RESPONSE`. -/
def mac1OffsetResponse : ℕ := 76

/-- `WG_IDENTIFIER`, the bytes of `WireGuard v1 zx2c4 Jason@zx2c4.com`. -/
def wgIdentifier : Bytes :=
  [87, 105, 114, 101, 71, 117, 97, 114, 100, 32, 118, 49, 32, 122, 120, 50, 99, 52, 32, 74, 97,
    115, 111, 110, 64, 122, 120, 50, 99, 52, 46, 99, 111, 109]

variable [Profile] [Primitives]

/-- `Initiator`. -/
structure Initiator where
  state : HandshakeState
  senderId : UInt32
  localPub : Key
  responderPub : Key
  timestamp : Tai64N

/-- `Responder`. -/
structure Responder where
  state : HandshakeState
  senderId : UInt32
  localPub : Key
  currentTime : Tai64N

namespace Initiator

/-- `Initiator::new`. -/
def new (localKeypair : Keypair) (remotePub : Key) (psk : Key) (senderId : UInt32)
    (timestamp : Tai64N) : Except CryptoError Initiator :=
  match buildInitiator localKeypair.secret remotePub wgIdentifier psk with
  | .ok state =>
      .ok { state, senderId, localPub := localKeypair.public, responderPub := remotePub,
            timestamp }
  | .error e => .error (.noise e)

/-- `Initiator::write_init`, drawing the ephemeral key `rng`. -/
def writeInit (rng : Ephemeral) : Method Initiator CryptoError (Arr initSize) := do
  let self ← Method.get
  let out ← (Arr.zeros initSize).store 0 messageTypeInit
  let out ← out.copyFromSlice 4 8 (toLe 4 self.senderId.toNat).val
  let (result, state) :=
    writeMessage self.state rng self.timestamp.toBytes.val noiseInitPayloadSize
  Method.set { self with state }
  let message ← Method.lift .noise result
  if message.length ≠ noiseInitPayloadSize then
    Method.fail (.invalidLength noiseInitPayloadSize message.length)
  else
    let out ← out.copyFromSlice noiseInitPayloadOffset
      (noiseInitPayloadOffset + noiseInitPayloadSize) message
    let before ← slice out.val 0 mac1OffsetInit
    let mac1 := computeMac1 (mac1Key self.responderPub) before
    out.copyFromSlice mac1OffsetInit (mac1OffsetInit + 16) mac1.val

/-- `Initiator::consume_response`. The initiator is consumed, whatever the result. -/
def consumeResponse (self : Initiator) (response : Bytes) :
    Method Unit CryptoError Transport := do
  if response.length < responseSize then
    Method.fail (.invalidLength responseSize response.length)
  else
    let type ← index response 0
    if type ≠ messageTypeResponse then Method.fail (.invalidMessageType type)
    else
      let receiverId ← slice response 8 12
      if UInt32.ofNat (fromLe receiverId) ≠ self.senderId then
        Method.fail (.invalidMessageType type)
      else
        let before ← slice response 0 mac1OffsetResponse
        let mac1 ← slice response mac1OffsetResponse (mac1OffsetResponse + 16)
        if mac1 ≠ (computeMac1 (mac1Key self.localPub) before).val then
          Method.fail .macInvalid
        else
          let message ← slice response noiseResponsePayloadOffset
            (noiseResponsePayloadOffset + noiseResponsePayloadSize)
          let (result, state) := readMessage self.state message 256
          let _ ← Method.lift .noise result
          let inner ← Method.lift .noise (intoTransportMode state)
          pure (Transport.new inner self.senderId)

end Initiator

namespace Responder

/-- `Responder::new`. -/
def new (localKeypair : Keypair) (psk : Key) (senderId : UInt32) (currentTime : Tai64N) :
    Except CryptoError Responder :=
  match buildResponder localKeypair.secret wgIdentifier psk with
  | .ok state => .ok { state, senderId, localPub := localKeypair.public, currentTime }
  | .error e => .error (.noise e)

/-- `Responder::set_current_time`. -/
def setCurrentTime (self : Responder) (t : Tai64N) : Responder := { self with currentTime := t }

/-- The replay check of `consume_init`: the clock and the sealed timestamp are compared as
`i64` seconds, with the build's overflow behaviour. -/
def checkTimestamp {σ : Type} (currentTime timestamp : Tai64N) : Method σ CryptoError Unit := do
  let diff ← I64.sub currentTime.signedSeconds timestamp.signedSeconds
  let distance ← I64.abs diff
  if distance > replayWindowSeconds then Method.fail .invalidTimestamp else pure ()

/-- The first half of `Responder::consume_init`: open the INIT and check it. The result is the
static key that the Noise handshake authenticates for the initiator. -/
def openInit (initMsg : Bytes) : Method Responder CryptoError Key := do
  let self ← Method.get
  if initMsg.length < initSize then Method.fail (.invalidLength initSize initMsg.length)
  else
    let type ← index initMsg 0
    if type ≠ messageTypeInit then Method.fail (.invalidMessageType type)
    else
      let message ← slice initMsg noiseInitPayloadOffset
        (noiseInitPayloadOffset + noiseInitPayloadSize)
      let (result, state) := readMessage self.state message 256
      Method.set { self with state }
      let payload ← Method.lift .noise result
      if payload.length ≠ Tai64N.size then
        Method.fail (.invalidLength Tai64N.size payload.length)
      else
        let stamp ← expectArr Tai64N.size payload
        checkTimestamp self.currentTime (Tai64N.fromBytes stamp)
        let before ← slice initMsg 0 mac1OffsetInit
        let mac1 ← slice initMsg mac1OffsetInit (mac1OffsetInit + 16)
        if mac1 ≠ (computeMac1 (mac1Key self.localPub) before).val then
          Method.fail .macInvalid
        else
          let initiatorStatic ← Method.lift id
            ((getRemoteStatic state).elim (.error .handshakeIncomplete) .ok)
          if initiatorStatic.length ≠ 32 then Method.fail .handshakeIncomplete
          else (Arr.zeros 32).copyFromSlice 0 32 initiatorStatic

/-- The second half of `Responder::consume_init`: frame and write the response to an INIT of
the initiator `initiatorPub`, drawing the ephemeral key `rng`. -/
def writeResponse (initMsg : Bytes) (initiatorPub : Key) (rng : Ephemeral) :
    Method Responder CryptoError (Arr responseSize) := do
  let self ← Method.get
  let out ← (Arr.zeros responseSize).store 0 messageTypeResponse
  let out ← out.copyFromSlice 4 8 (toLe 4 self.senderId.toNat).val
  let senderId ← slice initMsg 4 8
  let out ← out.copyFromSlice 8 12 senderId
  let (result, state) := writeMessage self.state rng [] noiseResponsePayloadSize
  Method.set { self with state }
  let message ← Method.lift .noise result
  if message.length ≠ noiseResponsePayloadSize then
    Method.fail (.invalidLength noiseResponsePayloadSize message.length)
  else
    let out ← out.copyFromSlice noiseResponsePayloadOffset
      (noiseResponsePayloadOffset + noiseResponsePayloadSize) message
    let before ← slice out.val 0 mac1OffsetResponse
    let mac1 := computeMac1 (mac1Key initiatorPub) before
    out.copyFromSlice mac1OffsetResponse (mac1OffsetResponse + 16) mac1.val

/-- `Responder::consume_init`. -/
def consumeInit (initMsg : Bytes) (rng : Ephemeral) :
    Method Responder CryptoError (Arr responseSize) := do
  let initiatorPub ← openInit initMsg
  writeResponse initMsg initiatorPub rng

/-- `Responder::into_transport`. -/
def intoTransport (self : Responder) : Except CryptoError Transport :=
  match intoTransportMode self.state with
  | .ok inner => .ok (Transport.new inner self.senderId)
  | .error e => .error (.noise e)

end Responder

end Naboscale
