import Naboscale.Tunnel.State

/-!
# The handlers of one session

Each handler of `manager.rs` that works on `self.peers[peer_idx]` is a method on a `Session`:
that peer, the socket and the tun device. What the handler reads of the rest of the manager
(the local key pair, the cookie secret) is an argument.
-/

namespace Naboscale

open Rust

variable [Profile] [Primitives]

/-- The part of the manager that a handler of one peer works on. -/
structure Session where
  peer : PeerSession
  transport : UdpTransport
  device : Device

/-- `u32::from_le_bytes(bytes.try_into().expect(..))`. -/
def readU32 {σ ε : Type} (bytes : Bytes) : Method σ ε UInt32 := do
  let word ← expectArr 4 bytes
  pure (UInt32.ofNat (fromLe word.val))

/-- `count + 1` on a `u32`. -/
def nextCount {σ ε : Type} (count : UInt32) : Method σ ε UInt32 :=
  if count.toNat + 1 < 2 ^ 32 then pure (count + 1)
  else if Profile.overflowChecks then Method.panic
  else pure (count + 1)

/-- Wrap a packet in a RELAY header. -/
def wrapRelay {σ ε : Type} (fromPub : Key) (destIp : Ipv4Addr) (inner : Bytes) :
    Method σ ε Bytes := do
  let out ← (Arr.zeros (relayHeaderSize + inner.length)).store 0 messageTypeRelay
  let out ← out.copyFromSlice 1 33 fromPub.val
  let out ← out.copyFromSlice 33 37 destIp.octets.val
  let out ← out.copyFromSlice relayHeaderSize (relayHeaderSize + inner.length) inner
  pure out.val

/-- Extend an INIT with the mac2 of a received cookie. -/
def extendInit {σ ε : Type} (cookie : Arr 16) (initMsg : Bytes) : Method σ ε Bytes := do
  let extended ← (Arr.zeros initWithCookieSize).copyFromSlice 0 initSize initMsg
  let before ← slice extended.val 0 mac2OffsetInit
  let extended ← extended.copyFromSlice mac2OffsetInit initWithCookieSize
    (computeMac2 cookie before).val
  pure extended.val

namespace Session

/-- `self.transport.send_to`. -/
def sendTo (env : Env) (dest : SocketAddr) (buf : Bytes) : Method Session TunnelError Unit :=
  Method.zoom Session.transport (fun transport self => { self with transport })
    (UdpTransport.sendTo env dest buf)

/-- `self.device.write`. -/
def write (env : Env) (buf : Bytes) : Method Session TunnelError Unit :=
  Method.zoom Session.device (fun device self => { self with device }) (Device.write env buf)

/-- Update the peer in place. -/
def modifyPeer (f : PeerSession → PeerSession) : Method Session TunnelError Unit :=
  Method.modify fun self => { self with peer := f self.peer }

/-- Assign `peer.state`. -/
def setState (state : PeerState) : Method Session TunnelError Unit :=
  modifyPeer fun peer => { peer with state }

/-! ## The cookie gate -/

/-- `generate_cookie`. -/
def generateCookie {σ ε : Type} (cookieSecret : Key) (source : SocketAddr) :
    Method σ ε (Arr 16) := do
  let keyMaterial ← (Arr.zeros (32 + 6)).copyFromSlice 0 32 cookieSecret.val
  let ip ← match source.ip with
    | .v4 ip => pure ip.octets
    | .v6 octets => do
        let head ← slice octets.val 0 6
        expectArr 4 head
  let octets ← slice ip.val 0 (min 6 ip.val.length)
  let keyMaterial ← keyMaterial.copyFromSlice 32 (32 + 6) octets
  let secret ← slice cookieSecret.val 0 16
  let key ← expectArr 16 secret
  let msg ← slice keyMaterial.val 32 (32 + 6)
  pure (computeMac2 key msg)

/-- `send_cookie_reply`. -/
def sendCookieReply (env : Env) (source : SocketAddr) (cookie : Arr 16) :
    Method Session TunnelError Unit := do
  let self ← Method.get
  let pkt ← (Arr.zeros cookieSize).store 0 messageTypeCookie
  let pkt ← pkt.copyFromSlice 4 8 (toLe 4 self.peer.config.localSenderId.toNat).val
  let pkt ← pkt.copyFromSlice 8 24 cookie.val
  sendTo env source pkt.val

/-- The rate counter of `check_init_cookie`, restarted when its window is over. -/
def restartWindow (now : Instant) (peer : PeerSession) : PeerSession :=
  if second ≤ now.durationSince peer.initRxWindowStart then
    { peer with initRxCount := 0, initRxWindowStart := now }
  else peer

/-- `check_init_cookie`: whether the INIT was handled here. -/
def checkInitCookie (cookieSecret : Key) (env : Env) (source : SocketAddr) (pkt : Bytes) :
    Method Session TunnelError Bool := do
  modifyPeer (restartWindow env.now)
  let self ← Method.get
  let count ← nextCount self.peer.initRxCount
  modifyPeer fun peer => { peer with initRxCount := count }
  if self.peer.cookieRequired then
    if pkt.length < initWithCookieSize then pure true
    else
      match self.peer.sentCookie with
      | some sent => do
          let before ← slice pkt 0 mac2OffsetInit
          let mac2 ← slice pkt mac2OffsetInit (mac2OffsetInit + mac1Len)
          if (computeMac2 sent before).val ≠ mac2 then pure true
          else do
            modifyPeer fun peer =>
              { peer with cookieRequired := false, sentCookie := none, initRxCount := 0 }
            pure false
      | none => do
          modifyPeer fun peer => { peer with cookieRequired := false, initRxCount := 0 }
          pure false
  else if count.toNat > cookieInitRateLimit then do
    let cookie ← generateCookie cookieSecret source
    sendCookieReply env source cookie
    modifyPeer fun peer => { peer with cookieRequired := true, sentCookie := some cookie }
    pure true
  else pure false

/-- `handle_cookie`. -/
def handleCookie (env : Env) (pkt : Bytes) : Method Session TunnelError Unit :=
  if pkt.length < 24 then pure ()
  else do
    let body ← slice pkt 8 24
    let cookie ← (Arr.zeros 16).copyFromSlice 0 16 body
    modifyPeer fun peer =>
      { peer with receivedCookie := some cookie, cachedInit := none, nextInitAt := some env.now }

/-! ## INIT -/

/-- The initial handshake as responder, shared by `handle_init` and `handle_init_via_relay`:
consume the INIT, send the response as `frame` wraps it, and become `Ready`. A failed INIT
costs the responder its Noise state, so a fresh one replaces it. -/
def respond (keypair : Keypair) (env : Env) (rng : Ephemeral) (source : SocketAddr)
    (pkt : Bytes) (responder : Responder)
    (frame : Arr responseSize → Method Session TunnelError Bytes) :
    Method Session TunnelError Unit := do
  let self ← Method.get
  let (result, responder) ←
    Method.on (responder.setCurrentTime env.tai) (Responder.consumeInit pkt rng)
  setState (.handshakingAsResponder responder)
  match result with
  | .error _ => do
      let fresh ← Method.lift .crypto
        (Responder.new keypair self.peer.config.psk self.peer.config.localSenderId env.tai)
      setState (.handshakingAsResponder fresh)
  | .ok response => do
      let out ← frame response
      sendTo env source out
      let id ← slice pkt 4 8
      let peerSenderId ← readU32 id
      setState .init
      let transport ← Method.lift .crypto responder.intoTransport
      modifyPeer fun peer =>
        { peer with
          state := .ready transport peerSenderId none
          lastHandshakeAt := some env.now
          lastRxAt := some env.now }

/-- The rekey branch of `handle_init`: a fresh responder consumes the INIT, and its transport
replaces the current one. -/
def respondRekey (keypair : Keypair) (env : Env) (rng : Ephemeral) (source : SocketAddr)
    (pkt : Bytes) (peerSenderId : UInt32) (rehandshake : Option Rehandshake) :
    Method Session TunnelError Unit := do
  let self ← Method.get
  let responder ← Method.lift .crypto
    (Responder.new keypair self.peer.config.psk self.peer.config.localSenderId env.tai)
  let (result, responder) ←
    Method.on (responder.setCurrentTime env.tai) (Responder.consumeInit pkt rng)
  match result with
  | .error _ => pure ()
  | .ok response => do
      let newTransport ← Method.lift .crypto responder.intoTransport
      sendTo env source response.val
      modifyPeer fun peer =>
        { peer with
          state := .ready newTransport peerSenderId rehandshake
          lastHandshakeAt := some env.now
          stale := false }

/-- `handle_init`. -/
def handleInit (keypair : Keypair) (env : Env) (rng : Ephemeral) (source : SocketAddr)
    (pkt : Bytes) : Method Session TunnelError Unit :=
  if pkt.length < initSize then Method.fail (.invalidConfig "init message too short")
  else do
    let id ← slice pkt 4 8
    let peerSenderId ← readU32 id
    let self ← Method.get
    match self.peer.state with
    | .ready _ _ rehandshake =>
        respondRekey keypair env rng source pkt peerSenderId rehandshake
    | .handshakingAsResponder responder =>
        respond keypair env rng source pkt responder fun response => pure response.val
    | _ => pure ()

/-- `handle_init_via_relay`. -/
def handleInitViaRelay (keypair : Keypair) (env : Env) (rng : Ephemeral) (source : SocketAddr)
    (pkt : Bytes) : Method Session TunnelError Unit :=
  if pkt.length < initSize then Method.fail (.invalidConfig "init message too short")
  else do
    let self ← Method.get
    match self.peer.state with
    | .handshakingAsResponder responder =>
        respond keypair env rng source pkt responder fun response =>
          wrapRelay keypair.public self.peer.config.peerIp response.val
    | _ => pure ()

/-! ## RESPONSE -/

/-- `handle_response`. The pending initiator is moved out of the session before it is known
whether the packet completes its handshake. -/
def handleResponse (env : Env) (pkt : Bytes) : Method Session TunnelError Unit :=
  if pkt.length < responseSize then
    Method.fail (.invalidConfig "response message too short")
  else do
    let id ← slice pkt 4 8
    let peerSenderId ← readU32 id
    let self ← Method.get
    match self.peer.state with
    | .ready transport sid (some rehandshake) => do
        setState (.ready transport sid none)
        let (result, _) ← Method.on () (rehandshake.initiator.consumeResponse pkt)
        let newTransport ← Method.lift .crypto result
        modifyPeer fun peer =>
          { peer with
            state := .ready newTransport peerSenderId none
            lastHandshakeAt := some env.now }
    | .handshakingAsInitiator initiator => do
        setState .init
        let (result, _) ← Method.on () (initiator.consumeResponse pkt)
        let transport ← Method.lift .crypto result
        modifyPeer fun peer =>
          { peer with
            state := .ready transport peerSenderId none
            lastHandshakeAt := some env.now }
    | _ => setState .init

/-! ## TRANSPORT -/

/-- `handle_transport`. -/
def handleTransport (env : Env) (pkt : Bytes) : Method Session TunnelError Unit :=
  if pkt.length < transportHeaderSize + 16 then
    Method.fail (.invalidConfig "transport packet too short")
  else do
    let self ← Method.get
    if self.peer.stale then pure ()
    else
      match self.peer.state with
      | .ready transport sid rehandshake => do
          let (result, transport) ← Method.on transport (Transport.decrypt pkt 1500)
          setState (.ready transport sid rehandshake)
          match result with
          | .ok plaintext => if 0 < plaintext.length then write env plaintext else pure ()
          | .error _ => pure ()
      | _ => pure ()

/-- The TRANSPORT branch of `handle_relay`: no stale check, and a failed decryption is an
error. -/
def handleRelayedTransport (env : Env) (inner : Bytes) : Method Session TunnelError Unit := do
  let self ← Method.get
  match self.peer.state with
  | .ready transport sid rehandshake =>
      if inner.length < transportHeaderSize + 16 then
        Method.fail (.invalidConfig "relay inner transport packet too short")
      else do
        let (result, transport) ← Method.on transport (Transport.decrypt inner 1500)
        setState (.ready transport sid rehandshake)
        let plaintext ← Method.lift .crypto result
        if 0 < plaintext.length then write env plaintext else pure ()
  | _ => pure ()

/-! ## Sending -/

/-- `send_maybe_relay`. -/
def sendMaybeRelay (env : Env) (config : PeerConfig) (fromPub : Key) (inner : Bytes) :
    Method Session TunnelError Unit :=
  match config.viaRelay with
  | some relay => do
      let out ← wrapRelay fromPub config.peerIp inner
      sendTo env relay out
  | none => sendTo env config.peerEndpoint inner

/-- Encrypt a packet for the peer and send it, directly or through its relay. Sessions that are
not `Ready` send nothing. -/
def sendEncrypted (keypair : Keypair) (env : Env) (pkt : Bytes) (room : ℕ) :
    Method Session TunnelError Unit := do
  let self ← Method.get
  match self.peer.state with
  | .ready transport sid rehandshake => do
      let (result, transport) ← Method.on transport (Transport.encrypt pkt sid room)
      setState (.ready transport sid rehandshake)
      let ciphertext ← Method.lift .crypto result
      sendMaybeRelay env self.peer.config keypair.public ciphertext
      modifyPeer fun peer => { peer with lastTxAt := some env.now }
  | _ => pure ()

/-- An INIT, extended with mac2 if the peer sent a cookie. -/
def fullInit {σ ε : Type} (receivedCookie : Option (Arr 16)) (initMsg : Arr initSize) :
    Method σ ε Bytes :=
  match receivedCookie with
  | some cookie => extendInit cookie initMsg.val
  | none => pure initMsg.val

/-- The cached INIT, which the initiator writes when there is none. -/
def cacheInit (rng : Ephemeral) (initiator : Initiator) : Method Session TunnelError Bytes := do
  let self ← Method.get
  match self.peer.cachedInit with
  | some msg => pure msg
  | none => do
      let (result, initiator) ← Method.on initiator (Initiator.writeInit rng)
      setState (.handshakingAsInitiator initiator)
      let initMsg ← Method.lift .crypto result
      let msg ← fullInit self.peer.receivedCookie initMsg
      modifyPeer fun peer => { peer with cachedInit := some msg }
      pure msg

/-- One pass of the INIT loop of `step`. -/
def retryInit (keypair : Keypair) (env : Env) (rng : Ephemeral) :
    Method Session TunnelError Unit := do
  let self ← Method.get
  if self.peer.nextInitAt.any (fun due => decide (due ≤ env.now)) then
    match self.peer.state with
    | .handshakingAsInitiator initiator => do
        let msg ← cacheInit rng initiator
        sendMaybeRelay env self.peer.config keypair.public msg
        modifyPeer fun peer => { peer with nextInitAt := some (env.now + initRetryInterval) }
    | _ => modifyPeer fun peer => { peer with nextInitAt := none, cachedInit := none }
  else pure ()

/-! ## Maintenance -/

/-- `Action`: what maintenance decides for one peer. -/
inductive Action where
  | markStale
  | sendKeepalive
  | startRekey (initiator : Initiator) (initMsg : Bytes)
  | retryRekey

/-- The initiator of a rekey together with its INIT; an error of the crypto crate only skips
the rekey. -/
def buildRekey {σ : Type} (keypair : Keypair) (env : Env) (rng : Ephemeral)
    (peer : PeerSession) : Method σ TunnelError (List Action) :=
  match Initiator.new keypair peer.config.peerPub peer.config.psk peer.config.localSenderId
      env.tai with
  | .error _ => pure []
  | .ok initiator => do
      let (result, initiator) ← Method.on initiator (Initiator.writeInit rng)
      match result with
      | .error _ => pure []
      | .ok msg => do
          let initMsg ← fullInit peer.receivedCookie msg
          pure [.startRekey initiator initMsg]

/-- The rekey decision of `maintenance`: only as initiator, and only after `rekey_after`. -/
def planRekey {σ : Type} (keypair : Keypair) (timings : ManagerTimings) (env : Env)
    (rng : Ephemeral) (peer : PeerSession) : Method σ TunnelError (List Action) :=
  if peer.config.isInitiator ∧
      peer.lastHandshakeAt.any (fun t => decide (timings.rekeyAfter < env.now.durationSince t)) ∧
      ¬ peer.config.peerEndpoint.ip.isUnspecified then
    buildRekey keypair env rng peer
  else pure []

/-- The decisions of `maintenance` for one peer, in order. -/
def planPeer {σ : Type} (keypair : Keypair) (timings : ManagerTimings) (env : Env)
    (rng : Ephemeral) (peer : PeerSession) : Method σ TunnelError (List Action) :=
  if peer.stale then pure []
  else
    match peer.state with
    | .ready _ _ (some rehandshake) =>
        pure (if rehandshake.nextRetryAt ≤ env.now then [.retryRekey] else [])
    | .ready _ _ none =>
        if peer.lastRxAt.any (fun t => decide (timings.rejectAfter < env.now.durationSince t))
        then pure [.markStale]
        else do
          let rekey ← planRekey keypair timings env rng peer
          if peer.lastTxAt.all (fun t => decide (timings.keepalive < env.now.durationSince t))
          then pure (.sendKeepalive :: rekey)
          else pure rekey
    | _ => pure []

/-- Carry out one decision of `maintenance`. -/
def perform (keypair : Keypair) (env : Env) : Action → Method Session TunnelError Unit
  | .markStale => modifyPeer fun peer => { peer with stale := true }
  | .sendKeepalive => sendEncrypted keypair env [] (transportHeaderSize + 16)
  | .startRekey initiator initMsg => do
      let self ← Method.get
      sendMaybeRelay env self.peer.config keypair.public initMsg
      match self.peer.state with
      | .ready transport sid _ =>
          setState (.ready transport sid
            (some { initiator, initMsg, nextRetryAt := env.now + initRetryInterval }))
      | _ => pure ()
  | .retryRekey => do
      let self ← Method.get
      match self.peer.state with
      | .ready transport sid (some rehandshake) => do
          sendMaybeRelay env self.peer.config keypair.public rehandshake.initMsg
          setState (.ready transport sid
            (some { rehandshake with nextRetryAt := env.now + initRetryInterval }))
      | _ => pure ()

end Session

end Naboscale
