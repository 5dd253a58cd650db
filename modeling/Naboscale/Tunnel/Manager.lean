import Naboscale.Tunnel.Session
import Naboscale.Transition

/-!
# The tunnel manager

The functions of `TunnelManager`: construction, the dispatch of a received datagram, and one
`step` of the main loop. A run of the manager is a list of events, each a call that `step` or
`add_peer` makes. A call that returns an error keeps the state it reached; a panic ends the run.
-/

namespace Naboscale

open Rust

variable [Profile] [Primitives]

namespace TunnelManager

/-! ## Construction -/

/-- The session that `new` and `add_peer` make for a configuration. -/
def newSession (keypair : Keypair) (env : Env) (config : PeerConfig) :
    Except CryptoError PeerSession := do
  let state ← if config.isInitiator then
      (Initiator.new keypair config.peerPub config.psk config.localSenderId env.tai).map
        PeerState.handshakingAsInitiator
    else
      (Responder.new keypair config.psk config.localSenderId env.tai).map
        PeerState.handshakingAsResponder
  pure
    { config, state
      nextInitAt := if config.isInitiator then some env.now else none
      cachedInit := none
      lastRxAt := none
      lastTxAt := none
      lastHandshakeAt := none
      stale := false
      initRxCount := 0
      initRxWindowStart := env.now
      cookieRequired := false
      sentCookie := none
      receivedCookie := none }

/-- Append a session and map its endpoint and public key to it. -/
def insertSession (self : TunnelManager) (peer : PeerSession) : TunnelManager :=
  { self with
    peers := self.peers ++ [peer]
    endpointToPeer :=
      Function.update self.endpointToPeer peer.config.peerEndpoint (some self.peers.length)
    pubkeyToPeer :=
      Function.update self.pubkeyToPeer peer.config.peerPub (some self.peers.length) }

/-- The manager without peers. -/
def empty (env : Env) (config : ManagerConfig) : TunnelManager where
  device := ⟨[]⟩
  transport := ⟨[]⟩
  config := config
  peers := []
  endpointToPeer := fun _ => none
  pubkeyToPeer := fun _ => none
  learnedEndpoints := fun _ => none
  lastMaintenanceAt := env.now
  cookieSecret := env.cookieSecret
  cookieSecretRotatedAt := env.now
  lastCookieSecret := none

/-- The loop of `new` over the peer configurations. -/
def insertAll (env : Env) : TunnelManager → List PeerConfig → Except CryptoError TunnelManager
  | self, [] => .ok self
  | self, config :: configs => do
      let peer ← newSession self.config.localKeypair env config
      insertAll env (self.insertSession peer) configs

/-- `TunnelManager::new`. -/
def new (env : Env) (config : ManagerConfig) (peerCfgs : List PeerConfig) :
    Except CryptoError TunnelManager :=
  insertAll env (empty env config) peerCfgs

/-- `add_peer`: whether the peer was new. -/
def addPeer (env : Env) (config : PeerConfig) : Method TunnelManager TunnelError Bool := do
  let self ← Method.get
  if (self.pubkeyToPeer config.peerPub).isSome then pure false
  else do
    let peer ← Method.lift .crypto (newSession self.config.localKeypair env config)
    Method.modify fun self => self.insertSession peer
    pure true

/-! ## Access to parts -/

/-- Run a handler on `self.peers[idx]`. -/
def atPeer {α : Type} (idx : ℕ) (handler : Method Session TunnelError α) :
    Method TunnelManager TunnelError α := do
  let self ← Method.get
  let peer ← Method.unwrap self.peers[idx]?
  Method.zoom (fun self => ⟨peer, self.transport, self.device⟩)
    (fun session self =>
      { self with
        peers := self.peers.set idx session.peer
        transport := session.transport
        device := session.device })
    handler

/-- `self.transport.send_to`. -/
def sendTo (env : Env) (dest : SocketAddr) (buf : Bytes) :
    Method TunnelManager TunnelError Unit :=
  Method.zoom TunnelManager.transport (fun transport self => { self with transport })
    (UdpTransport.sendTo env dest buf)

/-- `peer.last_rx_at = Some(Instant::now())`. -/
def touch (env : Env) (idx : ℕ) : Method TunnelManager TunnelError Unit :=
  atPeer idx (Session.modifyPeer fun peer => { peer with lastRxAt := some env.now })

/-- Move the stored endpoint of a peer to the source of its packet. -/
def refreshEndpoint (env : Env) (idx : ℕ) (source : SocketAddr) :
    Method TunnelManager TunnelError Unit := do
  let self ← Method.get
  let peer ← Method.unwrap self.peers[idx]?
  if peer.config.peerEndpoint ≠ source then do
    Method.modify fun self =>
      { self with
        endpointToPeer := Function.update
          (Function.update self.endpointToPeer peer.config.peerEndpoint none) source (some idx) }
    atPeer idx (Session.modifyPeer fun peer =>
      { peer with config := { peer.config with peerEndpoint := source } })
  else pure ()
  touch env idx

/-! ## Received datagrams -/

/-- `check_init_cookie` followed by `handle_init`, unless the cookie gate handled the INIT. -/
def gateInit (env : Env) (idx : ℕ) (source : SocketAddr) (pkt : Bytes) :
    Method TunnelManager TunnelError Unit := do
  let self ← Method.get
  let handled ← atPeer idx (Session.checkInitCookie self.cookieSecret env source pkt)
  if handled then pure ()
  else
    atPeer idx
      (Session.handleInit self.config.localKeypair env (env.ephemeral idx) source pkt)

/-- `identify_initiator_by_mac1`. -/
def identifyInitiatorByMac1 (initPkt : Bytes) : Method TunnelManager TunnelError (Option ℕ) := do
  let self ← Method.get
  let mac1 ← slice initPkt mac1OffsetInit (mac1OffsetInit + mac1Len)
  let msgBeforeMac ← slice initPkt 0 mac1OffsetInit
  pure (self.peers.findIdx? fun peer =>
    (computeMac1 (mac1Key peer.config.peerPub) msgBeforeMac).val = mac1)

/-- The branch of `handle_relay` for packets that have reached their destination. -/
def handleRelayed (env : Env) (idx : ℕ) (source : SocketAddr) (inner : Bytes) :
    Method TunnelManager TunnelError Unit := do
  let self ← Method.get
  if inner[0]? = some messageTypeTransport then
    atPeer idx (Session.handleRelayedTransport env inner)
  else if inner[0]? = some messageTypeInit then
    atPeer idx (Session.handleInitViaRelay self.config.localKeypair env (env.ephemeral idx)
      source inner)
  else if inner[0]? = some messageTypeResponse then
    atPeer idx (Session.handleResponse env inner)
  else Method.fail (.invalidConfig "relay inner is not a recognized message type")

/-- The branch of `handle_relay` for packets on their way to another peer. -/
def forwardRelay (env : Env) (destIp : Ipv4Addr) (pkt : Bytes) :
    Method TunnelManager TunnelError Unit := do
  let self ← Method.get
  match self.peers.find? fun peer => peer.config.peerIp = destIp with
  | none =>
      Method.fail (.invalidConfig ("relay dest " ++ toString destIp ++ " not a known peer"))
  | some dest =>
      sendTo env ((self.learnedEndpoints dest.config.peerPub).getD dest.config.peerEndpoint) pkt

/-- `handle_relay`. -/
def handleRelay (env : Env) (source : SocketAddr) (pkt : Bytes) :
    Method TunnelManager TunnelError Unit :=
  if pkt.length < relayHeaderSize then
    Method.fail (.invalidConfig "relay packet too short")
  else do
    let header ← slice pkt 1 33
    let fromPub ← expectArr 32 header
    let a ← index pkt 33
    let b ← index pkt 34
    let c ← index pkt 35
    let d ← index pkt 36
    let inner ← slice pkt relayHeaderSize pkt.length
    let self ← Method.get
    if (⟨a, b, c, d⟩ : Ipv4Addr) = self.config.localIp then
      match self.pubkeyToPeer fromPub with
      | none => Method.fail (.invalidConfig "relay from_pub not a known peer")
      | some idx => handleRelayed env idx source inner
    else forwardRelay env ⟨a, b, c, d⟩ pkt

/-- The branch of `handle_incoming` for packets from a known endpoint. -/
def handleDirect (env : Env) (idx : ℕ) (source : SocketAddr) (msgType : UInt8) (pkt : Bytes) :
    Method TunnelManager TunnelError Unit :=
  if msgType = messageTypeInit then gateInit env idx source pkt
  else if msgType = messageTypeResponse then atPeer idx (Session.handleResponse env pkt)
  else if msgType = messageTypeTransport then atPeer idx (Session.handleTransport env pkt)
  else if msgType = messageTypeCookie then atPeer idx (Session.handleCookie env pkt)
  else pure ()

/-- Learn the source of a RELAY packet, unless it is the endpoint of a peer. -/
def learnEndpoint (source : SocketAddr) (fromPub : Key) (self : TunnelManager) : TunnelManager :=
  if (self.endpointToPeer source).isNone then
    { self with
      learnedEndpoints := Function.update self.learnedEndpoints fromPub (some source) }
  else self

/-- `handle_incoming`. -/
def handleIncoming (env : Env) (source : SocketAddr) (pkt : Bytes) :
    Method TunnelManager TunnelError Unit :=
  if pkt.isEmpty then pure ()
  else do
    let msgType ← index pkt 0
    let self ← Method.get
    if msgType = messageTypeRelay then
      if pkt.length < relayHeaderSize then pure ()
      else do
        let header ← slice pkt 1 33
        let fromPub ← expectArr 32 header
        match self.pubkeyToPeer fromPub with
        | none => pure ()
        | some idx => do
            Method.modify (learnEndpoint source fromPub)
            touch env idx
            handleRelay env source pkt
    else
      match self.endpointToPeer source with
      | none =>
          if msgType = messageTypeInit ∧ initSize ≤ pkt.length ∧
              mac1OffsetInit + mac1Len ≤ pkt.length then do
            match ← identifyInitiatorByMac1 pkt with
            | none => pure ()
            | some idx => do
                refreshEndpoint env idx source
                gateInit env idx source pkt
          else pure ()
      | some idx => do
          refreshEndpoint env idx source
          handleDirect env idx source msgType pkt

/-! ## The main loop -/

/-- `lookup_peer_by_dest_ip`. -/
def lookupPeerByDestIp (self : TunnelManager) (pkt : Bytes) : Option ℕ := do
  let first : UInt8 ← pkt[0]?
  if first >>> 4 ≠ 4 ∨ pkt.length < 20 then none
  else
    let a ← pkt[16]?
    let b ← pkt[17]?
    let c ← pkt[18]?
    let d ← pkt[19]?
    self.peers.findIdx? fun peer => peer.config.peerIp = ⟨a, b, c, d⟩

/-- `dispatch_tun_packet`. -/
def dispatchTunPacket (env : Env) (pkt : Bytes) : Method TunnelManager TunnelError Unit := do
  let self ← Method.get
  match self.lookupPeerByDestIp pkt with
  | none => pure ()
  | some idx => atPeer idx (Session.sendEncrypted self.config.localKeypair env pkt 1600)

/-- `any_peer_ready`. -/
def anyPeerReady (self : TunnelManager) : Bool := self.peers.any fun peer => peer.state.isReady

/-- One pass of the INIT loop of `step`, for the peer at `idx`. -/
def retryInit (env : Env) (idx : ℕ) : Method TunnelManager TunnelError Unit := do
  let self ← Method.get
  atPeer idx (Session.retryInit self.config.localKeypair env (env.ephemeral idx))

/-- The cookie secret rotation of `maintenance`. -/
def rotateCookieSecret (env : Env) (self : TunnelManager) : TunnelManager :=
  if cookieSecretRotation ≤ env.now.durationSince self.cookieSecretRotatedAt then
    { self with
      lastCookieSecret := some self.cookieSecret
      cookieSecret := env.cookieSecret
      cookieSecretRotatedAt := env.now }
  else self

/-- The first loop of `maintenance`: the actions for the peers from index `idx` on. -/
def plan (config : ManagerConfig) (env : Env) :
    ℕ → List PeerSession → Method TunnelManager TunnelError (List (ℕ × Session.Action))
  | _, [] => pure []
  | idx, peer :: peers => do
      let actions ← Session.planPeer config.localKeypair config.timings env (env.ephemeral idx)
        peer
      let rest ← plan config env (idx + 1) peers
      pure (actions.map (Prod.mk idx) ++ rest)

/-- The second loop of `maintenance`. -/
def performAll (keypair : Keypair) (env : Env) :
    List (ℕ × Session.Action) → Method TunnelManager TunnelError Unit
  | [] => pure ()
  | (idx, action) :: rest => do
      atPeer idx (Session.perform keypair env action)
      performAll keypair env rest

/-- `maintenance`. -/
def maintenance (env : Env) : Method TunnelManager TunnelError Unit := do
  let self ← Method.get
  if env.now.durationSince self.lastMaintenanceAt < self.config.timings.maintenanceTick then
    pure ()
  else do
    Method.modify fun self => rotateCookieSecret env { self with lastMaintenanceAt := env.now }
    let actions ← plan self.config env 0 self.peers
    performAll self.config.localKeypair env actions

/-- What one `step` receives from outside: the datagrams waiting in the socket, each with the
inputs of its handling, an error of the socket that ends the loop, and what the tun device
yields. -/
structure StepInput where
  received : List (Env × SocketAddr × Bytes)
  recvError : Option String
  env : Env
  tun : Except String (Option Bytes)

/-- The receive loop of `step`. -/
def receiveAll : List (Env × SocketAddr × Bytes) → Method TunnelManager TunnelError Unit
  | [] => pure ()
  | (env, source, pkt) :: rest => do
      handleIncoming env source pkt
      receiveAll rest

/-- The INIT loop of `step`, for the peers at the given indices. -/
def retryAll (env : Env) : List ℕ → Method TunnelManager TunnelError Unit
  | [] => pure ()
  | idx :: rest => do
      retryInit env idx
      retryAll env rest

/-- `step`. -/
def step (input : StepInput) : Method TunnelManager TunnelError Unit := do
  receiveAll input.received
  match input.recvError with
  | some e => Method.fail (.io e)
  | none => do
      let self ← Method.get
      retryAll input.env (List.range self.peers.length)
      let self ← Method.get
      if self.anyPeerReady then do
        let read ← Method.lift .io input.tun
        match read with
        | some pkt => dispatchTunPacket input.env pkt
        | none => pure ()
      else pure ()
      maintenance input.env

/-! ## Runs -/

/-- The calls that make up the life of a manager. -/
inductive Event where
  | addPeer (env : Env) (config : PeerConfig)
  | incoming (env : Env) (source : SocketAddr) (pkt : Bytes)
  | retryInit (env : Env) (idx : ℕ)
  | dispatchTunPacket (env : Env) (pkt : Bytes)
  | maintenance (env : Env)

/-- The call that an event stands for. -/
def Event.call : Event → Method TunnelManager TunnelError Unit
  | addPeer env config => do
      let _ ← TunnelManager.addPeer env config
      pure ()
  | incoming env source pkt => handleIncoming env source pkt
  | retryInit env idx => TunnelManager.retryInit env idx
  | dispatchTunPacket env pkt => TunnelManager.dispatchTunPacket env pkt
  | maintenance env => TunnelManager.maintenance env

/-- The state after an event, unless its call panics. -/
def fire (self : TunnelManager) (event : Event) : Option TunnelManager :=
  (event.call self).state?

/-- A state that some run of a newly made manager reaches. -/
def Reachable (self : TunnelManager) : Prop :=
  ∃ env config peerCfgs start, new env config peerCfgs = .ok start ∧
    Transition.Reaches fire start self

end TunnelManager

end Naboscale
