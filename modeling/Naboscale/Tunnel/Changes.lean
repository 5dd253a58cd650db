import Naboscale.Tunnel.Session
import Naboscale.Crypto.Channel

/-!
# What a handler can do to its session

`StateChange` lists every way the state of a session can move, with the evidence each move
needs: which responder answered which INIT, which initiator accepted which RESPONSE. Each
handler is specified once by it, and every invariant of sessions is proved by its cases.
-/

namespace Naboscale

open Rust

variable [Profile] [Primitives]

/-- The datagram that a session is given to handle. -/
inductive Message where
  | init (pkt : Bytes)
  | relayedInit (pkt : Bytes)
  | response (pkt : Bytes)
  | transport (pkt : Bytes)
  | relayedTransport (pkt : Bytes)
  | cookie (pkt : Bytes)
  deriving DecidableEq

/-- The INIT that a message carries. -/
def Message.initPkt? : Message → Option Bytes
  | init pkt => some pkt
  | relayedInit pkt => some pkt
  | _ => none

/-- The message carries a packet of the data channel. -/
def Message.IsTransport : Message → Prop
  | transport _ => True
  | relayedTransport _ => True
  | _ => False

omit [Profile] [Primitives] in
/-- A packet of the data channel carries no INIT. -/
theorem Message.initPkt?_of_isTransport {message : Message} (h : message.IsTransport) :
    message.initPkt? = none := by
  cases message <;> first | rfl | exact absurd h id

/-- Everything in the configuration of a session but its endpoint is fixed. -/
def PeerConfig.Same (config config' : PeerConfig) : Prop :=
  config' = { config with peerEndpoint := config'.peerEndpoint }

/-- The responder answers the INIT, and `transport` is what the handshake turns into. -/
def Responder.Yields (responder : Responder) (env : Env) (rng : Ephemeral) (pkt : Bytes)
    (transport : Transport) : Prop :=
  ∃ pub reply state inner, (responder.setCurrentTime env.tai).Answers pkt rng pub reply state ∧
    intoTransportMode state = .ok inner ∧ transport = Transport.new inner responder.senderId

/-- The initiator of a rekey has just written its INIT. -/
def Initiator.Fresh (keypair : Keypair) (env : Env) (rng : Ephemeral) (config : PeerConfig)
    (initiator : Initiator) : Prop :=
  ∃ start message state, Initiator.new keypair config.peerPub config.psk config.localSenderId
      env.tai = .ok start ∧
    writeMessage start.state rng start.timestamp.toBytes.val noiseInitPayloadSize =
      (.ok message, state) ∧ initiator = { start with state }

/-- The RESPONSE completes the handshake that the session waits to finish. -/
def PeerState.Completes (state : PeerState) (pkt : Bytes) : Prop :=
  (∃ initiator inner, state = .handshakingAsInitiator initiator ∧ initiator.Accepts pkt inner) ∨
    ∃ transport sid rehandshake inner, state = .ready transport sid (some rehandshake) ∧
      rehandshake.initiator.Accepts pkt inner

/-- One move of the state of a session with the given configuration, on a message or, where
there is none, on its own. -/
inductive StateChange (keypair : Keypair) (env : Env) (rng : Ephemeral) (config : PeerConfig) :
    Option Message → PeerState → PeerState → Prop where
  /-- Nothing moves. -/
  | keep {message state} : StateChange keypair env rng config message state state
  /-- A packet is encrypted or decrypted. -/
  | use {message transport transport' sid rehandshake} :
      (∀ m ∈ message, Message.IsTransport m) → transport.Uses transport' →
      StateChange keypair env rng config message (.ready transport sid rehandshake)
        (.ready transport' sid rehandshake)
  /-- An INIT fails and a fresh responder takes over. -/
  | renew {message pkt responder fresh} :
      message.initPkt? = some pkt →
      Responder.new keypair config.psk config.localSenderId env.tai = .ok fresh →
      StateChange keypair env rng config (some message) (.handshakingAsResponder responder)
        (.handshakingAsResponder fresh)
  /-- An INIT is answered but the answer cannot be sent. -/
  | spend {message pkt responder pub reply state} :
      message.initPkt? = some pkt →
      (responder.setCurrentTime env.tai).Answers pkt rng pub reply state →
      StateChange keypair env rng config (some message) (.handshakingAsResponder responder)
        (.handshakingAsResponder { responder.setCurrentTime env.tai with state })
  /-- An INIT fails, and no fresh responder can be made. -/
  | exhaust {message pkt responder state e} :
      message.initPkt? = some pkt →
      Responder.new keypair config.psk config.localSenderId env.tai = .error e →
      StateChange keypair env rng config (some message) (.handshakingAsResponder responder)
        (.handshakingAsResponder { responder.setCurrentTime env.tai with state })
  /-- An INIT is answered and the session becomes ready. -/
  | accept {message pkt responder transport sid} :
      message.initPkt? = some pkt → responder.Yields env rng pkt transport →
      StateChange keypair env rng config (some message) (.handshakingAsResponder responder)
        (.ready transport sid none)
  /-- An INIT is answered, but its handshake does not turn into a transport. -/
  | lose {message pkt responder pub reply state e} :
      message.initPkt? = some pkt →
      (responder.setCurrentTime env.tai).Answers pkt rng pub reply state →
      intoTransportMode state = .error e →
      StateChange keypair env rng config (some message) (.handshakingAsResponder responder) .init
  /-- An INIT is answered by a fresh responder, whose transport replaces the current one. -/
  | replace {pkt responder transport transport' sid sid' rehandshake} :
      Responder.new keypair config.psk config.localSenderId env.tai = .ok responder →
      responder.Yields env rng pkt transport' →
      StateChange keypair env rng config (some (.init pkt)) (.ready transport sid rehandshake)
        (.ready transport' sid' rehandshake)
  /-- A RESPONSE completes the initial handshake. -/
  | complete {pkt initiator inner sid} :
      initiator.Accepts pkt inner →
      StateChange keypair env rng config (some (.response pkt)) (.handshakingAsInitiator initiator)
        (.ready (Transport.new inner initiator.senderId) sid none)
  /-- A RESPONSE completes a rekey. -/
  | completeRekey {pkt inner transport sid sid' rehandshake} :
      rehandshake.initiator.Accepts pkt inner →
      StateChange keypair env rng config (some (.response pkt))
        (.ready transport sid (some rehandshake))
        (.ready (Transport.new inner rehandshake.initiator.senderId) sid' none)
  /-- A RESPONSE that does not complete the rekey in flight ends it. -/
  | abort {pkt transport sid rehandshake} :
      responseSize ≤ pkt.length → (∀ inner, ¬ rehandshake.initiator.Accepts pkt inner) →
      StateChange keypair env rng config (some (.response pkt))
        (.ready transport sid (some rehandshake)) (.ready transport sid none)
  /-- A RESPONSE that the session cannot use resets it, unless a rekey is in flight. -/
  | discard {pkt state} :
      responseSize ≤ pkt.length → ¬ state.Completes pkt →
      (∀ transport sid rehandshake, state ≠ .ready transport sid (some rehandshake)) →
      StateChange keypair env rng config (some (.response pkt)) state .init
  /-- The initiator writes its INIT. -/
  | write {initiator state payload room result} :
      writeMessage initiator.state rng payload room = (result, state) →
      StateChange keypair env rng config none (.handshakingAsInitiator initiator)
        (.handshakingAsInitiator { initiator with state })
  /-- A rekey starts. -/
  | startRekey {transport sid rehandshake initiator initMsg due} :
      initiator.Fresh keypair env rng config →
      StateChange keypair env rng config none (.ready transport sid rehandshake)
        (.ready transport sid (some ⟨initiator, initMsg, due⟩))
  /-- The INIT of a rekey is sent again. -/
  | retryRekey {transport sid rehandshake due} :
      StateChange keypair env rng config none (.ready transport sid (some rehandshake))
        (.ready transport sid (some { rehandshake with nextRetryAt := due }))

/-- The state of the cookie gate between two datagrams: no cookie was ever sent, and the count
of INITs is not over the limit. -/
def PeerSession.GateOpen (peer : PeerSession) : Prop :=
  peer.cookieRequired = false ∧ peer.initRxCount.toNat ≤ cookieInitRateLimit

/-- One move of a session: its configuration stays the same up to the endpoint, and the cookie
gate stays open. -/
structure Change (keypair : Keypair) (env : Env) (rng : Ephemeral) (message : Option Message)
    (peer peer' : PeerSession) : Prop where
  config : peer.config.Same peer'.config
  state : StateChange keypair env rng peer.config message peer.state peer'.state
  gate : peer.GateOpen → peer'.GateOpen

/-- The two peers have the same configuration, up to the endpoint, and the same state. -/
structure PeerSession.Keeps (peer peer' : PeerSession) : Prop where
  config : peer.config.Same peer'.config
  state : peer'.state = peer.state
  gate : peer.GateOpen → peer'.GateOpen

omit [Profile] [Primitives] in
theorem PeerConfig.Same.refl (config : PeerConfig) : config.Same config := rfl

omit [Profile] [Primitives] in
theorem PeerConfig.Same.trans {config config' config'' : PeerConfig} (h : config.Same config')
    (h' : config'.Same config'') : config.Same config'' := by
  rw [PeerConfig.Same] at *
  rw [h', h]

omit [Profile] in
theorem PeerSession.Keeps.refl (peer : PeerSession) : peer.Keeps peer := ⟨rfl, rfl, id⟩

omit [Profile] in
theorem PeerSession.Keeps.trans {peer peer' peer'' : PeerSession} (h : peer.Keeps peer')
    (h' : peer'.Keeps peer'') : peer.Keeps peer'' :=
  ⟨h.config.trans h'.config, h'.state.trans h.state, h'.gate ∘ h.gate⟩

section Change

variable {keypair : Keypair} {env : Env} {rng : Ephemeral} {message : Option Message}
  {peer peer' peer'' : PeerSession}

theorem Change.refl (message : Option Message) (peer : PeerSession) :
    Change keypair env rng message peer peer :=
  ⟨rfl, .keep, id⟩

theorem PeerSession.Keeps.change (h : peer.Keeps peer') :
    Change keypair env rng message peer peer' :=
  ⟨h.config, h.state ▸ .keep, h.gate⟩

/-- Moves depend only on what configurations share that are the same. -/
theorem StateChange.of_same {config config' : PeerConfig} {state state' : PeerState}
    (hsame : config.Same config')
    (h : StateChange keypair env rng config' message state state') :
    StateChange keypair env rng config message state state' := by
  have hpub : config'.peerPub = config.peerPub := by rw [hsame]
  have hpsk : config'.psk = config.psk := by rw [hsame]
  have hid : config'.localSenderId = config.localSenderId := by rw [hsame]
  cases h with
  | keep => exact .keep
  | use hm h => exact .use hm h
  | renew hm h => exact .renew hm (by rwa [hpsk, hid] at h)
  | spend hm h => exact .spend hm h
  | exhaust hm h => exact .exhaust hm (by rwa [hpsk, hid] at h)
  | accept hm h => exact .accept hm h
  | lose hm h he => exact .lose hm h he
  | replace hnew h => exact .replace (by rwa [hpsk, hid] at hnew) h
  | complete h => exact .complete h
  | completeRekey h => exact .completeRekey h
  | abort hlen h => exact .abort hlen h
  | discard hlen h hrekey => exact .discard hlen h hrekey
  | write h => exact .write h
  | startRekey h =>
      obtain ⟨start, message, state, hnew, hwrite, hinit⟩ := h
      exact .startRekey ⟨start, message, state, by rwa [hpub, hpsk, hid] at hnew, hwrite, hinit⟩
  | retryRekey => exact .retryRekey

/-- A move does not depend on what else is stored in the session. -/
theorem Change.of_keeps (hkeeps : peer.Keeps peer')
    (h : Change keypair env rng message peer' peer'') :
    Change keypair env rng message peer peer'' :=
  ⟨hkeeps.config.trans h.config, hkeeps.state ▸ h.state.of_same hkeeps.config,
    h.gate ∘ hkeeps.gate⟩

end Change

namespace Session

section Rules

omit [Profile]

/-- The session after a datagram is handed to the network. -/
def logSend (self : Session) (dest : SocketAddr) (buf : Bytes) : Session :=
  { self with transport := ⟨self.transport.sent ++ [(dest, buf)]⟩ }

/-- The session with its peer in another state. -/
def withState (self : Session) (state : PeerState) : Session :=
  { self with peer := { self.peer with state } }

@[simp] theorem logSend_peer (self : Session) (dest : SocketAddr) (buf : Bytes) :
    (self.logSend dest buf).peer = self.peer := rfl

@[simp] theorem withState_peer (self : Session) (state : PeerState) :
    (self.withState state).peer = { self.peer with state } := rfl

variable {Q : Method.Post Session TunnelError Unit} {self : Session} {env : Env}

theorem wp_sendTo (dest : SocketAddr) (buf : Bytes) :
    (sendTo env dest buf).wp Q self ↔
      (env.sendError dest buf = none → Q.ok () (self.logSend dest buf)) ∧
      (∀ e, env.sendError dest buf = some e → Q.err (.io e) self) := by
  rw [sendTo, Method.wp_zoom, UdpTransport.sendTo]
  cases env.sendError dest buf with
  | none => simp [logSend]
  | some e => simp

theorem wp_write (buf : Bytes) :
    (write env buf).wp Q self ↔
      (env.writeError buf = none →
        Q.ok () { self with device := ⟨self.device.written ++ [buf]⟩ }) ∧
      (∀ e, env.writeError buf = some e → Q.err (.io e) self) := by
  rw [write, Method.wp_zoom, Device.write]
  cases env.writeError buf with
  | none => simp
  | some e => simp

@[simp] theorem wp_modifyPeer (f : PeerSession → PeerSession) :
    (modifyPeer f).wp Q self ↔ Q.ok () { self with peer := f self.peer } := Iff.rfl

@[simp] theorem wp_setState (state : PeerState) :
    (setState state).wp Q self ↔ Q.ok () (self.withState state) := Iff.rfl

theorem wp_setState_bind {α : Type} {Q : Method.Post Session TunnelError α} {self : Session}
    (state : PeerState) (f : Unit → Method Session TunnelError α) :
    (setState state >>= f).wp Q self ↔ (f ()).wp Q (self.withState state) := Iff.rfl

omit [Primitives] in
/-- A `u32` is read from a slice of four bytes. -/
theorem wp_readU32 {σ ε : Type} {Q : Method.Post σ ε UInt32} {s : σ} {bytes : Bytes}
    (hlen : bytes.length = 4) (hok : Q.ok (UInt32.ofNat (fromLe bytes)) s) :
    (readU32 bytes).wp Q s := by
  rw [readU32, Method.wp_bind, wp_expectArr]
  exact ⟨fun _ => hok, fun h => absurd hlen h⟩

/-- The bytes of a RELAY packet. -/
def relayFrame (fromPub : Key) (destIp : Ipv4Addr) (inner : Bytes) : Bytes :=
  messageTypeRelay :: (fromPub.val ++ destIp.octets.val ++ inner)

omit [Primitives] in
/-- `wrapRelay` never panics, and it builds the frame. -/
theorem wrapRelay_eq {σ ε : Type} (fromPub : Key) (destIp : Ipv4Addr) (inner : Bytes) :
    (wrapRelay fromPub destIp inner : Method σ ε Bytes) =
      pure (relayFrame fromPub destIp inner) := by
  have hpub := Arr.length_eq fromPub
  have hip := Arr.length_eq destIp.octets
  have hrange : 33 ≤ relayHeaderSize + inner.length ∧ 37 ≤ relayHeaderSize + inner.length := by
    simp only [relayHeaderSize]
    omega
  rw [wrapRelay, Arr.store_eq _ _ (by simp only [relayHeaderSize]; omega), pure_bind,
    Arr.copyFromSlice_eq _ ⟨by decide, hrange.1, hpub⟩, pure_bind,
    Arr.copyFromSlice_eq _ ⟨by decide, hrange.2, hip⟩, pure_bind,
    Arr.copyFromSlice_eq _ ⟨Nat.le_add_right _ _, le_rfl, (Nat.add_sub_cancel_left _ _).symm⟩,
    pure_bind]
  congr 1
  have hzeros : (Arr.zeros (relayHeaderSize + inner.length)).val.set 0 messageTypeRelay =
      [messageTypeRelay] ++ List.replicate 32 0 ++ List.replicate (4 + inner.length) 0 := by
    simp only [Arr.zeros, relayHeaderSize]
    rw [show 1 + 32 + 4 + inner.length = (1 + 32) + (4 + inner.length) by omega,
      ← List.replicate_append_replicate]
    rfl
  have h1 : Rust.splice ((Arr.zeros (relayHeaderSize + inner.length)).val.set 0
      messageTypeRelay) 1 33 fromPub.val =
      ([messageTypeRelay] ++ fromPub.val) ++ List.replicate 4 0 ++
        List.replicate inner.length 0 := by
    rw [hzeros, splice_append (p := [messageTypeRelay]) (q := List.replicate 32 0)
      (a := 1) (b := 33) rfl List.length_replicate (by decide),
      ← List.replicate_append_replicate]
    simp
  have h2 : Rust.splice (([messageTypeRelay] ++ fromPub.val) ++ List.replicate 4 0 ++
      List.replicate inner.length 0) 33 37 destIp.octets.val =
      ([messageTypeRelay] ++ fromPub.val ++ destIp.octets.val) ++
        List.replicate inner.length 0 ++ [] := by
    rw [splice_append (by simp [hpub]) (by simp) (by decide)]
    simp
  show Rust.splice (Rust.splice (Rust.splice _ 1 33 fromPub.val) 33 37 destIp.octets.val)
    relayHeaderSize (relayHeaderSize + inner.length) inner = _
  rw [h1, h2, splice_append (by simp [hpub, hip, relayHeaderSize]) (by simp)
    (Nat.le_add_right _ _)]
  simp [relayFrame]

/-- The sender id in the header of an INIT or a RESPONSE. -/
def senderIdOf (pkt : Bytes) : UInt32 := UInt32.ofNat (fromLe (sub pkt 4 8))

omit [Primitives] in
/-- Reading the sender id of a packet of at least 8 bytes. -/
theorem wp_readSenderId {σ ε α : Type} {Q : Method.Post σ ε α} {s : σ} {pkt : Bytes}
    {k : UInt32 → Method σ ε α} (hlen : 8 ≤ pkt.length) (hk : (k (senderIdOf pkt)).wp Q s) :
    (do
      let id ← slice pkt 4 8
      let peerSenderId ← readU32 id
      k peerSenderId).wp Q s := by
  rw [slice_eq (by decide) hlen, pure_bind, Method.wp_bind]
  exact wp_readU32 (sub_length hlen) hk

end Rules

/-! ## INIT -/

section Init

variable {Q : Method.Post Session TunnelError Unit} {self : Session} {env : Env}
  {keypair : Keypair} {rng : Ephemeral} {source : SocketAddr} {pkt : Bytes}

/-- What `respond` can do, where `bytes` is what it sends for a response. -/
theorem wp_respond {responder : Responder} {bytes : Arr responseSize → Bytes}
    {frame : Arr responseSize → Method Session TunnelError Bytes}
    (hframe : ∀ response, frame response = pure (bytes response))
    (hlen : initSize ≤ pkt.length)
    (hrenew : ∀ fresh, Responder.new keypair self.peer.config.psk
        self.peer.config.localSenderId env.tai = .ok fresh →
      Q.ok () (self.withState (.handshakingAsResponder fresh)))
    (hexhaust : ∀ e state, Responder.new keypair self.peer.config.psk
        self.peer.config.localSenderId env.tai = .error e →
      Q.err (.crypto e) (self.withState (.handshakingAsResponder
        { responder.setCurrentTime env.tai with state })))
    (hspend : ∀ e pub reply state response,
      (responder.setCurrentTime env.tai).Answers pkt rng pub reply state →
      env.sendError source (bytes response) = some e →
      Q.err (.io e) (self.withState (.handshakingAsResponder
        { responder.setCurrentTime env.tai with state })))
    (hlose : ∀ e pub reply state (response : Arr responseSize),
      (responder.setCurrentTime env.tai).Answers pkt rng pub reply state →
      intoTransportMode state = .error e →
      Q.err (.crypto (.noise e)) ((self.logSend source (bytes response)).withState .init))
    (haccept : ∀ pub reply state inner (response : Arr responseSize),
      (responder.setCurrentTime env.tai).Answers pkt rng pub reply state →
      response.val = (responder.setCurrentTime env.tai).answer pkt pub reply →
      intoTransportMode state = .ok inner →
      Q.ok ()
        { self.logSend source (bytes response) with
          peer :=
            { self.peer with
              state := .ready (Transport.new inner responder.senderId) (senderIdOf pkt) none
              lastHandshakeAt := some env.now
              lastRxAt := some env.now } })
    (hpanic : (responder.setCurrentTime env.tai).Traps pkt → Q.panic) :
    (respond keypair env rng source pkt responder frame).wp Q self := by
  unfold respond
  rw [Method.wp_get_bind, Method.wp_on_bind]
  refine Responder.wp_consumeInit (fun pub reply state response hanswers hresponse => ?_) ?_
    hpanic
  · -- The INIT is answered; the answer has to be sent before the handshake is finished.
    simp only
    rw [wp_setState_bind, hframe, pure_bind, Method.wp_bind, wp_sendTo]
    refine ⟨fun hsent => ?_, fun e he => hspend e pub reply state response hanswers he⟩
    refine wp_readSenderId (le_trans (by decide) hlen) ?_
    rw [wp_setState_bind, Responder.intoTransport]
    cases hinto : intoTransportMode state with
    | ok inner => exact haccept pub reply state inner response hanswers hresponse hinto
    | error e => exact hlose e pub reply state response hanswers hinto
  · intro e state _
    simp only
    rw [wp_setState_bind]
    -- A responder that has failed is spent, and a new one takes its place if it can be made.
    cases hnew : Responder.new keypair self.peer.config.psk self.peer.config.localSenderId
        env.tai with
    | ok fresh => exact hrenew fresh hnew
    | error e' => exact hexhaust e' state hnew

/-- What the rekey branch can do. -/
theorem wp_respondRekey {peerSenderId : UInt32} {rehandshake : Option Rehandshake}
    (hignore : Q.ok () self)
    (hunmade : ∀ e, Responder.new keypair self.peer.config.psk self.peer.config.localSenderId
        env.tai = .error e → Q.err (.crypto e) self)
    (hlose : ∀ (responder : Responder) e pub reply state,
      (responder.setCurrentTime env.tai).Answers pkt rng pub reply state →
      intoTransportMode state = .error e → Q.err (.crypto (.noise e)) self)
    (hunsent : ∀ e (response : Arr responseSize), env.sendError source response.val = some e →
      Q.err (.io e) self)
    (hreplace : ∀ responder pub reply state inner (response : Arr responseSize),
      Responder.new keypair self.peer.config.psk self.peer.config.localSenderId env.tai =
        .ok responder →
      (responder.setCurrentTime env.tai).Answers pkt rng pub reply state →
      response.val = (responder.setCurrentTime env.tai).answer pkt pub reply →
      intoTransportMode state = .ok inner → env.sendError source response.val = none →
      Q.ok ()
        { self.logSend source response.val with
          peer :=
            { self.peer with
              state := .ready (Transport.new inner responder.senderId) peerSenderId rehandshake
              lastHandshakeAt := some env.now
              stale := false } })
    (hpanic : ∀ responder, Responder.new keypair self.peer.config.psk
        self.peer.config.localSenderId env.tai = .ok responder →
      (responder.setCurrentTime env.tai).Traps pkt → Q.panic) :
    (respondRekey keypair env rng source pkt peerSenderId rehandshake).wp Q self := by
  unfold respondRekey
  rw [Method.wp_get_bind]
  cases hnew : Responder.new keypair self.peer.config.psk self.peer.config.localSenderId
      env.tai with
  | error e => exact hunmade e hnew
  | ok responder =>
      rw [Method.lift_ok, pure_bind, Method.wp_on_bind]
      refine Responder.wp_consumeInit (fun pub reply state response hanswers hresponse => ?_)
        (fun _ _ _ => hignore) (hpanic responder hnew)
      simp only [Responder.intoTransport]
      cases hinto : intoTransportMode state with
      | error e => exact hlose responder e pub reply state hanswers hinto
      | ok inner =>
          simp only
          rw [Method.lift_ok, pure_bind, Method.wp_bind, wp_sendTo]
          refine ⟨fun hsent => ?_, fun e he => hunsent e response he⟩
          exact hreplace responder pub reply state inner response hnew hanswers hresponse hinto
            hsent

/-- The postcondition that the peer made one move on a message. -/
def Moves (keypair : Keypair) (env : Env) (rng : Ephemeral) (message : Option Message)
    (peer : PeerSession) (panic : Prop) {α : Type} : Method.Post Session TunnelError α where
  ok _ self' := Change keypair env rng message peer self'.peer
  err _ self' := Change keypair env rng message peer self'.peer
  panic := panic

/-- `respond` moves the session, and panics only if the sealed timestamp traps. -/
theorem respond_moves (message : Message) {responder : Responder}
    {bytes : Arr responseSize → Bytes}
    {frame : Arr responseSize → Method Session TunnelError Bytes}
    (hmessage : message.initPkt? = some pkt)
    (hstate : self.peer.state = .handshakingAsResponder responder)
    (hframe : ∀ response, frame response = pure (bytes response))
    (hlen : initSize ≤ pkt.length) :
    (respond keypair env rng source pkt responder frame).wp
      (Moves keypair env rng (some message) self.peer
        ((responder.setCurrentTime env.tai).Traps pkt)) self := by
  refine wp_respond hframe hlen (fun fresh hfresh => ?_) (fun e state he => ?_)
    (fun e pub reply state response h _ => ?_) (fun e pub reply state response h he => ?_)
    (fun pub reply state inner response h _ hinto => ?_) id
  · exact ⟨rfl, hstate ▸ .renew hmessage hfresh, id⟩
  · exact ⟨rfl, hstate ▸ .exhaust hmessage he, id⟩
  · exact ⟨rfl, hstate ▸ .spend hmessage h, id⟩
  · exact ⟨rfl, hstate ▸ .lose hmessage h he, id⟩
  · exact ⟨rfl, hstate ▸ .accept hmessage ⟨pub, reply, state, inner, h, hinto, rfl⟩, id⟩

end Init

end Session

/-- The responder that a direct INIT for the session is consumed by. -/
def PeerSession.Consults (peer : PeerSession) (keypair : Keypair) (env : Env)
    (responder : Responder) : Prop :=
  peer.state = .handshakingAsResponder responder ∨
    peer.state.isReady = true ∧
      Responder.new keypair peer.config.psk peer.config.localSenderId env.tai = .ok responder

namespace Session

section Init

variable {self : Session} {env : Env} {keypair : Keypair} {rng : Ephemeral}
  {source : SocketAddr} {pkt : Bytes}

/-- `handle_init` moves the session, and panics only if the sealed timestamp traps. -/
theorem handleInit_moves :
    (handleInit keypair env rng source pkt).wp
      (Moves keypair env rng (some (.init pkt)) self.peer
        (∃ responder, self.peer.Consults keypair env responder ∧
          (responder.setCurrentTime env.tai).Traps pkt)) self := by
  unfold handleInit
  rw [Method.wp_ite]
  refine ⟨fun _ => Change.refl _ _, fun hlen => ?_⟩
  have hlen : initSize ≤ pkt.length := not_lt.1 hlen
  refine wp_readSenderId (le_trans (by decide) hlen) ?_
  rw [Method.wp_get_bind]
  rcases hstate : self.peer.state with _ | initiator | responder | ⟨transport, sid, rehandshake⟩
  · exact Change.refl _ _
  · exact Change.refl _ _
  · refine Method.wp_mono (respond_moves (.init pkt) rfl hstate (fun _ => rfl) hlen)
      (fun _ _ h => h) (fun _ _ h => h) (fun h => ⟨responder, Or.inl hstate, h⟩)
  · refine wp_respondRekey (Change.refl _ _) (fun _ _ => Change.refl _ _)
      (fun _ _ _ _ _ _ _ => Change.refl _ _) (fun _ _ _ => Change.refl _ _)
      (fun responder pub reply state inner response hnew h _ hinto _ => ?_)
      (fun responder hnew h => ⟨responder, Or.inr ⟨by rw [hstate]; rfl, hnew⟩, h⟩)
    exact ⟨rfl, hstate ▸ .replace hnew ⟨pub, reply, state, inner, h, hinto, rfl⟩, id⟩

/-- `handle_init_via_relay` moves the session, and panics only if the sealed timestamp traps. -/
theorem handleInitViaRelay_moves :
    (handleInitViaRelay keypair env rng source pkt).wp
      (Moves keypair env rng (some (.relayedInit pkt)) self.peer
        (∃ responder, self.peer.state = .handshakingAsResponder responder ∧
          (responder.setCurrentTime env.tai).Traps pkt)) self := by
  unfold handleInitViaRelay
  rw [Method.wp_ite]
  refine ⟨fun _ => Change.refl _ _, fun hlen => ?_⟩
  have hlen : initSize ≤ pkt.length := not_lt.1 hlen
  rw [Method.wp_get_bind]
  rcases hstate : self.peer.state with _ | initiator | responder | ⟨transport, sid, rehandshake⟩
  · exact Change.refl _ _
  · exact Change.refl _ _
  · refine Method.wp_mono (respond_moves (.relayedInit pkt) rfl hstate
      (fun _ => wrapRelay_eq _ _ _) hlen) (fun _ _ h => h) (fun _ _ h => h)
      (fun h => ⟨responder, rfl, h⟩)
  · exact Change.refl _ _

/-- An INIT whose sealed timestamp traps makes `handle_init` panic. -/
theorem handleInit_panic {responder : Responder} (h : self.peer.Consults keypair env responder)
    (htraps : (responder.setCurrentTime env.tai).Traps pkt) :
    handleInit keypair env rng source pkt self = .panic := by
  have hlen : ¬ pkt.length < initSize := not_lt.2 htraps.1
  have hid : 8 ≤ pkt.length := le_trans (by decide) htraps.1
  have hfour : (sub pkt 4 8).length = 4 := sub_length hid
  have hconsume := (Responder.consume_init_panic_iff _ _ rng).2 htraps
  rw [handleInit, if_neg hlen, slice_eq (by decide) hid, pure_bind, readU32, expectArr_eq hfour,
    pure_bind, pure_bind, Method.bind_ok (Method.get_apply self)]
  rcases h with hstate | ⟨hready, hnew⟩
  · rw [hstate]
    simp only
    rw [respond, Method.bind_ok (Method.get_apply self)]
    refine Method.bind_panic ?_
    rw [Method.on, hconsume]
  · rcases hstate : self.peer.state with _ | _ | _ | ⟨transport, sid, rehandshake⟩ <;>
      rw [hstate] at hready <;> try cases hready
    simp only
    rw [respondRekey, Method.bind_ok (Method.get_apply self), hnew, Method.lift_ok, pure_bind]
    refine Method.bind_panic ?_
    rw [Method.on, hconsume]

/-- An INIT whose sealed timestamp traps makes `handle_init_via_relay` panic. -/
theorem handleInitViaRelay_panic {responder : Responder}
    (hstate : self.peer.state = .handshakingAsResponder responder)
    (htraps : (responder.setCurrentTime env.tai).Traps pkt) :
    handleInitViaRelay keypair env rng source pkt self = .panic := by
  have hlen : ¬ pkt.length < initSize := not_lt.2 htraps.1
  have hconsume := (Responder.consume_init_panic_iff _ _ rng).2 htraps
  rw [handleInitViaRelay, if_neg hlen, Method.bind_ok (Method.get_apply self), hstate]
  simp only
  rw [respond, Method.bind_ok (Method.get_apply self)]
  refine Method.bind_panic ?_
  rw [Method.on, hconsume]

end Init

/-! ## RESPONSE -/

section Response

variable {Q : Method.Post Session TunnelError Unit} {self : Session} {env : Env}
  {keypair : Keypair} {rng : Ephemeral} {pkt : Bytes}

omit [Profile] in
/-- What `handle_response` can do. It never panics. -/
theorem wp_handleResponse
    (hshort : pkt.length < responseSize → ∀ e, Q.err e self)
    (hcomplete : ∀ initiator inner, self.peer.state = .handshakingAsInitiator initiator →
      initiator.Accepts pkt inner →
      Q.ok ()
        { self with
          peer :=
            { self.peer with
              state := .ready (Transport.new inner initiator.senderId) (senderIdOf pkt) none
              lastHandshakeAt := some env.now } })
    (hrekey : ∀ transport sid rehandshake inner,
      self.peer.state = .ready transport sid (some rehandshake) →
      rehandshake.initiator.Accepts pkt inner →
      Q.ok ()
        { self with
          peer :=
            { self.peer with
              state := .ready (Transport.new inner rehandshake.initiator.senderId)
                (senderIdOf pkt) none
              lastHandshakeAt := some env.now } })
    (habort : ∀ transport sid rehandshake, responseSize ≤ pkt.length →
      self.peer.state = .ready transport sid (some rehandshake) →
      (∀ inner, ¬ rehandshake.initiator.Accepts pkt inner) →
      ∀ e, Q.err e (self.withState (.ready transport sid none)))
    (hreset : ∀ initiator, responseSize ≤ pkt.length →
      self.peer.state = .handshakingAsInitiator initiator →
      (∀ inner, ¬ initiator.Accepts pkt inner) → ∀ e, Q.err e (self.withState .init))
    (hdiscard : responseSize ≤ pkt.length →
      (∀ initiator, self.peer.state ≠ .handshakingAsInitiator initiator) →
      (∀ transport sid rehandshake,
        self.peer.state ≠ .ready transport sid (some rehandshake)) →
      Q.ok () (self.withState .init)) :
    (handleResponse env pkt).wp Q self := by
  unfold handleResponse
  rw [Method.wp_ite]
  refine ⟨fun hlen => hshort hlen _, fun hlen => ?_⟩
  have hlen : responseSize ≤ pkt.length := not_lt.1 hlen
  refine wp_readSenderId (le_trans (by decide) hlen) ?_
  rw [Method.wp_get_bind]
  -- The state is replaced before the RESPONSE is consumed, so a refusal is seen in it.
  rcases hstate : self.peer.state with _ | initiator | responder |
    ⟨transport, sid, _ | rehandshake⟩
  · refine hdiscard hlen (fun i h => ?_) (fun t s r h => ?_) <;>
      cases hstate.symm.trans h
  · simp only
    rw [wp_setState_bind, Method.wp_on_bind]
    exact Initiator.wp_consumeResponse (fun inner h => hcomplete initiator inner hstate h)
      (fun h e => hreset initiator hlen hstate h _)
  · refine hdiscard hlen (fun i h => ?_) (fun t s r h => ?_) <;>
      cases hstate.symm.trans h
  · refine hdiscard hlen (fun i h => ?_) (fun t s r h => ?_)
    · cases hstate.symm.trans h
    · cases hstate.symm.trans h
  · simp only
    rw [wp_setState_bind, Method.wp_on_bind]
    exact Initiator.wp_consumeResponse (fun inner h => hrekey _ _ _ inner hstate h)
      (fun h e => habort _ _ _ hlen hstate h _)

/-- `handle_response` moves the session and never panics. -/
theorem handleResponse_moves :
    (handleResponse env pkt).wp
      (Moves keypair env rng (some (.response pkt)) self.peer False) self := by
  refine wp_handleResponse (fun _ _ => Change.refl _ _) (fun initiator inner hstate h => ?_)
    (fun transport sid rehandshake inner hstate h => ?_)
    (fun transport sid rehandshake hlen hstate h e => ?_)
    (fun initiator hlen hstate h e => ?_) (fun hlen hinitiator hrekey => ?_)
  · exact ⟨rfl, hstate ▸ .complete h, id⟩
  · exact ⟨rfl, hstate ▸ .completeRekey h, id⟩
  · exact ⟨rfl, hstate ▸ .abort hlen h, id⟩
  · refine ⟨rfl, .discard hlen ?_ fun t s r hready => ?_, id⟩
    · rintro (⟨i, inner, hi, haccepts⟩ | ⟨_, _, _, _, hready, _⟩)
      · cases hstate.symm.trans hi
        exact h inner haccepts
      · cases hstate.symm.trans hready
    · cases hstate.symm.trans hready
  · refine ⟨rfl, .discard hlen ?_ hrekey, id⟩
    rintro (⟨i, inner, hi, _⟩ | ⟨t, s, r, _, hready, _⟩)
    · exact hinitiator i hi
    · exact hrekey t s r hready

end Response

/-! ## TRANSPORT and COOKIE -/

section Traffic

variable {self : Session} {env : Env} {keypair : Keypair} {rng : Ephemeral} {pkt : Bytes}

omit [Profile] in
/-- Decrypting a packet uses the transport, and never panics. -/
theorem wp_onDecrypt {α : Type} {Q : Method.Post Session TunnelError α} {transport : Transport}
    {room : ℕ} {k : Except CryptoError Bytes × Transport → Method Session TunnelError α}
    (h : ∀ result transport', transport.Uses transport' → (k (result, transport')).wp Q self) :
    (Method.on transport (Transport.decrypt pkt room) >>= k).wp Q self := by
  rw [Method.wp_on_bind]
  exact Transport.wp_decrypt (fun p t huses => h (.ok p) t huses)
    (fun e t huses => h (.error e) t huses)

/-- `handle_transport` moves the session and never panics. -/
theorem handleTransport_moves :
    (handleTransport env pkt).wp
      (Moves keypair env rng (some (.transport pkt)) self.peer False) self := by
  unfold handleTransport
  rw [Method.wp_ite]
  refine ⟨fun _ => Change.refl _ _, fun _ => ?_⟩
  rw [Method.wp_get_bind, Method.wp_ite]
  refine ⟨fun _ => Change.refl _ _, fun _ => ?_⟩
  rcases hstate : self.peer.state with _ | _ | _ | ⟨transport, sid, rehandshake⟩
  case ready =>
    refine wp_onDecrypt fun result transport' huses => ?_
    have hmove : Change keypair env rng (some (.transport pkt)) self.peer
        { self.peer with state := .ready transport' sid rehandshake } :=
      ⟨rfl, hstate ▸ .use (fun m hm => by cases hm; trivial) huses, id⟩
    simp only
    rw [wp_setState_bind]
    cases result with
    | error e => exact hmove
    | ok plaintext =>
        simp only
        rw [Method.wp_ite]
        exact ⟨fun _ => (wp_write _).2 ⟨fun _ => hmove, fun _ _ => hmove⟩, fun _ => hmove⟩
  all_goals exact Change.refl _ _

/-- The TRANSPORT branch of `handle_relay` moves the session and never panics. -/
theorem handleRelayedTransport_moves :
    (handleRelayedTransport env pkt).wp
      (Moves keypair env rng (some (.relayedTransport pkt)) self.peer False) self := by
  unfold handleRelayedTransport
  rw [Method.wp_get_bind]
  rcases hstate : self.peer.state with _ | _ | _ | ⟨transport, sid, rehandshake⟩
  case ready =>
    simp only
    rw [Method.wp_ite]
    refine ⟨fun _ => Change.refl _ _, fun _ => ?_⟩
    refine wp_onDecrypt fun result transport' huses => ?_
    have hmove : Change keypair env rng (some (.relayedTransport pkt)) self.peer
        { self.peer with state := .ready transport' sid rehandshake } :=
      ⟨rfl, hstate ▸ .use (fun m hm => by cases hm; trivial) huses, id⟩
    simp only
    rw [wp_setState_bind]
    cases result with
    | error e => exact hmove
    | ok plaintext =>
        simp only [Method.lift_ok, pure_bind]
        rw [Method.wp_ite]
        exact ⟨fun _ => (wp_write _).2 ⟨fun _ => hmove, fun _ _ => hmove⟩, fun _ => hmove⟩
  all_goals exact Change.refl _ _

omit [Profile] in
/-- `handle_cookie` forgets the cached INIT and makes the session due. -/
theorem handleCookie_eq (self : Session) (env : Env) {pkt : Bytes} (hlen : 24 ≤ pkt.length) :
    ∃ cookie, handleCookie env pkt self = .ok ()
      { self with
        peer :=
          { self.peer with
            receivedCookie := some cookie, cachedInit := none, nextInitAt := some env.now } } := by
  have hbody : (sub pkt 8 24).length = 16 - 0 := sub_length hlen
  refine ⟨(Arr.zeros 16).splice 0 16 (sub pkt 8 24) ⟨Nat.zero_le _, le_rfl, hbody⟩, ?_⟩
  rw [handleCookie, if_neg (not_lt.2 hlen), slice_eq (by decide) hlen, pure_bind,
    Arr.copyFromSlice_eq _ ⟨Nat.zero_le _, le_rfl, hbody⟩, pure_bind]
  rfl

omit [Profile] in
/-- What `handle_cookie` can do: nothing, or remember the cookie. -/
theorem wp_handleCookie {Q : Method.Post Session TunnelError Unit} (hignore : Q.ok () self)
    (hcookie : ∀ cookie, Q.ok ()
      { self with
        peer :=
          { self.peer with
            receivedCookie := some cookie, cachedInit := none, nextInitAt := some env.now } }) :
    (handleCookie env pkt).wp Q self := by
  rcases Nat.lt_or_ge pkt.length 24 with hshort | hlen
  · rw [handleCookie, if_pos hshort]
    exact hignore
  · obtain ⟨cookie, heq⟩ := handleCookie_eq self env hlen
    rw [Method.wp_def, heq]
    exact hcookie cookie

/-- `handle_cookie` changes no state and never panics. -/
theorem handleCookie_moves :
    (handleCookie env pkt).wp
      (Moves keypair env rng (some (.cookie pkt)) self.peer False) self :=
  wp_handleCookie (Change.refl _ _) fun _ => ⟨rfl, .keep, id⟩

end Traffic

end Session

end Naboscale
