import Naboscale.Tunnel.Cookies
import Naboscale.Tunnel.Upkeep

/-!
# Where a datagram goes

`route` says which session handles a received datagram, and as which message. With it,
`handle_incoming` is some bookkeeping followed by one handler of one session, and everything
else it does leaves the sessions as they were.
-/

namespace Naboscale

open Rust

variable [Profile] [Primitives]

namespace Session

/-- The handler of a message. A direct INIT has to pass the cookie gate. -/
def deliver (keypair : Keypair) (cookieSecret : Key) (env : Env) (rng : Ephemeral)
    (source : SocketAddr) : Message → Method Session TunnelError Unit
  | .init pkt => do
      let handled ← checkInitCookie cookieSecret env source pkt
      if handled then pure () else handleInit keypair env rng source pkt
  | .relayedInit pkt => handleInitViaRelay keypair env rng source pkt
  | .response pkt => handleResponse env pkt
  | .transport pkt => handleTransport env pkt
  | .relayedTransport pkt => handleRelayedTransport env pkt
  | .cookie pkt => handleCookie env pkt

/-- The handler of a message, where a direct INIT has to pass the gate with the cookies that it is
given. -/
def deliverWith (generate : CookieGenerator) (keypair : Keypair) (cookieSecret : Key) (env : Env)
    (rng : Ephemeral) (source : SocketAddr) : Message → Method Session TunnelError Unit
  | .init pkt => do
      let handled ← checkInitCookieWith (generate cookieSecret source) env source pkt
      if handled then pure () else handleInit keypair env rng source pkt
  | message => deliver keypair cookieSecret env rng source message

/-- The messages that make the handler of a session panic: an INIT over the rate limit, and an
INIT whose sealed timestamp traps. -/
def Panics (peer : PeerSession) (keypair : Keypair) (env : Env) : Message → Prop
  | .init pkt => peer.OverLimit env.now ∨ ∃ responder,
      peer.Consults keypair env responder ∧ (responder.setCurrentTime env.tai).Traps pkt
  | .relayedInit pkt => ∃ responder, peer.state = .handshakingAsResponder responder ∧
      (responder.setCurrentTime env.tai).Traps pkt
  | _ => False

variable {self : Session} {keypair : Keypair} {cookieSecret : Key} {env : Env} {rng : Ephemeral}
  {source : SocketAddr}

theorem deliverWith_eq (message : Message) :
    deliverWith generateCookie keypair cookieSecret env rng source message =
      deliver keypair cookieSecret env rng source message := by
  cases message <;> rfl

/-- Only a direct INIT meets the gate. -/
theorem deliverWith_of_ne (generate : CookieGenerator) {message : Message}
    (h : ∀ pkt, message ≠ .init pkt) :
    deliverWith generate keypair cookieSecret env rng source message =
      deliver keypair cookieSecret env rng source message := by
  cases message with
  | init pkt => exact absurd rfl (h pkt)
  | _ => rfl

omit [Profile] in
/-- The responder that an INIT is consumed by does not depend on the counter of the gate. -/
theorem consults_counted {peer : PeerSession} {now : Instant} {responder : Responder}
    (h : ¬ peer.OverLimit now) :
    (peer.counted now).Consults keypair env responder ↔
      peer.Consults keypair env responder := by
  have hkeeps := counted_keeps h
  have hpsk : (peer.counted now).config.psk = peer.config.psk := by rw [hkeeps.config]
  have hid : (peer.counted now).config.localSenderId = peer.config.localSenderId := by
    rw [hkeeps.config]
  rw [PeerSession.Consults, PeerSession.Consults, hkeeps.state, hpsk, hid]

/-- A message moves its session, and panics only where `Panics` says so. -/
theorem deliver_moves (hgate : self.peer.GateOpen) (message : Message) :
    (deliver keypair cookieSecret env rng source message).wp
      (Moves keypair env rng (some message) self.peer (Panics self.peer keypair env message))
      self := by
  cases message with
  | init pkt =>
      rw [deliver, Method.wp_def, Method.bind_eq, checkInitCookie_eq hgate]
      by_cases hover : self.peer.OverLimit env.now
      · rw [if_pos hover]
        exact Or.inl hover
      · rw [if_neg hover]
        have hkeeps := counted_keeps hover
        have hinit : (handleInit keypair env rng source pkt).wp _
            { self with peer := self.peer.counted env.now } := handleInit_moves
        refine Method.wp_mono hinit (fun _ _ h => h.of_keeps hkeeps)
          (fun _ _ h => h.of_keeps hkeeps) ?_
        rintro ⟨responder, hconsults, htraps⟩
        exact Or.inr ⟨responder, (consults_counted hover).1 hconsults, htraps⟩
  | relayedInit pkt => exact handleInitViaRelay_moves
  | response pkt => exact handleResponse_moves
  | transport pkt => exact handleTransport_moves
  | relayedTransport pkt => exact handleRelayedTransport_moves
  | cookie pkt => exact handleCookie_moves

/-- The handler of a message panics exactly where `Panics` says so. -/
theorem deliver_panic_iff (hgate : self.peer.GateOpen) (message : Message) :
    deliver keypair cookieSecret env rng source message self = .panic ↔
      Panics self.peer keypair env message := by
  constructor
  · intro h
    have hwp : (deliver keypair cookieSecret env rng source message).wp _ self :=
      deliver_moves hgate message
    rwa [Method.wp_def, h] at hwp
  · intro h
    cases message with
    | init pkt =>
        rw [deliver, Method.bind_eq, checkInitCookie_eq hgate]
        by_cases hover : self.peer.OverLimit env.now
        · rw [if_pos hover]
        · rw [if_neg hover]
          obtain ⟨responder, hconsults, htraps⟩ := h.resolve_left hover
          exact handleInit_panic ((consults_counted hover).2 hconsults) htraps
    | relayedInit pkt =>
        obtain ⟨responder, hstate, htraps⟩ := h
        exact handleInitViaRelay_panic hstate htraps
    | _ => exact absurd h id

end Session

/-! ## Routing -/

/-- The sender named in a RELAY header. -/
def relayFrom (pkt : Bytes) : Option Key :=
  if h : (sub pkt 1 33).length = 32 then some ⟨sub pkt 1 33, h⟩ else none

/-- The destination named in a RELAY header. -/
def relayDest (pkt : Bytes) : Option Ipv4Addr := do
  let a : UInt8 ← pkt[33]?
  let b ← pkt[34]?
  let c ← pkt[35]?
  let d ← pkt[36]?
  pure ⟨a, b, c, d⟩

/-- The message inside a RELAY packet for this node. -/
def relayedMessage (inner : Bytes) : Option Message :=
  if inner[0]? = some messageTypeTransport then some (.relayedTransport inner)
  else if inner[0]? = some messageTypeInit then some (.relayedInit inner)
  else if inner[0]? = some messageTypeResponse then some (.response inner)
  else none

/-- The message that a datagram from a known source is. -/
def directMessage (pkt : Bytes) : Option Message :=
  if pkt[0]? = some messageTypeInit then some (.init pkt)
  else if pkt[0]? = some messageTypeResponse then some (.response pkt)
  else if pkt[0]? = some messageTypeTransport then some (.transport pkt)
  else if pkt[0]? = some messageTypeCookie then some (.cookie pkt)
  else none

omit [Profile] [Primitives] in
/-- The header of a RELAY frame is read back, and what follows it is the inner packet. -/
theorem relayFrame_header (fromPub : Key) (destIp : Ipv4Addr) (inner : Bytes) :
    (Session.relayFrame fromPub destIp inner)[0]? = some messageTypeRelay ∧
      relayHeaderSize ≤ (Session.relayFrame fromPub destIp inner).length ∧
      relayFrom (Session.relayFrame fromPub destIp inner) = some fromPub ∧
      relayDest (Session.relayFrame fromPub destIp inner) = some destIp ∧
      sub (Session.relayFrame fromPub destIp inner) relayHeaderSize
        (Session.relayFrame fromPub destIp inner).length = inner := by
  have hkey := Arr.length_eq fromPub
  have hsplit : Session.relayFrame fromPub destIp inner =
      ([messageTypeRelay] ++ fromPub.val ++ destIp.octets.val) ++ inner ++ [] := by
    simp [Session.relayFrame]
  have hlen : (Session.relayFrame fromPub destIp inner).length =
      relayHeaderSize + inner.length := by
    simp [Session.relayFrame, hkey, Arr.length_eq, relayHeaderSize]
    omega
  refine ⟨rfl, by omega, ?_, ?_, ?_⟩
  · have hsub : sub (Session.relayFrame fromPub destIp inner) 1 33 = fromPub.val := by
      have hhead := sub_append (p := [messageTypeRelay]) (q := fromPub.val)
        (r := destIp.octets.val ++ inner) (a := 1) (b := 33) rfl hkey
      rwa [List.append_assoc, List.singleton_append, ← List.append_assoc] at hhead
    rw [relayFrom, dif_pos (by rw [hsub, hkey])]
    exact congrArg some (Subtype.ext hsub)
  · have hget (i : ℕ) : (Session.relayFrame fromPub destIp inner)[33 + i]? =
        (destIp.octets.val ++ inner)[i]? := by
      rw [show 33 + i = 32 + i + 1 by omega, Session.relayFrame, List.getElem?_cons_succ,
        List.append_assoc, List.getElem?_append_right (by omega), hkey, Nat.add_sub_cancel_left]
    rw [relayDest, hget 0, hget 1, hget 2, hget 3]
    rfl
  · rw [hlen, hsplit]
    exact sub_append (by simp [hkey, Arr.length_eq, relayHeaderSize]) (by omega)

namespace TunnelManager

/-- The peer whose public key an INIT is addressed to. -/
def initiatorByMac1 (self : TunnelManager) (initPkt : Bytes) : Option ℕ :=
  self.peers.findIdx? fun peer =>
    (computeMac1 (mac1Key peer.config.peerPub) (sub initPkt 0 mac1OffsetInit)).val =
      sub initPkt mac1OffsetInit (mac1OffsetInit + mac1Len)

/-- The session that handles a datagram, and the message it is for that session. -/
def route (self : TunnelManager) (source : SocketAddr) (pkt : Bytes) : Option (ℕ × Message) :=
  if pkt[0]? = some messageTypeRelay then
    if pkt.length < relayHeaderSize then none
    else
      match (relayFrom pkt).bind self.pubkeyToPeer with
      | none => none
      | some idx =>
          if relayDest pkt = some self.config.localIp then
            (relayedMessage (sub pkt relayHeaderSize pkt.length)).map (Prod.mk idx)
          else none
  else
    match self.endpointToPeer source with
    | none =>
        if pkt[0]? = some messageTypeInit ∧ initSize ≤ pkt.length then
          (self.initiatorByMac1 pkt).map fun idx => (idx, .init pkt)
        else none
    | some idx => (directMessage pkt).map (Prod.mk idx)

/-- Every index that a hash map holds is the index of a peer. -/
structure WellFormed (manager : TunnelManager) : Prop where
  endpoints {addr : SocketAddr} {idx : ℕ} :
    manager.endpointToPeer addr = some idx → idx < manager.peers.length
  pubkeys {key : Key} {idx : ℕ} :
    manager.pubkeyToPeer key = some idx → idx < manager.peers.length

end TunnelManager

/-- The session after a datagram from its peer was noted. -/
def PeerSession.heard (peer : PeerSession) (env : Env) (endpoint : SocketAddr) : PeerSession :=
  { peer with
    config := { peer.config with peerEndpoint := endpoint }
    lastRxAt := some env.now }

omit [Profile] in
theorem PeerSession.keeps_heard (peer : PeerSession) (env : Env) (endpoint : SocketAddr) :
    peer.Keeps (peer.heard env endpoint) :=
  ⟨rfl, rfl, id⟩

namespace TunnelManager

/-- The manager after a datagram for the session at `idx` was noted: its endpoint is the source
of the datagram or unchanged, and nothing else of the sessions moved. -/
def Noted (env : Env) (source : SocketAddr) (idx : ℕ) (peer : PeerSession)
    (self noted : TunnelManager) : Prop :=
  ∃ endpointToPeer learnedEndpoints endpoint,
    noted =
      { self with
        peers := self.peers.set idx (peer.heard env endpoint), endpointToPeer,
        learnedEndpoints } ∧
    (endpoint = peer.config.peerEndpoint ∧ endpointToPeer = self.endpointToPeer ∨
      endpoint = source ∧ peer.config.peerEndpoint ≠ source ∧
        endpointToPeer = Function.update
          (Function.update self.endpointToPeer peer.config.peerEndpoint none) source (some idx))

variable (generate : CookieGenerator) {self : TunnelManager} {env : Env} {source : SocketAddr}
  {idx : ℕ} {peer : PeerSession}

omit [Profile] in
theorem Noted.wellFormed {noted : TunnelManager} (h : Noted env source idx peer self noted)
    (hpeer : self.peers[idx]? = some peer) (hwf : self.WellFormed) : noted.WellFormed := by
  obtain ⟨endpointToPeer, learned, endpoint, rfl, hcase⟩ := h
  have hidx : idx < self.peers.length := (List.getElem?_eq_some_iff.1 hpeer).1
  refine ⟨fun {addr i} hi => ?_, fun {key i} hi => ?_⟩
  · rw [List.length_set]
    rcases hcase with ⟨_, rfl⟩ | ⟨_, _, rfl⟩
    · exact hwf.endpoints hi
    · simp only [Function.update_apply] at hi
      split at hi
      · cases hi
        exact hidx
      · split at hi
        · cases hi
        · exact hwf.endpoints hi
  · rw [List.length_set]
    exact hwf.pubkeys hi

/-! ## Handlers at an index -/

omit [Profile] in
theorem atPeer_eq {α : Type} (hpeer : self.peers[idx]? = some peer)
    (handler : Method Session TunnelError α) :
    atPeer idx handler self =
      match handler ⟨peer, self.transport, self.device⟩ with
      | .ok a session => .ok a
          { self with
            peers := self.peers.set idx session.peer
            transport := session.transport
            device := session.device }
      | .err e session => .err e
          { self with
            peers := self.peers.set idx session.peer
            transport := session.transport
            device := session.device }
      | .panic => .panic := by
  rw [atPeer, Method.bind_ok (Method.get_apply self), hpeer, Method.unwrap_some, pure_bind]
  unfold Method.zoom
  cases handler ⟨peer, self.transport, self.device⟩ <;> rfl

omit [Profile] in
/-- What a handler of a session leaves behind. -/
theorem atPeer_state {α : Type} (hpeer : self.peers[idx]? = some peer)
    (handler : Method Session TunnelError α) :
    (atPeer idx handler self).state? =
      (handler ⟨peer, self.transport, self.device⟩).state?.map fun s =>
        { self with
          peers := self.peers.set idx s.peer
          transport := s.transport
          device := s.device } := by
  rw [atPeer_eq hpeer]
  cases handler ⟨peer, self.transport, self.device⟩ <;> rfl

omit [Profile] in
theorem atPeer_modifyPeer (hpeer : self.peers[idx]? = some peer)
    (f : PeerSession → PeerSession) :
    atPeer idx (Session.modifyPeer f) self =
      .ok () { self with peers := self.peers.set idx (f peer) } :=
  atPeer_eq hpeer _

omit [Profile] in
theorem touch_eq (hpeer : self.peers[idx]? = some peer) :
    touch env idx self = .ok ()
      { self with peers := self.peers.set idx (peer.heard env peer.config.peerEndpoint) } := by
  exact atPeer_modifyPeer hpeer _

omit [Profile] in
/-- Noting a datagram that came directly. -/
theorem refreshEndpoint_eq (env : Env) (source : SocketAddr)
    (hpeer : self.peers[idx]? = some peer) :
    ∃ noted, Noted env source idx peer self noted ∧
      refreshEndpoint env idx source self = .ok () noted := by
  have hidx : idx < self.peers.length := (List.getElem?_eq_some_iff.1 hpeer).1
  rw [refreshEndpoint, Method.bind_ok (Method.get_apply self), hpeer, Method.unwrap_some,
    pure_bind]
  by_cases hsame : peer.config.peerEndpoint = source
  · refine ⟨_, ⟨_, self.learnedEndpoints, _, rfl, Or.inl ⟨rfl, rfl⟩⟩, ?_⟩
    rw [if_neg (not_not.2 hsame)]
    exact touch_eq hpeer
  · refine ⟨_, ⟨_, self.learnedEndpoints, _, rfl, Or.inr ⟨rfl, hsame, rfl⟩⟩, ?_⟩
    let moved : TunnelManager :=
      { self with
        endpointToPeer := Function.update
          (Function.update self.endpointToPeer peer.config.peerEndpoint none) source (some idx) }
    have hmoved : moved.peers[idx]? = some peer := hpeer
    rw [if_pos hsame, Method.bind_ok (Method.modify_apply _ _),
      Method.bind_ok (atPeer_modifyPeer hmoved _)]
    refine (touch_eq (List.getElem?_set_self hidx)).trans ?_
    simp only [List.set_set]
    rfl

/-! ## `handle_incoming` -/

/-- The manager differs from the first one only in notes about where datagrams came from and in
what was sent. -/
def Undisturbed (env : Env) (source : SocketAddr) (self self' : TunnelManager) : Prop :=
  self' = self ∨ ∃ idx peer noted transport, self.peers[idx]? = some peer ∧
    Noted env source idx peer self noted ∧ self' = { noted with transport }

omit [Profile] [Primitives] in
theorem relayDest_eq {pkt : Bytes} (hlen : relayHeaderSize ≤ pkt.length) :
    ∃ a b c d, pkt[33]? = some a ∧ pkt[34]? = some b ∧ pkt[35]? = some c ∧ pkt[36]? = some d ∧
      relayDest pkt = some ⟨a, b, c, d⟩ := by
  have hsize : 37 ≤ pkt.length := hlen
  have hget (i : ℕ) (hi : i < 37) : ∃ byte, pkt[i]? = some byte :=
    ⟨_, List.getElem?_eq_getElem (lt_of_lt_of_le hi hsize)⟩
  obtain ⟨a, ha⟩ := hget 33 (by decide)
  obtain ⟨b, hb⟩ := hget 34 (by decide)
  obtain ⟨c, hc⟩ := hget 35 (by decide)
  obtain ⟨d, hd⟩ := hget 36 (by decide)
  exact ⟨a, b, c, d, ha, hb, hc, hd, by simp [relayDest, ha, hb, hc, hd]⟩

omit [Profile] [Primitives] in
theorem relayFrom_eq {pkt : Bytes} (hlen : relayHeaderSize ≤ pkt.length) :
    ∃ h : (sub pkt 1 33).length = 32, relayFrom pkt = some ⟨sub pkt 1 33, h⟩ := by
  have hsize : 37 ≤ pkt.length := hlen
  have h : (sub pkt 1 33).length = 32 := sub_length (by omega)
  exact ⟨h, dif_pos h⟩

/-- A relayed message is handled by the session of its sender. -/
theorem handleRelayed_message {inner : Bytes} {message : Message}
    (h : relayedMessage inner = some message) :
    handleRelayed env idx source inner self = atPeer idx (Session.deliver
      self.config.localKeypair self.cookieSecret env (env.ephemeral idx) source message) self := by
  rw [handleRelayed, Method.bind_ok (Method.get_apply self)]
  unfold relayedMessage at h
  split at h
  · rw [if_pos ‹_›]
    cases h
    rfl
  · rw [if_neg ‹_›]
    split at h
    · rw [if_pos ‹_›]
      cases h
      rfl
    · rw [if_neg ‹_›]
      split at h
      · rw [if_pos ‹_›]
        cases h
        rfl
      · cases h

omit [Profile] [Primitives] in
/-- A relayed INIT is not a direct one. -/
theorem relayedMessage_ne_init {inner : Bytes} {message : Message}
    (h : relayedMessage inner = some message) (pkt : Bytes) : message ≠ .init pkt := by
  rintro rfl
  unfold relayedMessage at h
  repeat' split at h
  all_goals cases h

/-- Anything else inside a RELAY packet is an error. -/
theorem handleRelayed_none (env : Env) (idx : ℕ) (source : SocketAddr) (self : TunnelManager)
    {inner : Bytes} (h : relayedMessage inner = none) :
    ∃ e, handleRelayed env idx source inner self = .err e self := by
  rw [handleRelayed, Method.bind_ok (Method.get_apply self)]
  unfold relayedMessage at h
  split at h
  · cases h
  · split at h
    · cases h
    · split at h
      · cases h
      · rw [if_neg ‹_›, if_neg ‹_›, if_neg ‹_›]
        exact ⟨_, rfl⟩

omit [Profile] in
/-- Forwarding sends the packet on or fails. -/
theorem forwardRelay_eq (env : Env) (self : TunnelManager) (destIp : Ipv4Addr) (pkt : Bytes) :
    ∃ transport, forwardRelay env destIp pkt self = .ok () { self with transport } ∨
      ∃ e, forwardRelay env destIp pkt self = .err e { self with transport } := by
  rw [forwardRelay, Method.bind_ok (Method.get_apply self)]
  cases self.peers.find? fun peer => peer.config.peerIp = destIp with
  | none => exact ⟨self.transport, Or.inr ⟨_, rfl⟩⟩
  | some dest =>
      simp only [sendTo, Method.zoom, UdpTransport.sendTo]
      cases env.sendError ((self.learnedEndpoints dest.config.peerPub).getD
        dest.config.peerEndpoint) pkt with
      | none => exact ⟨_, Or.inl rfl⟩
      | some e => exact ⟨self.transport, Or.inr ⟨_, rfl⟩⟩

/-- A RELAY packet from a known peer is taken in or forwarded. -/
theorem handleRelay_eq {pkt : Bytes} {fromPub : Key} (hlen : relayHeaderSize ≤ pkt.length)
    (hfrom : relayFrom pkt = some fromPub) (hidx : self.pubkeyToPeer fromPub = some idx) :
    ∃ destIp, relayDest pkt = some destIp ∧ handleRelay env source pkt self =
      (if destIp = self.config.localIp then
        handleRelayed env idx source (sub pkt relayHeaderSize pkt.length)
      else forwardRelay env destIp pkt) self := by
  have hsize : 37 ≤ pkt.length := hlen
  obtain ⟨hkey, hfrom'⟩ := relayFrom_eq hlen
  obtain ⟨a, b, c, d, ha, hb, hc, hd, hdest⟩ := relayDest_eq hlen
  cases hfrom'.symm.trans hfrom
  refine ⟨_, hdest, ?_⟩
  rw [handleRelay, if_neg (not_lt.2 hlen), slice_eq (by decide) (by omega), pure_bind,
    expectArr_eq hkey, pure_bind, index_eq ha, pure_bind, index_eq hb, pure_bind, index_eq hc,
    pure_bind, index_eq hd, pure_bind, slice_eq hlen le_rfl, pure_bind,
    Method.bind_ok (Method.get_apply self), hidx]

/-- The first branches of `handle_incoming` on a RELAY packet. -/
theorem handleIncomingWith_relay {pkt : Bytes} (htype : pkt[0]? = some messageTypeRelay) :
    handleIncomingWith generate env source pkt self =
      (if pkt.length < relayHeaderSize then pure ()
      else
        match (relayFrom pkt).bind self.pubkeyToPeer with
        | none => pure ()
        | some idx => do
            Method.modify (learnEndpoint source ((relayFrom pkt).getD (Arr.zeros 32)))
            touch env idx
            handleRelay env source pkt : Method TunnelManager TunnelError Unit) self := by
  have hempty : ¬ pkt.isEmpty = true := by
    intro h
    rw [List.isEmpty_iff.1 h] at htype
    cases htype
  rw [handleIncomingWith, if_neg hempty, index_eq htype, pure_bind,
    Method.bind_ok (Method.get_apply self), if_pos rfl]
  by_cases hlen : pkt.length < relayHeaderSize
  · rw [if_pos hlen, if_pos hlen]
  · obtain ⟨hkey, hfrom⟩ := relayFrom_eq (not_lt.1 hlen)
    have hsize : 33 ≤ pkt.length := le_trans (by decide) (not_lt.1 hlen)
    rw [if_neg hlen, if_neg hlen, slice_eq (by decide) hsize, pure_bind, expectArr_eq hkey,
      pure_bind, hfrom]
    rfl

/-- The first branches of `handle_incoming` on a RELAY packet, with its own cookies. -/
theorem handleIncoming_relay {pkt : Bytes} (htype : pkt[0]? = some messageTypeRelay) :
    handleIncoming env source pkt self =
      (if pkt.length < relayHeaderSize then pure ()
      else
        match (relayFrom pkt).bind self.pubkeyToPeer with
        | none => pure ()
        | some idx => do
            Method.modify (learnEndpoint source ((relayFrom pkt).getD (Arr.zeros 32)))
            touch env idx
            handleRelay env source pkt : Method TunnelManager TunnelError Unit) self :=
  handleIncomingWith_relay Session.generateCookie htype

omit [Profile] in
/-- Noting a RELAY packet from a known peer. -/
theorem noteRelay_eq (env : Env) (source : SocketAddr) (fromPub : Key)
    (hpeer : self.peers[idx]? = some peer) :
    ∃ noted, Noted env source idx peer self noted ∧
      touch env idx (learnEndpoint source fromPub self) = .ok () noted := by
  unfold learnEndpoint
  split
  · exact ⟨_, ⟨_, _, _, rfl, Or.inl ⟨rfl, rfl⟩⟩, touch_eq hpeer⟩
  · exact ⟨_, ⟨_, self.learnedEndpoints, _, rfl, Or.inl ⟨rfl, rfl⟩⟩, touch_eq hpeer⟩

omit [Profile] in
theorem Noted.fields {noted : TunnelManager} (h : Noted env source idx peer self noted) :
    noted.config = self.config ∧ noted.cookieSecret = self.cookieSecret ∧
      noted.pubkeyToPeer = self.pubkeyToPeer ∧ noted.transport = self.transport := by
  obtain ⟨_, _, _, rfl, _⟩ := h
  exact ⟨rfl, rfl, rfl, rfl⟩

omit [Profile] in
theorem Noted.getElem?_self {noted : TunnelManager} (h : Noted env source idx peer self noted)
    (hpeer : self.peers[idx]? = some peer) :
    ∃ endpoint, noted.peers[idx]? = some (peer.heard env endpoint) := by
  obtain ⟨_, _, endpoint, rfl, _⟩ := h
  exact ⟨endpoint, List.getElem?_set_self (List.getElem?_eq_some_iff.1 hpeer).1⟩

/-- The gate and the handler of a direct INIT are one handler of the session. -/
theorem gateInitWith_eq {pkt : Bytes} (hpeer : self.peers[idx]? = some peer) :
    gateInitWith generate env idx source pkt self =
      atPeer idx (Session.deliverWith generate self.config.localKeypair self.cookieSecret env
        (env.ephemeral idx) source (.init pkt)) self := by
  have hidx : idx < self.peers.length := (List.getElem?_eq_some_iff.1 hpeer).1
  rw [gateInitWith, Method.bind_ok (Method.get_apply self), Method.bind_eq, atPeer_eq hpeer,
    atPeer_eq hpeer, Session.deliverWith, Method.bind_eq]
  cases Session.checkInitCookieWith (generate self.cookieSecret source) env source pkt
      ⟨peer, self.transport, self.device⟩ with
  | ok handled session =>
      cases handled with
      | true => rfl
      | false =>
          have hset : (self.peers.set idx session.peer)[idx]? = some session.peer :=
            List.getElem?_set_self hidx
          simp only [Bool.false_eq_true, if_false]
          rw [atPeer_eq hset]
          simp only [List.set_set]
  | err e session => rfl
  | panic => rfl

/-- A message from a known endpoint is handled by the session of that endpoint. -/
theorem handleDirectWith_message {pkt : Bytes} {type : UInt8} {message : Message}
    (hpeer : self.peers[idx]? = some peer) (htype : pkt[0]? = some type)
    (h : directMessage pkt = some message) :
    handleDirectWith generate env idx source type pkt self =
      atPeer idx (Session.deliverWith generate self.config.localKeypair self.cookieSecret env
        (env.ephemeral idx) source message) self := by
  unfold directMessage at h
  rw [htype] at h
  simp only [Option.some.injEq] at h
  rw [handleDirectWith]
  split at h
  · rw [if_pos ‹_›, gateInitWith_eq generate hpeer]
    cases h
    rfl
  · rw [if_neg ‹_›]
    split at h
    · rw [if_pos ‹_›]
      cases h
      rfl
    · rw [if_neg ‹_›]
      split at h
      · rw [if_pos ‹_›]
        cases h
        rfl
      · rw [if_neg ‹_›]
        split at h
        · rw [if_pos ‹_›]
          cases h
          rfl
        · cases h

/-- Anything else from a known endpoint is ignored. -/
theorem handleDirectWith_none {pkt : Bytes} {type : UInt8} (htype : pkt[0]? = some type)
    (h : directMessage pkt = none) :
    handleDirectWith generate env idx source type pkt self = .ok () self := by
  unfold directMessage at h
  rw [htype] at h
  simp only [Option.some.injEq] at h
  rw [handleDirectWith]
  split at h
  · cases h
  · split at h
    · cases h
    · split at h
      · cases h
      · split at h
        · cases h
        · rw [if_neg ‹_›, if_neg ‹_›, if_neg ‹_›, if_neg ‹_›]
          rfl

omit [Profile] in
theorem initiatorByMac1_eq {pkt : Bytes} (hlen : initSize ≤ pkt.length) :
    identifyInitiatorByMac1 pkt self = .ok (self.initiatorByMac1 pkt) self := by
  have hsize : 148 ≤ pkt.length := hlen
  have hmac : mac1OffsetInit + mac1Len ≤ pkt.length := by
    simp only [mac1OffsetInit, mac1Len]
    omega
  rw [identifyInitiatorByMac1, Method.bind_ok (Method.get_apply self),
    slice_eq (Nat.le_add_right _ _) hmac, pure_bind,
    slice_eq (Nat.zero_le _) (le_trans (Nat.le_add_right _ _) hmac), pure_bind]
  rfl

/-- The first branches of `handle_incoming` on anything but a RELAY packet. -/
theorem handleIncomingWith_direct {pkt : Bytes} {type : UInt8} (htype : pkt[0]? = some type)
    (hrelay : type ≠ messageTypeRelay) :
    handleIncomingWith generate env source pkt self =
      (match self.endpointToPeer source with
      | none =>
          if type = messageTypeInit ∧ initSize ≤ pkt.length then
            match self.initiatorByMac1 pkt with
            | none => pure ()
            | some idx => do
                refreshEndpoint env idx source
                gateInitWith generate env idx source pkt
          else pure ()
      | some idx => do
          refreshEndpoint env idx source
          handleDirectWith generate env idx source type pkt :
        Method TunnelManager TunnelError Unit) self := by
  have hempty : ¬ pkt.isEmpty = true := by
    intro h
    rw [List.isEmpty_iff.1 h] at htype
    cases htype
  rw [handleIncomingWith, if_neg hempty, index_eq htype, pure_bind,
    Method.bind_ok (Method.get_apply self), if_neg hrelay]
  cases self.endpointToPeer source with
  | some idx => rfl
  | none =>
      simp only
      by_cases hinit : type = messageTypeInit ∧ initSize ≤ pkt.length
      · have hmac : mac1OffsetInit + mac1Len ≤ pkt.length := hinit.2
        rw [if_pos ⟨hinit.1, hinit.2, hmac⟩, if_pos hinit]
        refine (Method.bind_ok (initiatorByMac1_eq hinit.2)).trans ?_
        cases self.initiatorByMac1 pkt <;> rfl
      · have hshort : ¬ (type = messageTypeInit ∧ initSize ≤ pkt.length ∧
            mac1OffsetInit + mac1Len ≤ pkt.length) := fun h => hinit ⟨h.1, h.2.1⟩
        rw [if_neg hshort, if_neg hinit]

/-- The first branches of `handle_incoming` on anything but a RELAY packet, with its own cookies. -/
theorem handleIncoming_direct {pkt : Bytes} {type : UInt8} (htype : pkt[0]? = some type)
    (hrelay : type ≠ messageTypeRelay) :
    handleIncoming env source pkt self =
      (match self.endpointToPeer source with
      | none =>
          if type = messageTypeInit ∧ initSize ≤ pkt.length then
            match self.initiatorByMac1 pkt with
            | none => pure ()
            | some idx => do
                refreshEndpoint env idx source
                gateInit env idx source pkt
          else pure ()
      | some idx => do
          refreshEndpoint env idx source
          handleDirect env idx source type pkt : Method TunnelManager TunnelError Unit) self :=
  handleIncomingWith_direct Session.generateCookie htype hrelay

omit [Profile] in
theorem route_relay {pkt : Bytes} (htype : pkt[0]? = some messageTypeRelay) :
    self.route source pkt =
      if pkt.length < relayHeaderSize then none
      else
        match (relayFrom pkt).bind self.pubkeyToPeer with
        | none => none
        | some idx =>
            if relayDest pkt = some self.config.localIp then
              (relayedMessage (sub pkt relayHeaderSize pkt.length)).map (Prod.mk idx)
            else none := by
  rw [route, if_pos htype]

omit [Profile] in
theorem route_direct {pkt : Bytes} {type : UInt8} (htype : pkt[0]? = some type)
    (hrelay : type ≠ messageTypeRelay) :
    self.route source pkt =
      match self.endpointToPeer source with
      | none =>
          if type = messageTypeInit ∧ initSize ≤ pkt.length then
            (self.initiatorByMac1 pkt).map fun idx => (idx, .init pkt)
          else none
      | some idx => (directMessage pkt).map (Prod.mk idx) := by
  have hne : ¬ pkt[0]? = some messageTypeRelay := fun h =>
    hrelay (Option.some.inj (htype.symm.trans h))
  rw [route, if_neg hne, htype]
  simp only [Option.some.injEq]

omit [Profile] in
theorem route_empty {pkt : Bytes} (htype : pkt[0]? = none) : self.route source pkt = none := by
  rw [route, htype, if_neg (by simp)]
  cases self.endpointToPeer source with
  | none => simp
  | some idx => simp [directMessage, htype]

omit [Profile] in
/-- The INIT of a datagram that is not a RELAY packet is the datagram itself. -/
theorem initPkt_of_route {pkt initPkt : Bytes} {message : Message}
    (hrelay : pkt[0]? ≠ some messageTypeRelay) (hroute : self.route source pkt = some (idx, message))
    (hinit : message.initPkt? = some initPkt) : message = .init pkt ∧ initPkt = pkt := by
  have hdirect : ∀ {m}, directMessage pkt = some m → m.initPkt? = some initPkt →
      m = .init pkt ∧ initPkt = pkt := by
    intro m hm hpkt
    unfold directMessage at hm
    repeat' split at hm
    all_goals cases hm
    all_goals cases hpkt
    exact ⟨rfl, rfl⟩
  rw [route, if_neg hrelay] at hroute
  split at hroute
  · split at hroute
    · obtain ⟨_, _, hpair⟩ := Option.map_eq_some_iff.1 hroute
      cases hpair
      cases hinit
      exact ⟨rfl, rfl⟩
    · cases hroute
  · obtain ⟨m, hm, hpair⟩ := Option.map_eq_some_iff.1 hroute
    cases hpair
    exact hdirect hm hinit

/-- A RELAY packet from a known peer is noted and then taken in or forwarded. -/
theorem handleIncomingWith_known (env : Env) (source : SocketAddr) (hwf : self.WellFormed)
    {pkt : Bytes}
    (htype : pkt[0]? = some messageTypeRelay) (hlen : relayHeaderSize ≤ pkt.length)
    (hidx : (relayFrom pkt).bind self.pubkeyToPeer = some idx) :
    ∃ peer noted destIp, self.peers[idx]? = some peer ∧ Noted env source idx peer self noted ∧
      relayDest pkt = some destIp ∧
      handleIncomingWith generate env source pkt self =
        (if destIp = self.config.localIp then
          handleRelayed env idx source (sub pkt relayHeaderSize pkt.length)
        else forwardRelay env destIp pkt) noted := by
  obtain ⟨fromPub, hfrom, hknown⟩ := Option.bind_eq_some_iff.1 hidx
  have hpeer := List.getElem?_eq_getElem (hwf.pubkeys hknown)
  obtain ⟨noted, hnoted, htouch⟩ :=
    noteRelay_eq env source ((relayFrom pkt).getD (Arr.zeros 32)) hpeer
  obtain ⟨hconfig, _, hpubkeys, _⟩ := hnoted.fields
  have hknown' : noted.pubkeyToPeer fromPub = some idx := by rw [hpubkeys, hknown]
  obtain ⟨destIp, hdest, hrelay⟩ := handleRelay_eq hlen hfrom hknown'
  refine ⟨_, noted, destIp, hpeer, hnoted, hdest, ?_⟩
  rw [handleIncomingWith_relay generate htype, if_neg (not_lt.2 hlen), hidx]
  simp only
  rw [Method.bind_ok (Method.modify_apply _ _), Method.bind_ok htouch, ← hconfig]
  exact hrelay

/-- A datagram that is routed to a session is noted and then handled by that session. -/
theorem handleIncomingWith_routed (env : Env) (hwf : self.WellFormed) {pkt : Bytes}
    {message : Message} (hroute : self.route source pkt = some (idx, message)) :
    ∃ peer noted, self.peers[idx]? = some peer ∧ Noted env source idx peer self noted ∧
      handleIncomingWith generate env source pkt self =
        atPeer idx (Session.deliverWith generate self.config.localKeypair self.cookieSecret env
          (env.ephemeral idx) source message) noted := by
  rcases htype : pkt[0]? with _ | type
  · rw [route_empty htype] at hroute
    cases hroute
  by_cases hrelay : type = messageTypeRelay
  · subst hrelay
    rw [route_relay htype] at hroute
    by_cases hlen : pkt.length < relayHeaderSize
    · rw [if_pos hlen] at hroute
      cases hroute
    rw [if_neg hlen] at hroute
    cases hbind : (relayFrom pkt).bind self.pubkeyToPeer with
    | none =>
        rw [hbind] at hroute
        cases hroute
    | some i =>
        rw [hbind] at hroute
        simp only at hroute
        split at hroute
        case isFalse => cases hroute
        case isTrue hlocal =>
          obtain ⟨m, hmessage, hpair⟩ := Option.map_eq_some_iff.1 hroute
          cases hpair
          obtain ⟨peer, noted, destIp, hpeer, hnoted, hdest, heq⟩ :=
            handleIncomingWith_known generate env source hwf htype (not_lt.1 hlen) hbind
          -- Noting where a packet came from changes neither the configuration nor the cookie
          -- secret, so the handler is called with those of `self`.
          obtain ⟨hconfig, hsecret, _, _⟩ := hnoted.fields
          refine ⟨peer, noted, hpeer, hnoted, ?_⟩
          rw [heq, if_pos (Option.some.inj (hdest.symm.trans hlocal)),
            handleRelayed_message hmessage, hconfig, hsecret,
            Session.deliverWith_of_ne generate (relayedMessage_ne_init hmessage)]
  · rw [handleIncomingWith_direct generate htype hrelay]
    rw [route_direct htype hrelay] at hroute
    cases hknown : self.endpointToPeer source with
    | none =>
        rw [hknown] at hroute
        simp only at hroute ⊢
        split at hroute
        case isFalse => cases hroute
        case isTrue hinit =>
          obtain ⟨i, hmac, hpair⟩ := Option.map_eq_some_iff.1 hroute
          cases hpair
          have hpeer := List.getElem?_eq_getElem (List.findIdx?_eq_some_iff_getElem.1 hmac).1
          obtain ⟨noted, hnoted, hrefresh⟩ := refreshEndpoint_eq env source hpeer
          obtain ⟨endpoint, hpeer'⟩ := hnoted.getElem?_self hpeer
          obtain ⟨hconfig, hsecret, _, _⟩ := hnoted.fields
          refine ⟨_, noted, hpeer, hnoted, ?_⟩
          rw [if_pos hinit, hmac]
          simp only
          rw [Method.bind_ok hrefresh, gateInitWith_eq generate hpeer', hconfig, hsecret]
    | some i =>
        rw [hknown] at hroute
        simp only at hroute ⊢
        obtain ⟨m, hmessage, hpair⟩ := Option.map_eq_some_iff.1 hroute
        cases hpair
        have hpeer := List.getElem?_eq_getElem (hwf.endpoints hknown)
        obtain ⟨noted, hnoted, hrefresh⟩ := refreshEndpoint_eq env source hpeer
        obtain ⟨endpoint, hpeer'⟩ := hnoted.getElem?_self hpeer
        obtain ⟨hconfig, hsecret, _, _⟩ := hnoted.fields
        refine ⟨_, noted, hpeer, hnoted, ?_⟩
        rw [Method.bind_ok hrefresh, handleDirectWith_message generate hpeer' htype hmessage, hconfig,
          hsecret]

/-- A datagram that is not routed to a session and does not get into `handle_relay` is dropped. -/
theorem handleIncomingWith_dropped (env : Env) (hwf : self.WellFormed) {pkt : Bytes}
    (hroute : self.route source pkt = none)
    (hrelay : ¬ (pkt[0]? = some messageTypeRelay ∧ relayHeaderSize ≤ pkt.length ∧
      ((relayFrom pkt).bind self.pubkeyToPeer).isSome)) :
    ∃ self', Undisturbed env source self self' ∧
      handleIncomingWith generate env source pkt self = .ok () self' := by
  rcases htype : pkt[0]? with _ | type
  · have hempty : pkt.isEmpty = true := by
      cases pkt with
      | nil => rfl
      | cons byte rest => cases htype
    rw [handleIncomingWith, if_pos hempty]
    exact ⟨self, Or.inl rfl, rfl⟩
  by_cases htypeRelay : type = messageTypeRelay
  · subst htypeRelay
    by_cases hlen : pkt.length < relayHeaderSize
    · rw [handleIncomingWith_relay generate htype, if_pos hlen]
      exact ⟨self, Or.inl rfl, rfl⟩
    cases hbind : (relayFrom pkt).bind self.pubkeyToPeer with
    | none =>
        rw [handleIncomingWith_relay generate htype, if_neg hlen, hbind]
        exact ⟨self, Or.inl rfl, rfl⟩
    | some i => exact absurd ⟨htype, not_lt.1 hlen, Option.isSome_iff_exists.2 ⟨i, hbind⟩⟩ hrelay
  · rw [handleIncomingWith_direct generate htype htypeRelay]
    rw [route_direct htype htypeRelay] at hroute
    cases hknown : self.endpointToPeer source with
    | none =>
        rw [hknown] at hroute
        simp only at hroute ⊢
        split at hroute
        case isFalse hinit =>
          rw [if_neg hinit]
          exact ⟨self, Or.inl rfl, rfl⟩
        case isTrue hinit =>
          rw [if_pos hinit, Option.map_eq_none_iff.1 hroute]
          exact ⟨self, Or.inl rfl, rfl⟩
    | some i =>
        rw [hknown] at hroute
        simp only at hroute ⊢
        have hpeer := List.getElem?_eq_getElem (hwf.endpoints hknown)
        obtain ⟨noted, hnoted, hrefresh⟩ := refreshEndpoint_eq env source hpeer
        have hmessage := Option.map_eq_none_iff.1 hroute
        rw [Method.bind_ok hrefresh, handleDirectWith_none generate htype hmessage]
        exact ⟨noted, Or.inr ⟨i, _, noted, noted.transport, hpeer, hnoted, rfl⟩, rfl⟩

/-- A datagram that is not routed to a session disturbs none, and never panics. -/
theorem handleIncomingWith_unrouted (env : Env) (hwf : self.WellFormed) {pkt : Bytes}
    (hroute : self.route source pkt = none) :
    ∃ self', Undisturbed env source self self' ∧
      (handleIncomingWith generate env source pkt self = .ok () self' ∨
        ∃ e, handleIncomingWith generate env source pkt self = .err e self') := by
  by_cases hrelay : pkt[0]? = some messageTypeRelay ∧ relayHeaderSize ≤ pkt.length ∧
      ((relayFrom pkt).bind self.pubkeyToPeer).isSome
  · obtain ⟨htype, hlen, hknown⟩ := hrelay
    obtain ⟨i, hi⟩ := Option.isSome_iff_exists.1 hknown
    rw [route_relay htype, if_neg (not_lt.2 hlen), hi] at hroute
    obtain ⟨peer, noted, destIp, hpeer, hnoted, hdest, heq⟩ :=
      handleIncomingWith_known generate env source hwf htype hlen hi
    rw [heq]
    simp only [hdest, Option.some.injEq] at hroute
    by_cases hlocal : destIp = self.config.localIp
    · rw [if_pos hlocal, Option.map_eq_none_iff] at hroute
      obtain ⟨e, he⟩ := handleRelayed_none env i source noted hroute
      rw [if_pos hlocal]
      exact ⟨noted, Or.inr ⟨i, peer, noted, noted.transport, hpeer, hnoted, rfl⟩,
        Or.inr ⟨e, he⟩⟩
    · obtain ⟨transport, hforward⟩ := forwardRelay_eq env noted destIp pkt
      rw [if_neg hlocal]
      exact ⟨_, Or.inr ⟨i, peer, noted, transport, hpeer, hnoted, rfl⟩, hforward⟩
  · obtain ⟨self', hundisturbed, hok⟩ := handleIncomingWith_dropped generate env hwf hroute hrelay
    exact ⟨self', hundisturbed, Or.inl hok⟩

/-! ## With the cookies of the manager -/

theorem handleIncoming_known (env : Env) (source : SocketAddr) (hwf : self.WellFormed)
    {pkt : Bytes}
    (htype : pkt[0]? = some messageTypeRelay) (hlen : relayHeaderSize ≤ pkt.length)
    (hidx : (relayFrom pkt).bind self.pubkeyToPeer = some idx) :
    ∃ peer noted destIp, self.peers[idx]? = some peer ∧ Noted env source idx peer self noted ∧
      relayDest pkt = some destIp ∧
      handleIncoming env source pkt self =
        (if destIp = self.config.localIp then
          handleRelayed env idx source (sub pkt relayHeaderSize pkt.length)
        else forwardRelay env destIp pkt) noted :=
  handleIncomingWith_known Session.generateCookie env source hwf htype hlen hidx

/-- A datagram that is routed to a session is noted and then handled by that session. -/
theorem handleIncoming_routed (env : Env) (hwf : self.WellFormed) {pkt : Bytes} {message : Message}
    (hroute : self.route source pkt = some (idx, message)) :
    ∃ peer noted, self.peers[idx]? = some peer ∧ Noted env source idx peer self noted ∧
      handleIncoming env source pkt self = atPeer idx (Session.deliver self.config.localKeypair
        self.cookieSecret env (env.ephemeral idx) source message) noted := by
  obtain ⟨peer, noted, hpeer, hnoted, heq⟩ :=
    handleIncomingWith_routed Session.generateCookie env hwf hroute
  rw [Session.deliverWith_eq] at heq
  exact ⟨peer, noted, hpeer, hnoted, heq⟩

/-- A datagram that is not routed to a session and does not get into `handle_relay` is dropped. -/
theorem handleIncoming_dropped (env : Env) (hwf : self.WellFormed) {pkt : Bytes}
    (hroute : self.route source pkt = none)
    (hrelay : ¬ (pkt[0]? = some messageTypeRelay ∧ relayHeaderSize ≤ pkt.length ∧
      ((relayFrom pkt).bind self.pubkeyToPeer).isSome)) :
    ∃ self', Undisturbed env source self self' ∧
      handleIncoming env source pkt self = .ok () self' :=
  handleIncomingWith_dropped Session.generateCookie env hwf hroute hrelay

/-- A datagram that is not routed to a session disturbs none, and never panics. -/
theorem handleIncoming_unrouted (env : Env) (hwf : self.WellFormed) {pkt : Bytes}
    (hroute : self.route source pkt = none) :
    ∃ self', Undisturbed env source self self' ∧
      (handleIncoming env source pkt self = .ok () self' ∨
        ∃ e, handleIncoming env source pkt self = .err e self') :=
  handleIncomingWith_unrouted Session.generateCookie env hwf hroute

end TunnelManager

end Naboscale
