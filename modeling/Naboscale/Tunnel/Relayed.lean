import Naboscale.Tunnel.Routes

/-!
# A message and the same message through a relay

A message reaches its session directly, or inside a RELAY packet that names the peer as sender.
`handle_incoming` and `handle_relay` have a handler each for an INIT and for a packet of the data
channel, and only the first one knows COOKIE. Here the two deliveries of one message are compared
from the same state: what they make of the session and of the tun device, and what they reply.
-/

namespace Naboscale

open Rust Method

section General

variable [Profile] [Primitives]

/-- The part of a session on which the deliveries are compared. -/
structure SessionView where
  state : PeerState
  stale : Bool
  receivedCookie : Option (Arr 16)
  lastHandshakeAt : Option Instant

/-- The view of a session. -/
def PeerSession.view (peer : PeerSession) : SessionView :=
  ⟨peer.state, peer.stale, peer.receivedCookie, peer.lastHandshakeAt⟩

/-- Where a delivery comes from, and what its replies look like on the way: from the endpoint of
the peer and as they are, or from a relay and wrapped. -/
structure Path where
  source : SocketAddr
  wrap : Bytes → Bytes

/-- The direct path from an address. -/
def Path.direct (endpoint : SocketAddr) : Path := ⟨endpoint, id⟩

/-- The path through a relay to a peer. -/
def Path.relayed (relay : SocketAddr) (localPub : Key) (peerIp : Ipv4Addr) : Path :=
  ⟨relay, Session.relayFrame localPub peerIp⟩

/-- The datagrams by which replies go back on a path. -/
def Path.carry (path : Path) (replies : List Bytes) : List (SocketAddr × Bytes) :=
  replies.map fun reply => (path.source, path.wrap reply)

/-- Both sessions look the same, wrote the same to the tun device, and sent the same replies, each
on its own path. -/
structure SameEffect (direct relayed : Path) (sent : List (SocketAddr × Bytes))
    (a b : Session) : Prop where
  view : a.peer.view = b.peer.view
  device : a.device = b.device
  replies : ∃ replies, a.transport.sent = sent ++ direct.carry replies ∧
    b.transport.sent = sent ++ relayed.carry replies

/-- The network takes a reply on one path exactly if it takes it on the other. -/
def Env.Alike (env : Env) (direct relayed : Path) : Prop :=
  ∀ reply, env.sendError direct.source (direct.wrap reply) = none ↔
    env.sendError relayed.source (relayed.wrap reply) = none

/-- The handler of a ready session answers the INIT of a rekey: a fresh responder consumes it,
turns into a transport, and the network takes the RESPONSE. -/
def PeerSession.Rekeys (peer : PeerSession) (keypair : Keypair) (env : Env) (rng : Ephemeral)
    (source : SocketAddr) (pkt : Bytes) : Prop :=
  peer.state.isReady = true ∧ initSize ≤ pkt.length ∧ ∃ fresh response responder transport,
    Responder.new keypair peer.config.psk peer.config.localSenderId env.tai = .ok fresh ∧
    Responder.consumeInit pkt rng (fresh.setCurrentTime env.tai) = .ok response responder ∧
    responder.intoTransport = .ok transport ∧ env.sendError source response.val = none

namespace Session

variable {self a b : Session} {env : Env} {keypair : Keypair} {rng : Ephemeral} {pkt : Bytes}
  {direct relayed : Path} {cookieSecret : Key}

omit [Profile] in
/-- Without replies, equal sessions had the same effect. -/
theorem sameEffect_of_eq (hview : a.peer.view = b.peer.view) (hdevice : a.device = b.device)
    (htransport : a.transport = b.transport) :
    SameEffect direct relayed a.transport.sent a b :=
  ⟨hview, hdevice, [], (List.append_nil _).symm, by rw [htransport]; exact (List.append_nil _).symm⟩

omit [Profile] in
theorem sameEffect_refl (self : Session) : SameEffect direct relayed self.transport.sent self self :=
  sameEffect_of_eq rfl rfl rfl

omit [Profile] in
/-- A handler that sends nothing has the same effect on both paths. -/
theorem rel_self {handler : Method Session TunnelError Unit}
    (h : Keeps Session.transport handler) (self : Session) :
    Option.Rel (SameEffect direct relayed self.transport.sent) (handler self).state?
      (handler self).state? := by
  cases hstate : (handler self).state? with
  | none => exact .none
  | some s =>
      have htransport := h.state hstate
      refine .some ?_
      rw [← htransport]
      exact sameEffect_refl s

/-! ## RESPONSE and TRANSPORT -/

omit [Profile] in
theorem keepsTransport_modifyPeer (f : PeerSession → PeerSession) :
    Keeps Session.transport (modifyPeer f) :=
  keeps_modify fun _ => rfl

omit [Profile] in
theorem keepsTransport_handleResponse : Keeps Session.transport (handleResponse env pkt) := by
  unfold handleResponse
  refine Keeps.ite (fun _ => keeps_fail _) fun _ => (keeps_slice _ _ _).bind fun id =>
    (keeps_readU32 id).bind fun sid => keeps_get_bind fun self => ?_
  rcases self.peer.state with _ | initiator | responder | ⟨transport, sid', _ | rehandshake⟩
  · exact keepsTransport_modifyPeer _
  · exact (keepsTransport_modifyPeer _).bind fun _ => (keeps_on _ _).bind fun _ =>
      (keeps_lift _ _).bind fun transport => keepsTransport_modifyPeer _
  · exact keepsTransport_modifyPeer _
  · exact keepsTransport_modifyPeer _
  · exact (keepsTransport_modifyPeer _).bind fun _ => (keeps_on _ _).bind fun _ =>
      (keeps_lift _ _).bind fun transport => keepsTransport_modifyPeer _

/-- What the two handlers of a packet of the data channel do on a ready session that is not
stale. -/
def opened (env : Env) (transport : Transport) (sid : UInt32) (rehandshake : Option Rehandshake)
    (pkt : Bytes) (self : Session) : Session :=
  match transportRead transport.inner (sub pkt transportHeaderSize pkt.length) 1500 with
  | (result, inner) =>
      let next := self.withState (.ready { transport with inner } sid rehandshake)
      match result with
      | .error _ => next
      | .ok plaintext =>
          if 0 < plaintext.length ∧ env.writeError plaintext = none then
            { next with device := ⟨next.device.written ++ [plaintext]⟩ }
          else next

omit [Profile] in
/-- Writing to the tun device, or failing to. -/
theorem write_state (env : Env) (buf : Bytes) (self : Session) :
    (write env buf self).state? = some
      (if env.writeError buf = none then
        { self with device := ⟨self.device.written ++ [buf]⟩ }
      else self) := by
  rw [write, zoom, Device.write]
  cases env.writeError buf with
  | none => rfl
  | some e => rfl

omit [Profile] in
theorem handleTransport_state (htype : pkt[0]? = some messageTypeTransport) :
    (handleTransport env pkt self).state? = some
      (match self.peer.state with
      | .ready transport sid rehandshake =>
          if pkt.length < transportHeaderSize + 16 ∨ self.peer.stale = true then self
          else opened env transport sid rehandshake pkt self
      | _ => self) := by
  rw [handleTransport]
  by_cases hlen : pkt.length < transportHeaderSize + 16
  · rw [if_pos hlen]
    cases self.peer.state <;> simp [hlen]
  rw [if_neg hlen, bind_ok (get_apply self)]
  by_cases hstale : self.peer.stale = true
  · rw [if_pos hstale]
    cases self.peer.state <;> simp [hstale]
  rw [if_neg hstale]
  cases self.peer.state with
  | ready transport sid rehandshake =>
      simp only
      rw [if_neg (not_or.2 ⟨hlen, hstale⟩), bind_eq, on,
        Transport.decrypt_eq (not_lt.1 hlen) htype, opened]
      rcases transportRead transport.inner _ 1500 with ⟨e | plaintext, inner⟩
      · rfl
      · simp only
        rw [bind_ok (show setState _ self = .ok () _ from rfl)]
        by_cases hempty : 0 < plaintext.length
        · rw [if_pos hempty, write_state]
          simp only [hempty, true_and]
          rfl
        · rw [if_neg hempty, if_neg fun h => hempty h.1]
          rfl
  | init => rfl
  | handshakingAsInitiator initiator => rfl
  | handshakingAsResponder responder => rfl

omit [Profile] in
theorem handleRelayedTransport_state (htype : pkt[0]? = some messageTypeTransport) :
    (handleRelayedTransport env pkt self).state? = some
      (match self.peer.state with
      | .ready transport sid rehandshake =>
          if pkt.length < transportHeaderSize + 16 then self
          else opened env transport sid rehandshake pkt self
      | _ => self) := by
  rw [handleRelayedTransport, bind_ok (get_apply self)]
  cases self.peer.state with
  | ready transport sid rehandshake =>
      simp only
      by_cases hlen : pkt.length < transportHeaderSize + 16
      · rw [if_pos hlen, if_pos hlen]
        rfl
      rw [if_neg hlen, if_neg hlen, bind_eq, on, Transport.decrypt_eq (not_lt.1 hlen) htype, opened]
      rcases transportRead transport.inner _ 1500 with ⟨e | plaintext, inner⟩
      · rfl
      · simp only
        rw [bind_ok (show setState _ self = .ok () _ from rfl), lift_ok, pure_bind]
        by_cases hempty : 0 < plaintext.length
        · rw [if_pos hempty, write_state]
          simp only [hempty, true_and]
          rfl
        · rw [if_neg hempty, if_neg fun h => hempty h.1]
          rfl
  | init => rfl
  | handshakingAsInitiator initiator => rfl
  | handshakingAsResponder responder => rfl

omit [Profile] in
theorem opened_transport (env : Env) (transport : Transport) (sid : UInt32)
    (rehandshake : Option Rehandshake) (pkt : Bytes) (self : Session) :
    (opened env transport sid rehandshake pkt self).transport = self.transport := by
  rw [opened]
  rcases transportRead transport.inner _ 1500 with ⟨e | plaintext, inner⟩
  · rfl
  · simp only
    split <;> rfl

omit [Profile] in
/-- Opening a packet is seen exactly if the packet is opened: it uses up a nonce. -/
theorem sameEffect_opened_iff (laws : TransportLaws) {transport : Transport} {sid : UInt32}
    {rehandshake : Option Rehandshake} (hlen : transportHeaderSize + 16 ≤ pkt.length)
    (htype : pkt[0]? = some messageTypeTransport)
    (hstate : self.peer.state = .ready transport sid rehandshake) :
    SameEffect direct relayed self.transport.sent self (opened env transport sid rehandshake pkt self) ↔
      ¬ transport.Decrypts pkt := by
  rcases hread : transportRead transport.inner (sub pkt transportHeaderSize pkt.length) 1500
    with ⟨e | plaintext, inner⟩
  · have hinner := laws.read_error hread
    subst hinner
    have hsame : opened env transport sid rehandshake pkt self = self := by
      rw [opened, hread]
      show self.withState (.ready transport sid rehandshake) = self
      rw [← hstate]
      rfl
    rw [hsame]
    refine iff_of_true (sameEffect_refl self) ?_
    rintro ⟨_, _, plaintext, inner', hopened⟩
    cases hread.symm.trans hopened
  · have hdecrypts : transport.Decrypts pkt := ⟨hlen, htype, plaintext, inner, hread⟩
    refine iff_of_false (fun hsame => ?_) (not_not.2 hdecrypts)
    have hview : (opened env transport sid rehandshake pkt self).peer.state =
        .ready { transport with inner } sid rehandshake := by
      rw [opened, hread]
      simp only
      split <;> rfl
    have hstates : self.peer.state = (opened env transport sid rehandshake pkt self).peer.state :=
      congrArg SessionView.state hsame.view
    rw [hstate, hview] at hstates
    injection hstates with htransport
    have hinner : transport.inner = inner := congrArg Transport.inner htransport
    obtain ⟨_, hnonce, _⟩ := laws.read_ok hread
    rw [← hinner] at hnonce
    omega

omit [Profile] in
/-- The two deliveries of a packet of the data channel differ only if a stale session could open
it. -/
theorem transport_alike_iff (laws : TransportLaws) (htype : pkt[0]? = some messageTypeTransport)
    (self : Session) :
    Option.Rel (SameEffect direct relayed self.transport.sent) (handleTransport env pkt self).state?
        (handleRelayedTransport env pkt self).state? ↔
      (self.peer.stale = true → ∀ transport sid rehandshake,
        self.peer.state = .ready transport sid rehandshake → ¬ transport.Decrypts pkt) := by
  rw [handleTransport_state htype, handleRelayedTransport_state htype, Option.rel_some_some]
  rcases hstate : self.peer.state with _ | _ | _ | ⟨transport, sid, rehandshake⟩
  case ready =>
    simp only
    by_cases hlen : pkt.length < transportHeaderSize + 16
    · rw [if_pos (Or.inl hlen), if_pos hlen]
      refine iff_of_true (sameEffect_refl self) ?_
      rintro - t s r h hdecrypts
      exact absurd hdecrypts.1 (not_le.2 hlen)
    rw [if_neg hlen]
    by_cases hstale : self.peer.stale = true
    · rw [if_pos (Or.inr hstale), sameEffect_opened_iff laws (not_lt.1 hlen) htype hstate]
      constructor
      · rintro hnot - t s r h
        cases h
        exact hnot
      · exact fun hall => hall hstale transport sid rehandshake rfl
    · rw [if_neg (not_or.2 ⟨hlen, hstale⟩)]
      refine iff_of_true ?_ fun h => absurd h hstale
      rw [← opened_transport env transport sid rehandshake pkt self]
      exact sameEffect_refl _
  all_goals
    refine iff_of_true (sameEffect_refl self) ?_
    rintro - t s r h
    cases h

/-! ## INIT -/

omit [Profile] in
/-- Sending a datagram, or failing to. -/
theorem sendTo_eq (env : Env) (dest : SocketAddr) (buf : Bytes) (self : Session) :
    sendTo env dest buf self =
      match env.sendError dest buf with
      | none => .ok () (self.logSend dest buf)
      | some e => .err (.io e) self := by
  rw [sendTo, zoom, UdpTransport.sendTo]
  cases env.sendError dest buf <;> rfl

omit [Profile] [Primitives] in
/-- The sender id of a packet of at least 8 bytes is read. -/
theorem readSenderId_eq {σ ε α : Type} (hlen : 8 ≤ pkt.length) (k : UInt32 → Method σ ε α) :
    (do
      let id ← slice pkt 4 8
      let peerSenderId ← readU32 id
      k peerSenderId) = k (senderIdOf pkt) := by
  have hfour : (sub pkt 4 8).length = 4 := sub_length hlen
  rw [slice_eq (by decide) hlen, pure_bind, readU32, expectArr_eq hfour, pure_bind, pure_bind]
  rfl

/-- What `respond` leaves behind, where `bytes` is what it sends for a response. -/
theorem respond_state {source : SocketAddr} {bytes : Arr responseSize → Bytes}
    {frame : Arr responseSize → Method Session TunnelError Bytes}
    (hframe : ∀ response, frame response = pure (bytes response)) (hlen : initSize ≤ pkt.length)
    (responder : Responder) (self : Session) :
    (respond keypair env rng source pkt responder frame self).state? =
      match Responder.consumeInit pkt rng (responder.setCurrentTime env.tai) with
      | .panic => none
      | .err _ spent => some (self.withState (.handshakingAsResponder
          ((Responder.new keypair self.peer.config.psk self.peer.config.localSenderId
            env.tai).toOption.getD spent)))
      | .ok response answered => some
          (if env.sendError source (bytes response) = none then
            match answered.intoTransport with
            | .ok transport =>
                { self.logSend source (bytes response) with
                  peer :=
                    { self.peer with
                      state := .ready transport (senderIdOf pkt) none
                      lastHandshakeAt := some env.now
                      lastRxAt := some env.now } }
            | .error _ => (self.logSend source (bytes response)).withState .init
          else self.withState (.handshakingAsResponder answered)) := by
  rw [respond, bind_ok (get_apply self), bind_eq, on]
  cases Responder.consumeInit pkt rng (responder.setCurrentTime env.tai) with
  | panic => rfl
  | err e spent =>
      simp only
      rw [bind_ok (show setState _ self = .ok () _ from rfl)]
      cases Responder.new keypair self.peer.config.psk self.peer.config.localSenderId env.tai <;> rfl
  | ok response answered =>
      simp only
      rw [bind_ok (show setState _ self = .ok () _ from rfl), hframe, pure_bind, bind_eq, sendTo_eq]
      cases env.sendError source (bytes response) with
      | some e => rfl
      | none =>
          simp only
          rw [readSenderId_eq (le_trans (by decide) hlen),
            bind_ok (show setState _ _ = .ok () _ from rfl)]
          cases answered.intoTransport <;> rfl

/-- What the rekey branch leaves behind. -/
theorem respondRekey_state {source : SocketAddr} (sid : UInt32) (rehandshake : Option Rehandshake)
    (self : Session) :
    (respondRekey keypair env rng source pkt sid rehandshake self).state? =
      match Responder.new keypair self.peer.config.psk self.peer.config.localSenderId env.tai with
      | .error _ => some self
      | .ok fresh =>
          match Responder.consumeInit pkt rng (fresh.setCurrentTime env.tai) with
          | .panic => none
          | .err _ _ => some self
          | .ok response answered =>
              match answered.intoTransport with
              | .error _ => some self
              | .ok transport => some
                  (if env.sendError source response.val = none then
                    { self.logSend source response.val with
                      peer :=
                        { self.peer with
                          state := .ready transport sid rehandshake
                          lastHandshakeAt := some env.now
                          stale := false } }
                  else self) := by
  rw [respondRekey, bind_ok (get_apply self)]
  cases Responder.new keypair self.peer.config.psk self.peer.config.localSenderId env.tai with
  | error e => rfl
  | ok fresh =>
      rw [lift_ok, pure_bind, bind_eq, on]
      simp only
      cases Responder.consumeInit pkt rng (fresh.setCurrentTime env.tai) with
      | panic => rfl
      | err e spent => rfl
      | ok response answered =>
          simp only
          cases answered.intoTransport with
          | error e => rfl
          | ok transport =>
              rw [lift_ok, pure_bind, bind_eq, sendTo_eq]
              cases env.sendError source response.val <;> rfl

/-- Consuming the same INIT has the same effect on both paths. -/
theorem respond_alike (halike : env.Alike direct relayed) (hlen : initSize ≤ pkt.length)
    {frame frame' : Arr responseSize → Method Session TunnelError Bytes}
    (hframe : ∀ response, frame response = pure (direct.wrap response.val))
    (hframe' : ∀ response, frame' response = pure (relayed.wrap response.val))
    (hconfig : a.peer.config = b.peer.config) (hview : a.peer.view = b.peer.view)
    (hdevice : a.device = b.device) (htransport : a.transport = b.transport)
    (responder : Responder) :
    Option.Rel (SameEffect direct relayed a.transport.sent)
      (respond keypair env rng direct.source pkt responder frame a).state?
      (respond keypair env rng relayed.source pkt responder frame' b).state? := by
  simp only [PeerSession.view, SessionView.mk.injEq] at hview
  obtain ⟨-, hstale, hcookie, hhandshake⟩ := hview
  have hstate : ∀ state, SameEffect direct relayed a.transport.sent (a.withState state)
      (b.withState state) := by
    intro state
    refine sameEffect_of_eq (a := a.withState state) (b := b.withState state) ?_ hdevice htransport
    simp only [PeerSession.view, withState_peer, SessionView.mk.injEq]
    exact ⟨trivial, hstale, hcookie, hhandshake⟩
  rw [respond_state hframe hlen, respond_state hframe' hlen, ← hconfig]
  cases Responder.consumeInit pkt rng (responder.setCurrentTime env.tai) with
  | panic => exact .none
  | err e spent => exact .some (hstate _)
  | ok response answered =>
      simp only
      rw [Option.rel_some_some]
      by_cases hsend : env.sendError direct.source (direct.wrap response.val) = none
      · rw [if_pos hsend, if_pos ((halike response.val).1 hsend)]
        have hreplies : ∃ replies, (a.logSend direct.source (direct.wrap response.val)).transport.sent =
            a.transport.sent ++ direct.carry replies ∧
            (b.logSend relayed.source (relayed.wrap response.val)).transport.sent =
              a.transport.sent ++ relayed.carry replies :=
          ⟨[response.val], rfl, by rw [htransport]; rfl⟩
        cases answered.intoTransport with
        | ok transport =>
            refine ⟨?_, hdevice, hreplies⟩
            simp only [PeerSession.view, SessionView.mk.injEq]
            exact ⟨trivial, hstale, hcookie, trivial⟩
        | error e => exact ⟨(hstate .init).view, hdevice, hreplies⟩
      · rw [if_neg hsend, if_neg (mt (halike response.val).2 hsend)]
        exact hstate _

omit [Profile] in
/-- The gate counts an INIT and leaves the rest of the session alone. -/
theorem counted_view (peer : PeerSession) (now : Instant) :
    (peer.counted now).view = peer.view ∧ (peer.counted now).config = peer.config := by
  unfold PeerSession.counted restartWindow
  split <;> exact ⟨rfl, rfl⟩

/-- A session that only sees an INIT on the relayed path answers it only as a responder. -/
theorem handleInitViaRelay_idle {relay : SocketAddr}
    (h : pkt.length < initSize ∨ ∀ responder, self.peer.state ≠ .handshakingAsResponder responder) :
    (handleInitViaRelay keypair env rng relay pkt self).state? = some self := by
  rw [handleInitViaRelay]
  by_cases hlen : pkt.length < initSize
  · rw [if_pos hlen]
    rfl
  rw [if_neg hlen, bind_ok (get_apply self)]
  cases hstate : self.peer.state with
  | handshakingAsResponder responder => exact absurd hstate (h.resolve_left hlen responder)
  | init => rfl
  | handshakingAsInitiator initiator => rfl
  | ready transport sid rehandshake => rfl

/-- A direct INIT of full length is consumed by a responder that waits for it, or as a rekey. -/
theorem handleInit_eq {source : SocketAddr} (hlen : initSize ≤ pkt.length) (self : Session) :
    handleInit keypair env rng source pkt self =
      match self.peer.state with
      | .ready _ _ rehandshake =>
          respondRekey keypair env rng source pkt (senderIdOf pkt) rehandshake self
      | .handshakingAsResponder responder =>
          respond keypair env rng source pkt responder (fun response => pure response.val) self
      | _ => .ok () self := by
  rw [handleInit, if_neg (not_lt.2 hlen), readSenderId_eq (le_trans (by decide) hlen),
    bind_ok (get_apply self)]
  cases self.peer.state <;> rfl

/-- Answering a rekey is seen, and nothing else that the rekey branch does is. -/
theorem rekey_alike_iff {endpoint : SocketAddr} (sid : UInt32) (rehandshake : Option Rehandshake)
    (hconfig : a.peer.config = b.peer.config) (hview : a.peer.view = b.peer.view)
    (hdevice : a.device = b.device) (htransport : a.transport = b.transport)
    (hready : b.peer.state.isReady = true) (hlen : initSize ≤ pkt.length) :
    Option.Rel (SameEffect (Path.direct endpoint) relayed a.transport.sent)
        (respondRekey keypair env rng endpoint pkt sid rehandshake a).state? (some b) ↔
      ¬ (∃ responder, b.peer.Consults keypair env responder ∧
          (responder.setCurrentTime env.tai).Traps pkt) ∧
        ¬ b.peer.Rekeys keypair env rng endpoint pkt := by
  have hsame : SameEffect (Path.direct endpoint) relayed a.transport.sent a b :=
    sameEffect_of_eq hview hdevice htransport
  -- A ready session has no responder of its own; it consults a new one.
  have hconsults : ∀ responder, b.peer.Consults keypair env responder ↔
      Responder.new keypair b.peer.config.psk b.peer.config.localSenderId env.tai =
        .ok responder := by
    intro responder
    refine ⟨?_, fun hnew => Or.inr ⟨hready, hnew⟩⟩
    rintro (hstate | ⟨-, hnew⟩)
    · rw [hstate] at hready
      cases hready
    · exact hnew
  simp only [hconsults, PeerSession.Rekeys, hready, hlen, true_and]
  rw [respondRekey_state, hconfig]
  cases hnew : Responder.new keypair b.peer.config.psk b.peer.config.localSenderId env.tai with
  | error e =>
      refine iff_of_true (.some hsame) ⟨?_, ?_⟩
      · rintro ⟨_, hother, _⟩
        cases hother
      · rintro ⟨_, _, _, _, hother, _⟩
        cases hother
  | ok fresh =>
      have htraps := Responder.consume_init_panic_iff (fresh.setCurrentTime env.tai) pkt rng
      simp only [Except.ok.injEq, exists_eq_left']
      cases hconsume : Responder.consumeInit pkt rng (fresh.setCurrentTime env.tai) with
      | panic =>
          rw [hconsume] at htraps
          exact iff_of_false (fun h => nomatch h) fun h => h.1 (htraps.1 rfl)
      | err e spent =>
          rw [hconsume] at htraps
          have hcalm : ¬ (fresh.setCurrentTime env.tai).Traps pkt := fun h => nomatch htraps.2 h
          refine iff_of_true (.some hsame) ⟨hcalm, ?_⟩
          rintro ⟨_, _, _, _, rfl, hother, _⟩
          cases hconsume.symm.trans hother
      | ok response answered =>
          rw [hconsume] at htraps
          have hcalm : ¬ (fresh.setCurrentTime env.tai).Traps pkt := fun h => nomatch htraps.2 h
          simp only
          cases hinto : answered.intoTransport with
          | error e =>
              refine iff_of_true (.some hsame) ⟨hcalm, ?_⟩
              rintro ⟨_, _, _, _, rfl, hother, hmade, _⟩
              cases hconsume.symm.trans hother
              cases hinto.symm.trans hmade
          | ok transport =>
              simp only
              by_cases hsend : env.sendError endpoint response.val = none
              · -- The RESPONSE is sent on one side only.
                refine iff_of_false (fun h => ?_) fun h =>
                  h.2 ⟨fresh, response, answered, transport, rfl, hconsume, hinto, hsend⟩
                rw [if_pos hsend, Option.rel_some_some] at h
                obtain ⟨replies, hdirect, hrelayed⟩ := h.replies
                have hnil : replies = [] := by
                  rw [← htransport, Path.carry] at hrelayed
                  simpa using hrelayed
                rw [hnil] at hdirect
                have hsent : a.transport.sent ++ [(endpoint, response.val)] =
                    a.transport.sent ++ [] := hdirect
                cases List.append_cancel_left hsent
              · rw [if_neg hsend]
                refine iff_of_true (.some hsame) ⟨hcalm, ?_⟩
                rintro ⟨_, _, _, _, rfl, hother, -, hsent⟩
                cases hconsume.symm.trans hother
                exact hsend hsent

/-- A session that waits for an INIT answers it in the same way on both paths. -/
theorem waiting_alike_iff {endpoint relay : SocketAddr}
    (halike : env.Alike (Path.direct endpoint)
      (Path.relayed relay keypair.public b.peer.config.peerIp))
    (hconfig : a.peer.config = b.peer.config) (hview : a.peer.view = b.peer.view)
    (hdevice : a.device = b.device) (htransport : a.transport = b.transport)
    (hlen : initSize ≤ pkt.length) {responder : Responder}
    (hstate : b.peer.state = .handshakingAsResponder responder) :
    Option.Rel (SameEffect (Path.direct endpoint)
          (Path.relayed relay keypair.public b.peer.config.peerIp) a.transport.sent)
        (respond keypair env rng endpoint pkt responder (fun response => pure response.val) a).state?
        (handleInitViaRelay keypair env rng relay pkt b).state? ↔
      ((∃ other, b.peer.Consults keypair env other ∧ (other.setCurrentTime env.tai).Traps pkt) ↔
          Panics b.peer keypair env (.relayedInit pkt)) ∧
        ¬ b.peer.Rekeys keypair env rng endpoint pkt := by
  have hconsults : ∀ other, b.peer.Consults keypair env other ↔ other = responder := by
    intro other
    rw [PeerSession.Consults, hstate]
    refine ⟨?_, fun h => Or.inl (by rw [h])⟩
    rintro (h | ⟨h, -⟩)
    · cases h
      rfl
    · cases h
  have hrelayed : handleInitViaRelay keypair env rng relay pkt b =
      respond keypair env rng relay pkt responder (fun response =>
        wrapRelay keypair.public b.peer.config.peerIp response.val) b := by
    rw [handleInitViaRelay, if_neg (not_lt.2 hlen), bind_ok (get_apply b), hstate]
  rw [hrelayed]
  refine iff_of_true ?_ ⟨?_, fun h => ?_⟩
  · exact respond_alike (a := a) halike hlen (fun _ => rfl) (fun _ => wrapRelay_eq _ _ _) hconfig
      hview hdevice htransport responder
  · simp only [hconsults, exists_eq_left, Panics, hstate, PeerState.handshakingAsResponder.injEq,
      exists_eq_left']
  · have hready := h.1
    rw [hstate] at hready
    cases hready

/-- Two sessions that differ in what the gate counts are affected alike by an INIT that it lets
pass, unless both paths do not panic together, or the session is ready and answers. -/
theorem admitted_alike_iff {endpoint relay : SocketAddr}
    (halike : env.Alike (Path.direct endpoint)
      (Path.relayed relay keypair.public b.peer.config.peerIp))
    (hconfig : a.peer.config = b.peer.config) (hview : a.peer.view = b.peer.view)
    (hdevice : a.device = b.device) (htransport : a.transport = b.transport) :
    Option.Rel (SameEffect (Path.direct endpoint)
          (Path.relayed relay keypair.public b.peer.config.peerIp) a.transport.sent)
        (handleInit keypair env rng endpoint pkt a).state?
        (handleInitViaRelay keypair env rng relay pkt b).state? ↔
      ((∃ responder, b.peer.Consults keypair env responder ∧
            (responder.setCurrentTime env.tai).Traps pkt) ↔
          Panics b.peer keypair env (.relayedInit pkt)) ∧
        ¬ b.peer.Rekeys keypair env rng endpoint pkt := by
  have hstate : a.peer.state = b.peer.state := congrArg SessionView.state hview
  have hsame : SameEffect (Path.direct endpoint)
      (Path.relayed relay keypair.public b.peer.config.peerIp) a.transport.sent a b :=
    sameEffect_of_eq hview hdevice htransport
  by_cases hlen : pkt.length < initSize
  · -- Neither session reads a short INIT.
    rw [handleInitViaRelay_idle (Or.inl hlen), handleInit, if_pos hlen]
    have hcalm : ∀ responder : Responder, ¬ responder.Traps pkt :=
      fun responder h => absurd h.1 (not_le.2 hlen)
    refine iff_of_true (.some hsame) ⟨iff_of_false ?_ ?_, fun h => absurd h.2.1 (not_le.2 hlen)⟩
    · rintro ⟨_, _, htraps⟩
      exact hcalm _ htraps
    · rintro ⟨_, _, htraps⟩
      exact hcalm _ htraps
  have hlen : initSize ≤ pkt.length := not_lt.1 hlen
  rw [handleInit_eq hlen]
  simp only [hstate]
  rcases hpeer : b.peer.state with _ | initiator | responder | ⟨transport, sid, rehandshake⟩
  case handshakingAsResponder =>
    exact waiting_alike_iff halike hconfig hview hdevice htransport hlen hpeer
  case ready =>
    -- Only the direct path rekeys.
    have hnone : ¬ Panics b.peer keypair env (.relayedInit pkt) := by
      rintro ⟨_, hother, _⟩
      cases hpeer.symm.trans hother
    rw [handleInitViaRelay_idle (Or.inr fun responder h => by cases hpeer.symm.trans h)]
    simp only [hnone, iff_false]
    exact rekey_alike_iff _ _ hconfig hview hdevice htransport (by rw [hpeer]; rfl) hlen
  all_goals
    rw [handleInitViaRelay_idle (Or.inr fun responder h => by cases hpeer.symm.trans h)]
    refine iff_of_true (.some hsame) ⟨iff_of_false ?_ ?_, fun h => ?_⟩
    · rintro ⟨_, hother | ⟨hother, _⟩, _⟩
      · cases hpeer.symm.trans hother
      · rw [hpeer] at hother
        cases hother
    · rintro ⟨_, hother, _⟩
      cases hpeer.symm.trans hother
    · have hready := h.1
      rw [hpeer] at hready
      cases hready

/-- The two deliveries of an INIT differ if the gate panics on the direct one, and if a ready
session answers it. -/
theorem init_alike_iff (s : Session) (hgate : s.peer.GateOpen) {endpoint relay : SocketAddr}
    (halike : env.Alike (Path.direct endpoint)
      (Path.relayed relay keypair.public s.peer.config.peerIp)) :
    Option.Rel (SameEffect (Path.direct endpoint)
          (Path.relayed relay keypair.public s.peer.config.peerIp) s.transport.sent)
        (deliver keypair cookieSecret env rng endpoint (.init pkt) s).state?
        (deliver keypair cookieSecret env rng relay (.relayedInit pkt) s).state? ↔
      (Panics s.peer keypair env (.init pkt) ↔ Panics s.peer keypair env (.relayedInit pkt)) ∧
        ¬ s.peer.Rekeys keypair env rng endpoint pkt := by
  have hready : Panics s.peer keypair env (.relayedInit pkt) →
      ¬ s.peer.Rekeys keypair env rng endpoint pkt := by
    rintro ⟨responder, hstate, -⟩ hrekeys
    have hfalse := hrekeys.1
    rw [hstate] at hfalse
    cases hfalse
  by_cases hover : s.peer.OverLimit env.now
  · -- The gate panics, so the relayed INIT has to panic, too.
    have hdirect : deliver keypair cookieSecret env rng endpoint (.init pkt) s = .panic := by
      rw [deliver, bind_eq, checkInitCookie_eq hgate, if_pos hover]
    have hpanics : Panics s.peer keypair env (.init pkt) := Or.inl hover
    have hrelayed : deliver keypair cookieSecret env rng relay (.relayedInit pkt) s = .panic ↔
        Panics s.peer keypair env (.relayedInit pkt) := deliver_panic_iff hgate _
    rw [hdirect]
    simp only [hpanics, true_iff]
    rw [and_iff_left_of_imp hready, ← hrelayed]
    cases deliver keypair cookieSecret env rng relay (.relayedInit pkt) s with
    | panic => exact iff_of_true .none rfl
    | ok value next => exact iff_of_false (fun h => by cases h) fun h => by cases h
    | err e next => exact iff_of_false (fun h => by cases h) fun h => by cases h
  · have hdirect : deliver keypair cookieSecret env rng endpoint (.init pkt) s =
        handleInit keypair env rng endpoint pkt
          { s with peer := s.peer.counted env.now } := by
      rw [deliver, bind_eq, checkInitCookie_eq hgate, if_neg hover]
      rfl
    have hrelayed : deliver keypair cookieSecret env rng relay (.relayedInit pkt) s =
        handleInitViaRelay keypair env rng relay pkt s := rfl
    have hpanics : Panics s.peer keypair env (.init pkt) ↔ ∃ responder,
        s.peer.Consults keypair env responder ∧ (responder.setCurrentTime env.tai).Traps pkt :=
      or_iff_right hover
    obtain ⟨hview, hconfig⟩ := counted_view s.peer env.now
    rw [hdirect, hrelayed, hpanics]
    exact admitted_alike_iff (a := { s with peer := s.peer.counted env.now }) halike hconfig hview rfl
      rfl

/-! ## COOKIE -/

omit [Profile] in
/-- The cookie in a packet. -/
theorem handleCookie_state (self : Session) :
    (pkt.length < 24 → (handleCookie env pkt self).state? = some self) ∧
      (24 ≤ pkt.length → ∃ cookie : Arr 16, cookie.val = sub pkt 8 24 ∧
        (handleCookie env pkt self).state? = some
          { self with
            peer :=
              { self.peer with
                receivedCookie := some cookie
                cachedInit := none
                nextInitAt := some env.now } }) := by
  rw [handleCookie]
  constructor
  · intro hlen
    rw [if_pos hlen]
    rfl
  · intro hlen
    have hbody : 0 ≤ 16 ∧ 16 ≤ 16 ∧ (sub pkt 8 24).length = 16 - 0 :=
      ⟨by decide, by decide, sub_length hlen⟩
    refine ⟨(Arr.zeros 16).splice 0 16 (sub pkt 8 24) hbody, ?_, ?_⟩
    · show Rust.splice (Arr.zeros 16).val 0 16 (sub pkt 8 24) = sub pkt 8 24
      simp [Rust.splice, Arr.zeros]
    · rw [if_neg (not_lt.2 hlen), slice_eq (by decide) hlen, pure_bind,
        Arr.copyFromSlice_eq _ hbody, pure_bind]
      rfl

omit [Profile] in
/-- A COOKIE is only known on the direct path, and seen if it is a new one. -/
theorem cookie_alike_iff (self : Session) :
    Option.Rel (SameEffect direct relayed self.transport.sent) (handleCookie env pkt self).state?
        (some self) ↔
      (24 ≤ pkt.length → self.peer.receivedCookie.map Subtype.val = some (sub pkt 8 24)) := by
  obtain ⟨hshort, hlong⟩ := @handleCookie_state _ env pkt self
  by_cases hlen : pkt.length < 24
  · rw [hshort hlen]
    exact iff_of_true (.some (sameEffect_refl self)) fun h => absurd h (not_le.2 hlen)
  · obtain ⟨cookie, hcookie, hstate⟩ := hlong (not_lt.1 hlen)
    rw [hstate, Option.rel_some_some]
    constructor
    · intro hsame _
      have hreceived := congrArg SessionView.receivedCookie hsame.view
      simp only [PeerSession.view] at hreceived
      rw [← hreceived, Option.map_some, hcookie]
    · intro h
      obtain ⟨stored, hstored, hval⟩ := Option.map_eq_some_iff.1 (h (not_lt.1 hlen))
      have hsame : stored = cookie := Subtype.ext (hval.trans hcookie.symm)
      refine ⟨?_, rfl, [], (List.append_nil _).symm, (List.append_nil _).symm⟩
      rw [PeerSession.view, PeerSession.view, hstored, hsame]

end Session

/-! ## The manager -/

/-- The two deliveries of the message agree for the session: an INIT panics on both paths or on
none and is no rekey that is answered, no stale session could open the packet, and the cookie is
not a new one. -/
def PeerSession.TreatsAlike (peer : PeerSession) (keypair : Keypair) (env : Env) (rng : Ephemeral)
    (pkt : Bytes) : Prop :=
  (pkt[0]? = some messageTypeInit →
    (Session.Panics peer keypair env (.init pkt) ↔
      Session.Panics peer keypair env (.relayedInit pkt)) ∧
    ¬ peer.Rekeys keypair env rng peer.config.peerEndpoint pkt) ∧
  (pkt[0]? = some messageTypeTransport → peer.stale = true → ∀ transport sid rehandshake,
    peer.state = .ready transport sid rehandshake → ¬ transport.Decrypts pkt) ∧
  (pkt[0]? = some messageTypeCookie → 24 ≤ pkt.length →
    peer.receivedCookie.map Subtype.val = some (sub pkt 8 24))

namespace TunnelManager

variable {self : TunnelManager} {env : Env} {source : SocketAddr} {idx : ℕ} {peer : PeerSession}
  {pkt : Bytes}

/-- The session at an index, with the socket and the tun device. -/
def session (self : TunnelManager) (idx : ℕ) : Option Session :=
  self.peers[idx]?.map fun peer => ⟨peer, self.transport, self.device⟩

/-- The session at an index after a call, unless the call panics. -/
def sessionAfter (call : Method TunnelManager TunnelError Unit) (idx : ℕ) (self : TunnelManager) :
    Option Session :=
  (call self).state?.bind fun next => next.session idx

omit [Profile] in
theorem sessionAfter_atPeer (hpeer : self.peers[idx]? = some peer)
    (handler : Method Session TunnelError Unit) :
    sessionAfter (atPeer idx handler) idx self =
      (handler ⟨peer, self.transport, self.device⟩).state? := by
  have hlt : idx < self.peers.length := (List.getElem?_eq_some_iff.1 hpeer).1
  have hset : ∀ s : PeerSession, (self.peers.set idx s)[idx]? = some s :=
    fun s => List.getElem?_set_self hlt
  rw [sessionAfter, atPeer_eq hpeer]
  cases handler ⟨peer, self.transport, self.device⟩ with
  | panic => rfl
  | ok value s =>
      rw [Outcome.state?_ok, Option.bind_some, session, hset]
      rfl
  | err e s =>
      rw [Outcome.state?_err, Option.bind_some, session, hset]
      rfl

omit [Profile] in
/-- Noting a datagram from the endpoint of a peer. -/
theorem noted_at_endpoint {noted : TunnelManager}
    (h : Noted env peer.config.peerEndpoint idx peer self noted)
    (hpeer : self.peers[idx]? = some peer) :
    noted.peers[idx]? = some (peer.heard env peer.config.peerEndpoint) ∧
      noted.transport = self.transport ∧ noted.device = self.device := by
  obtain ⟨endpointToPeer, learned, endpoint, rfl, ⟨rfl, rfl⟩ | ⟨-, hmoved, -⟩⟩ := h
  · exact ⟨List.getElem?_set_self (List.getElem?_eq_some_iff.1 hpeer).1, rfl, rfl⟩
  · exact absurd rfl hmoved

/-- A message from the endpoint of a peer is delivered to its session. -/
theorem sessionAfter_direct (hwf : self.WellFormed) (hpeer : self.peers[idx]? = some peer)
    (hmapped : self.endpointToPeer peer.config.peerEndpoint = some idx) {message : Message}
    (hmessage : directMessage pkt = some message) :
    sessionAfter (handleIncoming env peer.config.peerEndpoint pkt) idx self =
      (Session.deliver self.config.localKeypair self.cookieSecret env (env.ephemeral idx)
        peer.config.peerEndpoint message
        ⟨peer.heard env peer.config.peerEndpoint, self.transport, self.device⟩).state? := by
  have hroute := (found_of_mapped hmapped).handled pkt message hmessage
  obtain ⟨p, noted, hp, hnoted, heq⟩ := handleIncoming_routed env hwf hroute
  cases hpeer.symm.trans hp
  obtain ⟨hheard, htransport, hdevice⟩ := noted_at_endpoint hnoted hpeer
  rw [← htransport, ← hdevice, ← sessionAfter_atPeer hheard, sessionAfter, sessionAfter, heq]

/-- A RELAY packet for this node that names a peer as sender is noted and taken in. -/
theorem handleIncoming_relayFrame (hpeer : self.peers[idx]? = some peer)
    (hkey : self.pubkeyToPeer peer.config.peerPub = some idx) :
    ∃ noted : TunnelManager, noted.peers[idx]? = some (peer.heard env peer.config.peerEndpoint) ∧
      noted.transport = self.transport ∧ noted.device = self.device ∧
      noted.config = self.config ∧ noted.cookieSecret = self.cookieSecret ∧
      handleIncoming env source
          (Session.relayFrame peer.config.peerPub self.config.localIp pkt) self =
        handleRelayed env idx source pkt noted := by
  obtain ⟨htype, hlen, hfrom, hdest, hinner⟩ :=
    relayFrame_header peer.config.peerPub self.config.localIp pkt
  generalize Session.relayFrame peer.config.peerPub self.config.localIp pkt = frame at *
  have hlt := (List.getElem?_eq_some_iff.1 hpeer).1
  have hlearned : (learnEndpoint source peer.config.peerPub self).peers[idx]? = some peer ∧
      (learnEndpoint source peer.config.peerPub self).transport = self.transport ∧
      (learnEndpoint source peer.config.peerPub self).device = self.device ∧
      (learnEndpoint source peer.config.peerPub self).config = self.config ∧
      (learnEndpoint source peer.config.peerPub self).cookieSecret = self.cookieSecret ∧
      (learnEndpoint source peer.config.peerPub self).pubkeyToPeer = self.pubkeyToPeer := by
    unfold learnEndpoint
    split <;> exact ⟨hpeer, rfl, rfl, rfl, rfl, rfl⟩
  obtain ⟨hpeer', htransport, hdevice, hconfig, hsecret, hpubkeys⟩ := hlearned
  have hlt' := (List.getElem?_eq_some_iff.1 hpeer').1
  rw [handleIncoming_relay htype, if_neg (not_lt.2 hlen), hfrom, Option.bind_some, hkey]
  simp only [Option.getD_some]
  rw [bind_ok (modify_apply _ _), bind_ok (touch_eq hpeer')]
  generalize learnEndpoint source peer.config.peerPub self = learned at *
  let noted : TunnelManager :=
    { learned with peers := learned.peers.set idx (peer.heard env peer.config.peerEndpoint) }
  have hknown : noted.pubkeyToPeer peer.config.peerPub = some idx := hpubkeys ▸ hkey
  refine ⟨noted, List.getElem?_set_self hlt', htransport, hdevice, hconfig, hsecret, ?_⟩
  obtain ⟨destIp, hdest', hrelay⟩ := handleRelay_eq hlen hfrom hknown
  cases hdest.symm.trans hdest'
  have hlocal : self.config.localIp = noted.config.localIp := congrArg _ hconfig.symm
  rw [if_pos hlocal, hinner] at hrelay
  exact hrelay

/-- The two deliveries of a message to a peer of a reachable manager, once from the endpoint of the
peer and once inside a RELAY packet from anywhere. -/
theorem relayed_alike_iff (laws : TransportLaws) (hreach : self.Reachable)
    (hpeer : self.peers[idx]? = some peer)
    (hmapped : self.endpointToPeer peer.config.peerEndpoint = some idx)
    (hkey : self.pubkeyToPeer peer.config.peerPub = some idx)
    (htype : pkt[0]? = some messageTypeInit ∨ pkt[0]? = some messageTypeResponse ∨
      pkt[0]? = some messageTypeTransport ∨ pkt[0]? = some messageTypeCookie)
    (halike : env.Alike (Path.direct peer.config.peerEndpoint)
      (Path.relayed source self.config.localKeypair.public peer.config.peerIp)) :
    Option.Rel (SameEffect (Path.direct peer.config.peerEndpoint)
          (Path.relayed source self.config.localKeypair.public peer.config.peerIp)
          self.transport.sent)
        (sessionAfter (handleIncoming env peer.config.peerEndpoint pkt) idx self)
        (sessionAfter (handleIncoming env source
          (Session.relayFrame peer.config.peerPub self.config.localIp pkt)) idx self) ↔
      peer.TreatsAlike self.config.localKeypair env (env.ephemeral idx) pkt := by
  have hwf := hreach.sound.wellFormed
  have hgate : (peer.heard env peer.config.peerEndpoint).GateOpen :=
    (peer.keeps_heard env _).gate (hreach.sound.gates hpeer)
  obtain ⟨noted, hheard, htransport, hdevice, hconfig, hsecret, hrelayed⟩ :=
    handleIncoming_relayFrame hpeer hkey
  have htaken : ∀ message, relayedMessage pkt = some message →
      sessionAfter (handleIncoming env source
          (Session.relayFrame peer.config.peerPub self.config.localIp pkt)) idx self =
        (Session.deliver self.config.localKeypair self.cookieSecret env (env.ephemeral idx) source
          message ⟨peer.heard env peer.config.peerEndpoint, self.transport,
            self.device⟩).state? := by
    intro message hmessage
    rw [sessionAfter, hrelayed, handleRelayed_message hmessage, ← htransport, ← hdevice, ← hconfig,
      ← hsecret, ← sessionAfter_atPeer hheard, sessionAfter]
  have hother : ∀ {type type' : UInt8}, pkt[0]? = some type → type ≠ type' →
      ¬ pkt[0]? = some type' :=
    fun h hne h' => hne (Option.some.inj (h.symm.trans h'))
  let session : Session := ⟨peer.heard env peer.config.peerEndpoint, self.transport, self.device⟩
  rw [PeerSession.TreatsAlike]
  rcases htype with htype | htype | htype | htype
  · have hdirect : directMessage pkt = some (.init pkt) := by
      rw [directMessage, if_pos htype]
    have hwrapped : relayedMessage pkt = some (.relayedInit pkt) := by
      rw [relayedMessage, htype]
      rfl
    rw [sessionAfter_direct hwf hpeer hmapped hdirect, htaken _ hwrapped]
    refine (Session.init_alike_iff session hgate halike).trans ⟨fun h => ?_, fun h => h.1 htype⟩
    exact ⟨fun _ => h, fun h' => absurd h' (hother htype (by decide)),
      fun h' => absurd h' (hother htype (by decide))⟩
  · have hdirect : directMessage pkt = some (.response pkt) := by
      rw [directMessage, htype]
      rfl
    have hwrapped : relayedMessage pkt = some (.response pkt) := by
      rw [relayedMessage, htype]
      rfl
    rw [sessionAfter_direct hwf hpeer hmapped hdirect, htaken _ hwrapped]
    refine iff_of_true (Session.rel_self Session.keepsTransport_handleResponse session) ?_
    exact ⟨fun h' => absurd h' (hother htype (by decide)),
      fun h' => absurd h' (hother htype (by decide)), fun h' => absurd h' (hother htype (by decide))⟩
  · have hdirect : directMessage pkt = some (.transport pkt) := by
      rw [directMessage, htype]
      rfl
    have hwrapped : relayedMessage pkt = some (.relayedTransport pkt) := by
      rw [relayedMessage, htype]
      rfl
    rw [sessionAfter_direct hwf hpeer hmapped hdirect, htaken _ hwrapped]
    refine (Session.transport_alike_iff laws htype session).trans
      ⟨fun h => ?_, fun h => h.2.1 htype⟩
    exact ⟨fun h' => absurd h' (hother htype (by decide)), fun _ => h,
      fun h' => absurd h' (hother htype (by decide))⟩
  · have hdirect : directMessage pkt = some (.cookie pkt) := by
      rw [directMessage, htype]
      rfl
    have hwrapped : relayedMessage pkt = none := by
      rw [relayedMessage, htype]
      rfl
    -- `handle_relay` does not know COOKIE.
    obtain ⟨e, herr⟩ := handleRelayed_none env idx source noted hwrapped
    have hrefused : sessionAfter (handleIncoming env source
        (Session.relayFrame peer.config.peerPub self.config.localIp pkt)) idx self =
          some session := by
      rw [sessionAfter, hrelayed, herr, Outcome.state?_err, Option.bind_some,
        TunnelManager.session, hheard, Option.map_some, htransport, hdevice]
    rw [sessionAfter_direct hwf hpeer hmapped hdirect, hrefused]
    refine (Session.cookie_alike_iff session).trans ⟨fun h => ?_, fun h => h.2.2 htype⟩
    exact ⟨fun h' => absurd h' (hother htype (by decide)),
      fun h' => absurd h' (hother htype (by decide)), fun _ => h⟩

end TunnelManager

end General

namespace TunnelManager

section Symbolic

open Symbolic

attribute [local instance] Symbolic.primitives Symbolic.release

/-- The network of the examples treats all paths alike. -/
theorem quiet_alike (now : Instant) (tai : Tai64N) (rng : UInt8) (direct relayed : Path) :
    (quietEnv now tai rng).Alike direct relayed :=
  fun _ => iff_of_true rfl rfl

/-- A session that waits for an INIT treats it alike on both paths. -/
theorem first_init_alike :
    ∃ self : TunnelManager, self.Reachable ∧ ∃ peer : PeerSession, self.peers[0]? = some peer ∧
      Option.Rel (SameEffect (Path.direct peer.config.peerEndpoint)
          (Path.relayed (address 9) self.config.localKeypair.public peer.config.peerIp)
          self.transport.sent)
        (sessionAfter (handleIncoming (quietEnv 5 ⟨1000, 0⟩ 7) peer.config.peerEndpoint
          (initFor 2 1 ⟨1000, 0⟩ 3)) 0 self)
        (sessionAfter (handleIncoming (quietEnv 5 ⟨1000, 0⟩ 7) (address 9)
          (Session.relayFrame peer.config.peerPub self.config.localIp
            (initFor 2 1 ⟨1000, 0⟩ 3))) 0 self) := by
  have hrun : (after (quietEnv 0 ⟨1000, 0⟩ 7) (nodeConfig 1) [sessionWith 2 false] []).any
      (fun self => self.peers[0]?.any fun peer => !peer.state.isReady &&
        decide (peer.initRxCount = 0) &&
        decide (self.endpointToPeer peer.config.peerEndpoint = some 0) &&
        decide (self.pubkeyToPeer peer.config.peerPub = some 0)) = true := by
    decide +kernel
  obtain ⟨start, self, hnew, hrun, hcheck⟩ := of_after hrun
  obtain ⟨peer, hpeer, hcheck⟩ := (Option.any_eq_true _ _).1 hcheck
  simp only [Bool.and_eq_true, Bool.not_eq_true', decide_eq_true_eq] at hcheck
  obtain ⟨⟨⟨hidle, hcount⟩, hmapped⟩, hkey⟩ := hcheck
  have hreachable := reachable_of_run hnew hrun
  have hcalm : ∀ responder : Responder, ¬ responder.Traps (initFor 2 1 ⟨1000, 0⟩ 3) :=
    fun responder h => absurd (overflowChecks_of_traps h) (by decide)
  have htype : (initFor 2 1 ⟨1000, 0⟩ 3)[0]? = some messageTypeInit := by decide +kernel
  refine ⟨self, hreachable, peer, hpeer, (relayed_alike_iff transport_laws hreachable hpeer hmapped
    hkey (Or.inl htype) (quiet_alike 5 ⟨1000, 0⟩ 7 _ _)).2 ⟨fun _ => ⟨iff_of_false ?_ ?_, ?_⟩, ?_, ?_⟩⟩
  · rintro (hover | ⟨responder, -, htraps⟩)
    · have hlimit := hover.2
      rw [hcount] at hlimit
      exact absurd hlimit (by decide)
    · exact hcalm _ htraps
  · rintro ⟨responder, -, htraps⟩
    exact hcalm _ htraps
  · rintro ⟨hready, -⟩
    rw [hidle] at hready
    cases hready
  · exact fun h => absurd (htype.symm.trans h) (by decide)
  · exact fun h => absurd (htype.symm.trans h) (by decide)

/-- A ready session answers the INIT of a rekey from the endpoint of its peer, and drops it when
it comes through a relay. -/
theorem relayed_rekey_dropped :
    ∃ self : TunnelManager, self.Reachable ∧ ∃ peer : PeerSession, self.peers[0]? = some peer ∧
      self.endpointToPeer peer.config.peerEndpoint = some 0 ∧
      self.pubkeyToPeer peer.config.peerPub = some 0 ∧ peer.state.isReady = true ∧
      ¬ Option.Rel (SameEffect (Path.direct peer.config.peerEndpoint)
          (Path.relayed (address 9) self.config.localKeypair.public peer.config.peerIp)
          self.transport.sent)
        (sessionAfter (handleIncoming (quietEnv 9 ⟨1001, 0⟩ 8) peer.config.peerEndpoint
          (initFor 2 1 ⟨1001, 0⟩ 4)) 0 self)
        (sessionAfter (handleIncoming (quietEnv 9 ⟨1001, 0⟩ 8) (address 9)
          (Session.relayFrame peer.config.peerPub self.config.localIp
            (initFor 2 1 ⟨1001, 0⟩ 4))) 0 self) := by
  have hrun : (after (quietEnv 0 ⟨1000, 0⟩ 7) (nodeConfig 1) [sessionWith 2 false]
      [.incoming (quietEnv 5 ⟨1000, 0⟩ 7) (address 2) (initFor 2 1 ⟨1000, 0⟩ 3)]).any
      (fun self => self.peers[0]?.any fun peer => peer.state.isReady &&
        decide (self.endpointToPeer peer.config.peerEndpoint = some 0) &&
        decide (self.pubkeyToPeer peer.config.peerPub = some 0) &&
        (sessionAfter (handleIncoming (quietEnv 9 ⟨1001, 0⟩ 8) peer.config.peerEndpoint
          (initFor 2 1 ⟨1001, 0⟩ 4)) 0 self).any (fun s => decide (s.transport.sent.length = 2)) &&
        (sessionAfter (handleIncoming (quietEnv 9 ⟨1001, 0⟩ 8) (address 9)
          (Session.relayFrame peer.config.peerPub self.config.localIp
            (initFor 2 1 ⟨1001, 0⟩ 4))) 0 self).any
          (fun s => decide (s.transport.sent.length = 1))) = true := by
    decide +kernel
  obtain ⟨start, self, hnew, hrun, hcheck⟩ := of_after hrun
  obtain ⟨peer, hpeer, hcheck⟩ := (Option.any_eq_true _ _).1 hcheck
  simp only [Bool.and_eq_true, decide_eq_true_eq] at hcheck
  obtain ⟨⟨⟨⟨hready, hmapped⟩, hkey⟩, hdirect⟩, hrelayed⟩ := hcheck
  obtain ⟨direct, hdirect, htwo⟩ := (Option.any_eq_true _ _).1 hdirect
  obtain ⟨relayed, hrelayed, hone⟩ := (Option.any_eq_true _ _).1 hrelayed
  have htwo := of_decide_eq_true htwo
  have hone := of_decide_eq_true hone
  refine ⟨self, reachable_of_run hnew hrun, peer, hpeer, hmapped, hkey, hready, fun hsame => ?_⟩
  rw [hdirect, hrelayed, Option.rel_some_some] at hsame
  -- The same replies would be the same number of datagrams.
  obtain ⟨replies, hreplies, hreplies'⟩ := hsame.replies
  rw [hreplies, List.length_append, Path.carry, List.length_map] at htwo
  rw [hreplies', List.length_append, Path.carry, List.length_map] at hone
  omega

end Symbolic

end TunnelManager

end Naboscale
