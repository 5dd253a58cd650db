import Naboscale.Tunnel.Delivery

/-!
# The source address of an opened packet

A packet that a session opens is written to the tun device as it is. Nobody looks at its source
address, on either of the two paths, so a reply to it is looked up by an address that the sender
chose: it comes back to the sender only if that is the first address in the list of peers to match.
-/

namespace Naboscale

open Rust Method

section General

variable [Profile] [Primitives]

/-! ## Only a packet of the data channel is written -/

namespace Session

variable {env : Env} {keypair : Keypair} {rng : Ephemeral} {source : SocketAddr} {pkt : Bytes}

omit [Profile] in
theorem keepsDevice_modifyPeer (f : PeerSession → PeerSession) :
    Keeps device (modifyPeer f) :=
  keeps_modify fun _ => rfl

omit [Profile] in
theorem keepsDevice_sendTo (dest : SocketAddr) (buf : Bytes) :
    Keeps device (sendTo env dest buf) :=
  keeps_zoom _ fun _ _ => rfl

theorem keepsDevice_respond {frame : Arr responseSize → Method Session TunnelError Bytes}
    (hframe : ∀ response, Keeps device (frame response)) (responder : Responder) :
    Keeps device (respond keypair env rng source pkt responder frame) := by
  refine keeps_get_bind fun self => (keeps_on _ _).bind fun (result, responder) =>
    (keepsDevice_modifyPeer _).bind fun _ => ?_
  cases result with
  | error e => exact (keeps_lift _ _).bind fun fresh => keepsDevice_modifyPeer _
  | ok response =>
      refine (hframe response).bind fun out => (keepsDevice_sendTo _ _).bind fun _ => ?_
      refine (keeps_slice _ _ _).bind fun id => (keeps_readU32 id).bind fun sid => ?_
      refine (keepsDevice_modifyPeer _).bind fun _ => (keeps_lift _ _).bind fun transport => ?_
      exact keepsDevice_modifyPeer _

theorem keepsDevice_respondRekey (sid : UInt32) (rehandshake : Option Rehandshake) :
    Keeps device (respondRekey keypair env rng source pkt sid rehandshake) := by
  refine keeps_get_bind fun self => (keeps_lift _ _).bind fun responder =>
    (keeps_on _ _).bind fun (result, responder) => ?_
  cases result with
  | error e => exact keeps_pure _
  | ok response =>
      refine (keeps_lift _ _).bind fun transport => (keepsDevice_sendTo _ _).bind fun _ => ?_
      exact keepsDevice_modifyPeer _

theorem keepsDevice_handleInit : Keeps device (handleInit keypair env rng source pkt) := by
  unfold handleInit
  refine Keeps.ite (fun _ => keeps_fail _) fun _ => (keeps_slice _ _ _).bind fun id =>
    (keeps_readU32 id).bind fun sid => keeps_get_bind fun self => ?_
  cases self.peer.state with
  | ready transport sid' rehandshake => exact keepsDevice_respondRekey _ _
  | handshakingAsResponder responder => exact keepsDevice_respond (fun _ => keeps_pure _) responder
  | init => exact keeps_pure _
  | handshakingAsInitiator initiator => exact keeps_pure _

theorem keepsDevice_handleInitViaRelay :
    Keeps device (handleInitViaRelay keypair env rng source pkt) := by
  unfold handleInitViaRelay
  refine Keeps.ite (fun _ => keeps_fail _) fun _ => keeps_get_bind fun self => ?_
  cases self.peer.state with
  | handshakingAsResponder responder =>
      refine keepsDevice_respond (fun response => ?_) responder
      rw [wrapRelay_eq]
      exact keeps_pure _
  | init => exact keeps_pure _
  | handshakingAsInitiator initiator => exact keeps_pure _
  | ready transport sid rehandshake => exact keeps_pure _

omit [Profile] in
theorem keepsDevice_handleResponse : Keeps device (handleResponse env pkt) := by
  unfold handleResponse
  refine Keeps.ite (fun _ => keeps_fail _) fun _ => (keeps_slice _ _ _).bind fun id =>
    (keeps_readU32 id).bind fun sid => keeps_get_bind fun self => ?_
  rcases self.peer.state with _ | initiator | responder | ⟨transport, sid', _ | rehandshake⟩
  · exact keepsDevice_modifyPeer _
  · refine (keepsDevice_modifyPeer _).bind fun _ => (keeps_on _ _).bind fun _ =>
      (keeps_lift _ _).bind fun transport => ?_
    exact keepsDevice_modifyPeer _
  · exact keepsDevice_modifyPeer _
  · exact keepsDevice_modifyPeer _
  · refine (keepsDevice_modifyPeer _).bind fun _ => (keeps_on _ _).bind fun _ =>
      (keeps_lift _ _).bind fun transport => ?_
    exact keepsDevice_modifyPeer _

omit [Profile] in
theorem keepsDevice_handleCookie : Keeps device (handleCookie env pkt) := by
  unfold handleCookie
  refine Keeps.ite (fun _ => keeps_pure _) fun _ => (keeps_slice _ _ _).bind fun body => ?_
  exact (Arr.keeps_copyFromSlice _ _ _ _).bind fun cookie => keepsDevice_modifyPeer _

/-- The gate writes nothing to the tun device. -/
theorem keepsDevice_checkInitCookie (cookieSecret : Key) :
    Keeps device (checkInitCookie cookieSecret env source pkt) := by
  refine (keepsDevice_modifyPeer _).bind fun _ => keeps_get_bind fun self =>
    (keeps_nextCount _).bind fun count => (keepsDevice_modifyPeer _).bind fun _ => ?_
  refine Keeps.ite (fun _ => Keeps.ite (fun _ => keeps_pure _) fun _ => ?_) fun _ =>
    Keeps.ite (fun _ => ?_) fun _ => keeps_pure _
  · cases self.peer.sentCookie with
    | none => exact (keepsDevice_modifyPeer _).bind fun _ => keeps_pure _
    | some sent =>
        refine (keeps_slice _ _ _).bind fun before => (keeps_slice _ _ _).bind fun mac2 =>
          Keeps.ite (fun _ => keeps_pure _) fun _ => ?_
        exact (keepsDevice_modifyPeer _).bind fun _ => keeps_pure _
  · refine (keeps_generateCookie _).bind fun cookie => Keeps.bind ?_ fun _ =>
      (keepsDevice_modifyPeer _).bind fun _ => keeps_pure _
    exact keeps_get_bind fun self => (Arr.keeps_store _ _ _).bind fun _ =>
      (Arr.keeps_copyFromSlice _ _ _ _).bind fun _ =>
      (Arr.keeps_copyFromSlice _ _ _ _).bind fun _ => keepsDevice_sendTo _ _

/-- Of the messages for a session, only a packet of the data channel is written. -/
theorem keepsDevice_deliver (cookieSecret : Key) {message : Message}
    (hdirect : ∀ pkt, message ≠ .transport pkt) (hrelayed : ∀ pkt, message ≠ .relayedTransport pkt) :
    Keeps device (deliver keypair cookieSecret env rng source message) := by
  cases message with
  | init pkt =>
      exact (keepsDevice_checkInitCookie cookieSecret).bind fun handled =>
        Keeps.ite (fun _ => keeps_pure _) fun _ => keepsDevice_handleInit
  | relayedInit pkt => exact keepsDevice_handleInitViaRelay
  | response pkt => exact keepsDevice_handleResponse
  | transport pkt => exact absurd rfl (hdirect pkt)
  | relayedTransport pkt => exact absurd rfl (hrelayed pkt)
  | cookie pkt => exact keepsDevice_handleCookie

variable {self : Session} {packet plaintext : Bytes}

omit [Profile] in
/-- Of a packet that is too short nothing is written. -/
theorem short_writes_nothing (htype : packet[0]? = some messageTypeTransport)
    (hlen : packet.length < transportHeaderSize + 16) :
    (handleTransport env packet self).state? = some self ∧
      (handleRelayedTransport env packet self).state? = some self := by
  rw [handleTransport_state htype, handleRelayedTransport_state htype]
  cases self.peer.state with
  | ready transport sid rehandshake =>
      simp only
      rw [if_pos (Or.inl hlen), if_pos hlen]
      exact ⟨rfl, rfl⟩
  | _ => exact ⟨rfl, rfl⟩

omit [Profile] in
/-- A packet that comes directly is written exactly if it is long enough and the session is not
stale and opens it. -/
theorem handleTransport_written_iff (hwrite : ∀ buf, env.writeError buf = none)
    (hne : plaintext ≠ []) (htype : packet[0]? = some messageTypeTransport) :
    (∃ s, (handleTransport env packet self).state? = some s ∧
        s.device.written = self.device.written ++ [plaintext]) ↔
      transportHeaderSize + 16 ≤ packet.length ∧ self.peer.stale = false ∧
        self.peer.Opens packet plaintext := by
  by_cases hlen : transportHeaderSize + 16 ≤ packet.length
  · rw [handleTransport_writes_iff hwrite hne htype hlen]
    exact (and_iff_right hlen).symm
  · rw [(short_writes_nothing htype (not_le.1 hlen)).1]
    refine iff_of_false ?_ fun h => hlen h.1
    intro ⟨s, hs, hwritten⟩
    cases hs
    exact List.cons_ne_nil _ _ (List.self_eq_append_right.1 hwritten)

omit [Profile] in
/-- A packet that comes through a relay is written exactly if it is long enough and the session
opens it, stale or not. -/
theorem handleRelayedTransport_written_iff (hwrite : ∀ buf, env.writeError buf = none)
    (hne : plaintext ≠ []) (htype : packet[0]? = some messageTypeTransport) :
    (∃ s, (handleRelayedTransport env packet self).state? = some s ∧
        s.device.written = self.device.written ++ [plaintext]) ↔
      transportHeaderSize + 16 ≤ packet.length ∧ self.peer.Opens packet plaintext := by
  have hkept : self.device.written ≠ self.device.written ++ [plaintext] :=
    fun h => List.cons_ne_nil _ _ (List.self_eq_append_right.1 h)
  by_cases hlen : transportHeaderSize + 16 ≤ packet.length
  · refine ⟨fun h => ⟨hlen, ?_⟩, fun h => handleRelayedTransport_writes hwrite hne htype hlen h.2⟩
    rw [handleRelayedTransport_state htype] at h
    obtain ⟨s, hs, hwritten⟩ := h
    cases hstate : self.peer.state with
    | ready transport sid rehandshake =>
        rw [hstate] at hs
        simp only at hs
        rw [if_neg (not_lt.2 hlen)] at hs
        cases hs
        obtain ⟨inner, hread⟩ := (opened_writes_iff hwrite hne).1 hwritten
        exact ⟨transport, sid, rehandshake, inner, hstate, hread⟩
    | _ =>
        rw [hstate] at hs
        cases hs
        exact absurd hwritten hkept
  · rw [(short_writes_nothing htype (not_le.1 hlen)).2]
    refine iff_of_false ?_ fun h => hlen h.1
    intro ⟨s, hs, hwritten⟩
    cases hs
    exact hkept hwritten

end Session

/-! ## What is written, and where the reply goes -/

/-- An IPv4 packet of at least the length of a header, from an address. -/
def SentFrom (pkt : Bytes) (ip : Ipv4Addr) : Prop :=
  20 ≤ pkt.length ∧ (∃ first : UInt8, pkt[0]? = some first ∧ first >>> 4 = 4) ∧
    pkt[12]? = some ip.a ∧ pkt[13]? = some ip.b ∧ pkt[14]? = some ip.c ∧ pkt[15]? = some ip.d

/-- A packet of the data channel begins like one. -/
def Message.Begins : Message → Prop
  | .transport packet | .relayedTransport packet => packet[0]? = some messageTypeTransport
  | _ => True

namespace TunnelManager

/-- The session at `idx` opens the packet that a datagram carries to it: the datagram itself,
unless the session is stale, or what is inside a RELAY packet. -/
def Opened (self : TunnelManager) (source : SocketAddr) (pkt : Bytes) (idx : ℕ)
    (plaintext : Bytes) : Prop :=
  ∃ peer packet, self.peers[idx]? = some peer ∧ transportHeaderSize + 16 ≤ packet.length ∧
    peer.Opens packet plaintext ∧
    (self.route source pkt = some (idx, .transport packet) ∧ peer.stale = false ∨
      self.route source pkt = some (idx, .relayedTransport packet))

variable {self self' : TunnelManager} {env : Env} {source : SocketAddr}
  {pkt packet plaintext reply : Bytes} {idx : ℕ} {ip : Ipv4Addr}

omit [Profile] in
/-- What a session gets as a packet of the data channel begins like one. -/
theorem route_begins {message : Message} (h : self.route source pkt = some (idx, message)) :
    message.Begins := by
  have hdirect : ∀ m, directMessage pkt = some m → m.Begins := by
    intro m hm
    unfold directMessage at hm
    split_ifs at hm with _ _ htype
    · cases hm
      trivial
    · cases hm
      trivial
    · cases hm
      exact htype
    · cases hm
      trivial
  have hrelayed : ∀ inner m, relayedMessage inner = some m → m.Begins := by
    intro inner m hm
    unfold relayedMessage at hm
    split_ifs at hm with htype
    · cases hm
      exact htype
    · cases hm
      trivial
    · cases hm
      trivial
  -- A packet is cut out of a relay frame or is the datagram itself, and either is matched on its
  -- first byte.
  by_cases hrelay : pkt[0]? = some messageTypeRelay
  · rw [route_relay hrelay] at h
    split at h
    · cases h
    cases hfrom : (relayFrom pkt).bind self.pubkeyToPeer with
    | none =>
        rw [hfrom] at h
        cases h
    | some i =>
        rw [hfrom] at h
        simp only at h
        split at h
        · obtain ⟨m, hm, hpair⟩ := Option.map_eq_some_iff.1 h
          cases hpair
          exact hrelayed _ _ hm
        · cases h
  · rw [route, if_neg hrelay] at h
    cases hknown : self.endpointToPeer source with
    | none =>
        rw [hknown] at h
        simp only at h
        split at h
        · obtain ⟨i, -, hpair⟩ := Option.map_eq_some_iff.1 h
          cases hpair
          trivial
        · cases h
    | some i =>
        rw [hknown] at h
        obtain ⟨m, hm, hpair⟩ := Option.map_eq_some_iff.1 h
        cases hpair
        exact hdirect _ hm

omit [Profile] in
/-- A datagram that disturbs no session writes nothing. -/
theorem Undisturbed.device (h : Undisturbed env source self self') :
    self'.device = self.device := by
  obtain rfl | ⟨i, peer, noted, transport, -, hnoted, rfl⟩ := h
  · rfl
  · obtain ⟨_, _, _, rfl, _⟩ := hnoted
    rfl

/-- A packet is written to the tun device exactly if a session opens it. -/
theorem written_iff (hwf : self.WellFormed) (hwrite : ∀ buf, env.writeError buf = none)
    (hne : plaintext ≠ []) :
    (∃ self', (handleIncoming env source pkt self).state? = some self' ∧
        self'.device.written = self.device.written ++ [plaintext]) ↔
      ∃ idx, self.Opened source pkt idx plaintext := by
  have hkept : self.device.written ≠ self.device.written ++ [plaintext] :=
    fun h => List.cons_ne_nil _ _ (List.self_eq_append_right.1 h)
  cases hroute : self.route source pkt with
  | none =>
      refine iff_of_false ?_ ?_
      · intro ⟨self', hs, hwritten⟩
        obtain ⟨next, hnext, heq | ⟨e, heq⟩⟩ := handleIncoming_unrouted env hwf hroute
        all_goals
          rw [heq] at hs
          cases hs
          rw [hnext.device] at hwritten
          exact hkept hwritten
      · rintro ⟨idx, peer, packet, -, -, -, hcase⟩
        rw [hroute] at hcase
        obtain ⟨h, -⟩ | h := hcase <;> cases h
  | some routed =>
      obtain ⟨idx, message⟩ := routed
      have hbegins := route_begins hroute
      obtain ⟨peer, noted, hpeer, hnoted, heq⟩ := handleIncoming_routed env hwf hroute
      obtain ⟨endpoint, hheard⟩ := hnoted.getElem?_self hpeer
      have hdevice : noted.device = self.device := by
        obtain ⟨_, _, _, rfl, _⟩ := hnoted
        rfl
      let session : Session := ⟨peer.heard env endpoint, noted.transport, noted.device⟩
      rw [heq, ← hdevice, atPeer_writes_iff hheard]
      by_cases hdirect : ∃ packet, message = .transport packet
      · obtain ⟨packet, rfl⟩ := hdirect
        have hiff : _ ↔ transportHeaderSize + 16 ≤ packet.length ∧ session.peer.stale = false ∧
            session.peer.Opens packet plaintext :=
          Session.handleTransport_written_iff hwrite hne hbegins
        refine hiff.trans ⟨?_, ?_⟩
        · intro ⟨hlen, hstale, h⟩
          exact ⟨idx, peer, packet, hpeer, hlen, h, Or.inl ⟨hroute, hstale⟩⟩
        · rintro ⟨i, other, inner, hother, hlen, h, ⟨hsame, hstale⟩ | hsame⟩
          · cases hroute.symm.trans hsame
            cases hpeer.symm.trans hother
            exact ⟨hlen, hstale, h⟩
          · cases hroute.symm.trans hsame
      by_cases hrelayed : ∃ packet, message = .relayedTransport packet
      · obtain ⟨packet, rfl⟩ := hrelayed
        have hiff : _ ↔ transportHeaderSize + 16 ≤ packet.length ∧
            session.peer.Opens packet plaintext :=
          Session.handleRelayedTransport_written_iff hwrite hne hbegins
        refine hiff.trans ⟨?_, ?_⟩
        · intro ⟨hlen, h⟩
          exact ⟨idx, peer, packet, hpeer, hlen, h, Or.inr hroute⟩
        · rintro ⟨i, other, inner, hother, hlen, h, ⟨hsame, -⟩ | hsame⟩
          · cases hroute.symm.trans hsame
          · cases hroute.symm.trans hsame
            cases hpeer.symm.trans hother
            exact ⟨hlen, h⟩
      -- Every other message leaves the device as it was.
      refine iff_of_false ?_ ?_
      · intro ⟨s, hs, hwritten⟩
        have hkeeps : Keeps Session.device (Session.deliver self.config.localKeypair
            self.cookieSecret env (env.ephemeral idx) source message) :=
          Session.keepsDevice_deliver _ (fun packet h => hdirect ⟨packet, h⟩)
            fun packet h => hrelayed ⟨packet, h⟩
        rw [hkeeps.state hs, hdevice] at hwritten
        exact hkept hwritten
      · rintro ⟨i, other, inner, -, -, -, ⟨hsame, -⟩ | hsame⟩
        · cases hroute.symm.trans hsame
          exact hdirect ⟨inner, rfl⟩
        · cases hroute.symm.trans hsame
          exact hrelayed ⟨inner, rfl⟩

/-- The source address of a packet has no part in whether the packet is written to the tun device.
A reply to it is for the session that opened it exactly if that session is the first one for a peer
with the source address. -/
theorem written_from_any_source (h : self.Reachable) (hwrite : ∀ buf, env.writeError buf = none)
    (hne : plaintext ≠ []) :
    ((∃ self', (handleIncoming env source pkt self).state? = some self' ∧
        self'.device.written = self.device.written ++ [plaintext]) ↔
      ∃ idx, self.Opened source pkt idx plaintext) ∧
    ∀ self', (handleIncoming env source pkt self).state? = some self' →
      ∀ idx ip reply, self.Opened source pkt idx plaintext → SentFrom plaintext ip →
        Addressed reply ip →
        (self'.lookupPeerByDestIp reply = some idx ↔ self.FirstWith ip idx) := by
  refine ⟨written_iff h.sound.wellFormed hwrite hne, ?_⟩
  intro self' hself idx ip reply _ _ haddr
  have howners : self'.owners = self.owners :=
    fire_owners h (fun _ _ hevent => by cases hevent)
      (show fire self (.incoming env source pkt) = some self' from hself)
  rw [lookup_eq haddr, howners, ← lookup_eq haddr]
  exact lookup_iff haddr

end TunnelManager

end General

section Symbolic

open Symbolic TunnelManager

attribute [local instance] Symbolic.primitives Symbolic.release

/-- An IPv4 header from one node to another one. -/
def ipHeader (sender receiver : UInt8) : Bytes :=
  69 :: List.replicate 11 0 ++ [100, 100, 0, sender] ++ [100, 100, 0, receiver]

/-- The INIT of node 2 for node 1. -/
def inviting : Option TunnelManager :=
  after (quietEnv 0 ⟨1000, 0⟩ 7) (nodeConfig 2) [sessionWith 1 true]
    [.retryInit (quietEnv 0 ⟨1000, 0⟩ 7) 0]

/-- Node 1 with the nodes 2 and 3 as peers, after the INIT of node 2. -/
def invited : Option TunnelManager := do
  let second ← inviting
  let ask ← second.transport.sent.getLast?
  after (quietEnv 0 ⟨1000, 0⟩ 8) (nodeConfig 1) [sessionWith 2 false, sessionWith 3 false]
    [.incoming (quietEnv 0 ⟨1000, 0⟩ 8) (address 2) ask.2]

/-- The packet by which node 2, as a peer of node 1, pretends to be the node 3. -/
def pretending : Option Bytes := do
  let first ← invited
  let answer ← first.transport.sent.getLast?
  let second ← after (quietEnv 0 ⟨1000, 0⟩ 7) (nodeConfig 2) [sessionWith 1 true]
    [.retryInit (quietEnv 0 ⟨1000, 0⟩ 7) 0,
      .incoming (quietEnv 0 ⟨1000, 0⟩ 7) (address 1) answer.2,
      .dispatchTunPacket (quietEnv 0 ⟨1000, 0⟩ 7) (ipHeader 3 1)]
  let sent ← second.transport.sent.getLast?
  some sent.2

theorem reachable_of_invited {self : TunnelManager} (h : invited = some self) :
    self.Reachable := by
  simp only [invited, bind, Option.bind_eq_some_iff] at h
  obtain ⟨_, -, _, -, hafter⟩ := h
  exact reachable_of_after hafter

/-- What is evaluated about the packet: it is written, it is for the session 0, which is for another
address than its source, and the reply is for the session 1. -/
def isPretending (self : TunnelManager) (pkt : Bytes) : Bool :=
  (handleIncoming (quietEnv 0 ⟨1000, 0⟩ 8) (address 2) pkt self).state?.any (fun self' =>
    decide (self'.device.written = self.device.written ++ [ipHeader 3 1]) &&
      decide (self'.lookupPeerByDestIp (ipHeader 1 3) = some 1)) &&
    (self.route (address 2) pkt).all (fun routed => decide (routed.1 = 0)) &&
    self.peers[0]?.any fun peer => decide (peer.config.peerIp ≠ ⟨100, 100, 0, 3⟩)

/-- The packet of node 2 that pretends to be the node 3 is written, and the reply goes to node 3. -/
theorem pretended_packet_written :
    ∃ self pkt self' peer, invited = some self ∧ pretending = some pkt ∧ self.Reachable ∧
      (handleIncoming (quietEnv 0 ⟨1000, 0⟩ 8) (address 2) pkt self).state? = some self' ∧
      self'.device.written = self.device.written ++ [ipHeader 3 1] ∧
      self.Opened (address 2) pkt 0 (ipHeader 3 1) ∧
      SentFrom (ipHeader 3 1) ⟨100, 100, 0, 3⟩ ∧
      self'.lookupPeerByDestIp (ipHeader 1 3) = some 1 ∧ self.peers[0]? = some peer ∧
      peer.config.peerIp ≠ ⟨100, 100, 0, 3⟩ := by
  have hcheck : invited.any (fun self => pretending.any (isPretending self)) = true := by
    decide +kernel
  obtain ⟨self, hself, hcheck⟩ := (Option.any_eq_true _ _).1 hcheck
  obtain ⟨pkt, hpkt, hcheck⟩ := (Option.any_eq_true _ _).1 hcheck
  simp only [isPretending, Bool.and_eq_true] at hcheck
  obtain ⟨⟨hrun, hroute⟩, hpeer⟩ := hcheck
  obtain ⟨self', hself', hrun⟩ := (Option.any_eq_true _ _).1 hrun
  simp only [Bool.and_eq_true, decide_eq_true_eq] at hrun
  obtain ⟨peer, hpeer, hip⟩ := (Option.any_eq_true _ _).1 hpeer
  have hreachable := reachable_of_invited hself
  obtain ⟨idx, hopened⟩ := (written_iff hreachable.sound.wellFormed (fun _ => rfl)
    (List.cons_ne_nil _ _)).1 ⟨self', hself', hrun.1⟩
  -- The session that opened the packet is the one that it was routed to.
  have hidx : idx = 0 := by
    obtain ⟨_, _, -, -, -, ⟨hrouted, -⟩ | hrouted⟩ := hopened
    all_goals
      rw [hrouted] at hroute
      exact of_decide_eq_true hroute
  subst hidx
  exact ⟨self, pkt, self', peer, hself, hpkt, hreachable, hself', hrun.1, hopened,
    ⟨le_rfl, ⟨69, rfl, by decide⟩, rfl, rfl, rfl, rfl⟩, hrun.2, hpeer, of_decide_eq_true hip⟩

/-- The packet of node 2 is written, as every packet that is opened. -/
theorem pretended_packet_opened :
    ∃ self pkt, invited = some self ∧ pretending = some pkt ∧
      ((∃ self', (handleIncoming (quietEnv 0 ⟨1000, 0⟩ 8) (address 2) pkt self).state? = some self' ∧
          self'.device.written = self.device.written ++ [ipHeader 3 1]) ↔
        ∃ idx, self.Opened (address 2) pkt idx (ipHeader 3 1)) := by
  have hcheck : invited.any (fun _ => pretending.isSome) = true := by
    decide +kernel
  obtain ⟨self, hself, hcheck⟩ := (Option.any_eq_true _ _).1 hcheck
  obtain ⟨pkt, hpkt⟩ := Option.isSome_iff_exists.1 hcheck
  exact ⟨self, pkt, hself, hpkt, (written_from_any_source (reachable_of_invited hself)
    (fun _ => rfl) (List.cons_ne_nil _ _)).1⟩

end Symbolic

end Naboscale
