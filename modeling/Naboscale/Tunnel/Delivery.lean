import Naboscale.Cli.Daemon
import Naboscale.Tunnel.Forwarding
import Naboscale.Tunnel.Relayed

/-!
# Packets of the data channel

What becomes of a packet from the tun device of one node: which datagram carries it, which session
of the other node opens it, and whether it is written to the tun device there.
-/

namespace Naboscale

open Rust Method

variable [Profile] [Primitives]

/-! ## The session of a public key -/

namespace TunnelManager

variable {self self' : TunnelManager} {env : Env} {source : SocketAddr} {pkt packet : Bytes}
  {idx : ℕ} {peer : PeerSession}

omit [Profile] in
/-- No handler of a session changes which key names which session. -/
theorem keepsPubkeys_atPeer {α : Type} (idx : ℕ) (handler : Method Session TunnelError α) :
    Keeps pubkeyToPeer (atPeer idx handler) :=
  keeps_get_bind fun _ => (keeps_unwrap _).bind fun _ => keeps_zoom _ fun _ _ => rfl

theorem keepsPubkeys_gateInit (idx : ℕ) : Keeps pubkeyToPeer (gateInit env idx source pkt) :=
  keeps_get_bind fun _ => (keepsPubkeys_atPeer _ _).bind fun _ =>
    Keeps.ite (fun _ => keeps_pure _) fun _ => keepsPubkeys_atPeer _ _

omit [Profile] in
theorem keepsPubkeys_refreshEndpoint (idx : ℕ) :
    Keeps pubkeyToPeer (refreshEndpoint env idx source) := by
  refine keeps_get_bind fun self => (keeps_unwrap _).bind fun peer =>
    Keeps.ite (fun _ => ?_) fun _ => keepsPubkeys_atPeer _ _
  refine Keeps.bind (fun _ => rfl) fun _ => (keepsPubkeys_atPeer _ _).bind fun _ => ?_
  exact keepsPubkeys_atPeer _ _

theorem keepsPubkeys_handleDirect (idx : ℕ) (msgType : UInt8) :
    Keeps pubkeyToPeer (handleDirect env idx source msgType pkt) :=
  Keeps.ite (fun _ => keepsPubkeys_gateInit idx) fun _ =>
    Keeps.ite (fun _ => keepsPubkeys_atPeer _ _) fun _ =>
    Keeps.ite (fun _ => keepsPubkeys_atPeer _ _) fun _ =>
    Keeps.ite (fun _ => keepsPubkeys_atPeer _ _) fun _ => keeps_pure _

theorem keepsPubkeys_handleRelayed (idx : ℕ) (inner : Bytes) :
    Keeps pubkeyToPeer (handleRelayed env idx source inner) :=
  keeps_get_bind fun _ => Keeps.ite (fun _ => keepsPubkeys_atPeer _ _) fun _ =>
    Keeps.ite (fun _ => keepsPubkeys_atPeer _ _) fun _ =>
    Keeps.ite (fun _ => keepsPubkeys_atPeer _ _) fun _ => keeps_fail _

omit [Profile] in
theorem keepsPubkeys_forwardRelay (destIp : Ipv4Addr) :
    Keeps pubkeyToPeer (forwardRelay env destIp pkt) := by
  refine keeps_get_bind fun self => ?_
  cases self.peers.find? fun peer => peer.config.peerIp = destIp with
  | none => exact keeps_fail _
  | some dest => exact keeps_zoom _ fun _ _ => rfl

theorem keepsPubkeys_handleRelay : Keeps pubkeyToPeer (handleRelay env source pkt) := by
  refine Keeps.ite (fun _ => keeps_fail _) fun _ => (keeps_slice _ _ _).bind fun header =>
    (keeps_expectArr _ _).bind fun fromPub => (keeps_index _ _).bind fun a =>
    (keeps_index _ _).bind fun b => (keeps_index _ _).bind fun c => (keeps_index _ _).bind fun d =>
    (keeps_slice _ _ _).bind fun inner => keeps_get_bind fun self => Keeps.ite (fun _ => ?_)
      fun _ => keepsPubkeys_forwardRelay _
  cases self.pubkeyToPeer fromPub with
  | none => exact keeps_fail _
  | some idx => exact keepsPubkeys_handleRelayed idx inner

theorem keepsPubkeys_handleIncoming : Keeps pubkeyToPeer (handleIncoming env source pkt) := by
  refine Keeps.ite (fun _ => keeps_pure _) fun _ => (keeps_index _ _).bind fun msgType =>
    keeps_get_bind fun self => Keeps.ite (fun _ => ?_) fun _ => ?_
  · refine Keeps.ite (fun _ => keeps_pure _) fun _ => (keeps_slice _ _ _).bind fun header =>
      (keeps_expectArr _ _).bind fun fromPub => ?_
    cases self.pubkeyToPeer fromPub with
    | none => exact keeps_pure _
    | some idx =>
        refine (keeps_modify fun self => ?_).bind fun _ =>
          (keepsPubkeys_atPeer _ _).bind fun _ => keepsPubkeys_handleRelay
        unfold learnEndpoint
        split <;> rfl
  · cases self.endpointToPeer source with
    | some idx =>
        exact (keepsPubkeys_refreshEndpoint idx).bind fun _ => keepsPubkeys_handleDirect idx _
    | none =>
        refine Keeps.ite (fun _ => Keeps.bind ?_ fun found => ?_) fun _ => keeps_pure _
        · exact keeps_get_bind fun _ => (keeps_slice _ _ _).bind fun _ =>
            (keeps_slice _ _ _).bind fun _ => keeps_pure _
        · cases found with
          | none => exact keeps_pure _
          | some idx =>
              exact (keepsPubkeys_refreshEndpoint idx).bind fun _ => keepsPubkeys_gateInit idx

omit [Profile] in
/-- Sessions on their own do not change which key names which session. -/
theorem steady_pubkeys : Steady pubkeyToPeer where
  handled idx _ := keepsPubkeys_atPeer idx _
  rotated env self := by
    unfold rotateCookieSecret
    split <;> rfl

/-- The public keys of the peers. -/
def peerKeys (self : TunnelManager) : List Key := self.peers.map fun p => p.config.peerPub

omit [Profile] in
theorem peerKeys_eq : self.peerKeys = self.owners.map Prod.fst := by
  rw [peerKeys, owners, List.map_map]
  rfl

omit [Profile] in
theorem insertSession_known (h : Index.Sound self.peerKeys self.pubkeyToPeer) :
    Index.Sound (self.insertSession peer).peerKeys (self.insertSession peer).pubkeyToPeer := by
  have hpush := h.push peer.config.peerPub
  rw [peerKeys, List.length_map] at hpush
  rw [peerKeys, insertSession, List.map_append]
  exact hpush

/-- Only `add_peer` changes which key names which session. -/
theorem fire_pubkeys {event : Event} (hevent : ∀ env config, event ≠ .addPeer env config)
    (h : fire self event = some self') : self'.pubkeyToPeer = self.pubkeyToPeer := by
  cases event with
  | addPeer env config => exact absurd rfl (hevent env config)
  | incoming env source pkt => exact keepsPubkeys_handleIncoming.state h
  | retryInit env idx => exact (keeps_get_bind fun _ => keepsPubkeys_atPeer idx _).state h
  | dispatchTunPacket env pkt => exact (steady_pubkeys.dispatchTunPacket pkt).state h
  | maintenance env => exact steady_pubkeys.maintenance.state h

omit [Profile] in
theorem insertAll_known {configs : List PeerConfig}
    (hknown : Index.Sound self.peerKeys self.pubkeyToPeer)
    (h : insertAll env self configs = .ok self') :
    Index.Sound self'.peerKeys self'.pubkeyToPeer := by
  induction configs generalizing self with
  | nil =>
      cases h
      exact hknown
  | cons config configs ih =>
      obtain ⟨peer, _, h⟩ := ok_of_bind h
      exact ih (insertSession_known hknown) h

/-- In a reachable manager a key that names a session names one for that key. -/
theorem Reachable.known (h : self.Reachable) : Index.Sound self.peerKeys self.pubkeyToPeer := by
  obtain ⟨env, config, configs, start, hnew, hrun⟩ := h
  have hreachable : start.Reachable := ⟨env, config, configs, start, hnew, .refl start⟩
  have hempty : Index.Sound (empty env config).peerKeys (empty env config).pubkeyToPeer :=
    Index.sound_nil
  have hstart : Index.Sound start.peerKeys start.pubkeyToPeer := insertAll_known hempty hnew
  refine (Transition.Reaches.invariant (I := fun manager =>
    manager.Reachable ∧ Index.Sound manager.peerKeys manager.pubkeyToPeer)
    (fun manager event next hI hfire => ⟨hI.1.fire hfire, ?_⟩) ⟨hreachable, hstart⟩ hrun).2
  by_cases hadd : ∃ env config, event = .addPeer env config
  · obtain ⟨env, config, rfl⟩ := hadd
    obtain rfl | ⟨peer, _, rfl⟩ := addPeer_cases hfire
    · exact hI.2
    · exact insertSession_known hI.2
  · have hevent : ∀ env config, event ≠ .addPeer env config :=
      fun env config heq => hadd ⟨env, config, heq⟩
    rw [peerKeys_eq, fire_owners hI.1 hevent hfire, ← peerKeys_eq, fire_pubkeys hevent hfire]
    exact hI.2

end TunnelManager

/-! ## Opening a packet -/

/-- The session is ready and opens the packet to a plaintext. -/
def PeerSession.Opens (peer : PeerSession) (packet plaintext : Bytes) : Prop :=
  ∃ transport sid rehandshake inner, peer.state = .ready transport sid rehandshake ∧
    transportRead transport.inner (sub packet transportHeaderSize packet.length) 1500 =
      (.ok plaintext, inner)

namespace Session

variable {self : Session} {env : Env} {packet plaintext : Bytes}

omit [Profile] in
/-- A packet that is opened to a plaintext is written to the tun device. -/
theorem opened_writes_iff (hwrite : ∀ buf, env.writeError buf = none) (hne : plaintext ≠ [])
    {transport : Transport} {sid : UInt32} {rehandshake : Option Rehandshake} :
    (opened env transport sid rehandshake packet self).device.written =
        self.device.written ++ [plaintext] ↔
      ∃ inner, transportRead transport.inner
        (sub packet transportHeaderSize packet.length) 1500 = (.ok plaintext, inner) := by
  have hkept : self.device.written ≠ self.device.written ++ [plaintext] :=
    fun h => List.cons_ne_nil _ _ (List.self_eq_append_right.1 h)
  rw [opened]
  rcases transportRead transport.inner _ 1500 with ⟨e | read, inner⟩
  · refine iff_of_false hkept ?_
    rintro ⟨_, h⟩
    cases h
  · dsimp only
    by_cases hempty : 0 < read.length
    · rw [if_pos ⟨hempty, hwrite read⟩]
      constructor
      · intro h
        have hlast : [read] = [plaintext] := List.append_cancel_left h
        cases hlast
        exact ⟨inner, rfl⟩
      · rintro ⟨_, h⟩
        cases h
        rfl
    · rw [if_neg fun h => hempty h.1]
      refine iff_of_false hkept ?_
      rintro ⟨_, h⟩
      cases h
      exact hempty (List.length_pos_iff.2 hne)

omit [Profile] in
/-- A packet that comes directly is written exactly if the session is not stale and opens it. -/
theorem handleTransport_writes_iff (hwrite : ∀ buf, env.writeError buf = none)
    (hne : plaintext ≠ []) (htype : packet[0]? = some messageTypeTransport)
    (hlen : transportHeaderSize + 16 ≤ packet.length) :
    (∃ s, (handleTransport env packet self).state? = some s ∧
        s.device.written = self.device.written ++ [plaintext]) ↔
      self.peer.stale = false ∧ self.peer.Opens packet plaintext := by
  have hkept : self.device.written ≠ self.device.written ++ [plaintext] :=
    fun h => List.cons_ne_nil _ _ (List.self_eq_append_right.1 h)
  rw [handleTransport_state htype, PeerSession.Opens]
  cases hstate : self.peer.state with
  | ready transport sid rehandshake =>
      simp only [Option.some.injEq, exists_eq_left']
      by_cases hstale : self.peer.stale = true
      · rw [if_pos (Or.inr hstale)]
        exact iff_of_false hkept fun h => by simp [hstale] at h
      · rw [if_neg (not_or.2 ⟨not_lt.2 hlen, hstale⟩), opened_writes_iff hwrite hne]
        constructor
        · rintro ⟨inner, hread⟩
          exact ⟨by simpa using hstale, transport, sid, rehandshake, inner, rfl, hread⟩
        · rintro ⟨-, _, _, _, inner, hready, hread⟩
          cases hready
          exact ⟨inner, hread⟩
  | _ =>
      refine iff_of_false ?_ (by simp)
      rintro ⟨_, hs, hwritten⟩
      cases hs
      exact hkept hwritten

omit [Profile] in
/-- A packet that comes through a relay is written if the session opens it. -/
theorem handleRelayedTransport_writes (hwrite : ∀ buf, env.writeError buf = none)
    (hne : plaintext ≠ []) (htype : packet[0]? = some messageTypeTransport)
    (hlen : transportHeaderSize + 16 ≤ packet.length) (hopens : self.peer.Opens packet plaintext) :
    ∃ s, (handleRelayedTransport env packet self).state? = some s ∧
      s.device.written = self.device.written ++ [plaintext] := by
  obtain ⟨transport, sid, rehandshake, inner, hstate, hread⟩ := hopens
  refine ⟨_, handleRelayedTransport_state htype, ?_⟩
  rw [hstate]
  simp only
  rw [if_neg (not_lt.2 hlen)]
  exact (opened_writes_iff hwrite hne).2 ⟨inner, hread⟩

omit [Profile] in
/-- A packet of the data channel is not answered. -/
theorem keepsTransport_handleTransport :
    Keeps Session.transport (handleTransport env packet) := by
  unfold handleTransport
  refine Keeps.ite (fun _ => keeps_fail _) fun _ => keeps_get_bind fun self =>
    Keeps.ite (fun _ => keeps_pure _) fun _ => ?_
  cases self.peer.state with
  | ready transport sid rehandshake =>
      refine (keeps_on _ _).bind fun (result, transport) =>
        (keepsTransport_modifyPeer _).bind fun _ => ?_
      cases result with
      | error e => exact keeps_pure _
      | ok plaintext =>
          exact Keeps.ite (fun _ => keeps_zoom _ fun _ _ => rfl) fun _ => keeps_pure _
  | _ => exact keeps_pure _

omit [Profile] in
theorem keepsTransport_handleRelayedTransport :
    Keeps Session.transport (handleRelayedTransport env packet) := by
  unfold handleRelayedTransport
  refine keeps_get_bind fun self => ?_
  cases self.peer.state with
  | ready transport sid rehandshake =>
      refine Keeps.ite (fun _ => keeps_fail _) fun _ => (keeps_on _ _).bind fun (_, _) =>
        (keepsTransport_modifyPeer _).bind fun _ => (keeps_lift _ _).bind fun _ => ?_
      exact Keeps.ite (fun _ => keeps_zoom _ fun _ _ => rfl) fun _ => keeps_pure _
  | _ => exact keeps_pure _

end Session

/-! ## Taking a packet in -/

namespace TunnelManager

variable {self self' : TunnelManager} {env : Env} {source : SocketAddr}
  {packet plaintext : Bytes} {idx : ℕ} {peer : PeerSession}

omit [Profile] in
theorem keepsTransport_atPeer {handler : Method Session TunnelError Unit}
    (h : Keeps Session.transport handler) (hpeer : self.peers[idx]? = some peer)
    (hrun : (atPeer idx handler self).state? = some self') : self'.transport = self.transport := by
  rw [atPeer_eq hpeer] at hrun
  have hkeeps : ∀ s, (handler ⟨peer, self.transport, self.device⟩).state? = some s →
      s.transport = self.transport := fun _ hs => h.state hs
  cases hhandler : handler ⟨peer, self.transport, self.device⟩ with
  | panic =>
      rw [hhandler] at hrun
      cases hrun
  | ok a s =>
      rw [hhandler] at hrun hkeeps
      cases hrun
      exact hkeeps s rfl
  | err e s =>
      rw [hhandler] at hrun hkeeps
      cases hrun
      exact hkeeps s rfl

omit [Profile] in
/-- A handler of a session leaves in the manager what it leaves in the session. -/
theorem atPeer_writes_iff (hpeer : self.peers[idx]? = some peer)
    (handler : Method Session TunnelError Unit) :
    (∃ m, (atPeer idx handler self).state? = some m ∧
        m.device.written = self.device.written ++ [plaintext]) ↔
      ∃ s, (handler ⟨peer, self.transport, self.device⟩).state? = some s ∧
        s.device.written = self.device.written ++ [plaintext] := by
  rw [atPeer_state hpeer]
  simp only [Option.map_eq_some_iff]
  constructor
  · rintro ⟨_, ⟨s, hs, rfl⟩, hwritten⟩
    exact ⟨s, hs, hwritten⟩
  · rintro ⟨s, hs, hwritten⟩
    exact ⟨_, ⟨s, hs, rfl⟩, hwritten⟩

theorem handleIncoming_transport (env : Env) (hwf : self.WellFormed)
    (htype : packet[0]? = some messageTypeTransport) (hknown : self.endpointToPeer source = some idx) :
    ∃ peer noted, self.peers[idx]? = some peer ∧ Noted env source idx peer self noted ∧
      handleIncoming env source packet self =
        atPeer idx (Session.handleTransport env packet) noted := by
  have hroute : self.route source packet = some (idx, .transport packet) := by
    have hmessage : directMessage packet = some (.transport packet) := by
      rw [directMessage, htype]
      rfl
    rw [route_direct htype (by decide), hknown]
    simp only [hmessage, Option.map_some]
  exact handleIncoming_routed env hwf hroute

theorem handleIncoming_transport_unknown (htype : packet[0]? = some messageTypeTransport)
    (hunknown : self.endpointToPeer source = none) :
    handleIncoming env source packet self = .ok () self := by
  rw [handleIncoming_direct htype (by decide), hunknown]
  simp only
  rw [if_neg fun h => absurd h.1 (by decide)]
  rfl

/-- A packet that comes directly is written exactly if the session of its source is not stale and
opens it. -/
theorem direct_writes_iff (hwf : self.WellFormed) (hwrite : ∀ buf, env.writeError buf = none)
    (hne : plaintext ≠ []) (htype : packet[0]? = some messageTypeTransport)
    (hlen : transportHeaderSize + 16 ≤ packet.length) :
    (∃ m, (handleIncoming env source packet self).state? = some m ∧
        m.device.written = self.device.written ++ [plaintext]) ↔
      ∃ idx peer, self.endpointToPeer source = some idx ∧ self.peers[idx]? = some peer ∧
        peer.stale = false ∧ peer.Opens packet plaintext := by
  cases hknown : self.endpointToPeer source with
  | none =>
      rw [handleIncoming_transport_unknown htype hknown]
      refine iff_of_false ?_ (by simp)
      rintro ⟨_, hm, hwritten⟩
      cases hm
      exact List.cons_ne_nil _ _ (List.self_eq_append_right.1 hwritten)
  | some idx =>
      obtain ⟨peer, noted, hpeer, hnoted, heq⟩ :=
        handleIncoming_transport env hwf htype hknown
      obtain ⟨endpoint, hheard⟩ := hnoted.getElem?_self hpeer
      have hdevice : noted.device = self.device := by
        obtain ⟨_, _, _, rfl, _⟩ := hnoted
        rfl
      rw [heq, ← hdevice, atPeer_writes_iff hheard,
        Session.handleTransport_writes_iff hwrite hne htype hlen]
      constructor
      · rintro ⟨hstale, hopens⟩
        exact ⟨idx, peer, rfl, hpeer, hstale, hopens⟩
      · rintro ⟨_, _, hidx, hpeer', hstale, hopens⟩
        cases hidx
        cases hpeer.symm.trans hpeer'
        exact ⟨hstale, hopens⟩

/-- A packet inside a RELAY packet for this node is written if the session of its sender opens
it. -/
theorem relayed_writes (hwrite : ∀ buf, env.writeError buf = none) (hne : plaintext ≠ [])
    (htype : packet[0]? = some messageTypeTransport)
    (hlen : transportHeaderSize + 16 ≤ packet.length) (hpeer : self.peers[idx]? = some peer)
    (hkey : self.pubkeyToPeer peer.config.peerPub = some idx)
    (hopens : peer.Opens packet plaintext) :
    ∃ m, (handleIncoming env source
        (Session.relayFrame peer.config.peerPub self.config.localIp packet) self).state? = some m ∧
      m.device.written = self.device.written ++ [plaintext] := by
  obtain ⟨noted, hheard, -, hdevice, -, -, heq⟩ : ∃ noted : TunnelManager, _ ∧ _ ∧ _ ∧ _ ∧ _ ∧
      handleIncoming env source
        (Session.relayFrame peer.config.peerPub self.config.localIp packet) self =
          handleRelayed env idx source packet noted :=
    handleIncoming_relayFrame hpeer hkey
  have hmessage : relayedMessage packet = some (.relayedTransport packet) := if_pos htype
  rw [heq, handleRelayed_message hmessage, ← hdevice, atPeer_writes_iff hheard]
  exact Session.handleRelayedTransport_writes hwrite hne htype hlen hopens

/-- Nothing is sent when a packet comes directly. -/
theorem direct_sends_nothing (hwf : self.WellFormed)
    (htype : packet[0]? = some messageTypeTransport)
    (hrun : (handleIncoming env source packet self).state? = some self') :
    self'.transport = self.transport := by
  cases hknown : self.endpointToPeer source with
  | none =>
      rw [handleIncoming_transport_unknown htype hknown] at hrun
      cases hrun
      rfl
  | some idx =>
      obtain ⟨peer, noted, hpeer, hnoted, heq⟩ :=
        handleIncoming_transport env hwf htype hknown
      obtain ⟨endpoint, hheard⟩ := hnoted.getElem?_self hpeer
      obtain ⟨-, -, -, htransport⟩ := hnoted.fields
      rw [heq] at hrun
      exact (keepsTransport_atPeer Session.keepsTransport_handleTransport hheard hrun).trans
        htransport

/-- Nothing is sent when a packet comes in a RELAY packet for this node. -/
theorem relayed_sends_nothing (hwf : self.WellFormed) {pkt : Bytes}
    (hrelay : pkt[0]? = some messageTypeRelay) (hdest : relayDest pkt = some self.config.localIp)
    (htype : (sub pkt relayHeaderSize pkt.length)[0]? = some messageTypeTransport)
    (hrun : (handleIncoming env source pkt self).state? = some self') :
    self'.transport = self.transport := by
  cases hsender : self.claimedSender pkt with
  | none =>
      rw [handleIncoming_unclaimed hrelay hsender] at hrun
      cases hrun
      rfl
  | some fromPub =>
      obtain ⟨idx, noted, destIp, hdestIp, hidx, hwf', -, hpubkeys, htransport, -, heq⟩ :=
        handleIncoming_claimed env source hwf hsender
      cases hdest.symm.trans hdestIp
      have hmessage : relayedMessage (sub pkt relayHeaderSize pkt.length) =
          some (.relayedTransport (sub pkt relayHeaderSize pkt.length)) := if_pos htype
      have hpeer := List.getElem?_eq_getElem (hwf'.pubkeys (hpubkeys ▸ hidx))
      rw [heq, if_pos rfl, handleRelayed_message hmessage] at hrun
      rw [← htransport]
      exact keepsTransport_atPeer Session.keepsTransport_handleRelayedTransport hpeer hrun

end TunnelManager

/-! ## Sending a packet -/

/-- The datagram that carries a packet to the peer of a configuration, and where it is sent. -/
def PeerConfig.carrier (config : PeerConfig) (fromPub : Key) (packet : Bytes) :
    SocketAddr × Bytes :=
  match config.viaRelay with
  | some relay => (relay, Session.relayFrame fromPub config.peerIp packet)
  | none => (config.peerEndpoint, packet)

namespace Session

variable {self : Session} {env : Env}

omit [Profile] in
theorem sendMaybeRelay_ok (hsend : ∀ dest buf, env.sendError dest buf = none)
    (config : PeerConfig) (fromPub : Key) (packet : Bytes) :
    sendMaybeRelay env config fromPub packet self = .ok ()
      { self with transport := ⟨self.transport.sent ++ [config.carrier fromPub packet]⟩ } := by
  rw [sendMaybeRelay, PeerConfig.carrier]
  cases config.viaRelay with
  | none =>
      dsimp only
      rw [sendTo_eq, hsend]
      rfl
  | some relay =>
      dsimp only
      rw [wrapRelay_eq, pure_bind, sendTo_eq, hsend]
      rfl

/-- A packet that is encrypted is sent. -/
theorem sendEncrypted_ok (hsend : ∀ dest buf, env.sendError dest buf = none) {keypair : Keypair}
    {pkt packet : Bytes} {room : ℕ} {transport next : Transport} {sid : UInt32}
    {rehandshake : Option Rehandshake} (hstate : self.peer.state = .ready transport sid rehandshake)
    (hencrypt : Transport.encrypt pkt sid room transport = .ok packet next) :
    ∃ s, sendEncrypted keypair env pkt room self = .ok () s ∧
      s.transport.sent =
        self.transport.sent ++ [self.peer.config.carrier keypair.public packet] := by
  rw [sendEncrypted, bind_ok (get_apply self), hstate]
  simp only
  rw [bind_eq, on, hencrypt]
  dsimp only
  rw [bind_ok (show setState (.ready next sid rehandshake) self = .ok () _ from rfl), lift_ok,
    pure_bind, bind_ok (sendMaybeRelay_ok hsend _ _ _)]
  exact ⟨_, rfl, rfl⟩

end Session

namespace TunnelManager

variable {self : TunnelManager} {env : Env} {pkt packet : Bytes} {idx : ℕ} {peer : PeerSession}

/-- A packet for a peer with a ready session is sent on its way. -/
theorem dispatch_ok (hwf : self.WellFormed) (hsend : ∀ dest buf, env.sendError dest buf = none)
    (hlookup : self.lookupPeerByDestIp pkt = some idx) (hpeer : self.peers[idx]? = some peer)
    {transport next : Transport} {sid : UInt32} {rehandshake : Option Rehandshake}
    (hstate : peer.state = .ready transport sid rehandshake)
    (hencrypt : Transport.encrypt pkt sid 1600 transport = .ok packet next) :
    ∃ self', dispatchTunPacket env pkt self = .ok () self' ∧ self'.WellFormed ∧
      self'.config = self.config ∧ self'.pubkeyToPeer = self.pubkeyToPeer ∧
      self'.routes = self.routes ∧
      self'.transport.sent = self.transport.sent ++
        [peer.config.carrier self.config.localKeypair.public packet] := by
  obtain ⟨s, hrun, hsent⟩ : ∃ s : Session, Session.sendEncrypted self.config.localKeypair env pkt
      1600 ⟨peer, self.transport, self.device⟩ = .ok () s ∧ s.transport.sent =
        self.transport.sent ++ [peer.config.carrier self.config.localKeypair.public packet] :=
    Session.sendEncrypted_ok hsend hstate hencrypt
  have hcall : dispatchTunPacket env pkt self = .ok ()
      { self with
        peers := self.peers.set idx s.peer
        transport := s.transport
        device := s.device } := by
    rw [dispatch_eq hlookup, atPeer_eq hpeer, hrun]
  have hroutes := (steady_routes.dispatchTunPacket pkt).state
    (show (dispatchTunPacket env pkt self).state? = some _ by rw [hcall]; rfl)
  refine ⟨_, hcall, ⟨fun h => ?_, fun h => ?_⟩, rfl, rfl, hroutes, hsent⟩
  · rw [List.length_set]
    exact hwf.endpoints h
  · rw [List.length_set]
    exact hwf.pubkeys h

end TunnelManager

end Naboscale
