import Naboscale.Tunnel.Delivery

/-!
# From one tun device to the other

A packet that a manager reads from its tun device reaches the tun device of the manager it is for,
directly or through a relay, with nothing added to it, and a keepalive reaches the session without
being written. Every buffer on the way has room for it.
-/

namespace Naboscale

open Rust Method

/-- The length of the buffer that `step` receives datagrams in. -/
def recvBufferSize : ℕ := 2048

section General

variable [Profile] [Primitives]

/-! ## Maps of a reachable manager -/

namespace TunnelManager

variable {self self' : TunnelManager} {env : Env} {source : SocketAddr}
  {payload packet : Bytes} {idx : ℕ} {peer : PeerSession}

omit [Profile] in
/-- As long as the keys of the peers are different, each finds its session. -/
def KeysFound (self : TunnelManager) : Prop :=
  self.peerKeys.Nodup → Index.Complete self.peerKeys self.pubkeyToPeer

omit [Profile] in
theorem insertSession_keysFound (h : self.KeysFound) : (self.insertSession peer).KeysFound := by
  intro hnodup
  have hkeys : (self.insertSession peer).peerKeys = self.peerKeys ++ [peer.config.peerPub] := by
    rw [peerKeys, insertSession, List.map_append]
    rfl
  rw [hkeys] at hnodup
  obtain ⟨hold, -, hnew⟩ := List.nodup_append.1 hnodup
  have hpush := (Index.complete_push_iff (a := peer.config.peerPub)).2
    ⟨h hold, fun hmem => hnew _ hmem _ (List.mem_singleton_self _) rfl⟩
  rw [hkeys]
  rw [peerKeys, List.length_map] at hpush
  exact hpush

omit [Profile] in
theorem insertAll_keysFound {configs : List PeerConfig} (hself : self.KeysFound)
    (h : insertAll env self configs = .ok self') : self'.KeysFound := by
  induction configs generalizing self with
  | nil =>
      cases h
      exact hself
  | cons config configs ih =>
      obtain ⟨peer, _, h⟩ := ok_of_bind h
      exact ih (insertSession_keysFound hself) h

/-- In a reachable manager different keys are all found. -/
theorem Reachable.keysFound (h : self.Reachable) : self.KeysFound := by
  obtain ⟨env, config, configs, start, hnew, hrun⟩ := h
  have hreachable : start.Reachable := ⟨env, config, configs, start, hnew, .refl start⟩
  have hempty : (empty env config).KeysFound := fun _ => Index.complete_nil _
  have hstart : start.KeysFound := insertAll_keysFound hempty hnew
  refine (Transition.Reaches.invariant (I := fun manager => manager.Reachable ∧ manager.KeysFound)
    (fun manager event next hI hfire => ⟨hI.1.fire hfire, ?_⟩) ⟨hreachable, hstart⟩ hrun).2
  by_cases hadd : ∃ env config, event = .addPeer env config
  · obtain ⟨env, config, rfl⟩ := hadd
    obtain rfl | ⟨peer, _, rfl⟩ := addPeer_cases hfire
    · exact hI.2
    · exact insertSession_keysFound hI.2
  · have hevent : ∀ env config, event ≠ .addPeer env config :=
      fun env config heq => hadd ⟨env, config, heq⟩
    rw [KeysFound, peerKeys_eq, fire_owners hI.1 hevent hfire, ← peerKeys_eq,
      fire_pubkeys hevent hfire]
    exact hI.2

end TunnelManager

/-! ## Taking a packet in -/

/-- What is written of a payload: a keepalive has none. -/
def Device.payloads (payload : Bytes) : List Bytes := if 0 < payload.length then [payload] else []

namespace Session

variable {self : Session} {env : Env} {packet payload : Bytes} {transport next : Transport}
  {sid : UInt32} {rehandshake : Option Rehandshake}

omit [Profile] in
theorem write_ok (hwrite : ∀ buf, env.writeError buf = none) (self : Session) :
    (if 0 < payload.length then write env payload else pure ()) self =
      .ok () { self with device := ⟨self.device.written ++ Device.payloads payload⟩ } := by
  rw [Device.payloads]
  by_cases hpayload : 0 < payload.length
  · rw [if_pos hpayload, if_pos hpayload, write, zoom, Device.write, hwrite]
    rfl
  · rw [if_neg hpayload, if_neg hpayload, List.append_nil]
    rfl

omit [Profile] in
/-- A packet that comes directly and that the session opens is written. -/
theorem handleTransport_ok (hwrite : ∀ buf, env.writeError buf = none)
    (hlen : transportHeaderSize + 16 ≤ packet.length) (hstale : self.peer.stale = false)
    (hstate : self.peer.state = .ready transport sid rehandshake)
    (hdecrypt : Transport.decrypt packet 1500 transport = .ok payload next) :
    ∃ s, handleTransport env packet self = .ok () s ∧
      s.device.written = self.device.written ++ Device.payloads payload := by
  have hfresh : ¬ self.peer.stale = true := by simp [hstale]
  rw [handleTransport, if_neg (not_lt.2 hlen), bind_ok (get_apply self), if_neg hfresh, hstate]
  simp only
  rw [bind_eq, on, hdecrypt]
  simp only
  rw [bind_ok (show setState _ self = .ok () _ from rfl), write_ok hwrite]
  exact ⟨_, rfl, rfl⟩

omit [Profile] in
/-- So is a packet that comes through a relay. -/
theorem handleRelayedTransport_ok (hwrite : ∀ buf, env.writeError buf = none)
    (hlen : transportHeaderSize + 16 ≤ packet.length)
    (hstate : self.peer.state = .ready transport sid rehandshake)
    (hdecrypt : Transport.decrypt packet 1500 transport = .ok payload next) :
    ∃ s, handleRelayedTransport env packet self = .ok () s ∧
      s.device.written = self.device.written ++ Device.payloads payload := by
  rw [handleRelayedTransport, bind_ok (get_apply self), hstate]
  simp only
  rw [if_neg (not_lt.2 hlen), bind_eq, on, hdecrypt]
  simp only
  rw [bind_ok (show setState _ self = .ok () _ from rfl), lift_ok, pure_bind, write_ok hwrite]
  exact ⟨_, rfl, rfl⟩

end Session

/-! ## Two managers and a relay -/

/-- A network and a tun device that take everything. -/
def Env.Healthy (env : Env) : Prop :=
  (∀ dest buf, env.sendError dest buf = none) ∧ ∀ buf, env.writeError buf = none

/-- The sessions are ready, what the first one sends next is what the second one expects, and the
second one is not stale. -/
def PeerSession.InSync (sender receiver : PeerSession) : Prop :=
  receiver.stale = false ∧ ∃ transport sid rehandshake transport' sid' rehandshake',
    sender.state = .ready transport sid rehandshake ∧
      receiver.state = .ready transport' sid' rehandshake' ∧
      Transport.Matches transport.inner transport'.inner ∧ transport.Usable

namespace TunnelManager

/-- The peers have pairwise different mesh addresses and public keys. -/
structure Distinct (manager : TunnelManager) : Prop where
  ips : (manager.peers.map fun peer => peer.config.peerIp).Nodup
  keys : manager.peerKeys.Nodup

/-- The manager has a peer at `idx` for the node of another manager. -/
structure Knows (manager other : TunnelManager) (idx : ℕ) (peer : PeerSession) : Prop where
  found : manager.peers[idx]? = some peer
  key : peer.config.peerPub = other.config.localKeypair.public
  ip : peer.config.peerIp = other.config.localIp

/-- A third manager with a mesh address of its own has the other two as peers. -/
structure Relays (relay a b : TunnelManager) (k l : ℕ) (fromA forB : PeerSession) : Prop where
  reachable : relay.Reachable
  distinct : relay.Distinct
  sender : relay.Knows a k fromA
  receiver : relay.Knows b l forB
  apart : k ≠ l
  other : relay.config.localIp ≠ b.config.localIp

/-- The datagram is handled without an error, and the packets are written to the tun device. -/
def TakesIn (self : TunnelManager) (env : Env) (source : SocketAddr) (datagram : Bytes)
    (packets : List Bytes) : Prop :=
  ∃ self', handleIncoming env source datagram self = .ok () self' ∧
    self'.device.written = self.device.written ++ packets

/-- The datagram is handled without an error, and sent on as it is. -/
def PassesOn (self : TunnelManager) (env : Env) (source dest : SocketAddr) (datagram : Bytes) :
    Prop :=
  ∃ self', handleIncoming env source datagram self = .ok () self' ∧
    self'.transport.sent = self.transport.sent ++ [(dest, datagram)]

/-- The datagram that took the manager `a` to `a'` fits into a receive buffer and brings the packets
to the manager `b`. Without a relay it goes to the stored endpoint, and `b` takes it in from every
address that is mapped to its session at `j`. Otherwise it goes to the relay, every relay sends it
to what it has learned or else stored as the endpoint of `b`, and `b` takes it in. -/
def Arrives (a a' b : TunnelManager) (toB : PeerSession) (j : ℕ) (packets : List Bytes) : Prop :=
  ∃ dest datagram, a'.transport.sent = a.transport.sent ++ [(dest, datagram)] ∧
    datagram.length ≤ recvBufferSize ∧
    match toB.config.viaRelay with
    | none => dest = toB.config.peerEndpoint ∧ ∀ env source, env.Healthy →
        b.endpointToPeer source = some j → b.TakesIn env source datagram packets
    | some relay => dest = relay ∧
        (∀ (r : TunnelManager) k l fromA forB, r.Relays a b k l fromA forB → ∀ env source,
          env.Healthy → r.PassesOn env source
            ((r.learnedEndpoints forB.config.peerPub).getD forB.config.peerEndpoint) datagram) ∧
        ∀ env source, env.Healthy → b.TakesIn env source datagram packets

variable {self other a b : TunnelManager} {env : Env} {source : SocketAddr}
  {payload packet : Bytes} {idx : ℕ} {peer : PeerSession}

theorem Knows.mapped (h : self.Knows other idx peer) (hreach : self.Reachable)
    (hdistinct : self.Distinct) :
    self.pubkeyToPeer other.config.localKeypair.public = some idx := by
  refine hreach.keysFound hdistinct.keys idx _ ?_
  rw [peerKeys, List.getElem?_map, h.found, Option.map_some, h.key]

omit [Profile] in
/-- Of peers with different addresses, the one at a position is the only one with its address. -/
theorem Distinct.first (h : self.Distinct) (hpeer : self.peers[idx]? = some peer) {i : ℕ}
    {other : PeerSession} (hother : self.peers[i]? = some other)
    (hip : other.config.peerIp = peer.config.peerIp) : i = idx := by
  have hlt : i < (self.peers.map fun peer => peer.config.peerIp).length := by
    rw [List.length_map]
    exact (List.getElem?_eq_some_iff.1 hother).1
  refine (List.getElem?_inj hlt h.ips).1 ?_
  rw [List.getElem?_map, List.getElem?_map, hother, hpeer, Option.map_some, Option.map_some, hip]

omit [Profile] in
/-- The packets for a node go to its session. -/
theorem Knows.lookup (h : self.Knows other idx peer) (hdistinct : self.Distinct)
    (haddr : Addressed packet other.config.localIp) :
    self.lookupPeerByDestIp packet = some idx := by
  refine (lookup_iff haddr).2 ⟨⟨peer, h.found, h.ip⟩, fun i hi p hp hsame => ?_⟩
  exact hi.ne (hdistinct.first h.found hp (hsame.trans h.ip.symm))

/-- A relay sends what is for one of its peers to the endpoint that it has learned or stored. -/
theorem Relays.nextHop {r : TunnelManager} {k l : ℕ} {fromA forB : PeerSession}
    (h : r.Relays a b k l fromA forB) (source : SocketAddr) (inner : Bytes) :
    r.nextHop (Session.relayFrame a.config.localKeypair.public b.config.localIp inner) source =
      some ((r.learnedEndpoints forB.config.peerPub).getD forB.config.peerEndpoint) := by
  have hmapped := h.sender.mapped h.reachable h.distinct
  have hsender : r.claimedSender
      (Session.relayFrame a.config.localKeypair.public b.config.localIp inner) =
        some a.config.localKeypair.public := by
    rw [claimedSender_relayFrame, Option.filter_some, hmapped]
    rfl
  obtain ⟨-, -, -, hdest, -⟩ :=
    relayFrame_header a.config.localKeypair.public b.config.localIp inner
  obtain ⟨hlt, hget⟩ := List.getElem?_eq_some_iff.1 h.receiver.found
  -- The peer for the destination is found, and it is not the one that the packet comes from.
  have hfind : r.routes.configs.find? (fun config => config.peerIp = b.config.localIp) =
      some forB.config := by
    rw [routes, List.find?_map, Option.map_eq_some_iff]
    refine ⟨forB, List.find?_eq_some_iff_getElem.2 ⟨?_, l, hlt, hget, fun i hi => ?_⟩, rfl⟩
    · exact decide_eq_true h.receiver.ip
    · rw [Bool.not_eq_true']
      refine decide_eq_false fun hip => hi.ne ?_
      exact h.distinct.first h.receiver.found (List.getElem?_eq_getElem (hi.trans hlt))
        (hip.trans h.receiver.ip.symm)
  have hother : forB.config.peerPub ≠ a.config.localKeypair.public := by
    intro hsame
    have hmapped' := h.receiver.mapped h.reachable h.distinct
    rw [← h.receiver.key, hsame, hmapped] at hmapped'
    exact h.apart (Option.some.inj hmapped')
  refine nextHop_eq_some.2 ⟨_, _, hsender, hdest, h.other.symm, ?_⟩
  rw [reroute_claimed hsender]
  split
  · have hlearned : (r.routes.learn a.config.localKeypair.public source).learnedEndpoints
        forB.config.peerPub = r.learnedEndpoints forB.config.peerPub :=
      Function.update_of_ne hother _ _
    rw [Routes.hop, show (r.routes.learn _ _).configs = r.routes.configs from rfl, hfind,
      Option.map_some, hlearned]
  · rw [Routes.hop, hfind]
    rfl

/-- A relay passes the packet on as it is. -/
theorem Relays.passesOn {r : TunnelManager} {k l : ℕ} {fromA forB : PeerSession}
    (h : r.Relays a b k l fromA forB) (henv : env.Healthy) (inner : Bytes) :
    r.PassesOn env source
      ((r.learnedEndpoints forB.config.peerPub).getD forB.config.peerEndpoint)
      (Session.relayFrame a.config.localKeypair.public b.config.localIp inner) := by
  obtain ⟨r', -, hhandle, hsent⟩ := handleIncoming_hop h.reachable.sound.wellFormed
    (h.nextHop source inner) (henv.1 _ _)
  exact ⟨r', hhandle, hsent⟩

/-- A session that is not stale takes a packet in from the address that is mapped to it. -/
theorem takesIn_direct (hreach : self.Reachable) (henv : env.Healthy)
    (hpeer : self.peers[idx]? = some peer) (hmapped : self.endpointToPeer source = some idx)
    (htype : packet[0]? = some messageTypeTransport)
    (hlen : transportHeaderSize + 16 ≤ packet.length) (hstale : peer.stale = false)
    {transport next : Transport} {sid : UInt32} {rehandshake : Option Rehandshake}
    (hstate : peer.state = .ready transport sid rehandshake)
    (hdecrypt : Transport.decrypt packet 1500 transport = .ok payload next) :
    self.TakesIn env source packet (Device.payloads payload) := by
  obtain ⟨peer', noted, hpeer', hnoted, heq⟩ :=
    handleIncoming_transport env hreach.sound.wellFormed htype hmapped
  cases hpeer.symm.trans hpeer'
  obtain ⟨endpoint, hheard⟩ := hnoted.getElem?_self hpeer
  have hdevice : noted.device = self.device := by
    obtain ⟨_, _, _, rfl, _⟩ := hnoted
    rfl
  let session : Session := ⟨peer.heard env endpoint, noted.transport, noted.device⟩
  obtain ⟨s, hrun, hwritten⟩ : ∃ s, Session.handleTransport env packet session = .ok () s ∧
      s.device.written = session.device.written ++ Device.payloads payload :=
    Session.handleTransport_ok henv.2 hlen hstale hstate hdecrypt
  refine ⟨_, (heq.trans (atPeer_eq hheard _)).trans (by rw [hrun]), ?_⟩
  have hbefore : session.device.written = self.device.written := congrArg Device.written hdevice
  exact hwritten.trans (by rw [hbefore])

/-- A session takes a packet in that comes through a relay. -/
theorem takesIn_relayed (henv : env.Healthy) (hpeer : self.peers[idx]? = some peer)
    (hkey : self.pubkeyToPeer peer.config.peerPub = some idx)
    (htype : packet[0]? = some messageTypeTransport)
    (hlen : transportHeaderSize + 16 ≤ packet.length) {transport next : Transport} {sid : UInt32}
    {rehandshake : Option Rehandshake} (hstate : peer.state = .ready transport sid rehandshake)
    (hdecrypt : Transport.decrypt packet 1500 transport = .ok payload next) :
    self.TakesIn env source
      (Session.relayFrame peer.config.peerPub self.config.localIp packet)
      (Device.payloads payload) := by
  obtain ⟨noted, hheard, -, hdevice, -, -, heq⟩ : ∃ noted : TunnelManager, _ ∧ _ ∧ _ ∧ _ ∧ _ ∧
      handleIncoming env source
        (Session.relayFrame peer.config.peerPub self.config.localIp packet) self =
          handleRelayed env idx source packet noted :=
    handleIncoming_relayFrame hpeer hkey
  have hmessage : relayedMessage packet = some (.relayedTransport packet) := if_pos htype
  let session : Session :=
    ⟨peer.heard env peer.config.peerEndpoint, noted.transport, noted.device⟩
  obtain ⟨s, hrun, hwritten⟩ : ∃ s, Session.handleRelayedTransport env packet session =
      .ok () s ∧ s.device.written = session.device.written ++ Device.payloads payload :=
    Session.handleRelayedTransport_ok henv.2 hlen hstate hdecrypt
  have hcall : atPeer idx (Session.handleRelayedTransport env packet) noted = .ok ()
      { noted with
        peers := noted.peers.set idx s.peer
        transport := s.transport
        device := s.device } := by
    rw [atPeer_eq hheard, hrun]
  refine ⟨_, (heq.trans (handleRelayed_message hmessage)).trans hcall, ?_⟩
  have hbefore : session.device.written = self.device.written := congrArg Device.written hdevice
  exact hwritten.trans (by rw [hbefore])

omit [Profile] [Primitives] in
theorem relayFrame_length (fromPub : Key) (destIp : Ipv4Addr) (inner : Bytes) :
    (Session.relayFrame fromPub destIp inner).length = relayHeaderSize + inner.length := by
  simp only [Session.relayFrame, List.length_cons, List.length_append, Arr.length_eq,
    relayHeaderSize]
  omega

/-- What a session encrypts is sent on its way. -/
theorem atPeer_sends (henv : env.Healthy) (hpeer : self.peers[idx]? = some peer) {room : ℕ}
    {transport next : Transport} {sid : UInt32} {rehandshake : Option Rehandshake}
    (hstate : peer.state = .ready transport sid rehandshake)
    (hencrypt : Transport.encrypt payload sid room transport = .ok packet next) :
    ∃ self', atPeer idx (Session.sendEncrypted self.config.localKeypair env payload room) self =
        .ok () self' ∧
      self'.transport.sent = self.transport.sent ++
        [peer.config.carrier self.config.localKeypair.public packet] := by
  obtain ⟨s, hrun, hsent⟩ : ∃ s, Session.sendEncrypted self.config.localKeypair env payload room
      ⟨peer, self.transport, self.device⟩ = .ok () s ∧ s.transport.sent =
        self.transport.sent ++ [peer.config.carrier self.config.localKeypair.public packet] :=
    Session.sendEncrypted_ok henv.1 hstate hencrypt
  refine ⟨_, (atPeer_eq hpeer _).trans (by rw [hrun]), ?_⟩
  exact hsent

/-- What a session has encrypted and sent for another one that is in sync arrives. -/
theorem arrives (laws : TransportLaws) {i j : ℕ} {toB toA : PeerSession} {a' : TunnelManager}
    (hb : b.Reachable) (hdistinct : b.Distinct) (hab : a.Knows b i toB) (hba : b.Knows a j toA)
    (hstale : toA.stale = false) {room : ℕ} {transport next transport' : Transport}
    {sid sid' : UInt32} {rehandshake' : Option Rehandshake}
    (hstate : toA.state = .ready transport' sid' rehandshake')
    (hmatches : Transport.Matches transport.inner transport'.inner)
    (hencrypt : Transport.encrypt payload sid room transport = .ok packet next)
    (hsize : packet.length = transportHeaderSize + payload.length + 16)
    (hfits : payload.length ≤ 1500)
    (hsent : a'.transport.sent = a.transport.sent ++
      [toB.config.carrier a.config.localKeypair.public packet]) :
    Arrives a a' b toB j (Device.payloads payload) := by
  obtain ⟨opened, hdecrypt, -⟩ := Transport.opened_of_matches laws hmatches hencrypt hfits
  obtain ⟨ciphertext, -, rfl⟩ := Transport.encrypt_ok hencrypt
  have hlen : transportHeaderSize + 16 ≤
      (Transport.framePacket sid transport.sendCounter ciphertext).length := by omega
  generalize hpacket : Transport.framePacket sid transport.sendCounter ciphertext = packet at *
  have htype : packet[0]? = some messageTypeTransport := by
    rw [← hpacket]
    rfl
  rw [PeerConfig.carrier] at hsent
  cases hrelay : toB.config.viaRelay with
  | none =>
      rw [hrelay] at hsent
      refine ⟨_, _, hsent, ?_, ?_⟩
      · simp only [recvBufferSize, transportHeaderSize] at *
        omega
      · rw [hrelay]
        exact ⟨rfl, fun env source henv hmapped =>
          takesIn_direct hb henv hba.found hmapped htype hlen hstale hstate hdecrypt⟩
  | some relay =>
      rw [hrelay] at hsent
      simp only at hsent
      rw [hab.ip] at hsent
      refine ⟨_, _, hsent, ?_, ?_⟩
      · rw [relayFrame_length]
        simp only [recvBufferSize, transportHeaderSize, relayHeaderSize] at *
        omega
      · rw [hrelay]
        refine ⟨rfl, fun r k l fromA forB hr env source henv => hr.passesOn henv packet,
          fun env source henv => ?_⟩
        rw [← hba.key]
        exact takesIn_relayed henv hba.found (hba.key ▸ hba.mapped hb hdistinct) htype hlen hstate
          hdecrypt

/-- Between two managers with sessions in sync, an IPv4 packet of at most 1500 bytes for the mesh
address of the second one arrives from the tun device of the first one as it was, and a keepalive
arrives without anything being written. -/
theorem tunnel_round_trip (laws : TransportLaws) (seals : TransportSeals) {i j : ℕ}
    {toB toA : PeerSession} (hb : b.Reachable) (hda : a.Distinct) (hdb : b.Distinct)
    (hab : a.Knows b i toB) (hba : b.Knows a j toA) (hsync : toB.InSync toA)
    (henv : env.Healthy) :
    (∀ pkt, Addressed pkt b.config.localIp → pkt.length ≤ 1500 →
      ∃ a', dispatchTunPacket env pkt a = .ok () a' ∧ Arrives a a' b toB j [pkt]) ∧
    ∃ a', performAll a.config.localKeypair env [(i, .sendKeepalive)] a = .ok () a' ∧
      Arrives a a' b toB j [] := by
  obtain ⟨hstale, transport, sid, rehandshake, transport', sid', rehandshake', hstate, hstate',
    hmatches, husable⟩ := hsync
  constructor
  · intro pkt haddr hlen
    have hpos : 0 < pkt.length := lt_of_lt_of_le (by decide) haddr.1
    have hroom : transportHeaderSize + pkt.length + 16 ≤ 1600 := by
      simp only [transportHeaderSize]
      omega
    obtain ⟨packet, next, hencrypt, hsize⟩ := husable.encrypts laws seals sid hroom (by omega)
    obtain ⟨a', hcall, hsent⟩ := atPeer_sends henv hab.found hstate hencrypt
    refine ⟨a', ?_, ?_⟩
    · rw [dispatch_eq (hab.lookup hda haddr)]
      exact hcall
    · have harrives := arrives laws hb hdb hab hba hstale hstate' hmatches hencrypt hsize hlen hsent
      rwa [Device.payloads, if_pos hpos] at harrives
  · have hroom : transportHeaderSize + ([] : Bytes).length + 16 ≤ transportHeaderSize + 16 := le_rfl
    obtain ⟨packet, next, hencrypt, hsize⟩ := husable.encrypts laws seals sid hroom (by decide)
    obtain ⟨a', hcall, hsent⟩ := atPeer_sends henv hab.found hstate hencrypt
    refine ⟨a', ?_, arrives laws hb hdb hab hba hstale hstate' hmatches hencrypt hsize
      (Nat.zero_le _) hsent⟩
    rw [performAll, Session.perform, bind_ok hcall]
    rfl

end TunnelManager

end General

namespace TunnelManager

/-! ## Two nodes behind a relay -/

section Symbolic

open Symbolic

attribute [local instance] Symbolic.primitives Symbolic.release

/-- The configuration of a session with a node through the node 3. -/
def throughRelay (node : UInt8) (isInitiator : Bool) : PeerConfig :=
  { sessionWith node isInitiator with viaRelay := some (address 3) }

/-- The nodes 1 and 2 after a handshake through the node 3, and the node 3. -/
def relayedPair : Option (TunnelManager × TunnelManager × TunnelManager) := do
  let env := quietEnv 0 ⟨1000, 0⟩ 7
  let asking ← after env (nodeConfig 1) [throughRelay 2 true] [.retryInit env 0]
  let ask ← asking.transport.sent.getLast?
  let second ← after env (nodeConfig 2) [throughRelay 1 false] [.incoming env (address 3) ask.2]
  let answer ← second.transport.sent.getLast?
  let first ← after env (nodeConfig 1) [throughRelay 2 true]
    [.retryInit env 0, .incoming env (address 3) answer.2]
  let relay ← after env (nodeConfig 3) [sessionWith 1 false, sessionWith 2 false] []
  some (first, second, relay)

theorem reachable_of_relayedPair {a b r : TunnelManager} (h : relayedPair = some (a, b, r)) :
    b.Reachable ∧ r.Reachable := by
  simp only [relayedPair, bind, Option.bind_eq_some_iff, Option.some.injEq, Prod.mk.injEq] at h
  obtain ⟨_, -, _, -, second, hsecond, _, -, _, -, relay, hrelay, -, rfl, rfl⟩ := h
  exact ⟨reachable_of_after hsecond, reachable_of_after hrelay⟩

/-- The peer is for the node of the other manager. -/
def isFor (other : TunnelManager) (peer : PeerSession) : Bool :=
  decide (peer.config.peerPub = other.config.localKeypair.public) &&
    decide (peer.config.peerIp = other.config.localIp)

theorem knows_of_isFor {self other : TunnelManager} {idx : ℕ} {peer : PeerSession}
    (hfound : self.peers[idx]? = some peer) (h : isFor other peer = true) :
    self.Knows other idx peer := by
  simp only [isFor, Bool.and_eq_true, decide_eq_true_eq] at h
  exact ⟨hfound, h.1, h.2⟩

/-- What is evaluated about two sessions in sync. -/
def isInSync (sender receiver : PeerSession) : Bool :=
  match sender.state, receiver.state with
  | .ready transport _ _, .ready transport' _ _ =>
      decide (receiver.stale = false) &&
        decide (directionKey transport.inner (Channel.isInitiator transport.inner) =
          directionKey transport'.inner !(Channel.isInitiator transport'.inner)) &&
        decide (sendingNonce transport.inner = receivingNonce transport'.inner) &&
        decide (sendingNonce transport.inner + 1 < 2 ^ 64) &&
        decide (transport.sendCounter.toNat + 1 < 2 ^ 64)
  | _, _ => false

theorem inSync_of_isInSync {sender receiver : PeerSession}
    (h : isInSync sender receiver = true) : sender.InSync receiver := by
  rw [isInSync] at h
  split at h
  · rename_i transport sid rehandshake transport' sid' rehandshake' hstate hstate'
    simp only [Bool.and_eq_true, decide_eq_true_eq] at h
    obtain ⟨⟨⟨⟨hstale, hkey⟩, hnonce⟩, hsending⟩, hcounter⟩ := h
    exact ⟨hstale, transport, sid, rehandshake, transport', sid', rehandshake', hstate, hstate',
      ⟨hkey, hnonce⟩, hsending, hcounter⟩
  · cases h

/-- What is evaluated about the nodes. -/
def isLinked (a b r : TunnelManager) : Bool :=
  match a.peers, b.peers, r.peers with
  | [toB], [toA], [fromA, forB] =>
      isFor b toB && isFor a toA && isFor a fromA && isFor b forB && isInSync toB toA &&
        decide (toB.config.viaRelay = some (address 3)) &&
        decide r.peerKeys.Nodup && decide (r.peers.map fun peer => peer.config.peerIp).Nodup &&
        decide (r.config.localIp ≠ b.config.localIp) &&
        decide (b.config.localIp = ⟨100, 100, 0, 2⟩)
  | _, _, _ => false

/-- An IPv4 packet from the node 1 to the node 2, both of them behind the node 3, arrives. -/
theorem packet_through_relay :
    ∃ (a b r : TunnelManager) (toB fromA forB : PeerSession), r.Relays a b 0 1 fromA forB ∧
      toB.config.viaRelay = some (address 3) ∧
      ∃ a', dispatchTunPacket (quietEnv 0 ⟨1000, 0⟩ 7)
          (69 :: List.replicate 15 0 ++ [100, 100, 0, 2]) a = .ok () a' ∧
        Arrives a a' b toB 0 [69 :: List.replicate 15 0 ++ [100, 100, 0, 2]] := by
  have hcheck : relayedPair.any (fun nodes => isLinked nodes.1 nodes.2.1 nodes.2.2) = true := by
    decide +kernel
  obtain ⟨⟨a, b, r⟩, hpair, hlinked⟩ := (Option.any_eq_true _ _).1 hcheck
  obtain ⟨hb, hr⟩ := reachable_of_relayedPair hpair
  rw [isLinked] at hlinked
  split at hlinked
  · rename_i toB toA fromA forB ha hb' hr'
    simp only at ha hb' hr'
    simp only [Bool.and_eq_true, decide_eq_true_eq] at hlinked
    obtain ⟨⟨⟨⟨⟨⟨⟨⟨⟨hB, hA⟩, hfromA⟩, hforB⟩, hsync⟩, hvia⟩, hkeys⟩, hips⟩, hother⟩, hip⟩ := hlinked
    have hdistinct : ∀ {m : TunnelManager} {peer : PeerSession}, m.peers = [peer] → m.Distinct := by
      intro m peer hm
      constructor
      · rw [hm]
        exact List.nodup_singleton _
      · rw [peerKeys, hm]
        exact List.nodup_singleton _
    obtain ⟨hpackets, -⟩ := tunnel_round_trip (i := 0) (j := 0) transport_laws transport_seals hb
      (hdistinct ha) (hdistinct hb') (knows_of_isFor (by rw [ha]; rfl) hB)
      (knows_of_isFor (by rw [hb']; rfl) hA) (inSync_of_isInSync hsync)
      (show (quietEnv 0 ⟨1000, 0⟩ 7).Healthy from ⟨fun _ _ => rfl, fun _ => rfl⟩)
    refine ⟨a, b, r, toB, fromA, forB, ⟨hr, ⟨hips, hkeys⟩, ?_, ?_, by decide, hother⟩, hvia,
      hpackets _ ?_ (by decide)⟩
    · exact knows_of_isFor (by rw [hr']; rfl) hfromA
    · exact knows_of_isFor (by rw [hr']; rfl) hforB
    · rw [hip]
      exact ⟨le_rfl, ⟨69, rfl, by decide⟩, rfl, rfl, rfl, rfl⟩
  · cases hlinked

end Symbolic

end TunnelManager

end Naboscale
