import Naboscale.Cli.Roles
import Naboscale.Tunnel.Delivery

/-!
# Packets between nodes with and without a relay

Nodes that run `up`, each with a manager whose peers were configured from what the coordinator
lists, and the network between them. Some nodes have `--relay`, and the address that they give is
the one that one of the other nodes advertises. Whether a packet from the tun device of one node
comes out of the tun device of another one is decided by what the managers hold when it is sent.
-/

namespace Naboscale.Cli

open Rust Method Coord TunnelManager

section General

variable [Profile] [Primitives] [CoordCrates]

/-- Nodes with their managers, their runs of `up`, their rows at the coordinator, and the network
between them. -/
structure Overlay (ι : Type) where
  net : Passing.Network ι SocketAddr
  managers : ι → TunnelManager
  runs : ι → Run
  rows : ι → NodeRecord

namespace Overlay

variable {ι : Type}

/-- The public key of a node. -/
def key (o : Overlay ι) (i : ι) : Key := (o.runs i).wgPublic

/-- The mesh address of a node. -/
def ip (o : Overlay ι) (i : ι) : Ipv4Addr := (o.managers i).config.localIp

/-- The rows are those of the runs, every relay is the address that the node `relay` advertises and
is reached at, and every peer of a manager was configured by `up` from rows of other nodes. Since
then only its endpoint may have moved. -/
structure Built (o : Overlay ι) (relay : ι) (s : SocketAddr) : Prop where
  started (i : ι) : ∃ args, Run.start (o.key i) args = .ok (o.runs i)
  reachable (i : ι) : (o.managers i).Reachable
  localKey (i : ι) : (o.managers i).config.localKeypair.public = o.key i
  rowKey (i : ι) : (o.rows i).wgPubkey = (o.key i).val
  rowIp (i : ι) : (o.rows i).ip = toString (o.ip i)
  rowEndpoint (i : ι) : (o.rows i).lastEndpoint = some (o.runs i).advertised
  rowRelay (i : ι) : (o.rows i).viaRelay = (o.runs i).viaRelay
  keys : Function.Injective o.key
  ips : Function.Injective o.ip
  relays (i : ι) : (o.runs i).relayEndpoint = none ∨ (o.runs i).relayEndpoint = some s
  relayDirect : (o.runs relay).relayEndpoint = none
  relayAdvertised : (o.runs relay).advertised = toString s
  relayReached : o.net.node s = some relay
  configured (i : ι) : ∀ peer ∈ (o.managers i).peers, ∃ listing config,
    (∀ entry ∈ listing, ∃ j, j ≠ i ∧ entry = Mesh.entry (o.rows j)) ∧
      (o.runs i).Configures listing config ∧
      peer.config = { config with peerEndpoint := peer.config.peerEndpoint }
  apart (i : ι) : (o.managers i).peerKeys.Nodup

/-- The session of a node for another one. -/
def SessionFor (o : Overlay ι) (i j : ι) (peer : PeerSession) : Prop :=
  ∃ idx, (o.managers i).pubkeyToPeer (o.key j) = some idx ∧ (o.managers i).peers[idx]? = some peer

/-- The sessions of two nodes for each other are ready and in sync: the packet that the first one
makes of a plaintext is at the nonce that the second one expects, and no other session of that node
opens it. -/
structure InSync (o : Overlay ι) (x y : ι) (sender receiver : PeerSession)
    (plaintext packet : Bytes) : Prop where
  sends : o.SessionFor x y sender
  receives : o.SessionFor y x receiver
  matching : ∃ transport sid rehandshake next transport' sid' rehandshake',
    sender.state = .ready transport sid rehandshake ∧
      receiver.state = .ready transport' sid' rehandshake' ∧
      Transport.encrypt plaintext sid 1600 transport = .ok packet next ∧
      Transport.Matches transport.inner transport'.inner
  alone : ∀ peer ∈ (o.managers y).peers, peer.Opens packet plaintext → peer = receiver

/-- A packet from the tun device of a node, after any number of managers have handed it on, is
written to the tun device of another one. The environments are those of the calls in order. -/
def Delivers (o : Overlay ι) (env : ℕ → Env) (x y : ι) (plaintext : Bytes) : Prop :=
  ∃ (first : Flight ι) (dest : SocketAddr) (n : ℕ) (last : Flight ι) (self : TunnelManager),
    dispatchTunPacket (env 0) plaintext (o.managers x) = .ok () (first.managers x) ∧
    (first.managers x).transport.sent =
      (o.managers x).transport.sent ++ [(dest, first.pkt)] ∧
    o.net.node dest = some first.node ∧ first.source = o.net.address x ∧
    (∀ i, i ≠ x → first.managers i = o.managers i) ∧
    Relation.ReflTransGen (Flight.Hop o.net env) (1, first) (n, last) ∧ last.node = y ∧
    (handleIncoming (env n) last.source last.pkt (last.managers y)).state? = some self ∧
    self.device.written = (last.managers y).device.written ++ [plaintext]

/-- Where the nodes send a RELAY packet from one node to another one. -/
def hops (o : Overlay ι) (x y : ι) : Passing.Tables ι SocketAddr :=
  fun i => (o.managers i).nextHop (Session.relayFrame (o.key x) (o.ip y) [])

/-- What the managers have to hold for a packet to arrive. Between nodes without a relay, the first
one has an address of the second one, which finds its session by the address of the first one and
has not marked it stale. Otherwise the first node is not the relay itself, and the way from the
relay leads to the second node. -/
def Routed (o : Overlay ι) (relay x y : ι) (sender receiver : PeerSession) : Prop :=
  if (o.runs x).relayEndpoint = none ∧ (o.runs y).relayEndpoint = none then
    o.net.node sender.config.peerEndpoint = some y ∧ receiver.stale = false ∧
      ∃ idx, (o.managers y).endpointToPeer (o.net.address x) = some idx ∧
        (o.managers y).peers[idx]? = some receiver
  else x ≠ relay ∧ o.net.Leads (o.hops x y) y ∅ ⟨relay, o.net.address x⟩

variable {o : Overlay ι} {relay x y : ι} {s : SocketAddr} {sender receiver : PeerSession}
  {plaintext packet : Bytes} {env : ℕ → Env}

/-! ## What `up` configured -/

/-- A peer has the key and the address of another node, and the relay of that node or else of its
own. -/
theorem Built.peer (hbase64 : Base64RoundTrip) (h : o.Built relay s) {i : ι} {peer : PeerSession}
    (hpeer : peer ∈ (o.managers i).peers) :
    ∃ j, j ≠ i ∧ peer.config.peerPub = o.key j ∧ peer.config.peerIp = o.ip j ∧
      peer.config.viaRelay = (o.runs j).relayEndpoint.or (o.runs i).relayEndpoint := by
  obtain ⟨listing, config, hlisting, hconfigures, hconfig⟩ := h.configured i peer hpeer
  obtain ⟨entry, hentry, senderId, hkey, hdiscovered⟩ := hconfigures.discovered
  obtain ⟨j, hj, rfl⟩ := hlisting entry hentry
  obtain ⟨peerIp, peerEndpoint, hip, -, hmade⟩ := discoveredPeer_some hdiscovered
  have hpub : config.peerPub = o.key j := by
    have hdecode := hbase64 (o.rows j).wgPubkey
    rw [peerKey, Mesh.entry] at hkey
    simp only [hdecode] at hkey
    split at hkey
    · rw [← Except.ok.inj hkey]
      exact Subtype.ext (h.rowKey j)
    · cases hkey
  have haddr : peerIp = o.ip j := by
    have hparse : Ipv4Addr.parse (o.rows j).ip = some peerIp := hip
    rw [h.rowIp, Ipv4Addr.parse_toString] at hparse
    exact (Option.some.inj hparse).symm
  have hrelay : discoveredViaRelay (Mesh.entry (o.rows j)) = (o.runs j).relayEndpoint := by
    show (o.rows j).viaRelay.bind SocketAddr.parse = _
    rw [h.rowRelay, Run.viaRelay]
    cases (o.runs j).relayEndpoint with
    | none => rfl
    | some addr => exact SocketAddr.parse_toString addr
  refine ⟨j, hj, ?_, ?_, ?_⟩
  · rw [hconfig]
    exact hpub
  · rw [hconfig, hmade]
    exact haddr
  · rw [hconfig, hmade, ← hrelay]

/-- No manager has a session with its own node. -/
theorem Built.own_key (hbase64 : Base64RoundTrip) (h : o.Built relay s) (i : ι) :
    (o.managers i).pubkeyToPeer (o.key i) = none := by
  cases hknown : (o.managers i).pubkeyToPeer (o.key i) with
  | none => rfl
  | some idx =>
      have hentry := (h.reachable i).known _ _ hknown
      obtain ⟨peer, hpeer, hkey⟩ := List.getElem?_map .. ▸ hentry |> Option.map_eq_some_iff.1
      obtain ⟨j, hj, hpub, -⟩ := h.peer hbase64 (List.mem_of_getElem? hpeer)
      exact absurd (h.keys (hpub.symm.trans hkey)) hj

/-- The session of a node for another one, and that it is the one that packets go to. -/
theorem Built.lookup (hbase64 : Base64RoundTrip) (h : o.Built relay s)
    (hsession : o.SessionFor x y sender) (haddr : Addressed plaintext (o.ip y)) :
    ∃ idx, (o.managers x).lookupPeerByDestIp plaintext = some idx ∧
      (o.managers x).peers[idx]? = some sender ∧ sender.config.peerIp = o.ip y ∧
      sender.config.viaRelay = (o.runs y).relayEndpoint.or (o.runs x).relayEndpoint := by
  obtain ⟨idx, hidx, hpeer⟩ := hsession
  have hentry := (h.reachable x).known _ _ hidx
  rw [peerKeys, List.getElem?_map, hpeer, Option.map_some] at hentry
  obtain ⟨j, -, hpub, hip, hrelay⟩ := h.peer hbase64 (List.mem_of_getElem? hpeer)
  have hj : j = y := h.keys (hpub.symm.trans (Option.some.inj hentry))
  subst hj
  refine ⟨idx, (lookup_iff haddr).2 ⟨⟨sender, hpeer, hip⟩, fun k hk p hp hsame => ?_⟩, hpeer, hip,
    hrelay⟩
  -- An earlier peer with the address of the node would have its key as well.
  obtain ⟨i, -, hpub', hip', -⟩ := h.peer hbase64 (List.mem_of_getElem? hp)
  have hi : i = j := h.ips (hip'.symm.trans hsame)
  have hkeys : (o.managers x).peerKeys[k]? = (o.managers x).peerKeys[idx]? := by
    rw [peerKeys, List.getElem?_map, List.getElem?_map, hp, hpeer, Option.map_some,
      Option.map_some, hpub', hpub, hi]
  have hlt : k < (o.managers x).peerKeys.length := by
    rw [peerKeys, List.length_map]
    exact (List.getElem?_eq_some_iff.1 hp).1
  exact hk.ne ((List.getElem?_inj hlt (h.apart x)).1 hkeys)

/-! ## The first datagram -/

omit [CoordCrates] in
/-- The packet between two sessions in sync is one of the data channel that the second session
opens. -/
theorem InSync.opens (laws : TransportLaws)
    (h : o.InSync x y sender receiver plaintext packet) (hlen : plaintext.length ≤ 1500) :
    packet[0]? = some messageTypeTransport ∧ transportHeaderSize + 16 ≤ packet.length ∧
      receiver.Opens packet plaintext := by
  obtain ⟨transport, sid, rehandshake, next, transport', sid', rehandshake', -, hstate', hencrypt,
    hmatches⟩ := h.matching
  obtain ⟨ciphertext, hwrite, rfl⟩ := Transport.encrypt_ok hencrypt
  have hsize := (laws.write_ok hwrite).1
  have htotal : transportHeaderSize + 16 ≤
      (Transport.framePacket sid transport.sendCounter ciphertext).length := by
    simp only [Transport.framePacket, List.length_append, List.length_cons, Arr.length_eq,
      List.length_nil, transportHeaderSize]
    omega
  obtain ⟨opened, hread⟩ := laws.opens hwrite hmatches.1 hmatches.2 hlen
  refine ⟨rfl, htotal, transport', sid', rehandshake', opened, hstate', ?_⟩
  rw [Transport.sub_framePacket]
  exact hread

/-- The session of the first node sends the packet on its way. -/
theorem Built.dispatched (hbase64 : Base64RoundTrip) (h : o.Built relay s)
    (hsync : o.InSync x y sender receiver plaintext packet)
    (haddr : Addressed plaintext (o.ip y))
    (hsend : ∀ n dest buf, (env n).sendError dest buf = none) :
    ∃ self, dispatchTunPacket (env 0) plaintext (o.managers x) = .ok () self ∧ self.WellFormed ∧
      self.config = (o.managers x).config ∧ self.pubkeyToPeer = (o.managers x).pubkeyToPeer ∧
      self.routes = (o.managers x).routes ∧
      self.transport.sent =
        (o.managers x).transport.sent ++ [sender.config.carrier (o.key x) packet] := by
  obtain ⟨idx, hlookup, hpeer, -, -⟩ := h.lookup hbase64 hsync.sends haddr
  obtain ⟨transport, sid, rehandshake, next, _, _, _, hstate, -, hencrypt, -⟩ := hsync.matching
  have hkey := h.localKey x
  rw [← hkey]
  exact dispatch_ok (h.reachable x).sound.wellFormed (hsend 0) hlookup hpeer hstate hencrypt

/-- Between two nodes without a relay, the packet is sent as it is. -/
theorem Built.carrier_direct (hbase64 : Base64RoundTrip) (h : o.Built relay s)
    (hsync : o.InSync x y sender receiver plaintext packet)
    (haddr : Addressed plaintext (o.ip y)) (hx : (o.runs x).relayEndpoint = none)
    (hy : (o.runs y).relayEndpoint = none) :
    sender.config.carrier (o.key x) packet = (sender.config.peerEndpoint, packet) := by
  obtain ⟨_, -, -, -, hrelay⟩ := h.lookup hbase64 hsync.sends haddr
  rw [PeerConfig.carrier, hrelay, hx, hy]
  rfl

/-- Where one of the nodes has a relay, the packet is sent to it in a RELAY packet. -/
theorem Built.carrier_relayed (hbase64 : Base64RoundTrip) (h : o.Built relay s)
    (hsync : o.InSync x y sender receiver plaintext packet)
    (haddr : Addressed plaintext (o.ip y))
    (hrelayed : ¬ ((o.runs x).relayEndpoint = none ∧ (o.runs y).relayEndpoint = none)) :
    sender.config.carrier (o.key x) packet = (s, Session.relayFrame (o.key x) (o.ip y) packet) := by
  obtain ⟨_, -, -, hip, hrelay⟩ := h.lookup hbase64 hsync.sends haddr
  have hs : (o.runs y).relayEndpoint.or (o.runs x).relayEndpoint = some s := by
    rcases h.relays y with hy | hy
    · rcases h.relays x with hx | hx
      · exact absurd ⟨hx, hy⟩ hrelayed
      · rw [hy, hx]
        rfl
    · rw [hy]
      rfl
  rw [PeerConfig.carrier, hrelay, hs, hip]

omit [CoordCrates] in
/-- What the first call of a delivery does. -/
theorem first_flight {self : TunnelManager} {first : Flight ι} {dest : SocketAddr}
    {carrier : SocketAddr × Bytes}
    (hself : dispatchTunPacket (env 0) plaintext (o.managers x) = .ok () self)
    (hsent : self.transport.sent = (o.managers x).transport.sent ++ [carrier])
    (hrun : dispatchTunPacket (env 0) plaintext (o.managers x) = .ok () (first.managers x))
    (hsent' : (first.managers x).transport.sent =
      (o.managers x).transport.sent ++ [(dest, first.pkt)]) :
    first.managers x = self ∧ (dest, first.pkt) = carrier := by
  rw [hself] at hrun
  have hsame : self = first.managers x := by
    cases hrun
    rfl
  rw [← hsame, hsent] at hsent'
  exact ⟨hsame.symm, (List.singleton_inj.1 (List.append_cancel_left hsent')).symm⟩

/-! ## Between nodes without a relay -/

omit [CoordCrates] in
/-- A packet of the data channel goes no further than the node that it is sent to. -/
theorem no_hop_direct {net : Passing.Network ι SocketAddr} {env : Env} {flight further : Flight ι}
    (hwf : (flight.managers flight.node).WellFormed)
    (htype : flight.pkt[0]? = some messageTypeTransport) : ¬ flight.HandsOn net env further := by
  rintro ⟨dest, hhandle, hsent, -⟩
  have hrun : (handleIncoming env flight.source flight.pkt
      (flight.managers flight.node)).state? = some (further.managers flight.node) := by
    rw [hhandle]
    rfl
  rw [direct_sends_nothing hwf htype hrun] at hsent
  exact List.cons_ne_nil _ _ (List.self_eq_append_right.1 hsent)

/-- A packet between two nodes without a relay arrives exactly if the second one has its address
and finds its session by the address of the first one. -/
theorem Built.delivers_direct_iff (laws : TransportLaws) (hbase64 : Base64RoundTrip)
    (h : o.Built relay s) (hxy : x ≠ y)
    (hsync : o.InSync x y sender receiver plaintext packet)
    (haddr : Addressed plaintext (o.ip y)) (hlen : plaintext.length ≤ 1500)
    (hsend : ∀ n dest buf, (env n).sendError dest buf = none)
    (hwrite : ∀ n buf, (env n).writeError buf = none)
    (hx : (o.runs x).relayEndpoint = none) (hy : (o.runs y).relayEndpoint = none) :
    o.Delivers env x y plaintext ↔
      o.net.node sender.config.peerEndpoint = some y ∧ receiver.stale = false ∧
        ∃ idx, (o.managers y).endpointToPeer (o.net.address x) = some idx ∧
          (o.managers y).peers[idx]? = some receiver := by
  obtain ⟨htype, hsize, hopens⟩ := hsync.opens laws hlen
  obtain ⟨self, hself, hwfx, -, -, -, hsent⟩ := h.dispatched hbase64 hsync haddr hsend
  rw [h.carrier_direct hbase64 hsync haddr hx hy] at hsent
  have hne : plaintext ≠ [] := by
    rintro rfl
    exact absurd haddr.1 (by decide)
  have hwf : ∀ i, (o.managers i).WellFormed := fun i => (h.reachable i).sound.wellFormed
  constructor
  · rintro ⟨first, dest, n, last, final, hrun, hsent', hnode, hsource, hothers, hchain, hlast,
      hhandle, hwritten⟩
    obtain ⟨hmoved, hcarrier⟩ := first_flight hself hsent hrun hsent'
    obtain ⟨rfl, hpkt⟩ := Prod.mk.inj hcarrier
    have hfirst : (first.managers first.node).WellFormed := by
      by_cases hi : first.node = x
      · rw [hi, hmoved]
        exact hwfx
      · rw [hothers _ hi]
        exact hwf _
    -- The first node that the packet arrives at is the last one.
    obtain heq | ⟨_, ⟨-, hhop⟩, -⟩ := Relation.ReflTransGen.cases_head hchain
    · cases heq
      rw [hlast] at hnode
      rw [hothers y hxy.symm] at hhandle hwritten
      rw [hsource, hpkt] at hhandle
      obtain ⟨idx, peer, hmapped, hpeer, hstale, hreads⟩ := (direct_writes_iff (hwf y) (hwrite 1) hne
        htype hsize).1 ⟨final, hhandle, hwritten⟩
      cases hsync.alone peer (List.mem_of_getElem? hpeer) hreads
      exact ⟨hnode, hstale, idx, hmapped, hpeer⟩
    · exact absurd hhop (no_hop_direct hfirst (hpkt ▸ htype))
  · rintro ⟨hnode, hstale, idx, hmapped, hpeer⟩
    classical
    obtain ⟨final, hhandle, hwritten⟩ := (direct_writes_iff (hwf y) (hwrite 1) hne htype hsize).2
      ⟨idx, receiver, hmapped, hpeer, hstale, hopens⟩
    let managers := Function.update o.managers x self
    have hmoved : managers x = self := Function.update_self ..
    have hothers : ∀ i, i ≠ x → managers i = o.managers i :=
      fun i hi => Function.update_of_ne hi _ _
    refine ⟨⟨managers, y, o.net.address x, packet⟩, sender.config.peerEndpoint, 1, _, final, ?_, ?_,
      hnode, rfl, hothers, .refl, rfl, ?_, ?_⟩
    · exact hself.trans (congrArg _ hmoved.symm)
    · exact (congrArg (fun m : TunnelManager => m.transport.sent) hmoved).trans hsent
    · show (handleIncoming (env 1) (o.net.address x) packet (managers y)).state? = some final
      rw [hothers y hxy.symm]
      exact hhandle
    · show final.device.written = (managers y).device.written ++ [plaintext]
      rw [hothers y hxy.symm]
      exact hwritten

/-! ## Through the relay -/

/-- The RELAY packet on its way: no manager has a new configuration. -/
structure Carries (o : Overlay ι) (x y : ι) (packet : Bytes) (flight : Flight ι) : Prop where
  pkt : flight.pkt = Session.relayFrame (o.key x) (o.ip y) packet
  config (i : ι) : (flight.managers i).config = (o.managers i).config
  wellFormed (i : ι) : (flight.managers i).WellFormed

/-- The RELAY packet as one that is forwarded. -/
def Carries.transit {flight : Flight ι} (h : o.Carries x y packet flight) : Transit ι where
  toFlight := flight
  relay := by
    rw [h.pkt]
    rfl
  wellFormed := h.wellFormed

omit [CoordCrates] in
/-- A node that hands the RELAY packet on is not its destination, and forwards it. -/
theorem Carries.hop {env : Env} {flight further : Flight ι}
    (h : o.Carries x y packet flight) (htype : packet[0]? = some messageTypeTransport)
    (hhop : flight.HandsOn o.net env further) :
    ∃ h' : o.Carries x y packet further, Transit.ForwardsIn o.net env h.transit h'.transit := by
  obtain ⟨hrelay, -, -, hdestIp, hinner⟩ := relayFrame_header (o.key x) (o.ip y) packet
  rw [← h.pkt] at hrelay hdestIp hinner
  obtain ⟨dest, hhandle, hsent, hnode, hsource, hothers⟩ := hhop
  have hlocal : (flight.managers flight.node).config.localIp = o.ip flight.node :=
    congrArg ManagerConfig.localIp (h.config flight.node)
  have hnot : relayDest flight.pkt ≠ some (flight.managers flight.node).config.localIp := by
    intro hdest
    have hrun : (handleIncoming env flight.source flight.pkt
        (flight.managers flight.node)).state? = some (further.managers flight.node) := by
      rw [hhandle]
      rfl
    rw [relayed_sends_nothing (h.wellFormed _) hrelay hdest (hinner ▸ htype) hrun] at hsent
    exact List.cons_ne_nil _ _ (List.self_eq_append_right.1 hsent)
  obtain ⟨-, hpkt, hwf, hconfig, -⟩ :=
    handleIncoming_hop_inv (h.wellFormed _) hrelay hnot hhandle hsent
  refine ⟨⟨hpkt.trans h.pkt, fun i => ?_, fun i => ?_⟩, hnot, dest, hhandle, hsent, hnode, hsource,
    hothers⟩
  · by_cases hi : i = flight.node
    · rw [hi, hconfig, h.config]
    · rw [hothers i hi, h.config]
  · by_cases hi : i = flight.node
    · rw [hi]
      exact hwf
    · rw [hothers i hi]
      exact h.wellFormed i

omit [CoordCrates] in
/-- A chain of hops of the RELAY packet is a chain of forwards. -/
theorem Carries.chain {n m : ℕ} {flight last : Flight ι}
    (h : o.Carries x y packet flight) (htype : packet[0]? = some messageTypeTransport)
    (hchain : Relation.ReflTransGen (Flight.Hop o.net env) (n, flight) (m, last)) :
    ∃ h' : o.Carries x y packet last,
      Relation.ReflTransGen (Transit.ForwardsAt o.net env) (n, h.transit) (m, h'.transit) := by
  generalize hstart : (n, flight) = start at hchain
  induction hchain using Relation.ReflTransGen.head_induction_on generalizing n flight with
  | refl =>
      cases hstart
      exact ⟨h, .refl⟩
  | @head _ next hstep _ ih =>
      subst hstart
      obtain ⟨n', further⟩ := next
      obtain ⟨hn, hhop⟩ := hstep
      obtain ⟨hnext, hforwards⟩ := h.hop htype hhop
      obtain ⟨h', hrest⟩ := ih hnext rfl
      exact ⟨h', .head ⟨hn, hforwards⟩ hrest⟩

omit [Profile] [CoordCrates] in
/-- At the start, the nodes send the RELAY packet where they would have sent it before. -/
theorem Carries.hops {flight : Flight ι} (h : o.Carries x y packet flight)
    (hpubkeys : ∀ i, (flight.managers i).pubkeyToPeer = (o.managers i).pubkeyToPeer)
    (hroutes : ∀ i, (flight.managers i).routes = (o.managers i).routes) :
    h.transit.hops = o.hops x y := by
  funext i
  show (flight.managers i).nextHop flight.pkt = _
  rw [Overlay.hops]
  refine nextHop_congr ?_ ?_ (h.config i) (hroutes i)
  · rw [h.pkt, claimedSender_relayFrame, claimedSender_relayFrame, hpubkeys]
  · obtain ⟨-, -, -, hdest, -⟩ := relayFrame_header (o.key x) (o.ip y) packet
    obtain ⟨-, -, -, hdest', -⟩ := relayFrame_header (o.key x) (o.ip y) []
    rw [h.pkt, hdest, hdest']

omit [CoordCrates] in
/-- Where no step of a chain of forwards leaves a node, the manager of that node is as before, and
so is the packet. -/
theorem forwards_keep {target : ι} {s t : ℕ × Transit ι}
    (hchain : Relation.ReflTransGen (fun s t : ℕ × Transit ι =>
      Transit.ForwardsAt o.net env s t ∧ s.2.place.node ≠ target) s t) :
    t.2.managers target = s.2.managers target ∧ t.2.pkt = s.2.pkt := by
  induction hchain using Relation.ReflTransGen.head_induction_on with
  | refl => exact ⟨rfl, rfl⟩
  | head hstep _ ih =>
      obtain ⟨hpkt, hothers⟩ := hstep.1.2.keeps
      exact ⟨ih.1.trans (hothers target (Ne.symm hstep.2)), ih.2.trans hpkt⟩

/-- The relay drops its own RELAY packets. -/
theorem Built.not_leads_of_relay (hbase64 : Base64RoundTrip) (h : o.Built relay s) (hy : relay ≠ y)
    {source : SocketAddr} : ¬ o.net.Leads (o.hops relay y) y ∅ ⟨relay, source⟩ := by
  intro hleads
  cases hleads with
  | here harrived => exact hy harrived
  | onward _ _ hnext _ =>
      obtain ⟨dest, hhop, -, -⟩ := Passing.Network.next_eq_some.1 hnext
      obtain ⟨fromPub, _, hsender, -⟩ := nextHop_eq_some.1 hhop
      rw [claimedSender_relayFrame, Option.filter_some, h.own_key hbase64] at hsender
      cases hsender

/-- A packet that is sent to the relay arrives exactly if it does not come from the relay itself,
and its way from there leads to the other node. -/
theorem Built.delivers_relayed_iff (laws : TransportLaws) (hbase64 : Base64RoundTrip)
    (h : o.Built relay s) (hxy : x ≠ y)
    (hsync : o.InSync x y sender receiver plaintext packet)
    (haddr : Addressed plaintext (o.ip y)) (hlen : plaintext.length ≤ 1500)
    (hsend : ∀ n dest buf, (env n).sendError dest buf = none)
    (hwrite : ∀ n buf, (env n).writeError buf = none)
    (hrelayed : ¬ ((o.runs x).relayEndpoint = none ∧ (o.runs y).relayEndpoint = none)) :
    o.Delivers env x y plaintext ↔
      x ≠ relay ∧ o.net.Leads (o.hops x y) y ∅ ⟨relay, o.net.address x⟩ := by
  classical
  obtain ⟨htype, hsize, hopens⟩ := hsync.opens laws hlen
  obtain ⟨self, hself, hwfx, hconfigx, hpubkeysx, hroutesx, hsent⟩ :=
    h.dispatched hbase64 hsync haddr hsend
  rw [h.carrier_relayed hbase64 hsync haddr hrelayed] at hsent
  have hne : plaintext ≠ [] := by
    rintro rfl
    exact absurd haddr.1 (by decide)
  -- The packet at the relay, with the manager of the first node as it is after the dispatch.
  have hcarries : ∀ first : Flight ι, first.managers x = self →
      (∀ i, i ≠ x → first.managers i = o.managers i) →
      first.pkt = Session.relayFrame (o.key x) (o.ip y) packet →
      ∃ hfirst : o.Carries x y packet first, hfirst.transit.hops = o.hops x y := by
    intro first hmoved hothers hpkt
    have hsame : ∀ {α : Type} (view : TunnelManager → α), view self = view (o.managers x) →
        ∀ i, view (first.managers i) = view (o.managers i) := by
      intro α view hview i
      by_cases hi : i = x
      · rw [hi, hmoved, hview]
      · rw [hothers i hi]
    have hwf : ∀ i, (first.managers i).WellFormed := by
      intro i
      by_cases hi : i = x
      · rw [hi, hmoved]
        exact hwfx
      · rw [hothers i hi]
        exact (h.reachable i).sound.wellFormed
    have hfirst : o.Carries x y packet first :=
      ⟨hpkt, hsame TunnelManager.config hconfigx, hwf⟩
    exact ⟨hfirst, hfirst.hops (hsame TunnelManager.pubkeyToPeer hpubkeysx)
      (hsame TunnelManager.routes hroutesx)⟩
  constructor
  · rintro ⟨first, dest, n, last, final, hrun, hsent', hnode, hsource, hothers, hchain, hlast, -, -⟩
    obtain ⟨hmoved, hcarrier⟩ := first_flight hself hsent hrun hsent'
    obtain ⟨rfl, hpkt⟩ := Prod.mk.inj hcarrier
    obtain ⟨hfirst, htables⟩ := hcarries first hmoved hothers hpkt
    obtain ⟨hend, hforwards⟩ := hfirst.chain htype hchain
    have hat : first.node = relay := Option.some.inj (hnode.symm.trans h.relayReached)
    have hstart : hfirst.transit.place = ⟨relay, o.net.address x⟩ := by
      show (⟨first.node, first.source⟩ : Passing.Place ι SocketAddr) = _
      rw [hat, hsource]
    have hpassed : o.net.Passed hfirst.transit.hops ∅ hfirst.transit.hops hfirst.transit.place :=
      Passing.Network.passed_empty _ _
    have hleads : o.net.Leads hfirst.transit.hops last.node ∅ hfirst.transit.place :=
      (Transit.hands_forwardsAt hsend).leads_of_reaches hforwards hpassed (Set.notMem_empty _)
    rw [htables, hstart, hlast] at hleads
    refine ⟨?_, hleads⟩
    rintro rfl
    exact h.not_leads_of_relay hbase64 hxy hleads
  · rintro ⟨-, hleads⟩
    let managers := Function.update o.managers x self
    have hmoved : managers x = self := Function.update_self ..
    have hothers : ∀ i, i ≠ x → managers i = o.managers i :=
      fun i hi => Function.update_of_ne hi _ _
    let first : Flight ι :=
      ⟨managers, relay, o.net.address x, Session.relayFrame (o.key x) (o.ip y) packet⟩
    obtain ⟨hfirst, htables⟩ := hcarries first hmoved hothers rfl
    have hpassed : o.net.Passed hfirst.transit.hops ∅ hfirst.transit.hops hfirst.transit.place :=
      Passing.Network.passed_empty _ _
    have hleads' : o.net.Leads hfirst.transit.hops y ∅ hfirst.transit.place := by
      rw [htables]
      exact hleads
    obtain ⟨⟨n, last⟩, hchain, hlast⟩ := (Transit.hands_forwardsAt hsend).reaches_of_leads
      (s := (1, hfirst.transit)) hpassed hleads'
    obtain ⟨hkept, hpkt⟩ := forwards_keep hchain
    -- The manager of the second node has not been touched, and opens the packet.
    have hmanager : last.managers y = o.managers y := hkept.trans (hothers y hxy.symm)
    obtain ⟨idx, hidx, hpeer⟩ := hsync.receives
    have hentry := (h.reachable y).known _ _ hidx
    rw [peerKeys, List.getElem?_map, hpeer, Option.map_some] at hentry
    have hpub : receiver.config.peerPub = o.key x := Option.some.inj hentry
    obtain ⟨final, hhandle, hwritten⟩ : ∃ m, (handleIncoming (env n) last.source
        (Session.relayFrame receiver.config.peerPub (o.ip y) packet) (o.managers y)).state? =
          some m ∧ m.device.written = (o.managers y).device.written ++ [plaintext] :=
      relayed_writes (hwrite n) hne htype hsize hpeer (hpub.symm ▸ hidx) hopens
    have hflights : Relation.ReflTransGen (Flight.Hop o.net env) (1, first) (n, last.toFlight) :=
      hchain.lift (fun s : ℕ × Transit ι => (s.1, s.2.toFlight)) fun _ _ hstep =>
        ⟨hstep.1.1, hstep.1.2.2⟩
    refine ⟨first, s, n, last.toFlight, final, ?_, ?_, h.relayReached, rfl, hothers, hflights,
      hlast, ?_, ?_⟩
    · exact hself.trans (congrArg _ hmoved.symm)
    · exact (congrArg (fun m : TunnelManager => m.transport.sent) hmoved).trans hsent
    · rw [hmanager, hpkt]
      rw [hpub] at hhandle
      exact hhandle
    · rw [hmanager]
      exact hwritten

/-- A packet between two sessions in sync is delivered exactly if the managers hold what it
needs. -/
theorem delivered_iff_routed (laws : TransportLaws) (hbase64 : Base64RoundTrip) (h : o.Built relay s)
    (hxy : x ≠ y) (hsync : o.InSync x y sender receiver plaintext packet)
    (haddr : Addressed plaintext (o.ip y)) (hlen : plaintext.length ≤ 1500)
    (hsend : ∀ n dest buf, (env n).sendError dest buf = none)
    (hwrite : ∀ n buf, (env n).writeError buf = none) :
    o.Delivers env x y plaintext ↔ o.Routed relay x y sender receiver := by
  rw [Routed]
  by_cases hdirect : (o.runs x).relayEndpoint = none ∧ (o.runs y).relayEndpoint = none
  · rw [if_pos hdirect]
    exact h.delivers_direct_iff laws hbase64 hxy hsync haddr hlen hsend hwrite hdirect.1 hdirect.2
  · rw [if_neg hdirect]
    exact h.delivers_relayed_iff laws hbase64 hxy hsync haddr hlen hsend hwrite hdirect

end Overlay

end General

namespace Overlay

/-! ## A relay and the node behind it -/

section Parties

open Symbolic

attribute [local instance] Symbolic.primitives Symbolic.release Coord.Parties.crates

/-- The relay is node 1, and the other one is node 2. -/
def number (i : Bool) : UInt8 := if i then 2 else 1

/-- What the nodes are given: the second one is behind the relay. -/
def given (i : Bool) : UpArgs where
  relay := if i then some (toString (address 1)) else none
  advertiseEndpoint := none
  envAdvertiseEndpoint := some (toString (address 1))
  boundEndpoint := ⟨.v4 .unspecified, 51820⟩

/-- What the nodes run with. -/
def run (i : Bool) : Run :=
  ⟨(keypair (number i)).public, if i then some (address 1) else none, toString (address 1)⟩

/-- The rows of the nodes at the coordinator. -/
def row (i : Bool) : NodeRecord where
  nodeId := toString (number i)
  identityPubkey := (Coord.Parties.key (number i)).val
  wgPubkey := (run i).wgPublic.val
  ip := toString (nodeConfig (number i)).localIp
  lastEndpoint := some (run i).advertised
  viaRelay := (run i).viaRelay
  lastSeen := some 1000
  createdAt := 1000

/-- What each node reads from the row of the other one. -/
def configs (i : Bool) : List PeerConfig :=
  (startupPeers (run i).wgPublic (run i).relayEndpoint 0 [Mesh.entry (row !i)]).toOption.getD []

/-- The manager of a node after some events. -/
def made (i : Bool) (events : List TunnelManager.Event) : Option TunnelManager :=
  after (quietEnv 0 ⟨1000, 0⟩ 7) (nodeConfig (number i)) (configs i) events

/-- The managers once the INIT of the node behind the relay is answered. -/
def exchanged : Option (Bool → TunnelManager) := do
  let env := quietEnv 0 ⟨1000, 0⟩ 7
  let asking ← made true [.retryInit env 0]
  let ask ← asking.transport.sent.getLast?
  let relay ← made false [.incoming env (address 2) ask.2]
  let answer ← relay.transport.sent.getLast?
  let behind ← made true [.retryInit env 0, .incoming env (address 1) answer.2]
  some fun i => if i then behind else relay

/-- The nodes with their managers. -/
def between (managers : Bool → TunnelManager) : Overlay Bool := ⟨Transit.pair, managers, run, row⟩

/-- An IPv4 packet for a node. -/
def packetTo (i : Bool) : Bytes :=
  69 :: List.replicate 15 0 ++ [100, 100, 0, number i]

/-- The manager of a node is configured for the other one. -/
def IsMade (managers : Bool → TunnelManager) (i : Bool) : Bool :=
  decide ((managers i).config.localKeypair = keypair (number i)) &&
    decide ((managers i).config.localIp = (nodeConfig (number i)).localIp) &&
    ((managers i).peers.all fun peer => (configs i).any fun config =>
      decide (peer.config = { config with peerEndpoint := peer.config.peerEndpoint })) &&
    decide (managers i).peerKeys.Nodup

/-- The session of a node is in sync with that of the other one. -/
def IsSynced (managers : Bool → TunnelManager) (i : Bool) : Bool :=
  match (managers i).peers, (managers !i).peers with
  | [sender], [receiver] =>
      match sender.state, receiver.state with
      | .ready transport sid _, .ready transport' _ _ =>
          (Transport.encrypt (packetTo !i) sid 1600 transport).okAnd (fun _ _ => true) &&
            decide (directionKey transport.inner (Channel.isInitiator transport.inner) =
              directionKey transport'.inner !(Channel.isInitiator transport'.inner)) &&
            decide (sendingNonce transport.inner = receivingNonce transport'.inner) &&
            decide ((managers i).pubkeyToPeer (run !i).wgPublic = some 0) &&
            decide ((managers !i).pubkeyToPeer (run i).wgPublic = some 0)
      | _, _ => false
  | _, _ => false

theorem reachable_of_exchanged {managers : Bool → TunnelManager} (h : exchanged = some managers)
    (i : Bool) : (managers i).Reachable := by
  simp only [exchanged, bind, Option.bind_eq_some_iff, Option.some.injEq] at h
  obtain ⟨_, -, _, -, relay, hrelay, _, -, behind, hbehind, rfl⟩ := h
  cases i with
  | false => exact reachable_of_after hrelay
  | true => exact reachable_of_after hbehind

theorem started (i : Bool) : Run.start (run i).wgPublic (given i) = .ok (run i) := by
  cases i <;> simp [Run.start, parseRelay, parseAddr, given, run, advertised,
    SocketAddr.parse_toString] <;> rfl

theorem startup (i : Bool) :
    startupPeers (run i).wgPublic (run i).relayEndpoint 0 [Mesh.entry (row !i)] =
      .ok (configs i) := by
  have hok : ∀ i, (startupPeers (run i).wgPublic (run i).relayEndpoint 0
      [Mesh.entry (row !i)]).toOption.isSome = true := by
    decide +kernel
  specialize hok i
  rw [configs]
  cases hresult : startupPeers (run i).wgPublic (run i).relayEndpoint 0 [Mesh.entry (row !i)] with
  | error e =>
      rw [hresult] at hok
      cases hok
  | ok result => rfl

/-- What was evaluated about the managers makes them built. -/
theorem built {managers : Bool → TunnelManager} (h : exchanged = some managers)
    (hmade : ∀ i, IsMade managers i = true) : (between managers).Built false (address 1) := by
  simp only [IsMade, Bool.and_eq_true, decide_eq_true_eq] at hmade
  have hkeypair i := (hmade i).1.1.1
  have hip i := (hmade i).1.1.2
  have hconfigs i := (hmade i).1.2
  exact {
    started := fun i => ⟨given i, started i⟩
    reachable := reachable_of_exchanged h
    localKey := fun i => congrArg Keypair.public (hkeypair i)
    rowKey := fun _ => rfl
    rowIp := fun i => congrArg toString (hip i).symm
    rowEndpoint := fun _ => rfl
    rowRelay := fun _ => rfl
    keys := by
      show Function.Injective fun i => (run i).wgPublic
      decide +kernel
    ips := by
      have hsame : (between managers).ip = fun i => (nodeConfig (number i)).localIp := funext hip
      rw [hsame]
      decide +kernel
    relays := by
      intro i
      cases i with
      | false => exact .inl rfl
      | true => exact .inr rfl
    relayDirect := rfl
    relayAdvertised := rfl
    relayReached := by
      show Transit.pair.node (address 1) = some false
      decide +kernel
    configured := by
      intro i peer hpeer
      obtain ⟨config, hconfig, hsame⟩ := List.any_eq_true.1 (List.all_eq_true.1 (hconfigs i) peer hpeer)
      refine ⟨[Mesh.entry (row !i)], config, ?_, .inl ⟨configs i, startup i, hconfig⟩,
        of_decide_eq_true hsame⟩
      intro entry hentry
      exact ⟨!i, Bool.not_ne_self i, List.mem_singleton.1 hentry⟩
    apart := fun i => (hmade i).2 }

/-- What was evaluated about the sessions brings them in sync. -/
theorem synced {managers : Bool → TunnelManager} {x : Bool} (h : IsSynced managers x = true) :
    ∃ sender receiver packet,
      (between managers).InSync x (!x) sender receiver (packetTo !x) packet := by
  rw [IsSynced] at h
  split at h
  · rename_i sender receiver hsender hreceiver
    split at h
    · rename_i transport sid rehandshake transport' sid' rehandshake' hstate hstate'
      simp only [Bool.and_eq_true, decide_eq_true_eq] at h
      obtain ⟨⟨⟨⟨hencrypt, hkey⟩, hnonce⟩, hfor⟩, hfor'⟩ := h
      obtain ⟨packet, next, hencrypt, -⟩ := Outcome.okAnd_iff.1 hencrypt
      refine ⟨sender, receiver, packet, ⟨0, hfor, ?_⟩, ⟨0, hfor', ?_⟩,
        ⟨transport, sid, rehandshake, next, transport', sid', rehandshake', hstate, hstate',
          hencrypt, hkey, hnonce⟩, ?_⟩
      · show (managers x).peers[0]? = some sender
        rw [hsender]
        rfl
      · show (managers !x).peers[0]? = some receiver
        rw [hreceiver]
        rfl
      · intro peer hpeer _
        rw [show (between managers).managers (!x) = managers !x from rfl, hreceiver] at hpeer
        exact List.mem_singleton.1 hpeer
    · cases h
  · cases h

/-- Two nodes with sessions in sync, one of them behind the other one, which has learned its
address. -/
theorem exists_overlay : ∃ o : Overlay Bool, o.Built false (address 1) ∧
    (∀ i, o.ip i = (nodeConfig (number i)).localIp) ∧
    (∀ x, ∃ sender receiver packet, o.InSync x (!x) sender receiver (packetTo !x) packet) ∧
    (o.runs true).relayEndpoint = some (address 1) ∧ o.net.node (address 2) = some true ∧
    (o.managers false).routes.hop (o.ip true) = some (address 2) := by
  have hcheck : exchanged.any (fun managers => decide (∀ i, IsMade managers i = true) &&
      decide (∀ i, IsSynced managers i = true) &&
      decide ((managers false).routes.hop ⟨100, 100, 0, 2⟩ = some (address 2))) = true := by
    decide +kernel
  obtain ⟨managers, hmanagers, hcheck⟩ := (Option.any_eq_true _ _).1 hcheck
  simp only [Bool.and_eq_true, decide_eq_true_eq] at hcheck
  obtain ⟨⟨hmade, hsynced⟩, hlearned⟩ := hcheck
  have hip : ∀ i, (managers i).config.localIp = (nodeConfig (number i)).localIp := by
    intro i
    have hmade := hmade i
    simp only [IsMade, Bool.and_eq_true, decide_eq_true_eq] at hmade
    exact hmade.1.1.2
  refine ⟨between managers, built hmanagers hmade, hip, fun x => synced (hsynced x), rfl, ?_, ?_⟩
  · show Transit.pair.node (address 2) = some true
    decide +kernel
  · exact (congrArg (managers false).routes.hop (hip true)).trans hlearned

theorem addressed_packetTo (i : Bool) :
    Addressed (packetTo i) (nodeConfig (number i)).localIp :=
  ⟨le_rfl, ⟨69, rfl, by decide⟩, rfl, rfl, rfl, rfl⟩

/-- A packet from the node behind the relay to the relay is delivered. -/
theorem delivered_to_relay :
    ∃ o : Overlay Bool, o.Built false (address 1) ∧ ∃ plaintext,
      Addressed plaintext (o.ip false) ∧
        o.Delivers (fun _ => quietEnv 0 ⟨1000, 0⟩ 7) true false plaintext := by
  obtain ⟨o, hbuilt, hip, hsync, hrelay, -, -⟩ := exists_overlay
  obtain ⟨sender, receiver, packet, hsync⟩ := hsync true
  have haddr : Addressed (packetTo false) (o.ip false) := hip false ▸ addressed_packetTo false
  refine ⟨o, hbuilt, packetTo false, haddr, ?_⟩
  refine (delivered_iff_routed transport_laws Mesh.base64RoundTrip hbuilt (by decide) hsync haddr
    (by decide) (fun _ _ _ => rfl) fun _ _ => rfl).2 ?_
  rw [Routed, if_neg fun hdirect => Option.some_ne_none _ (hrelay.symm.trans hdirect.1)]
  exact ⟨by decide, .here rfl⟩

/-- The relay itself cannot reach the node behind it, although it has learned its address. -/
theorem relay_cannot_send :
    ∃ o : Overlay Bool, o.Built false (address 1) ∧ ∃ sender receiver packet,
      o.InSync false true sender receiver (packetTo true) packet ∧
        Addressed (packetTo true) (o.ip true) ∧
        (o.managers false).routes.hop (o.ip true) = some (address 2) ∧
        o.net.node (address 2) = some true ∧
        ¬ o.Delivers (fun _ => quietEnv 0 ⟨1000, 0⟩ 7) false true (packetTo true) := by
  obtain ⟨o, hbuilt, hip, hsync, hrelay, hnode, hlearned⟩ := exists_overlay
  obtain ⟨sender, receiver, packet, hsync⟩ := hsync false
  have haddr : Addressed (packetTo true) (o.ip true) := hip true ▸ addressed_packetTo true
  refine ⟨o, hbuilt, sender, receiver, packet, hsync, haddr, hlearned, hnode, ?_⟩
  intro hdelivers
  have hrelayed : ¬ ((o.runs false).relayEndpoint = none ∧ (o.runs true).relayEndpoint = none) :=
    fun hdirect => Option.some_ne_none _ (hrelay.symm.trans hdirect.2)
  exact ((hbuilt.delivers_relayed_iff transport_laws Mesh.base64RoundTrip (by decide) hsync haddr
    (by decide) (fun _ _ _ => rfl) (fun _ _ => rfl) hrelayed).1 hdelivers).1 rfl

end Parties

end Overlay

end Naboscale.Cli
