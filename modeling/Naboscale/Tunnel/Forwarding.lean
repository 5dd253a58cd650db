import Naboscale.Passing
import Naboscale.Tunnel.Parties
import Naboscale.Tunnel.Routes

/-!
# Relay forwarding

A RELAY packet that is not for the node it arrives at is sent on, and the node that it is sent to
handles it in the same way. `nextHop` says where a manager sends it, and `Transit` is the packet on
its way between managers. Nothing in the packet counts the hops.
-/

namespace Naboscale

open Rust Method

section General

variable [Profile] [Primitives]

omit [Profile] [Primitives] in
/-- The address at which the peer with a mesh address is reached: what was learned about it, else
its stored endpoint. -/
def Routes.hop (r : Routes) (destIp : Ipv4Addr) : Option SocketAddr :=
  (r.configs.find? fun config => config.peerIp = destIp).map fun config =>
    (r.learnedEndpoints config.peerPub).getD config.peerEndpoint

namespace TunnelManager

/-- The address to which a manager sends a RELAY packet on that comes from `source`. -/
def nextHop (self : TunnelManager) (pkt : Bytes) (source : SocketAddr) : Option SocketAddr := do
  let _ ← self.claimedSender pkt
  let destIp ← relayDest pkt
  if destIp = self.config.localIp then none else (self.reroute source pkt).hop destIp

variable {self self' : TunnelManager} {env : Env} {source dest : SocketAddr} {pkt out : Bytes}
  {fromPub : Key}

/-! ## One hop -/

omit [Profile] in
theorem relayHeader_of_claimed (hsender : self.claimedSender pkt = some fromPub) :
    pkt[0]? = some messageTypeRelay ∧ relayHeaderSize ≤ pkt.length := by
  by_contra hnot
  rw [claimedSender_none hnot] at hsender
  cases hsender

/-- A RELAY packet that names no peer as sender, or whose header is cut off, is dropped. -/
theorem handleIncoming_unclaimed (htype : pkt[0]? = some messageTypeRelay)
    (hsender : self.claimedSender pkt = none) :
    handleIncoming env source pkt self = .ok () self := by
  rw [handleIncoming_relay htype]
  by_cases hlen : pkt.length < relayHeaderSize
  · rw [if_pos hlen]
    rfl
  · obtain ⟨hkey, hfrom⟩ := relayFrom_eq (not_lt.1 hlen)
    rw [claimedSender_relay htype (not_lt.1 hlen), hfrom, Option.filter_some] at hsender
    have hunknown : self.pubkeyToPeer ⟨sub pkt 1 33, hkey⟩ = none := by
      by_contra hsome
      rw [if_pos (Option.isSome_iff_ne_none.2 hsome)] at hsender
      cases hsender
    rw [if_neg hlen, hfrom, Option.bind_some, hunknown]
    rfl

/-- A RELAY packet that names a peer as sender is noted, and then taken in or sent on. -/
theorem handleIncoming_claimed (env : Env) (source : SocketAddr) (hwf : self.WellFormed)
    (hsender : self.claimedSender pkt = some fromPub) :
    ∃ idx noted destIp, relayDest pkt = some destIp ∧ self.pubkeyToPeer fromPub = some idx ∧
      noted.WellFormed ∧ noted.config = self.config ∧ noted.pubkeyToPeer = self.pubkeyToPeer ∧
      noted.transport = self.transport ∧ noted.routes = self.reroute source pkt ∧
      handleIncoming env source pkt self =
        (if destIp = self.config.localIp then
          handleRelayed env idx source (sub pkt relayHeaderSize pkt.length)
        else forwardRelay env destIp pkt) noted := by
  obtain ⟨htype, hlen⟩ := relayHeader_of_claimed hsender
  have hfilter := hsender
  rw [claimedSender_relay htype hlen] at hfilter
  obtain ⟨hfrom, hknown⟩ := Option.filter_eq_some_iff.1 hfilter
  obtain ⟨idx, hidx⟩ := Option.isSome_iff_exists.1 hknown
  have hpeer := List.getElem?_eq_getElem (hwf.pubkeys hidx)
  obtain ⟨noted, hnoted, htouch⟩ := noteRelay_eq env source fromPub hpeer
  obtain ⟨hconfig, -, hpubkeys, htransport⟩ := hnoted.fields
  have hroutes : noted.routes = self.reroute source pkt := by
    have hstate : (touch env idx (learnEndpoint source fromPub self)).state? = some noted := by
      rw [htouch]
      rfl
    rw [← learnEndpoint_routes hsender]
    exact (keepsRoutes_touch idx).state hstate
  have hstill : noted.pubkeyToPeer fromPub = some idx := hpubkeys ▸ hidx
  obtain ⟨destIp, hdestIp, hrelay⟩ :
      ∃ destIp, relayDest pkt = some destIp ∧ handleRelay env source pkt noted = _ :=
    handleRelay_eq hlen hfrom hstill
  refine ⟨idx, noted, destIp, hdestIp, hidx, hnoted.wellFormed hpeer hwf, hconfig, hpubkeys,
    htransport, hroutes, ?_⟩
  rw [handleIncoming_relay htype, if_neg (not_lt.2 hlen), hfrom, Option.bind_some, hidx]
  simp only [Option.getD_some]
  rw [bind_ok (modify_apply _ _), bind_ok htouch, hrelay, hconfig]

omit [Profile] in
/-- `forward_relay` looks the next address up in the routes. -/
theorem forwardRelay_hop (destIp : Ipv4Addr) :
    forwardRelay env destIp pkt self =
      (match self.routes.hop destIp with
      | none => Method.fail (.invalidConfig ("relay dest " ++ toString destIp ++ " not a known peer"))
      | some dest => sendTo env dest pkt : Method TunnelManager TunnelError Unit) self := by
  rw [forwardRelay, bind_ok (get_apply self), Routes.hop, routes, List.find?_map, Option.map_map]
  cases hfind : self.peers.find? fun peer => peer.config.peerIp = destIp with
  | none =>
      have hnone : self.peers.find?
          ((fun config : PeerConfig => decide (config.peerIp = destIp)) ∘ PeerSession.config) =
            none := hfind
      rw [hnone]
      rfl
  | some peer =>
      have hsome : self.peers.find?
          ((fun config : PeerConfig => decide (config.peerIp = destIp)) ∘ PeerSession.config) =
            some peer := hfind
      rw [hsome]
      rfl

omit [Profile] in
theorem nextHop_eq_some : self.nextHop pkt source = some dest ↔
    ∃ fromPub destIp, self.claimedSender pkt = some fromPub ∧ relayDest pkt = some destIp ∧
      destIp ≠ self.config.localIp ∧ (self.reroute source pkt).hop destIp = some dest := by
  simp only [nextHop, Option.bind_eq_bind, Option.bind_eq_some_iff, Option.ite_none_left_eq_some]
  constructor
  · rintro ⟨fromPub, hsender, destIp, hdest, hlocal, hhop⟩
    exact ⟨fromPub, destIp, hsender, hdest, hlocal, hhop⟩
  · rintro ⟨fromPub, destIp, hsender, hdest, hlocal, hhop⟩
    exact ⟨fromPub, hsender, destIp, hdest, hlocal, hhop⟩

/-- A RELAY packet for another node that names a peer as sender goes through the routes. -/
theorem handleIncoming_onward (env : Env) (source : SocketAddr) (hwf : self.WellFormed)
    (hsender : self.claimedSender pkt = some fromPub)
    (hdest : relayDest pkt ≠ some self.config.localIp) :
    ∃ noted, noted.WellFormed ∧ noted.config = self.config ∧
      noted.pubkeyToPeer = self.pubkeyToPeer ∧ noted.transport = self.transport ∧
      noted.routes = self.reroute source pkt ∧
      handleIncoming env source pkt self =
        (match self.nextHop pkt source with
        | none =>
            Method.fail (.invalidConfig
              ("relay dest " ++ ((relayDest pkt).map toString).getD "" ++ " not a known peer"))
        | some dest => sendTo env dest pkt : Method TunnelManager TunnelError Unit) noted := by
  obtain ⟨idx, noted, destIp, hdestIp, -, hwf', hconfig, hpubkeys, htransport, hroutes, heq⟩ :=
    handleIncoming_claimed env source hwf hsender
  refine ⟨noted, hwf', hconfig, hpubkeys, htransport, hroutes, ?_⟩
  rw [hdestIp] at hdest
  have hother : destIp ≠ self.config.localIp := fun h => hdest (congrArg some h)
  have hnext : self.nextHop pkt source = (self.reroute source pkt).hop destIp := by
    simp [nextHop, hsender, hdestIp, hother]
  rw [heq, if_neg hother, forwardRelay_hop, hroutes, hnext, hdestIp]
  rfl

omit [Profile] in
/-- What a known sender's RELAY packet does to the routes. -/
theorem reroute_claimed (hsender : self.claimedSender pkt = some fromPub) :
    self.reroute source pkt =
      if self.endpointToPeer source = none then self.routes.learn fromPub source
      else self.routes := by
  cases hknown : self.endpointToPeer source with
  | some idx => rw [reroute_known hknown, if_neg (by nofun)]
  | none =>
      rw [if_pos rfl, reroute, hknown, hsender]

omit [Profile] in
/-- The next hop depends on the header of the packet, the routes and the known senders. -/
theorem nextHop_congr {pkt' : Bytes} (hsender : self'.claimedSender pkt' = self.claimedSender pkt)
    (hdest : relayDest pkt' = relayDest pkt) (hconfig : self'.config = self.config)
    (hroutes : self'.routes = self.routes) : self'.nextHop pkt' = self.nextHop pkt := by
  funext source
  rw [nextHop, nextHop, hsender, hdest, hconfig]
  cases hclaimed : self.claimedSender pkt with
  | none => rfl
  | some fromPub =>
      have hmaps : self'.endpointToPeer = self.endpointToPeer :=
        congrArg Routes.endpointToPeer hroutes
      rw [reroute_claimed (hsender.trans hclaimed), reroute_claimed hclaimed, hroutes, hmaps]

omit [Profile] in
theorem claimedSender_relayFrame (self : TunnelManager) (fromPub : Key) (destIp : Ipv4Addr)
    (inner : Bytes) : self.claimedSender (Session.relayFrame fromPub destIp inner) =
      (some fromPub).filter fun key => (self.pubkeyToPeer key).isSome := by
  obtain ⟨htype, hlen, hfrom, -, -⟩ := relayFrame_header fromPub destIp inner
  rw [claimedSender_relay htype hlen, hfrom]

omit [Profile] in
theorem sendTo_eq (hsend : env.sendError dest pkt = none) :
    sendTo env dest pkt self =
      .ok () { self with transport := ⟨self.transport.sent ++ [(dest, pkt)]⟩ } := by
  rw [sendTo, zoom, UdpTransport.sendTo, hsend]
  rfl

omit [Profile] in
theorem sendTo_inv (h : sendTo env dest pkt self = .ok () self') :
    self' = { self with transport := ⟨self.transport.sent ++ [(dest, pkt)]⟩ } := by
  rw [sendTo, zoom, UdpTransport.sendTo] at h
  cases hsend : env.sendError dest pkt with
  | none =>
      rw [hsend] at h
      cases h
      rfl
  | some e =>
      rw [hsend] at h
      cases h

/-- A packet with a next hop is sent there if the network takes it. -/
theorem handleIncoming_hop (hwf : self.WellFormed) (hhop : self.nextHop pkt source = some dest)
    (hsend : env.sendError dest pkt = none) :
    ∃ self', self'.WellFormed ∧ handleIncoming env source pkt self = .ok () self' ∧
      self'.transport.sent = self.transport.sent ++ [(dest, pkt)] := by
  obtain ⟨fromPub, destIp, hsender, hdestIp, hother, -⟩ := nextHop_eq_some.1 hhop
  have hdest : relayDest pkt ≠ some self.config.localIp := by
    rw [hdestIp]
    exact fun h => hother (Option.some.inj h)
  obtain ⟨noted, hwf', -, -, htransport, -, heq⟩ :=
    handleIncoming_onward env source hwf hsender hdest
  refine ⟨{ noted with transport := ⟨noted.transport.sent ++ [(dest, pkt)]⟩ },
    ⟨hwf'.endpoints, hwf'.pubkeys⟩, ?_, by rw [htransport]⟩
  rw [heq, hhop]
  exact sendTo_eq hsend

/-- What a node that is not its destination sends when it handles a RELAY packet is that packet,
to the next hop. -/
theorem handleIncoming_hop_inv (hwf : self.WellFormed) (htype : pkt[0]? = some messageTypeRelay)
    (hdest : relayDest pkt ≠ some self.config.localIp)
    (h : handleIncoming env source pkt self = .ok () self')
    (hsent : self'.transport.sent = self.transport.sent ++ [(dest, out)]) :
    self.nextHop pkt source = some dest ∧ out = pkt ∧ self'.WellFormed ∧
      self'.config = self.config ∧ self'.pubkeyToPeer = self.pubkeyToPeer ∧
      self'.routes = self.reroute source pkt := by
  cases hsender : self.claimedSender pkt with
  | some fromPub =>
      obtain ⟨noted, hwf', hconfig, hpubkeys, htransport, hroutes, heq⟩ :=
        handleIncoming_onward env source hwf hsender hdest
      rw [heq] at h
      cases hhop : self.nextHop pkt source with
      | none =>
          rw [hhop] at h
          cases h
      | some next =>
          rw [hhop] at h
          cases sendTo_inv h
          have hlast : (next, pkt) = (dest, out) := by
            rw [htransport] at hsent
            simpa using List.append_cancel_left hsent
          cases hlast
          exact ⟨rfl, rfl, ⟨hwf'.endpoints, hwf'.pubkeys⟩, hconfig, hpubkeys, hroutes⟩
  | none =>
      have hdropped : handleIncoming env source pkt self = .ok () self :=
        handleIncoming_unclaimed htype hsender
      rw [hdropped] at h
      cases h
      have hlen := congrArg List.length hsent
      rw [List.length_append, List.length_singleton] at hlen
      omega

omit [Profile] in
/-- A manager that has sent a packet on sends it the same way again, or back where it comes from. -/
theorem nextHop_again (hhop : self.nextHop pkt source = some dest)
    (hconfig : self'.config = self.config) (hpubkeys : self'.pubkeyToPeer = self.pubkeyToPeer)
    (hroutes : self'.routes = self.reroute source pkt) (again : SocketAddr) :
    self'.nextHop pkt again = some dest ∨ self'.nextHop pkt again = some again := by
  obtain ⟨fromPub, destIp, hsender, hdestIp, hother, hfirst⟩ := nextHop_eq_some.1 hhop
  have hsender' : self'.claimedSender pkt = some fromPub := by
    rw [claimedSender, hpubkeys]
    exact hsender
  have hnext : self'.nextHop pkt again = (self'.reroute again pkt).hop destIp := by
    simp [nextHop, hsender', hdestIp, hconfig, hother]
  rw [hnext]
  cases hknown : self'.endpointToPeer again with
  | some idx =>
      rw [reroute_known hknown, hroutes]
      exact Or.inl hfirst
  | none =>
      have hlearn : self'.reroute again pkt = (self.reroute source pkt).learn fromPub again := by
        rw [reroute, hknown, hsender', hroutes]
      rw [hlearn]
      obtain ⟨config, hfind, hdest⟩ := Option.map_eq_some_iff.1 hfirst
      have hfind' : ((self.reroute source pkt).learn fromPub again).configs.find?
          (fun config => config.peerIp = destIp) = some config := hfind
      rw [Routes.hop, hfind', Option.map_some]
      by_cases hpub : config.peerPub = fromPub
      · -- The destination is the sender, and the source is what was learned about it.
        have hlearned : ((self.reroute source pkt).learn fromPub again).learnedEndpoints
            config.peerPub = some again := by
          rw [hpub]
          exact Function.update_self ..
        rw [hlearned]
        exact Or.inr rfl
      · have hkept : ((self.reroute source pkt).learn fromPub again).learnedEndpoints
            config.peerPub = (self.reroute source pkt).learnedEndpoints config.peerPub :=
          Function.update_of_ne hpub _ _
        rw [hkept]
        exact Or.inl (congrArg some hdest)

end TunnelManager

/-! ## Between managers -/

/-- A datagram at a node, from an address, and the managers of all nodes. -/
structure Flight (ι : Type) where
  managers : ι → TunnelManager
  node : ι
  source : SocketAddr
  pkt : Bytes

/-- A node handles the datagram, and what it sends reaches the next node. -/
def Flight.HandsOn {ι : Type} (net : Passing.Network ι SocketAddr) (env : Env)
    (flight further : Flight ι) : Prop :=
  ∃ dest,
    TunnelManager.handleIncoming env flight.source flight.pkt (flight.managers flight.node) =
      .ok () (further.managers flight.node) ∧
    (further.managers flight.node).transport.sent =
      (flight.managers flight.node).transport.sent ++ [(dest, further.pkt)] ∧
    net.node dest = some further.node ∧ further.source = net.address flight.node ∧
    ∀ i, i ≠ flight.node → further.managers i = flight.managers i

/-- One node after another handles a datagram, in a sequence of environments. -/
def Flight.Hop {ι : Type} (net : Passing.Network ι SocketAddr) (env : ℕ → Env)
    (s t : ℕ × Flight ι) : Prop :=
  t.1 = s.1 + 1 ∧ s.2.HandsOn net (env s.1) t.2

/-- A RELAY packet on its way between managers. -/
structure Transit (ι : Type) extends Flight ι where
  relay : pkt[0]? = some messageTypeRelay
  wellFormed (i : ι) : (managers i).WellFormed

namespace Transit

variable {ι : Type}

/-- A node that is not the destination hands the packet on. -/
def ForwardsIn (net : Passing.Network ι SocketAddr) (env : Env) (transit further : Transit ι) :
    Prop :=
  relayDest transit.pkt ≠ some (transit.managers transit.node).config.localIp ∧
    transit.toFlight.HandsOn net env further.toFlight

/-- One forward. -/
def Forwards (net : Passing.Network ι SocketAddr) (transit further : Transit ι) : Prop :=
  ∃ env, ForwardsIn net env transit further

/-- The chain of forwards of the packet is finite. -/
def Terminates (net : Passing.Network ι SocketAddr) (transit : Transit ι) : Prop :=
  ¬ ∃ chain : ℕ → Transit ι, chain 0 = transit ∧ ∀ n, Forwards net (chain n) (chain (n + 1))

/-- Where the nodes send the packet. -/
def hops (transit : Transit ι) : Passing.Tables ι SocketAddr :=
  fun i => (transit.managers i).nextHop transit.pkt

/-- Where the packet is. -/
def place (transit : Transit ι) : Passing.Place ι SocketAddr := ⟨transit.node, transit.source⟩

variable {net : Passing.Network ι SocketAddr} {transit further : Transit ι} {env : Env}

/-- A forward leaves the packet as it is, and the managers of the other nodes. -/
theorem ForwardsIn.keeps (h : ForwardsIn net env transit further) :
    further.pkt = transit.pkt ∧
      ∀ i, i ≠ transit.node → further.managers i = transit.managers i := by
  obtain ⟨hdest, dest, hhandle, hsent, -, -, hothers⟩ := h
  obtain ⟨-, hpkt, -⟩ := TunnelManager.handleIncoming_hop_inv
    (transit.wellFormed transit.node) transit.relay hdest hhandle hsent
  exact ⟨hpkt, hothers⟩

/-- A forward goes to the next hop. -/
theorem ForwardsIn.passes (h : ForwardsIn net env transit further) :
    net.Passes transit.hops transit.place further.hops further.place := by
  obtain ⟨hdest, dest, hhandle, hsent, hnode, hsource, hothers⟩ := h
  obtain ⟨hhop, hpkt, -, hconfig, hpubkeys, hroutes⟩ :=
    TunnelManager.handleIncoming_hop_inv (transit.wellFormed transit.node) transit.relay hdest
      hhandle hsent
  refine ⟨Passing.Network.next_eq_some.2 ⟨dest, hhop, hnode, hsource⟩, fun {i} hi => ?_, ?_⟩
  · rw [hops, hops, hothers i hi, hpkt]
  · intro again
    rw [hops, hops, hpkt, place, hhop]
    exact TunnelManager.nextHop_again hhop hconfig hpubkeys hroutes again

/-- Where the next hop is a node, the packet can be forwarded. -/
theorem exists_forwardsIn (henv : ∀ dest pkt, env.sendError dest pkt = none)
    {onward : Passing.Place ι SocketAddr}
    (h : net.next transit.hops transit.place = some onward) :
    ∃ further, ForwardsIn net env transit further := by
  classical
  obtain ⟨dest, hhop, hnode, -⟩ := Passing.Network.next_eq_some.1 h
  have hwf := transit.wellFormed transit.node
  have hnext : (transit.managers transit.node).nextHop transit.pkt transit.source = some dest :=
    hhop
  obtain ⟨self, hself, hhandle, hsent⟩ :=
    TunnelManager.handleIncoming_hop hwf hnext (henv dest transit.pkt)
  obtain ⟨_, destIp, _, hdestIp, hother, _⟩ := TunnelManager.nextHop_eq_some.1 hnext
  let managers := Function.update transit.managers transit.node self
  have hmoved : managers transit.node = self := Function.update_self ..
  have hkept : ∀ i, i ≠ transit.node → managers i = transit.managers i :=
    fun i hi => Function.update_of_ne hi _ _
  have hwf' : ∀ i, (managers i).WellFormed := by
    intro i
    by_cases hi : i = transit.node
    · rw [hi, hmoved]
      exact hself
    · rw [hkept i hi]
      exact transit.wellFormed i
  refine ⟨⟨⟨managers, onward.node, net.address transit.node, transit.pkt⟩, transit.relay, hwf'⟩,
    ?_, dest, ?_, ?_, hnode, rfl, hkept⟩
  · rw [hdestIp]
    exact fun h => hother (Option.some.inj h)
  · exact hhandle.trans (congrArg _ hmoved.symm)
  · exact (congrArg (fun m : TunnelManager => m.transport.sent) hmoved).trans hsent

/-- Forwards in a sequence of environments. -/
def ForwardsAt (net : Passing.Network ι SocketAddr) (env : ℕ → Env) (s t : ℕ × Transit ι) : Prop :=
  t.1 = s.1 + 1 ∧ ForwardsIn net (env s.1) s.2 t.2

/-- In environments in which the network takes every datagram, the packet is handed on along the
tables of next hops. -/
theorem hands_forwardsAt {env : ℕ → Env} (henv : ∀ n dest pkt, (env n).sendError dest pkt = none) :
    net.Hands (ForwardsAt net env) (fun s => s.2.hops) (fun s => s.2.place) := by
  refine ⟨fun h => h.2.passes, fun {s _} h => ?_⟩
  obtain ⟨further, hforwards⟩ := exists_forwardsIn (henv s.1) h
  exact ⟨(s.1 + 1, further), rfl, hforwards⟩

/-- An environment in which the network takes every datagram. -/
def lossless (rng : Ephemeral) : Env where
  now := 0
  tai := ⟨0, 0⟩
  ephemeral := fun _ => rng
  cookieSecret := Arr.zeros 32
  sendError := fun _ _ => none
  writeError := fun _ => none

/-- The chain of forwards is a packet that is handed on along the tables of next hops. -/
theorem hands_forwards (net : Passing.Network ι SocketAddr) (rng : Ephemeral) :
    net.Hands (Forwards net) hops place := by
  refine ⟨fun ⟨_, h⟩ => h.passes, fun {transit _} h => ?_⟩
  have hforwards : ∃ further, ForwardsIn net (lossless rng) transit further :=
    exists_forwardsIn (fun _ _ => rfl) h
  obtain ⟨further, hforwards⟩ := hforwards
  exact ⟨further, lossless rng, hforwards⟩

/-- The chain of forwards of a RELAY packet is finite exactly when the way from hop to hop, by what
the managers know before the packet arrives, does not lead back to a node that it has passed. -/
theorem terminates_iff [Finite ι] [hrng : Nonempty Ephemeral]
    (net : Passing.Network ι SocketAddr) (transit : Transit ι) :
    transit.Terminates net ↔ ¬ net.Returns transit.hops ∅ transit.place := by
  obtain ⟨rng⟩ := hrng
  exact not_congr (hands_forwards net rng).endless_iff

end Transit

end General

namespace Transit

section Symbolic

open Symbolic TunnelManager

attribute [local instance] Symbolic.primitives Symbolic.release

/-- A RELAY packet from one node to another one. -/
def relayed (sender receiver : UInt8) : Bytes :=
  Session.relayFrame (publicKey (key sender)) ⟨100, 100, 0, receiver⟩ [messageTypeTransport]

/-- One node behind its own address. -/
def alone : Passing.Network Unit SocketAddr where
  address := fun _ => address 1
  node := fun addr => if addr = address 1 then some () else none
  node_address := fun _ => if_pos rfl

/-- A node that has its own address as the endpoint of the destination sends the packet to itself
forever. -/
theorem own_address_endless :
    ∃ transit : Transit Unit, (∀ i, (transit.managers i).Reachable) ∧
      ¬ transit.Terminates alone := by
  have hrun : (after (quietEnv 0 ⟨1000, 0⟩ 7) (nodeConfig 1)
      [{ sessionWith 2 false with peerEndpoint := address 1 }, sessionWith 3 false] []).any
      (fun self => decide (self.nextHop (relayed 3 2) (address 3) = some (address 1))) = true := by
    decide +kernel
  obtain ⟨start, self, hnew, hrun, hcheck⟩ := of_after hrun
  have hreachable := reachable_of_run hnew hrun
  let transit : Transit Unit :=
    ⟨⟨fun _ => self, (), address 3, relayed 3 2⟩, rfl, fun _ => hreachable.sound.wellFormed⟩
  refine ⟨transit, fun _ => hreachable, fun hends => hends ?_⟩
  have hnext : alone.next transit.hops transit.place = some ⟨(), address 1⟩ :=
    Passing.Network.next_eq_some.2 ⟨address 1, of_decide_eq_true hcheck,
      alone.node_address (), rfl⟩
  have hreturns : alone.Returns transit.hops ∅ transit.place :=
    .onward hnext (.back (Set.mem_insert _ _))
  exact (hands_forwards alone (7 : UInt8)).endless_iff.2 hreturns

/-- A relay and the node behind it. -/
def pair : Passing.Network Bool SocketAddr where
  address := fun i => if i then address 2 else address 1
  node := fun addr => if addr = address 1 then some false else if addr = address 2 then some true
    else none
  node_address := by decide

/-- A relay that has the address of the destination sends the packet once. -/
theorem one_hop_terminates :
    ∃ transit : Transit Bool, (∀ i, (transit.managers i).Reachable) ∧
      transit.hops transit.node transit.source = some (address 2) ∧ transit.Terminates pair := by
  have hrelay : (after (quietEnv 0 ⟨1000, 0⟩ 7) (nodeConfig 1)
      [sessionWith 2 false, sessionWith 3 false] []).any
      (fun self => decide (self.nextHop (relayed 3 2) (address 3) = some (address 2))) = true := by
    decide +kernel
  have hdest : (after (quietEnv 0 ⟨1000, 0⟩ 7) (nodeConfig 2)
      [sessionWith 1 false, sessionWith 3 false] []).any
      (fun self => decide (self.nextHop (relayed 3 2) (address 1) = none)) = true := by
    decide +kernel
  obtain ⟨_, relay, hnew, hrun, hrelay⟩ := of_after hrelay
  have hreachable := reachable_of_run hnew hrun
  obtain ⟨_, dest, hnew, hrun, hdest⟩ := of_after hdest
  have hreachable' := reachable_of_run hnew hrun
  have hall : ∀ i : Bool, (bif i then dest else relay).Reachable :=
    fun i => by cases i <;> assumption
  let transit : Transit Bool :=
    ⟨⟨fun i => bif i then dest else relay, false, address 3, relayed 3 2⟩, rfl,
      fun i => (hall i).sound.wellFormed⟩
  have hhop : transit.hops transit.node transit.source = some (address 2) :=
    of_decide_eq_true hrelay
  have hrng : Nonempty Ephemeral := ⟨(7 : UInt8)⟩
  refine ⟨transit, hall, hhop, (terminates_iff pair transit).2 fun hreturns => ?_⟩
  cases hreturns with
  | back hpassed => exact hpassed
  | onward hnext hreturns =>
      obtain ⟨_, hdest', hnode, hsource⟩ := Passing.Network.next_eq_some.1 hnext
      cases hhop.symm.trans hdest'
      rename_i further
      obtain ⟨node, source⟩ := further
      cases hnode
      cases hsource
      cases hreturns with
      | back hpassed => exact absurd hpassed (by simp [place, transit])
      | onward hnext _ =>
          obtain ⟨_, hdest', _⟩ := Passing.Network.next_eq_some.1 hnext
          have hnone : transit.hops true (address 1) = none := of_decide_eq_true hdest
          cases hnone.symm.trans hdest'

end Symbolic

end Transit

end Naboscale
