import Naboscale.Tunnel.Errors
import Naboscale.Tunnel.Parties
import Naboscale.Tunnel.Steady
import Naboscale.Index

/-!
# Which address belongs to which peer

The stored endpoints of the peers, the map from endpoints to peers and the endpoints learned from
RELAY packets say where packets for a peer go and whose packets come from where. No handler of a
session touches them. They change when a peer is added, when a RELAY packet comes from an unknown
address, and when an INIT does. A peer can take the address of another one with it only when it
is added.
-/

namespace Naboscale

open Rust Method

section General

variable [Profile] [Primitives]

/-! ## The routes of a manager -/

/-- What a manager knows about the addresses of its peers. -/
structure Routes where
  configs : List PeerConfig
  endpointToPeer : SocketAddr → Option ℕ
  learnedEndpoints : Key → Option SocketAddr

namespace Routes

omit [Profile] [Primitives]

/-- The stored endpoints. -/
def endpoints (r : Routes) : List SocketAddr := r.configs.map PeerConfig.peerEndpoint

/-- A peer is added. -/
def add (r : Routes) (config : PeerConfig) : Routes :=
  { r with
    configs := r.configs ++ [config]
    endpointToPeer := Index.push r.endpointToPeer config.peerEndpoint r.configs.length }

/-- The source of a RELAY packet is learned. -/
def learn (r : Routes) (key : Key) (source : SocketAddr) : Routes :=
  { r with learnedEndpoints := Function.update r.learnedEndpoints key (some source) }

/-- The stored endpoint of the peer with a configuration moves. -/
def move (r : Routes) (idx : ℕ) (config : PeerConfig) (source : SocketAddr) : Routes :=
  { r with
    configs := r.configs.set idx { config with peerEndpoint := source }
    endpointToPeer := Index.move r.endpointToPeer config.peerEndpoint source idx }

/-- The stored endpoint of a peer moves, unless it is already there. -/
def refresh (r : Routes) (idx : ℕ) (source : SocketAddr) : Routes :=
  match r.configs[idx]? with
  | none => r
  | some config => if config.peerEndpoint = source then r else r.move idx config source

/-- Every address in the map is the stored endpoint of the peer that it is mapped to. -/
def Sound (r : Routes) : Prop := Index.Sound r.endpoints r.endpointToPeer

/-- The stored endpoint of every peer is mapped to it. -/
def Complete (r : Routes) : Prop := Index.Complete r.endpoints r.endpointToPeer

variable {r : Routes} {config : PeerConfig} {idx : ℕ} {source : SocketAddr}

theorem endpoints_add : (r.add config).endpoints = r.endpoints ++ [config.peerEndpoint] := by
  rw [endpoints, add, List.map_append]
  rfl

theorem endpoints_move : (r.move idx config source).endpoints = r.endpoints.set idx source := by
  rw [endpoints, move, List.map_set]
  rfl

theorem endpoints_length : r.endpoints.length = r.configs.length := List.length_map _

theorem getElem?_endpoints (h : r.configs[idx]? = some config) :
    r.endpoints[idx]? = some config.peerEndpoint := by
  rw [endpoints, List.getElem?_map, h]
  rfl

/-- Refreshing an endpoint moves it, or does nothing. -/
theorem refresh_cases (r : Routes) (idx : ℕ) (source : SocketAddr) :
    r.refresh idx source = r ∨ ∃ config, r.configs[idx]? = some config ∧
      config.peerEndpoint ≠ source ∧ r.refresh idx source = r.move idx config source := by
  rw [refresh]
  cases r.configs[idx]? with
  | none => exact Or.inl rfl
  | some config =>
      by_cases hsame : config.peerEndpoint = source
      · exact Or.inl (if_pos hsame)
      · exact Or.inr ⟨config, rfl, hsame, if_neg hsame⟩

/-- A datagram from a known source does not move the endpoint of its peer. -/
theorem Sound.refresh_known (h : r.Sound) (hknown : r.endpointToPeer source = some idx) :
    r.refresh idx source = r := by
  have hsource := h source idx hknown
  rw [endpoints, List.getElem?_map, Option.map_eq_some_iff] at hsource
  obtain ⟨config, hconfig, hsame⟩ := hsource
  rw [refresh, hconfig]
  exact if_pos hsame

theorem Sound.add (h : r.Sound) (config : PeerConfig) : (r.add config).Sound := by
  rw [Sound, endpoints_add]
  show Index.Sound _ (Index.push r.endpointToPeer _ r.configs.length)
  rw [← endpoints_length]
  exact Index.Sound.push h config.peerEndpoint

theorem complete_add_iff :
    (r.add config).Complete ↔ r.Complete ∧ config.peerEndpoint ∉ r.endpoints := by
  rw [Complete, endpoints_add]
  show Index.Complete _ (Index.push r.endpointToPeer _ r.configs.length) ↔ _
  rw [← endpoints_length]
  exact Index.complete_push_iff

theorem Sound.refresh (h : r.Sound) (idx : ℕ) (source : SocketAddr) :
    (r.refresh idx source).Sound := by
  rcases r.refresh_cases idx source with hsame | ⟨config, hconfig, _, hmove⟩
  · rwa [hsame]
  · rw [hmove, Sound, endpoints_move]
    exact Index.Sound.move h (getElem?_endpoints hconfig) source

theorem Complete.refresh (h : r.Complete) (idx : ℕ) (hsource : r.endpointToPeer source = none) :
    (r.refresh idx source).Complete := by
  rcases r.refresh_cases idx source with hsame | ⟨config, hconfig, _, hmove⟩
  · rwa [hsame]
  · rw [hmove, Complete, endpoints_move]
    exact Index.Complete.move h (getElem?_endpoints hconfig) hsource

end Routes

namespace TunnelManager

/-- The routes of the manager. -/
def routes (self : TunnelManager) : Routes :=
  ⟨self.peers.map PeerSession.config, self.endpointToPeer, self.learnedEndpoints⟩

/-- The known peer that a RELAY packet says it is from. -/
def claimedSender (self : TunnelManager) (pkt : Bytes) : Option Key :=
  if pkt[0]? = some messageTypeRelay ∧ relayHeaderSize ≤ pkt.length then
    (relayFrom pkt).filter fun key => (self.pubkeyToPeer key).isSome
  else none

/-- The peer with whose public key the mac1 of an INIT was made. -/
def addressee (self : TunnelManager) (pkt : Bytes) : Option ℕ :=
  if pkt[0]? = some messageTypeInit ∧ initSize ≤ pkt.length then self.initiatorByMac1 pkt else none

/-- The routes after a datagram was received: only an unknown source changes them. -/
def reroute (self : TunnelManager) (source : SocketAddr) (pkt : Bytes) : Routes :=
  match self.endpointToPeer source, self.claimedSender pkt, self.addressee pkt with
  | none, some key, _ => self.routes.learn key source
  | none, none, some idx => self.routes.refresh idx source
  | _, _, _ => self.routes

/-- Whether `add_peer` makes a session for the configuration. -/
def adds (self : TunnelManager) (env : Env) (config : PeerConfig) : Bool :=
  (self.pubkeyToPeer config.peerPub).isNone &&
    (newSession self.config.localKeypair env config).toOption.isSome

/-- The routes after an event. -/
def Event.routes (self : TunnelManager) : Event → Routes
  | addPeer env config => if self.adds env config then self.routes.add config else self.routes
  | incoming _ source pkt => self.reroute source pkt
  | _ => self.routes

variable {self self' : TunnelManager} {env : Env} {source : SocketAddr} {pkt : Bytes} {idx : ℕ}
  {peer : PeerSession}

omit [Profile] in
/-- A handler that keeps the configuration of its session keeps the routes. -/
theorem keepsRoutes_atPeer {α : Type} {handler : Method Session TunnelError α}
    (h : Session.KeepsConfig handler) (idx : ℕ) : Keeps routes (atPeer idx handler) :=
  keeps_atPeer idx h fun self _ _ _ hmap =>
    congrArg (Routes.mk · self.endpointToPeer self.learnedEndpoints) hmap

omit [Profile] in
theorem keepsRoutes_touch (idx : ℕ) : Keeps routes (touch env idx) := by
  refine keepsRoutes_atPeer (keeps_modify fun self => ?_) idx
  rfl

theorem keepsRoutes_gateInit (idx : ℕ) : Keeps routes (gateInit env idx source pkt) := by
  refine keeps_get_bind fun self =>
    (keepsRoutes_atPeer (Session.keepsConfig_checkInitCookie _) idx).bind fun handled => ?_
  exact Keeps.ite (fun _ => keeps_pure _) fun _ =>
    keepsRoutes_atPeer Session.keepsFixed_handleInit.config idx

theorem keepsRoutes_handleDirect (idx : ℕ) (msgType : UInt8) :
    Keeps routes (handleDirect env idx source msgType pkt) := by
  refine Keeps.ite (fun _ => keepsRoutes_gateInit idx) fun _ => ?_
  refine Keeps.ite (fun _ => keepsRoutes_atPeer Session.keepsFixed_handleResponse.config idx)
    fun _ => ?_
  refine Keeps.ite (fun _ => keepsRoutes_atPeer Session.keepsFixed_handleTransport.config idx)
    fun _ => ?_
  exact Keeps.ite (fun _ => keepsRoutes_atPeer Session.keepsSettings_handleCookie.config idx)
    fun _ => keeps_pure _

theorem keepsRoutes_handleRelayed (idx : ℕ) (inner : Bytes) :
    Keeps routes (handleRelayed env idx source inner) := by
  refine keeps_get_bind fun self => Keeps.ite (fun _ => ?_) fun _ => ?_
  · exact keepsRoutes_atPeer Session.keepsFixed_handleRelayedTransport.config idx
  refine Keeps.ite (fun _ => ?_) fun _ => ?_
  · exact keepsRoutes_atPeer Session.keepsFixed_handleInitViaRelay.config idx
  refine Keeps.ite (fun _ => ?_) fun _ => keeps_fail _
  exact keepsRoutes_atPeer Session.keepsFixed_handleResponse.config idx

omit [Profile] in
theorem keepsRoutes_forwardRelay (destIp : Ipv4Addr) :
    Keeps routes (forwardRelay env destIp pkt) := by
  refine keeps_get_bind fun self => ?_
  cases self.peers.find? fun peer => peer.config.peerIp = destIp with
  | none => exact keeps_fail _
  | some dest => exact keeps_zoom _ fun _ _ => rfl

theorem keepsRoutes_handleRelay : Keeps routes (handleRelay env source pkt) := by
  refine Keeps.ite (fun _ => keeps_fail _) fun _ => (keeps_slice _ _ _).bind fun header =>
    (keeps_expectArr _ _).bind fun fromPub => (keeps_index _ _).bind fun a =>
    (keeps_index _ _).bind fun b => (keeps_index _ _).bind fun c => (keeps_index _ _).bind fun d =>
    (keeps_slice _ _ _).bind fun inner => keeps_get_bind fun self => Keeps.ite (fun _ => ?_)
      fun _ => keepsRoutes_forwardRelay _
  cases self.pubkeyToPeer fromPub with
  | none => exact keeps_fail _
  | some idx => exact keepsRoutes_handleRelayed idx inner

omit [Profile] in
theorem keepsRoutes_retryInit (idx : ℕ) : Keeps routes (retryInit env idx) :=
  keeps_get_bind fun _ => keepsRoutes_atPeer Session.keepsSettings_retryInit.config idx

omit [Profile] in
/-- Sessions on their own do not change the routes. -/
theorem steady_routes : Steady routes where
  handled idx h := keepsRoutes_atPeer h.config idx
  rotated env self := by
    unfold rotateCookieSecret
    split <;> rfl

/-! ## What an event does to the routes -/

omit [Profile] in
theorem getElem?_routes (hpeer : self.peers[idx]? = some peer) :
    self.routes.configs[idx]? = some peer.config := by
  rw [routes, List.getElem?_map, hpeer]
  rfl

omit [Profile] in
/-- Noting a datagram that came directly refreshes the endpoint. -/
theorem refreshEndpoint_routes (hpeer : self.peers[idx]? = some peer) :
    ∃ noted, refreshEndpoint env idx source self = .ok () noted ∧
      noted.routes = self.routes.refresh idx source := by
  have hlt : idx < self.peers.length := (List.getElem?_eq_some_iff.1 hpeer).1
  rw [refreshEndpoint, bind_ok (get_apply self), hpeer, unwrap_some, pure_bind, Routes.refresh,
    getElem?_routes hpeer]
  by_cases hsame : peer.config.peerEndpoint = source
  · rw [if_neg (not_not.2 hsame)]
    refine ⟨_, touch_eq hpeer, ?_⟩
    simp only [if_pos hsame]
    have hkeeps : Keeps routes (touch env idx) := keepsRoutes_touch idx
    exact hkeeps.state (congrArg Outcome.state? (touch_eq hpeer))
  · let moved : TunnelManager :=
      { self with
        endpointToPeer := Function.update
          (Function.update self.endpointToPeer peer.config.peerEndpoint none) source (some idx) }
    have hmoved : moved.peers[idx]? = some peer := hpeer
    rw [if_pos hsame, bind_ok (modify_apply _ _), bind_ok (atPeer_modifyPeer hmoved _)]
    refine ⟨_, touch_eq (List.getElem?_set_self hlt), ?_⟩
    simp only [if_neg hsame, routes, List.set_set, List.map_set]
    rfl

omit [Profile] in
theorem claimedSender_relay (htype : pkt[0]? = some messageTypeRelay)
    (hlen : relayHeaderSize ≤ pkt.length) :
    self.claimedSender pkt = (relayFrom pkt).filter fun key => (self.pubkeyToPeer key).isSome :=
  if_pos ⟨htype, hlen⟩

omit [Profile] in
theorem claimedSender_none (h : ¬ (pkt[0]? = some messageTypeRelay ∧ relayHeaderSize ≤ pkt.length)) :
    self.claimedSender pkt = none :=
  if_neg h

omit [Profile] in
theorem addressee_none (h : ¬ (pkt[0]? = some messageTypeInit ∧ initSize ≤ pkt.length)) :
    self.addressee pkt = none :=
  if_neg h

omit [Profile] in
/-- A datagram that names nobody does not change the routes. -/
theorem reroute_none (hsender : self.claimedSender pkt = none) (hinit : self.addressee pkt = none) :
    self.reroute source pkt = self.routes := by
  rw [reroute, hsender, hinit]
  cases self.endpointToPeer source <;> rfl

omit [Profile] in
/-- A datagram from a known source does not change the routes. -/
theorem reroute_known (h : self.endpointToPeer source = some idx) :
    self.reroute source pkt = self.routes := by
  rw [reroute, h]

omit [Profile] in
/-- Learning the source of a RELAY packet. -/
theorem learnEndpoint_routes {key : Key} (hsender : self.claimedSender pkt = some key) :
    (learnEndpoint source key self).routes = self.reroute source pkt := by
  unfold learnEndpoint
  cases hknown : self.endpointToPeer source with
  | some idx =>
      rw [if_neg (by simp), reroute_known hknown]
  | none =>
      rw [if_pos (by simp), reroute, hknown, hsender]
      rfl

/-- A received datagram changes the routes as `reroute` says. -/
theorem incoming_routes (hwf : self.WellFormed) (hroutes : self.routes.Sound)
    (h : (handleIncoming env source pkt self).state? = some self') :
    self'.routes = self.reroute source pkt := by
  rcases htype : pkt[0]? with _ | type
  · -- The datagram is empty.
    have hempty : pkt.isEmpty = true := by
      cases pkt with
      | nil => rfl
      | cons byte rest => cases htype
    rw [handleIncoming, if_pos hempty] at h
    cases h
    rw [reroute_none (claimedSender_none (by simp [htype])) (addressee_none (by simp [htype]))]
  by_cases hrelay : type = messageTypeRelay
  · subst hrelay
    have hinit : self.addressee pkt = none :=
      addressee_none fun h => absurd (htype.symm.trans h.1) (by decide)
    rw [handleIncoming_relay htype] at h
    by_cases hlen : pkt.length < relayHeaderSize
    · rw [if_pos hlen] at h
      cases h
      rw [reroute_none (claimedSender_none fun h => absurd h.2 (not_le.2 hlen)) hinit]
    rw [if_neg hlen] at h
    -- The sender is learned before the packet is forwarded, and forwarding changes no route.
    have hsender : self.claimedSender pkt = _ := claimedSender_relay htype (not_lt.1 hlen)
    obtain ⟨_, hfrom⟩ := relayFrom_eq (not_lt.1 hlen)
    rw [hfrom] at h hsender
    cases hknown : self.pubkeyToPeer ⟨sub pkt 1 33, _⟩ with
    | none =>
        rw [Option.bind_some, hknown] at h
        cases h
        rw [Option.filter_some, hknown] at hsender
        rw [reroute_none hsender hinit]
    | some idx =>
        rw [Option.bind_some, hknown] at h
        rw [Option.filter_some, hknown] at hsender
        simp only [Option.getD_some] at h
        rw [bind_ok (modify_apply _ _)] at h
        rw [← learnEndpoint_routes hsender]
        exact ((keepsRoutes_touch idx).bind fun _ => keepsRoutes_handleRelay).state h
  · have hsender : self.claimedSender pkt = none :=
      claimedSender_none fun h => hrelay (Option.some.inj (htype.symm.trans h.1))
    rw [handleIncoming_direct htype hrelay] at h
    cases hknown : self.endpointToPeer source with
    | some idx =>
        rw [hknown] at h
        -- A known source is its own endpoint already, so the refresh writes what is there.
        have hpeer := List.getElem?_eq_getElem (hwf.endpoints hknown)
        obtain ⟨noted, hnoted, hrefresh⟩ := refreshEndpoint_routes hpeer
        simp only at h
        rw [bind_ok hnoted] at h
        have hstill : self.routes.refresh idx source = self.routes := hroutes.refresh_known hknown
        rw [reroute_known hknown, ← hstill, ← hrefresh]
        exact (keepsRoutes_handleDirect idx type).state h
    | none =>
        rw [hknown] at h
        simp only at h
        split at h
        case isFalse hinit =>
          cases h
          refine (reroute_none hsender (addressee_none fun h => hinit ⟨?_, h.2⟩)).symm
          exact Option.some.inj (htype.symm.trans h.1)
        -- From an unknown source only an INIT goes anywhere: to the peer that its mac1 names.
        case isTrue hinit =>
          have haddressee : self.addressee pkt = self.initiatorByMac1 pkt :=
            if_pos ⟨hinit.1 ▸ htype, hinit.2⟩
          cases hmac : self.initiatorByMac1 pkt with
          | none =>
              rw [hmac] at h haddressee
              cases h
              exact (reroute_none hsender haddressee).symm
          | some idx =>
              rw [hmac] at h haddressee
              have hpeer :=
                List.getElem?_eq_getElem (List.findIdx?_eq_some_iff_getElem.1 hmac).1
              obtain ⟨noted, hnoted, hrefresh⟩ := refreshEndpoint_routes hpeer
              simp only at h
              rw [bind_ok hnoted] at h
              rw [reroute, hknown, hsender, haddressee]
              exact ((keepsRoutes_gateInit idx).state h).trans hrefresh

omit [Profile] in
theorem insertSession_routes :
    (self.insertSession peer).routes = self.routes.add peer.config := by
  simp [routes, insertSession, Routes.add, Index.push]

/-- `add_peer` adds the routes of the new peer. -/
theorem addPeer_routes {config : PeerConfig}
    (h : fire self (.addPeer env config) = some self') :
    self'.routes = Event.routes self (.addPeer env config) := by
  have hcall : (((do let _ ← addPeer env config; pure ()) :
    Method TunnelManager TunnelError Unit) self).state? = some self' := h
  rw [addPeer, bind_assoc, bind_ok (get_apply self)] at hcall
  rw [Event.routes, adds]
  cases hkey : self.pubkeyToPeer config.peerPub with
  | some idx =>
      rw [hkey] at hcall
      cases hcall
      rfl
  | none =>
      rw [hkey] at hcall
      cases hnew : newSession self.config.localKeypair env config with
      | error e =>
          rw [hnew] at hcall
          cases hcall
          rfl
      | ok peer =>
          rw [hnew] at hcall
          cases hcall
          rw [insertSession_routes, (newSession_spec hnew).1]
          rfl

/-- What an event does to the routes. -/
theorem fire_routes {event : Event} (hwf : self.WellFormed) (hroutes : self.routes.Sound)
    (h : fire self event = some self') : self'.routes = event.routes self := by
  cases event with
  | addPeer env config => exact addPeer_routes h
  | incoming env source pkt => exact incoming_routes hwf hroutes h
  | retryInit env idx => exact (keepsRoutes_retryInit idx).state h
  | dispatchTunPacket env pkt => exact (steady_routes.dispatchTunPacket pkt).state h
  | maintenance env => exact steady_routes.maintenance.state h

/-! ## Every peer is found at its endpoint -/

/-- The event does not add a peer with the endpoint of another one. -/
def Event.AddsApart (self : TunnelManager) : Event → Prop
  | addPeer env config =>
      self.adds env config = true → config.peerEndpoint ∉ self.routes.endpoints
  | _ => True

omit [Profile] in
/-- Learning from a datagram touches only what an unknown source is learned for. -/
theorem reroute_cases (self : TunnelManager) (source : SocketAddr) (pkt : Bytes) :
    self.reroute source pkt = self.routes ∨ self.endpointToPeer source = none ∧
      ((∃ key, self.claimedSender pkt = some key ∧
          self.reroute source pkt = self.routes.learn key source) ∨
        ∃ idx, self.addressee pkt = some idx ∧
          self.reroute source pkt = self.routes.refresh idx source) := by
  rw [reroute]
  cases self.endpointToPeer source with
  | some idx => exact Or.inl rfl
  | none =>
      cases self.claimedSender pkt with
      | some key => exact Or.inr ⟨rfl, Or.inl ⟨key, rfl, rfl⟩⟩
      | none =>
          cases self.addressee pkt with
          | some idx => exact Or.inr ⟨rfl, Or.inr ⟨idx, rfl, rfl⟩⟩
          | none => exact Or.inl rfl

omit [Profile] in
theorem Event.sound_routes (h : self.routes.Sound) (event : Event) : (event.routes self).Sound := by
  cases event with
  | addPeer env config =>
      rw [Event.routes]
      split
      · exact h.add config
      · exact h
  | incoming env source pkt =>
      rw [Event.routes]
      rcases self.reroute_cases source pkt with hsame | ⟨_, ⟨key, _, hlearn⟩ | ⟨idx, _, hmove⟩⟩
      · rwa [hsame]
      · rw [hlearn]
        exact h
      · rw [hmove]
        exact h.refresh idx source
  | retryInit env idx => exact h
  | dispatchTunPacket env pkt => exact h
  | maintenance env => exact h

omit [Profile] in
/-- An event keeps every peer at its endpoint exactly if it adds none with the endpoint of
another one. -/
theorem Event.complete_routes_iff (h : self.routes.Complete) (event : Event) :
    (event.routes self).Complete ↔ event.AddsApart self := by
  cases event with
  | addPeer env config =>
      rw [Event.routes, Event.AddsApart]
      split
      case isTrue hadds =>
        rw [Routes.complete_add_iff]
        exact ⟨fun hall _ => hall.2, fun hnew => ⟨h, hnew hadds⟩⟩
      case isFalse hadds => exact iff_of_true h fun htrue => absurd htrue hadds
  | incoming env source pkt =>
      refine iff_of_true ?_ trivial
      rw [Event.routes]
      rcases self.reroute_cases source pkt with hsame |
        ⟨hunknown, ⟨key, _, hlearn⟩ | ⟨idx, _, hmove⟩⟩
      · rwa [hsame]
      · rw [hlearn]
        exact h
      · -- The new endpoint is not in the map, so no other peer has it.
        rw [hmove]
        exact h.refresh idx hunknown
  | retryInit env idx => exact iff_of_true h trivial
  | dispatchTunPacket env pkt => exact iff_of_true h trivial
  | maintenance env => exact iff_of_true h trivial

omit [Profile] in
/-- The loop of `new` keeps the map sound, and complete if no endpoint occurs twice. -/
theorem insertAll_routes {configs : List PeerConfig} (hsound : self.routes.Sound)
    (h : insertAll env self configs = .ok self') :
    self'.routes.Sound ∧ (self'.routes.Complete ↔ self.routes.Complete ∧
      (self.routes.endpoints ++ configs.map PeerConfig.peerEndpoint).Nodup) := by
  induction configs generalizing self with
  | nil =>
      cases h
      rw [List.map_nil, List.append_nil]
      exact ⟨hsound, fun hall => ⟨hall, hall.nodup⟩, And.left⟩
  | cons config configs ih =>
      rw [insertAll] at h
      cases hmade : newSession self.config.localKeypair env config with
      | error e =>
          rw [hmade] at h
          cases h
      | ok peer =>
          rw [hmade] at h
          have hroutes : (self.insertSession peer).routes = self.routes.add config := by
            rw [insertSession_routes, (newSession_spec hmade).1]
          have hadded : (self.insertSession peer).routes.Sound := hroutes ▸ hsound.add config
          obtain ⟨hsound', hcomplete⟩ := ih hadded h
          refine ⟨hsound', hcomplete.trans ?_⟩
          rw [hroutes, Routes.complete_add_iff, Routes.endpoints_add, List.append_assoc,
            List.singleton_append, ← List.map_cons (f := PeerConfig.peerEndpoint), and_assoc]
          refine and_congr_right fun _ => and_iff_right_of_imp fun hnodup hmem => ?_
          exact List.disjoint_of_nodup_append hnodup hmem List.mem_cons_self

omit [Profile] in
/-- The map of a new manager is sound, and complete exactly if no endpoint occurs twice. -/
theorem new_routes {config : ManagerConfig} {configs : List PeerConfig}
    (h : new env config configs = .ok self) :
    self.routes.Sound ∧
      (self.routes.Complete ↔ (configs.map PeerConfig.peerEndpoint).Nodup) := by
  have hempty : (empty env config).routes.Complete := Index.complete_nil _
  have hsound : (empty env config).routes.Sound := Index.sound_nil
  obtain ⟨hsound, hcomplete⟩ := insertAll_routes hsound h
  exact ⟨hsound, hcomplete.trans (and_iff_right hempty)⟩

/-- The map of a reachable manager is sound. -/
theorem Reachable.routes_sound (h : self.Reachable) : self.routes.Sound := by
  obtain ⟨env, config, configs, start, hnew, hrun⟩ := h
  refine (Transition.Reaches.invariant (I := fun manager => manager.Sound ∧ manager.routes.Sound)
    (fun manager event next hI hfire => ⟨(fire_advances hI.1 hfire).sound, ?_⟩)
    ⟨(new_spec hnew).2.1, (new_routes hnew).1⟩ hrun).2
  rw [fire_routes hI.1.wellFormed hI.2 hfire]
  exact Event.sound_routes hI.2 event

/-- The peer at an index is found by its endpoint, and its session handles what comes from
there. -/
structure Found (manager : TunnelManager) (idx : ℕ) (peer : PeerSession) : Prop where
  mapped : manager.endpointToPeer peer.config.peerEndpoint = some idx
  handled : ∀ pkt message, directMessage pkt = some message →
    manager.route peer.config.peerEndpoint pkt = some (idx, message)

/-- Every peer is found by its endpoint. -/
def AllFound (self : TunnelManager) : Prop :=
  ∀ idx peer, self.peers[idx]? = some peer → self.Found idx peer

omit [Profile] in
theorem found_of_mapped (h : self.endpointToPeer peer.config.peerEndpoint = some idx) :
    self.Found idx peer := by
  refine ⟨h, fun pkt message hmessage => ?_⟩
  have hrelay : ¬ pkt[0]? = some messageTypeRelay := by
    intro htype
    rw [directMessage, htype] at hmessage
    cases hmessage
  rw [route, if_neg hrelay, h]
  exact Option.map_eq_some_iff.2 ⟨message, hmessage, rfl⟩

omit [Profile] in
theorem allFound_iff : self.AllFound ↔ self.routes.Complete := by
  constructor
  · intro h idx addr haddr
    rw [Routes.endpoints, List.getElem?_map, routes, List.getElem?_map, Option.map_map,
      Option.map_eq_some_iff] at haddr
    obtain ⟨peer, hpeer, rfl⟩ := haddr
    exact (h idx peer hpeer).mapped
  · intro h idx peer hpeer
    exact found_of_mapped (h idx _ (Routes.getElem?_endpoints (getElem?_routes hpeer)))

/-- All peers are found throughout a run exactly if no two of them start with the same endpoint
and none is added with the endpoint of another one. -/
theorem allFound_throughout_iff {config : ManagerConfig} {configs : List PeerConfig}
    {start : TunnelManager} {events : List Event} (hnew : new env config configs = .ok start)
    (hrun : Transition.exec fire start events = some self) :
    Transition.AllStates fire AllFound start events ↔
      (configs.map PeerConfig.peerEndpoint).Nodup ∧
        Transition.AllSteps fire (fun manager event => event.AddsApart manager) start events := by
  obtain ⟨hsound, hcomplete⟩ := new_routes hnew
  have hstart : start.Sound ∧ start.routes.Sound := ⟨(new_spec hnew).2.1, hsound⟩
  have hstep : ∀ manager event next, manager.Sound ∧ manager.routes.Sound → manager.AllFound →
      fire manager event = some next → (next.AllFound ↔ event.AddsApart manager) := by
    intro manager event next hI hfound hfire
    rw [allFound_iff] at hfound
    rw [allFound_iff, fire_routes hI.1.wellFormed hI.2 hfire]
    exact Event.complete_routes_iff hfound event
  have hinvariant : ∀ manager event next, manager.Sound ∧ manager.routes.Sound →
      fire manager event = some next → next.Sound ∧ next.routes.Sound := by
    intro manager event next hI hfire
    refine ⟨(fire_advances hI.1 hfire).sound, ?_⟩
    rw [fire_routes hI.1.wellFormed hI.2 hfire]
    exact Event.sound_routes hI.2 event
  constructor
  · intro hall
    have hfirst := hall.first
    refine ⟨hcomplete.1 (allFound_iff.1 hfirst), ?_⟩
    exact (Transition.allStates_iff_allSteps hinvariant hstep hstart hfirst hrun).1 hall
  · rintro ⟨hnodup, hall⟩
    have hfirst : start.AllFound := allFound_iff.2 (hcomplete.2 hnodup)
    exact (Transition.allStates_iff_allSteps hinvariant hstep hstart hfirst hrun).2 hall

/-! ## Who moves a route -/

/-- The message that a datagram consists of, or that a RELAY packet carries. -/
def Carries (pkt : Bytes) (message : Message) : Prop :=
  directMessage pkt = some message ∨ pkt[0]? = some messageTypeRelay ∧
    relayedMessage (sub pkt relayHeaderSize pkt.length) = some message

end TunnelManager

end General

namespace TunnelManager

section Symbolic

open Symbolic

attribute [local instance] Symbolic.primitives Symbolic.release

/-- Of two peers that are given the same endpoint, the first one is not found by it. -/
theorem shared_endpoint_lost :
    ∃ start : TunnelManager, new (quietEnv 0 ⟨1000, 0⟩ 7) (nodeConfig 1)
        [sessionWith 2 false, { sessionWith 3 false with peerEndpoint := address 2 }] = .ok start ∧
      publicKey (key 2) ≠ publicKey (key 3) ∧ ¬ start.AllFound := by
  have hrun : (after (quietEnv 0 ⟨1000, 0⟩ 7) (nodeConfig 1)
      [sessionWith 2 false, { sessionWith 3 false with peerEndpoint := address 2 }] []).any
      (fun start => start.peers[0]?.any fun peer =>
        decide (start.endpointToPeer peer.config.peerEndpoint = some 1)) = true := by
    decide +kernel
  obtain ⟨start, self, hnew, hrun, hcheck⟩ := of_after hrun
  cases hrun
  obtain ⟨peer, hpeer, hmapped⟩ := (Option.any_eq_true _ _).1 hcheck
  refine ⟨start, hnew, by decide, fun hall => ?_⟩
  have hfirst := (hall 0 peer hpeer).mapped
  rw [of_decide_eq_true hmapped] at hfirst
  cases hfirst

/-- Peers with addresses of their own are found while one is added and while an INIT comes from
an address that nobody has. -/
theorem separate_endpoints_found :
    ∃ start : TunnelManager, Transition.AllStates fire AllFound start
      [.addPeer (quietEnv 1 ⟨1000, 0⟩ 7) (sessionWith 4 false),
        .incoming (quietEnv 5 ⟨1000, 0⟩ 7) (address 9) (initFor 1 3 ⟨1000, 0⟩ 3)] := by
  have hrun : (after (quietEnv 0 ⟨1000, 0⟩ 7) (nodeConfig 1)
      [sessionWith 2 false, sessionWith 3 false] []).any
      (fun start => (Transition.exec fire start
          [.addPeer (quietEnv 1 ⟨1000, 0⟩ 7) (sessionWith 4 false),
            .incoming (quietEnv 5 ⟨1000, 0⟩ 7) (address 9) (initFor 1 3 ⟨1000, 0⟩ 3)]).isSome &&
        decide (address 4 ∉ start.routes.endpoints)) = true := by
    decide +kernel
  obtain ⟨start, self, hnew, hrun, hcheck⟩ := of_after hrun
  cases hrun
  rw [Bool.and_eq_true, decide_eq_true_eq] at hcheck
  obtain ⟨self', hexec⟩ := Option.isSome_iff_exists.1 hcheck.1
  refine ⟨start, (allFound_throughout_iff hnew hexec).2 ⟨by decide, fun _ => hcheck.2, ?_⟩⟩
  exact fun _ _ => ⟨trivial, fun _ _ => trivial⟩

end Symbolic

end TunnelManager

end Naboscale
