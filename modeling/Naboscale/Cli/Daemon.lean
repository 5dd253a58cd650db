import Naboscale.Cli.Up
import Naboscale.Tunnel.Routes

/-!
# The daemon

What `cmd_up` keeps while it runs: the manager and the keys it knows. A listing fetched at startup
makes the manager, and each peer of a later listing may add a session. Nothing takes a session away
or changes the mesh address that it was given.
-/

namespace Naboscale

open Rust

variable [Profile] [Primitives]

/-! ## The owners that a manager knows -/

namespace TunnelManager

/-- The peers of a manager in the order in which it learned of them, each with the mesh address that
it was learned under. -/
def owners (self : TunnelManager) : List (Key × Ipv4Addr) :=
  self.peers.map fun p => (p.config.peerPub, p.config.peerIp)

/-- An IPv4 packet of at least the length of a header, for an address. -/
def Addressed (pkt : Bytes) (ip : Ipv4Addr) : Prop :=
  20 ≤ pkt.length ∧ (∃ first : UInt8, pkt[0]? = some first ∧ first >>> 4 = 4) ∧ pkt[16]? = some ip.a ∧
    pkt[17]? = some ip.b ∧ pkt[18]? = some ip.c ∧ pkt[19]? = some ip.d

/-- The session at `idx` is the first one for a peer with the address. -/
def FirstWith (self : TunnelManager) (ip : Ipv4Addr) (idx : ℕ) : Prop :=
  (∃ peer, self.peers[idx]? = some peer ∧ peer.config.peerIp = ip) ∧
    ∀ i < idx, ∀ other, self.peers[i]? = some other → other.config.peerIp ≠ ip

variable {self self' : TunnelManager} {env : Env} {pkt : Bytes} {ip : Ipv4Addr} {idx : ℕ}

omit [Profile] in
/-- The peer for a packet is the first one that was learned under its address. -/
theorem lookup_eq (h : Addressed pkt ip) :
    self.lookupPeerByDestIp pkt = self.owners.findIdx? fun owner => owner.2 = ip := by
  obtain ⟨hlen, ⟨first, hfirst, hversion⟩, ha, hb, hc, hd⟩ := h
  have hheader : ¬ (first >>> 4 ≠ 4 ∨ pkt.length < 20) := by
    rintro (hne | hlt)
    · exact hne hversion
    · omega
  rw [lookupPeerByDestIp, hfirst]
  simp only [bind, Option.bind_some, if_neg hheader, ha, hb, hc, hd, owners, List.findIdx?_map]
  rfl

omit [Profile] in
/-- A packet for an address goes to the first session for a peer with it. -/
theorem lookup_iff (h : Addressed pkt ip) :
    self.lookupPeerByDestIp pkt = some idx ↔ self.FirstWith ip idx := by
  rw [lookup_eq h, owners, List.findIdx?_map, List.findIdx?_eq_some_iff_getElem]
  constructor
  · intro ⟨hlt, hfirst, hbefore⟩
    refine ⟨⟨_, List.getElem?_eq_getElem hlt, of_decide_eq_true hfirst⟩, ?_⟩
    intro i hi other hother hip
    have hilt : i < self.peers.length := hi.trans hlt
    cases hother.symm.trans (List.getElem?_eq_getElem hilt)
    exact hbefore i hi (decide_eq_true hip)
  · intro ⟨⟨peer, hpeer, hip⟩, hbefore⟩
    obtain ⟨hlt, hget⟩ := List.getElem?_eq_some_iff.1 hpeer
    refine ⟨hlt, ?_, fun i hi hsame => ?_⟩
    · show decide (self.peers[idx].config.peerIp = ip) = true
      rw [hget, hip]
      exact decide_eq_true rfl
    · exact hbefore i hi _ (List.getElem?_eq_getElem (hi.trans hlt)) (of_decide_eq_true hsame)

omit [Profile] [Primitives] in
/-- There is a packet for every address. -/
theorem exists_addressed (ip : Ipv4Addr) : ∃ pkt, Addressed pkt ip :=
  ⟨0x45 :: List.replicate 15 0 ++ [ip.a, ip.b, ip.c, ip.d], le_rfl, ⟨0x45, rfl, by decide⟩, rfl, rfl,
    rfl, rfl⟩

/-- A packet goes to the session that the lookup finds, and to no other. -/
theorem dispatch_eq (h : self.lookupPeerByDestIp pkt = some idx) :
    dispatchTunPacket env pkt self =
      atPeer idx (Session.sendEncrypted self.config.localKeypair env pkt 1600) self := by
  rw [dispatchTunPacket, Method.bind_ok (Method.get_apply self), h]

omit [Profile] in
theorem owners_eq : self.owners = self.routes.configs.map fun c => (c.peerPub, c.peerIp) := by
  rw [owners, routes, List.map_map]
  rfl

/-! ### What no datagram changes -/

/-- `field` is another part of a configuration than its endpoint. -/
def Fixed {α : Type} (field : PeerConfig → α) : Prop :=
  ∀ config endpoint, field { config with peerEndpoint := endpoint } = field config

variable {α : Type} {field : PeerConfig → α}

omit [Profile] in
/-- A datagram changes nothing but endpoints. -/
theorem reroute_map (hfield : Fixed field) (source : SocketAddr) :
    (self.reroute source pkt).configs.map field = self.routes.configs.map field := by
  obtain h | ⟨-, ⟨key, -, h⟩ | ⟨idx, -, h⟩⟩ := reroute_cases self source pkt
  · rw [h]
  · rw [h]
    rfl
  · rw [h]
    obtain h | ⟨config, hconfig, -, h⟩ := Routes.refresh_cases self.routes idx source
    · rw [h]
    · rw [h, Routes.move, List.map_set, hfield]
      obtain ⟨hlt, hget⟩ := List.getElem?_eq_some_iff.1 hconfig
      apply List.ext_getElem?
      intro i
      by_cases hi : idx = i
      · subst hi
        rw [List.getElem?_set_self (by rwa [List.length_map]), List.getElem?_map, hconfig]
        rfl
      · rw [List.getElem?_set_ne hi]

/-- Only `add_peer` changes what is fixed. -/
theorem fire_map (hfield : Fixed field) {event : Event} (hreachable : self.Reachable)
    (hevent : ∀ env config, event ≠ .addPeer env config) (h : fire self event = some self') :
    self'.routes.configs.map field = self.routes.configs.map field := by
  rw [fire_routes hreachable.sound.wellFormed hreachable.routes_sound h]
  cases event with
  | addPeer env config => exact absurd rfl (hevent env config)
  | incoming env source pkt => exact reroute_map hfield source
  | retryInit | dispatchTunPacket | maintenance => rfl

/-- `add_peer` appends a configuration where it makes a session. -/
theorem addPeer_configs {config : PeerConfig} (h : fire self (.addPeer env config) = some self') :
    self'.routes.configs =
      self.routes.configs ++ if self.adds env config then [config] else [] := by
  rw [addPeer_routes h, Event.routes]
  split
  · rfl
  · exact (List.append_nil _).symm

omit [Profile] in
theorem insertAll_configs {configs : List PeerConfig}
    (h : insertAll env self configs = .ok self') :
    self'.routes.configs = self.routes.configs ++ configs := by
  induction configs generalizing self with
  | nil =>
      cases h
      exact (List.append_nil _).symm
  | cons config configs ih =>
      obtain ⟨peer, hpeer, h⟩ := ok_of_bind h
      rw [ih h, routes, routes, insertSession, List.map_append, List.map_cons, List.map_nil,
        (newSession_spec hpeer).1, List.append_assoc]
      rfl

omit [Profile] in
/-- A new manager has the configurations that it is given. -/
theorem new_configs {config : ManagerConfig} {configs : List PeerConfig}
    (h : new env config configs = .ok self) : self.routes.configs = configs := insertAll_configs h

/-- Only `add_peer` changes the owners. -/
theorem fire_owners {event : Event} (hreachable : self.Reachable)
    (hevent : ∀ env config, event ≠ .addPeer env config) (h : fire self event = some self') :
    self'.owners = self.owners := by
  rw [owners_eq, owners_eq]
  exact fire_map (fun _ _ => rfl) hreachable hevent h

/-- `add_peer` appends an owner where it makes a session. -/
theorem addPeer_owners {config : PeerConfig} (h : fire self (.addPeer env config) = some self') :
    self'.owners = self.owners ++
      if self.adds env config then [(config.peerPub, config.peerIp)] else [] := by
  rw [owners_eq, addPeer_configs h, owners_eq, List.map_append]
  split <;> rfl

omit [Profile] in
/-- A new manager knows the owners that it is given. -/
theorem new_owners {config : ManagerConfig} {configs : List PeerConfig}
    (h : new env config configs = .ok self) :
    self.owners = configs.map fun c => (c.peerPub, c.peerIp) := by
  rw [owners_eq, new_configs h]

theorem Reachable.fire {event : Event} (hreachable : self.Reachable)
    (h : TunnelManager.fire self event = some self') : self'.Reachable := by
  obtain ⟨env, config, configs, start, hnew, hrun⟩ := hreachable
  exact ⟨env, config, configs, start, hnew, hrun.snoc h⟩

end TunnelManager

/-! ## The loop of `cmd_up` -/

namespace Cli

open Coord

variable [CoordCrates]

/-- What `cmd_up` keeps while it runs. -/
structure Daemon where
  run : Run
  manager : TunnelManager
  knownPubkeys : List Key

namespace Daemon

/-- The part of `cmd_up` before its loop, on the peers that the coordinator listed; none where it
ends with an error. -/
def start (env : Env) (config : ManagerConfig) (args : UpArgs) (peers : List PeerEntry) :
    Option Daemon := do
  let run ← (Run.start config.localKeypair.public args).toOption
  let configs ← (startupPeers run.wgPublic run.relayEndpoint 0 peers).toOption
  let manager ← (TunnelManager.new env config configs).toOption
  pure ⟨run, manager, configs.map PeerConfig.peerPub⟩

/-- The configuration that discovery makes for a listed peer; none where it skips the peer. -/
def newPeer (d : Daemon) (peer : PeerEntry) : Option PeerConfig :=
  match peerKey peer with
  | .error _ => none
  | .ok peerPub =>
      if peerPub ∈ d.knownPubkeys then none
      else
        discoveredPeer d.run.wgPublic d.run.relayEndpoint
          (UInt32.ofNat d.manager.peers.length + 1) peerPub peer

/-- Discovery of one listed peer; none where it panics. -/
def discoverPeer (env : Env) (d : Daemon) (peer : PeerEntry) : Option Daemon :=
  match d.newPeer peer with
  | none => some d
  | some config =>
      match TunnelManager.addPeer env config d.manager with
      | .ok true manager =>
          some { d with manager, knownPubkeys := config.peerPub :: d.knownPubkeys }
      | .ok false manager => some { d with manager }
      | .err _ manager => some { d with manager }
      | .panic => none

variable {d d' : Daemon} {env : Env} {peer : PeerEntry}

/-- A peer that is skipped changes nothing, and another one is given to `add_peer`. -/
theorem discoverPeer_cases (h : d.discoverPeer env peer = some d') :
    (d.newPeer peer = none ∧ d' = d) ∨ ∃ config, d.newPeer peer = some config ∧
      TunnelManager.fire d.manager (.addPeer env config) = some d'.manager := by
  rw [discoverPeer] at h
  cases hnew : d.newPeer peer with
  | none =>
      rw [hnew] at h
      cases h
      exact .inl ⟨rfl, rfl⟩
  | some config =>
      rw [hnew] at h
      dsimp only at h
      have hfire : TunnelManager.fire d.manager (.addPeer env config) =
          ((TunnelManager.addPeer env config >>= fun _ => pure ()) d.manager).state? := rfl
      refine .inr ⟨config, rfl, ?_⟩
      rw [hfire, Method.bind_eq]
      cases hadd : TunnelManager.addPeer env config d.manager with
      | ok added manager =>
          rw [hadd] at h
          cases added <;> cases h <;> rfl
      | err e manager =>
          rw [hadd] at h
          cases h
          rfl
      | panic =>
          rw [hadd] at h
          cases h

omit [Profile] in
/-- What startup comes to. -/
theorem start_some {config : ManagerConfig} {args : UpArgs} {peers : List PeerEntry}
    (h : start env config args peers = some d) :
    Run.start config.localKeypair.public args = .ok d.run ∧
      ∃ configs, startupPeers d.run.wgPublic d.run.relayEndpoint 0 peers = .ok configs ∧
        TunnelManager.new env config configs = .ok d.manager := by
  obtain ⟨run, hrun, h⟩ := Option.bind_eq_some_iff.1 h
  obtain ⟨configs, hconfigs, h⟩ := Option.bind_eq_some_iff.1 h
  obtain ⟨manager, hmanager, h⟩ := Option.bind_eq_some_iff.1 h
  cases h
  exact ⟨ok_of_toOption hrun, configs, ok_of_toOption hconfigs, ok_of_toOption hmanager⟩

end Daemon

end Cli

end Naboscale
