import Naboscale.Cli.Daemon
import Naboscale.Coord.Parties
import Naboscale.Tunnel.Parties

/-!
# Startup and discovery

`cmd_up` has two copies of the code that makes configurations of a listing: one for the peers at
startup and one for the peers that it discovers while it runs. The first ends `cmd_up` where it
cannot read a record, and the second passes the record over or reads it in another way. The two
make the same mesh of a listing exactly if no record is of a kind that they read differently.
-/

namespace Naboscale.Cli

open Rust Coord

/-! ## Each element of a list, and the elements before it -/

section EachAfter

variable {α : Type} {Q R : List α → α → Prop} {l : List α} {a : α}

/-- The statement holds of each element of the list and the elements before it. -/
def EachAfter (Q : List α → α → Prop) (l : List α) : Prop :=
  ∀ before x rest, l = before ++ x :: rest → Q before x

theorem eachAfter_nil : EachAfter Q [] := by
  intro before x rest h
  exact absurd h.symm (List.append_ne_nil_of_right_ne_nil _ (List.cons_ne_nil _ _))

theorem eachAfter_snoc : EachAfter Q (l ++ [a]) ↔ EachAfter Q l ∧ Q l a := by
  constructor
  · intro h
    refine ⟨fun before x rest hl => h before x (rest ++ [a]) ?_, h l a [] rfl⟩
    rw [hl, List.append_assoc, List.cons_append]
  · intro ⟨hinit, hlast⟩ before x rest hl
    rcases List.eq_nil_or_concat rest with rfl | ⟨init, b, rfl⟩
    · obtain ⟨rfl, hx⟩ := List.append_inj' hl rfl
      cases hx
      exact hlast
    · rw [List.concat_eq_append, ← List.cons_append, ← List.append_assoc] at hl
      exact hinit before x init (List.append_inj' hl rfl).1

theorem EachAfter.mono (h : EachAfter Q l) (hmono : ∀ before x, x ∈ l → Q before x → R before x) :
    EachAfter R l := by
  intro before x rest hl
  refine hmono before x ?_ (h before x rest hl)
  rw [hl]
  exact List.mem_append_right _ (List.mem_cons_self ..)

end EachAfter

section General

variable [CoordCrates]

/-! ## The discovery of a whole listing -/

/-- What discovery makes of a record when it has added the configurations `known`; none where it
passes the record over. -/
def discoverNext (localPub : Key) (relayEndpoint : Option SocketAddr) (known : List PeerConfig)
    (peer : PeerEntry) : Option PeerConfig :=
  match peerKey peer with
  | .error _ => none
  | .ok peerPub =>
      if peerPub ∈ known.map PeerConfig.peerPub then none
      else discoveredPeer localPub relayEndpoint (UInt32.ofNat known.length + 1) peerPub peer

/-- The configurations that discovery has added after a listing, where `add_peer` makes a session
for each of them. -/
def discoverPeers (localPub : Key) (relayEndpoint : Option SocketAddr) :
    List PeerConfig → List PeerEntry → List PeerConfig
  | known, [] => known
  | known, peer :: peers =>
      discoverPeers localPub relayEndpoint
        (known ++ (discoverNext localPub relayEndpoint known peer).toList) peers

/-- A configuration without the sender id. -/
def unnumbered (config : PeerConfig) : PeerConfig := { config with localSenderId := 0 }

/-- Startup reads the listing without an error, configures the peers that discovery would add, and
skips the records that discovery would skip. -/
def SameMesh (wgPublic : Key) (relayEndpoint : Option SocketAddr) (listing : List PeerEntry) :
    Prop :=
  (∃ configs, startupPeers wgPublic relayEndpoint 0 listing = .ok configs ∧
    ∀ config, config ∈ configs.map unnumbered ↔
      config ∈ (discoverPeers wgPublic relayEndpoint [] listing).map unnumbered) ∧
  EachAfter (fun before peer =>
    startupPeer wgPublic relayEndpoint before.length peer = .ok none ↔
      discoverNext wgPublic relayEndpoint (discoverPeers wgPublic relayEndpoint [] before) peer =
        none) listing

/-! ## The kinds of records -/

/-- The record has an endpoint, and if that is a wildcard also a relay. -/
def Usable (peer : PeerEntry) : Prop :=
  ∃ endpoint, peer.lastEndpoint = some endpoint ∧
    (isWildcard endpoint = true → peer.viaRelay.isSome = true)

/-- The record has a relay and an address, but no endpoint. -/
def Latent (peer : PeerEntry) : Prop :=
  peer.lastEndpoint = none ∧ peer.viaRelay.isSome = true ∧ (Ipv4Addr.parse peer.ip).isSome = true

/-- Every field of the record that startup reads can be read. -/
structure Legible (peer : PeerEntry) : Prop where
  key : ∃ peerPub, peerKey peer = .ok peerPub
  relay : ∀ s, peer.viaRelay = some s → (SocketAddr.parse s).isSome = true
  endpoint : ∀ s, peer.lastEndpoint = some s → isWildcard s = false →
    (SocketAddr.parse s).isSome = true
  ip : Usable peer → (Ipv4Addr.parse peer.ip).isSome = true

/-- A usable record with the key of the peer comes before it. -/
def Taken (before : List PeerEntry) (peer : PeerEntry) : Prop :=
  ∃ other ∈ before, Usable other ∧ peerKey other = peerKey peer

/-- Startup and discovery read the record in the same way: it can be read, and a peer with its key
came before exactly where startup would not use it but discovery would. -/
structure ReadAlike (before : List PeerEntry) (peer : PeerEntry) : Prop where
  legible : Legible peer
  fresh : Usable peer → ¬ Taken before peer
  latent : Latent peer → Taken before peer

variable {wgPublic : Key} {relayEndpoint : Option SocketAddr} {peer : PeerEntry} {i : ℕ}
  {listing : List PeerEntry} {config : PeerConfig}

omit [CoordCrates] in
theorem usable_not_latent (h : Usable peer) : ¬ Latent peer := by
  obtain ⟨endpoint, hendpoint, _⟩ := h
  intro hlatent
  cases hendpoint.symm.trans hlatent.1

/-- A relay that can be read is there for discovery exactly if it is there. -/
theorem Legible.viaRelay (h : Legible peer) :
    (discoveredViaRelay peer).isSome = peer.viaRelay.isSome := by
  rw [discoveredViaRelay]
  cases hrelay : peer.viaRelay with
  | none => rfl
  | some s => exact h.relay s hrelay

/-! ## Startup -/

theorem startupViaRelay_eq (h : ∀ s, peer.viaRelay = some s → (SocketAddr.parse s).isSome = true) :
    startupViaRelay peer = .ok (discoveredViaRelay peer) := by
  rw [startupViaRelay, discoveredViaRelay]
  cases hrelay : peer.viaRelay with
  | none => rfl
  | some s =>
      obtain ⟨addr, haddr⟩ := Option.isSome_iff_exists.1 (h s hrelay)
      simp only [parseAddr, haddr, Option.bind_some]
      rfl

/-- Startup makes a configuration of a usable record that can be read, with the key that it is
listed with. -/
theorem startupPeer_usable (h : Legible peer) (husable : Usable peer) :
    ∃ config, startupPeer wgPublic relayEndpoint i peer = .ok (some config) ∧
      peerKey peer = .ok config.peerPub := by
  obtain ⟨peerPub, hkey⟩ := h.key
  obtain ⟨peerIp, hip⟩ := Option.isSome_iff_exists.1 (h.ip husable)
  obtain ⟨endpoint, hendpoint, hrelay⟩ := husable
  have hreached : ¬ (isWildcard endpoint && (discoveredViaRelay peer).isNone) = true := by
    intro hskip
    simp only [Bool.and_eq_true, Option.isNone_iff_eq_none] at hskip
    have hsome := hrelay hskip.1
    rw [← h.viaRelay, hskip.2] at hsome
    cases hsome
  have hparse : ∃ addr, startupEndpoint endpoint = .ok addr := by
    rw [startupEndpoint]
    cases hwildcard : isWildcard endpoint with
    | true => exact ⟨placeholder, rfl⟩
    | false =>
        obtain ⟨addr, haddr⟩ := Option.isSome_iff_exists.1 (h.endpoint endpoint hendpoint hwildcard)
        exact ⟨addr, by simp [parseAddr, haddr]⟩
  obtain ⟨addr, haddr⟩ := hparse
  rw [startupPeer, hkey, startupViaRelay_eq h.relay]
  simp only [bind, Except.bind, hendpoint, if_neg hreached, haddr, hip]
  exact ⟨_, rfl, rfl⟩

/-- Startup skips any other record that can be read. -/
theorem startupPeer_skips (h : Legible peer) (husable : ¬ Usable peer) :
    startupPeer wgPublic relayEndpoint i peer = .ok none := by
  obtain ⟨peerPub, hkey⟩ := h.key
  rw [startupPeer, hkey, startupViaRelay_eq h.relay]
  cases hendpoint : peer.lastEndpoint with
  | none => rfl
  | some endpoint =>
      have hskip : (isWildcard endpoint && (discoveredViaRelay peer).isNone) = true := by
        by_contra hreached
        refine husable ⟨endpoint, hendpoint, fun hwildcard => ?_⟩
        rw [hwildcard, Bool.true_and, Option.isNone_iff_eq_none] at hreached
        rw [← h.viaRelay]
        exact Option.isSome_iff_ne_none.2 hreached
      simp only [bind, Except.bind, if_pos hskip]
      rfl

/-- Startup ends with an error at every other record. -/
theorem legible_of_startup {made : Option PeerConfig}
    (h : startupPeer wgPublic relayEndpoint i peer = .ok made) : Legible peer := by
  obtain ⟨peerPub, hkey, h⟩ := ok_of_bind h
  obtain ⟨viaRelay, hrelay, h⟩ := ok_of_bind h
  have hrelays : ∀ s, peer.viaRelay = some s → (SocketAddr.parse s).isSome = true := by
    intro s hs
    rw [startupViaRelay, hs] at hrelay
    cases hparse : SocketAddr.parse s with
    | some addr => rfl
    | none =>
        simp only [parseAddr, hparse] at hrelay
        cases hrelay
  cases startupViaRelay_ok hrelay
  refine ⟨⟨peerPub, hkey⟩, hrelays, ?_, ?_⟩
  · intro s hs hwildcard
    simp only [hs, hwildcard, Bool.false_and, if_neg Bool.false_ne_true] at h
    obtain ⟨addr, haddr, _⟩ := ok_of_bind h
    cases hparse : SocketAddr.parse s with
    | some addr => rfl
    | none =>
        rw [startupEndpoint, hwildcard, if_neg Bool.false_ne_true, parseAddr, hparse] at haddr
        cases haddr
  · rintro ⟨s, hs, hwildcard⟩
    have hreached : ¬ (isWildcard s && (discoveredViaRelay peer).isNone) = true := by
      intro hskip
      simp only [Bool.and_eq_true, Option.isNone_iff_eq_none, discoveredViaRelay] at hskip
      obtain ⟨text, htext⟩ := Option.isSome_iff_exists.1 (hwildcard hskip.1)
      have hsome := hrelays text htext
      rw [htext, Option.bind_some] at hskip
      rw [hskip.2] at hsome
      cases hsome
    simp only [hs, if_neg hreached] at h
    obtain ⟨addr, _, h⟩ := ok_of_bind h
    cases hip : Ipv4Addr.parse peer.ip with
    | some peerIp => rfl
    | none =>
        rw [hip] at h
        cases h

theorem startupPeer_none_iff (h : Legible peer) :
    startupPeer wgPublic relayEndpoint i peer = .ok none ↔ ¬ Usable peer := by
  constructor
  · intro hnone husable
    have hmade : ∃ config, startupPeer wgPublic relayEndpoint i peer = .ok (some config) ∧
        peerKey peer = .ok config.peerPub := startupPeer_usable h husable
    obtain ⟨config, hconfig, _⟩ := hmade
    cases hnone.symm.trans hconfig
  · exact startupPeer_skips h

/-- Startup reads a listing without an error exactly if it can read every record. -/
theorem startupPeers_ok_iff :
    (∃ configs, startupPeers wgPublic relayEndpoint i listing = .ok configs) ↔
      ∀ peer ∈ listing, Legible peer := by
  induction listing generalizing i with
  | nil => exact iff_of_true ⟨[], rfl⟩ fun _ h => absurd h List.not_mem_nil
  | cons peer listing ih =>
      rw [List.forall_mem_cons, ← ih (i := i + 1)]
      constructor
      · intro ⟨configs, h⟩
        obtain ⟨made, hmade, h⟩ := ok_of_bind h
        obtain ⟨rest, hrest, _⟩ := ok_of_bind h
        exact ⟨legible_of_startup hmade, rest, hrest⟩
      · intro ⟨hlegible, rest, hrest⟩
        have hmade : ∃ made, startupPeer wgPublic relayEndpoint i peer = .ok made := by
          by_cases husable : Usable peer
          · obtain ⟨config, hconfig, _⟩ := startupPeer_usable hlegible husable
            exact ⟨some config, hconfig⟩
          · exact ⟨none, startupPeer_skips hlegible husable⟩
        obtain ⟨made, hmade⟩ := hmade
        rw [startupPeers, hmade]
        simp only [bind, Except.bind, hrest]
        exact ⟨_, rfl⟩

/-! ## Discovery -/

/-- Discovery makes a configuration of a record that can be read exactly if it is usable, or has a
relay and an address but no endpoint. -/
theorem discoveredPeer_none_iff (h : Legible peer) {senderId : UInt32} {peerPub : Key} :
    discoveredPeer wgPublic relayEndpoint senderId peerPub peer = none ↔
      ¬ (Usable peer ∨ Latent peer) := by
  have hrelay := h.viaRelay
  constructor
  · intro hnone hread
    have hip : (Ipv4Addr.parse peer.ip).isSome = true := hread.elim h.ip fun hlatent => hlatent.2.2
    obtain ⟨peerIp, hip⟩ := Option.isSome_iff_exists.1 hip
    have hendpoint : ∃ addr, discoveredEndpoint peer = some addr := by
      rw [discoveredEndpoint, hrelay]
      cases hlast : peer.lastEndpoint with
      | none =>
          have hlatent : Latent peer := by
            refine hread.resolve_left ?_
            rintro ⟨s, hs, _⟩
            cases hlast.symm.trans hs
          rw [hlatent.2.1]
          exact ⟨placeholder, rfl⟩
      | some s =>
          cases hwildcard : isWildcard s with
          | false => exact ⟨_, by simp [Option.filter, hwildcard]; rfl⟩
          | true =>
              obtain ⟨s', hs', hneeds⟩ := hread.resolve_right fun hlatent => by
                cases hlast.symm.trans hlatent.1
              cases hlast.symm.trans hs'
              rw [hneeds hwildcard]
              exact ⟨placeholder, by simp [Option.filter, hwildcard]⟩
    obtain ⟨addr, haddr⟩ := hendpoint
    simp only [discoveredPeer, hip, haddr, bind, Option.bind_some] at hnone
    cases hnone
  · intro hread
    by_contra hsome
    obtain ⟨config, hconfig⟩ := Option.ne_none_iff_exists'.1 hsome
    obtain ⟨peerIp, addr, hip, haddr, _⟩ := discoveredPeer_some hconfig
    refine hread ?_
    rw [discoveredEndpoint, hrelay] at haddr
    cases hlast : peer.lastEndpoint with
    | none =>
        refine Or.inr ⟨hlast, ?_, by rw [hip]; rfl⟩
        rw [hlast] at haddr
        by_contra hnone
        simp only [Option.filter_none, if_neg hnone] at haddr
        cases haddr
    | some s =>
        refine Or.inl ⟨s, hlast, fun hwildcard => ?_⟩
        by_contra hnone
        simp [hlast, Option.filter, hwildcard, hnone] at haddr

/-- Discovery passes over a record that can be read exactly if its key is known or there is nothing
to make of it. -/
theorem discoverNext_none_iff (h : Legible peer) {known : List PeerConfig} :
    discoverNext wgPublic relayEndpoint known peer = none ↔
      (∃ peerPub, peerKey peer = .ok peerPub ∧ peerPub ∈ known.map PeerConfig.peerPub) ∨
        ¬ (Usable peer ∨ Latent peer) := by
  obtain ⟨peerPub, hkey⟩ := h.key
  rw [discoverNext, hkey]
  by_cases hknown : peerPub ∈ known.map PeerConfig.peerPub
  · simp only [if_pos hknown]
    exact iff_of_true trivial (Or.inl ⟨peerPub, rfl, hknown⟩)
  · simp only [if_neg hknown]
    rw [discoveredPeer_none_iff h]
    refine (or_iff_right ?_).symm
    rintro ⟨_, hsame, hmem⟩
    cases hsame
    exact hknown hmem

theorem discoverPeers_snoc (known : List PeerConfig) (listing : List PeerEntry)
    (peer : PeerEntry) :
    discoverPeers wgPublic relayEndpoint known (listing ++ [peer]) =
      discoverPeers wgPublic relayEndpoint known listing ++
        (discoverNext wgPublic relayEndpoint (discoverPeers wgPublic relayEndpoint known listing)
          peer).toList := by
  induction listing generalizing known with
  | nil => rfl
  | cons first listing ih => exact ih _

theorem startupPeers_snoc {configs : List PeerConfig} {made : Option PeerConfig}
    (h : startupPeers wgPublic relayEndpoint i listing = .ok configs)
    (hmade : startupPeer wgPublic relayEndpoint (i + listing.length) peer = .ok made) :
    startupPeers wgPublic relayEndpoint i (listing ++ [peer]) = .ok (configs ++ made.toList) := by
  induction listing generalizing i configs with
  | nil =>
      cases h
      rw [List.nil_append, startupPeers]
      simp only [List.length_nil, Nat.add_zero] at hmade
      rw [hmade]
      simp only [bind, Except.bind, startupPeers, pure, Except.pure, List.append_nil,
        List.nil_append]
  | cons first listing ih =>
      obtain ⟨head, hhead, h⟩ := ok_of_bind h
      obtain ⟨rest, hrest, h⟩ := ok_of_bind h
      cases h
      have hindex : i + (first :: listing).length = i + 1 + listing.length := by
        rw [List.length_cons]
        omega
      rw [List.cons_append, startupPeers, hhead]
      simp only [bind, Except.bind]
      rw [ih hrest (hindex ▸ hmade)]
      simp only [pure, Except.pure, List.append_assoc]

/-! ## The loop of `cmd_up` -/

namespace Daemon

variable [Profile] [Primitives]

/-- Discovery of every record of a listing; none where it panics. -/
def discoverAll (env : Env) : Daemon → List PeerEntry → Option Daemon
  | d, [] => some d
  | d, peer :: peers => do
      let d ← d.discoverPeer env peer
      discoverAll env d peers

/-- The sessions of the manager are those of the configurations, and the keys of these are the ones
that the daemon and the manager know. -/
structure Holds (d : Daemon) (known : List PeerConfig) : Prop where
  configs : d.manager.peers.map PeerSession.config = known
  keys : ∀ key, key ∈ d.knownPubkeys ↔ key ∈ known.map PeerConfig.peerPub
  mapped : ∀ key, (d.manager.pubkeyToPeer key).isSome = true ↔
    key ∈ known.map PeerConfig.peerPub

variable {d d' : Daemon} {env : Env} {known : List PeerConfig}

omit [Profile] in
theorem Holds.newPeer (h : d.Holds known) (peer : PeerEntry) :
    d.newPeer peer = discoverNext d.run.wgPublic d.run.relayEndpoint known peer := by
  have hlen : d.manager.peers.length = known.length := by
    rw [← h.configs, List.length_map]
  rw [Daemon.newPeer, discoverNext, hlen]
  cases peerKey peer with
  | error e => rfl
  | ok peerPub => simp only [h.keys peerPub]

omit [Profile] in
/-- Discovery of one record adds what is made of it. -/
theorem Holds.discoverPeer (h : d.Holds known)
    (hbuild : ∀ config, ∃ peer, TunnelManager.newSession d.manager.config.localKeypair env config =
      .ok peer)
    {peer : PeerEntry} (hdiscover : d.discoverPeer env peer = some d') :
    d'.Holds (known ++ (discoverNext d.run.wgPublic d.run.relayEndpoint known peer).toList) ∧
      d'.run = d.run ∧ d'.manager.config = d.manager.config := by
  rw [Daemon.discoverPeer, h.newPeer] at hdiscover
  cases hnext : discoverNext d.run.wgPublic d.run.relayEndpoint known peer with
  | none =>
      rw [hnext] at hdiscover
      cases hdiscover
      rw [Option.toList_none, List.append_nil]
      exact ⟨h, rfl, rfl⟩
  | some config =>
      obtain ⟨session, hsession⟩ := hbuild config
      have hconfig := (TunnelManager.newSession_spec hsession).1
      -- Discovery has looked the key up, so `add_peer` finds no session for it.
      have hunknown : config.peerPub ∉ known.map PeerConfig.peerPub := by
        rw [discoverNext] at hnext
        cases hkey : peerKey peer with
        | error e =>
            rw [hkey] at hnext
            cases hnext
        | ok peerPub =>
            rw [hkey] at hnext
            simp only at hnext
            split at hnext
            · cases hnext
            · obtain ⟨_, _, _, _, rfl⟩ := discoveredPeer_some hnext
              assumption
      have hadd : TunnelManager.addPeer env config d.manager =
          .ok true (d.manager.insertSession session) := by
        have hnone : ¬ (d.manager.pubkeyToPeer config.peerPub).isSome = true := by
          rw [h.mapped]
          exact hunknown
        rw [TunnelManager.addPeer, Method.bind_ok (Method.get_apply _), if_neg hnone, hsession]
        rfl
      rw [hnext] at hdiscover
      simp only [hadd] at hdiscover
      cases hdiscover
      refine ⟨⟨?_, fun key => ?_, fun key => ?_⟩, rfl, rfl⟩
      · rw [Option.toList_some, ← h.configs, ← hconfig]
        exact List.map_append
      · rw [Option.toList_some, List.map_append, List.mem_append, List.mem_cons, h.keys,
          List.map_singleton, List.mem_singleton, or_comm]
      · rw [Option.toList_some, List.map_append, List.mem_append, ← h.mapped, List.map_singleton,
          List.mem_singleton]
        show (Function.update d.manager.pubkeyToPeer session.config.peerPub _ key).isSome = true ↔ _
        rw [hconfig, Function.update_apply]
        by_cases hsame : key = config.peerPub
        · rw [if_pos hsame]
          exact iff_of_true rfl (Or.inr hsame)
        · rw [if_neg hsame]
          exact (or_iff_left hsame).symm

omit [Profile] in
/-- Discovery of a listing adds the configurations of `discoverPeers`. -/
theorem Holds.discoverAll (h : d.Holds known)
    (hbuild : ∀ config, ∃ peer, TunnelManager.newSession d.manager.config.localKeypair env config =
      .ok peer)
    {listing : List PeerEntry} (hdiscover : d.discoverAll env listing = some d') :
    d'.Holds (discoverPeers d.run.wgPublic d.run.relayEndpoint known listing) := by
  induction listing generalizing d known with
  | nil =>
      cases hdiscover
      exact h
  | cons peer listing ih =>
      obtain ⟨next, hnext, hrest⟩ := Option.bind_eq_some_iff.1 hdiscover
      obtain ⟨hholds, hrun, hconfig⟩ := h.discoverPeer hbuild hnext
      have hend := ih hholds (by rw [hconfig]; exact hbuild) hrest
      rw [hrun] at hend
      exact hend

end Daemon

/-! ## Where the two agree -/

/-- Startup can read the record, and discovery adds it exactly if startup uses it. -/
def Agrees (wgPublic : Key) (relayEndpoint : Option SocketAddr) (before : List PeerEntry)
    (peer : PeerEntry) : Prop :=
  Legible peer ∧ (discoverNext wgPublic relayEndpoint
    (discoverPeers wgPublic relayEndpoint [] before) peer = none ↔ ¬ Usable peer)

/-- A configuration that startup makes of a record is the one that discovery makes of it. -/
theorem discovers_same {known : List PeerConfig} {made : PeerConfig}
    (hstartup : startupPeer wgPublic relayEndpoint i peer = .ok (some config))
    (hdiscover : discoverNext wgPublic relayEndpoint known peer = some made) :
    unnumbered made = unnumbered config ∧ peerKey peer = .ok made.peerPub := by
  obtain ⟨hkey, hsame⟩ := discovered_of_startup hstartup
  rw [discoverNext, hkey] at hdiscover
  simp only at hdiscover
  split at hdiscover
  · cases hdiscover
  · obtain ⟨_, _, hip, haddr, rfl⟩ := discoveredPeer_some hdiscover
    obtain ⟨_, _, hip', haddr', hconfig⟩ := discoveredPeer_some hsame
    cases hip.symm.trans hip'
    cases haddr.symm.trans haddr'
    refine ⟨?_, hkey⟩
    rw [hconfig]
    rfl

/-- As long as the two agree, they make the same configurations, with the keys of the usable
records. -/
theorem agrees_configs (h : EachAfter (Agrees wgPublic relayEndpoint) listing) :
    ∃ configs, startupPeers wgPublic relayEndpoint 0 listing = .ok configs ∧
      configs.map unnumbered =
        (discoverPeers wgPublic relayEndpoint [] listing).map unnumbered ∧
      ∀ peerPub, peerPub ∈ (discoverPeers wgPublic relayEndpoint [] listing).map
          PeerConfig.peerPub ↔
        ∃ other ∈ listing, Usable other ∧ peerKey other = .ok peerPub := by
  induction listing using List.reverseRecOn with
  | nil => exact ⟨[], rfl, rfl, fun _ => by simp [discoverPeers]⟩
  | append_singleton listing peer ih =>
      obtain ⟨hinit, hlegible, hagrees⟩ := eachAfter_snoc.1 h
      obtain ⟨configs, hconfigs, hsame, hkeys⟩ := ih hinit
      rw [discoverPeers_snoc]
      by_cases husable : Usable peer
      · -- Both make a configuration of the record.
        have hmade : ∃ config, startupPeer wgPublic relayEndpoint (0 + listing.length) peer =
            .ok (some config) ∧ peerKey peer = .ok config.peerPub :=
          startupPeer_usable hlegible husable
        obtain ⟨config, hconfig, _⟩ := hmade
        obtain ⟨made, hdiscover⟩ := Option.ne_none_iff_exists'.1
          fun hnone => hagrees.1 hnone husable
        obtain ⟨hequal, hkey⟩ := discovers_same hconfig hdiscover
        refine ⟨configs ++ [config], startupPeers_snoc hconfigs hconfig, ?_, fun peerPub => ?_⟩
        · rw [hdiscover, Option.toList_some, List.map_append, List.map_append, hsame,
            List.map_singleton, List.map_singleton, hequal]
        · rw [hdiscover, Option.toList_some, List.map_append, List.mem_append, hkeys]
          simp only [List.map_singleton, List.mem_singleton, List.mem_append]
          constructor
          · rintro (⟨other, hother, hrest⟩ | rfl)
            · exact ⟨other, Or.inl hother, hrest⟩
            · exact ⟨peer, Or.inr rfl, husable, hkey⟩
          · rintro ⟨other, hother | rfl, husable', hkey'⟩
            · exact Or.inl ⟨other, hother, husable', hkey'⟩
            · exact Or.inr (Except.ok.inj (hkey'.symm.trans hkey))
      · -- Both pass the record over.
        have hskips : startupPeer wgPublic relayEndpoint (0 + listing.length) peer = .ok none :=
          startupPeer_skips hlegible husable
        refine ⟨configs, ?_, ?_, fun peerPub => ?_⟩
        · rw [startupPeers_snoc hconfigs hskips, Option.toList_none, List.append_nil]
        · rw [hagrees.2 husable, Option.toList_none, List.append_nil, hsame]
        · rw [hagrees.2 husable, Option.toList_none, List.append_nil, hkeys]
          constructor
          · intro ⟨other, hother, hrest⟩
            exact ⟨other, List.mem_append_left _ hother, hrest⟩
          · intro ⟨other, hother, husable', hkey'⟩
            obtain hother | hother := List.mem_append.1 hother
            · exact ⟨other, hother, husable', hkey'⟩
            · cases List.mem_singleton.1 hother
              exact absurd husable' husable

/-- After a listing on which the two agree, they agree on the next record exactly if they read it in
the same way. -/
theorem agrees_iff (h : EachAfter (Agrees wgPublic relayEndpoint) listing) :
    Agrees wgPublic relayEndpoint listing peer ↔ ReadAlike listing peer := by
  obtain ⟨_, _, _, hkeys⟩ := agrees_configs h
  have htaken : ∀ hlegible : Legible peer,
      (∃ peerPub, peerKey peer = .ok peerPub ∧ peerPub ∈
        (discoverPeers wgPublic relayEndpoint [] listing).map PeerConfig.peerPub) ↔
      Taken listing peer := by
    intro hlegible
    constructor
    · intro ⟨peerPub, hkey, hmem⟩
      obtain ⟨other, hother, husable, hsame⟩ := (hkeys peerPub).1 hmem
      exact ⟨other, hother, husable, hsame.trans hkey.symm⟩
    · intro ⟨other, hother, husable, hsame⟩
      obtain ⟨peerPub, hkey⟩ := hlegible.key
      exact ⟨peerPub, hkey, (hkeys peerPub).2 ⟨other, hother, husable, hsame.trans hkey⟩⟩
  constructor
  · intro ⟨hlegible, hagrees⟩
    rw [discoverNext_none_iff hlegible, htaken hlegible] at hagrees
    refine ⟨hlegible, fun husable hbefore => hagrees.1 (Or.inl hbefore) husable, fun hlatent => ?_⟩
    have hunusable : ¬ Usable peer := fun husable => usable_not_latent husable hlatent
    exact (hagrees.2 hunusable).resolve_right fun hnone => hnone (Or.inr hlatent)
  · intro ⟨hlegible, hfresh, hlatent⟩
    refine ⟨hlegible, ?_⟩
    rw [discoverNext_none_iff hlegible, htaken hlegible]
    constructor
    · rintro (hbefore | hnone) husable
      · exact hfresh husable hbefore
      · exact hnone (Or.inl husable)
    · intro hunusable
      by_cases hl : Latent peer
      · exact Or.inl (hlatent hl)
      · exact Or.inr fun hread => hread.elim hunusable hl

theorem eachAfter_agrees_iff :
    EachAfter (Agrees wgPublic relayEndpoint) listing ↔ EachAfter ReadAlike listing := by
  induction listing using List.reverseRecOn with
  | nil => exact iff_of_true eachAfter_nil eachAfter_nil
  | append_singleton listing peer ih =>
      rw [eachAfter_snoc, eachAfter_snoc, ← ih]
      exact and_congr_right fun h => agrees_iff h

/-- Startup and discovery build the same mesh of a listing exactly if they read every record of it
in the same way. -/
theorem sameMesh_iff :
    SameMesh wgPublic relayEndpoint listing ↔ EachAfter ReadAlike listing := by
  have halike : EachAfter (Agrees wgPublic relayEndpoint) listing ↔ EachAfter ReadAlike listing :=
    eachAfter_agrees_iff
  rw [← halike]
  constructor
  · intro ⟨⟨configs, hconfigs, _⟩, hskips⟩
    have hlegible := startupPeers_ok_iff.1 ⟨configs, hconfigs⟩
    refine hskips.mono fun before peer hpeer hskip => ⟨hlegible peer hpeer, ?_⟩
    rw [← hskip]
    exact startupPeer_none_iff (hlegible peer hpeer)
  · intro h
    obtain ⟨configs, hconfigs, hsame, _⟩ := agrees_configs h
    refine ⟨⟨configs, hconfigs, fun config => by rw [hsame]⟩, ?_⟩
    refine h.mono fun before peer _ ⟨hlegible, hagrees⟩ => ?_
    rw [hagrees]
    exact startupPeer_none_iff hlegible

end General

section Symbolic

open Coord.Parties

attribute [local instance] crates

/-- A node that told the coordinator a name for its endpoint. -/
def named : PeerEntry where
  nodeId := "node"
  wgPubkey := text (key 2).val
  ip := "100.100.0.2"
  lastEndpoint := some "node.example:51820"
  viaRelay := none
  lastSeen := some 1000

/-- Startup ends with an error at the name, and discovery adds the node without an endpoint. -/
theorem named_endpoint_apart :
    startupPeers (key 1) none 0 [named] = .error .peerEndpoint ∧
      (discoverPeers (key 1) none [] [named]).map PeerConfig.peerEndpoint = [placeholder] ∧
      ¬ SameMesh (key 1) none [named] := by
  have hstartup : startupPeers (key 1) none 0 [named] = .error .peerEndpoint := by
    rfl
  refine ⟨hstartup, by decide +kernel, fun h => ?_⟩
  obtain ⟨⟨configs, hconfigs, _⟩, _⟩ := h
  cases hstartup.symm.trans hconfigs

end Symbolic

end Naboscale.Cli
