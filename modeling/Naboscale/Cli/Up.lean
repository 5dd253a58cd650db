import Naboscale.Coord.Routes
import Naboscale.Rust.SocketAddr
import Naboscale.Tunnel.Manager

/-!
# The configuration of peers in `naboscale up`

What `cmd_up` makes of the peers that the coordinator lists: one configuration for each usable
peer at startup, and one for each new peer that a later listing shows. The two copies of the code
differ in what they do with a peer that they cannot read.
-/

namespace Naboscale.Cli

open Rust Coord

/-- What the command line, the environment and the socket give to `cmd_up`. -/
structure UpArgs where
  relay : Option String
  advertiseEndpoint : Option String
  envAdvertiseEndpoint : Option String
  boundEndpoint : SocketAddr

/-- The errors of `cmd_up` about what it reads. The last six are `Error::Server` with the text
`invalid --relay endpoint: {s}`, `peer wg_pubkey is not 32 bytes`,
`peer {node_id} via_relay {s:?} is not a valid ip:port`,
`peer endpoint is not a valid socket address`, `peer ip is not a valid IPv4: {ip}` and
`advertise-endpoint {s:?} is not a valid ip:port`. -/
inductive UpError [CoordCrates] where
  | base64 (error : CoordCrates.DecodeError)
  | invalidRelay (s : String)
  | keyLength
  | peerViaRelay (nodeId s : String)
  | peerEndpoint
  | peerIp (ip : String)
  | advertiseEndpoint (s : String)

variable [CoordCrates]

/-! ## One peer -/

/-- The placeholder `0.0.0.0:0`. -/
def placeholder : SocketAddr := ⟨.v4 .unspecified, 0⟩

/-- `starts_with("0.0.0.0:") || starts_with("[::]:")`. -/
def isWildcard (s : String) : Bool :=
  "0.0.0.0:".toList.isPrefixOf s.toList || "[::]:".toList.isPrefixOf s.toList

/-- The role override, which both copies of the code have: with `--relay` we initiate, the peer
does if it has a relay, and else the one with the greater key. -/
def isInitiator (wgPublic peerPub : Key) (relayEndpoint peerViaRelay : Option SocketAddr) : Bool :=
  if relayEndpoint.isSome then true
  else if peerViaRelay.isSome then false
  else decide (peerPub.val < wgPublic.val)

/-- `B64.decode(&peer.wg_pubkey)?.try_into()`. -/
def peerKey (peer : PeerEntry) : Except UpError Key :=
  match CoordCrates.base64Decode peer.wgPubkey with
  | .error e => .error (.base64 e)
  | .ok bytes => if h : bytes.length = 32 then .ok ⟨bytes, h⟩ else .error .keyLength

/-- A text that must be a socket address. -/
def parseAddr (e : UpError) (s : String) : Except UpError SocketAddr :=
  match SocketAddr.parse s with
  | some addr => .ok addr
  | none => .error e

/-- `peer_via_relay` at startup. -/
def startupViaRelay (peer : PeerEntry) : Except UpError (Option SocketAddr) :=
  match peer.viaRelay with
  | some s => (parseAddr (.peerViaRelay peer.nodeId s) s).map some
  | none => .ok none

/-- `peer_endpoint` at startup. -/
def startupEndpoint (endpoint : String) : Except UpError SocketAddr :=
  if isWildcard endpoint then .ok placeholder else parseAddr .peerEndpoint endpoint

/-- The configuration of a listed peer at startup; none where the peer is skipped. -/
def startupPeer (wgPublic : Key) (relayEndpoint : Option SocketAddr) (i : ℕ) (peer : PeerEntry) :
    Except UpError (Option PeerConfig) := do
  let peerPub ← peerKey peer
  let peerViaRelay ← startupViaRelay peer
  match peer.lastEndpoint with
  | none => pure none
  | some endpoint =>
      if isWildcard endpoint && peerViaRelay.isNone then pure none
      else do
        let peerEndpoint ← startupEndpoint endpoint
        match Ipv4Addr.parse peer.ip with
        | none => .error (.peerIp peer.ip)
        | some peerIp =>
            pure (some {
              peerPub
              psk := Arr.zeros 32
              localSenderId := UInt32.ofNat i + 1
              isInitiator := isInitiator wgPublic peerPub relayEndpoint peerViaRelay
              peerEndpoint
              peerIp
              viaRelay := peerViaRelay.or relayEndpoint })

/-- `peer_cfgs`: the configurations of the peers from index `i` on. -/
def startupPeers (wgPublic : Key) (relayEndpoint : Option SocketAddr) :
    ℕ → List PeerEntry → Except UpError (List PeerConfig)
  | _, [] => pure []
  | i, peer :: peers => do
      let config ← startupPeer wgPublic relayEndpoint i peer
      let configs ← startupPeers wgPublic relayEndpoint (i + 1) peers
      pure (config.toList ++ configs)

/-- `peer_via_relay` at runtime: a text that is no address counts as none. -/
def discoveredViaRelay (peer : PeerEntry) : Option SocketAddr := peer.viaRelay.bind SocketAddr.parse

/-- `peer_endpoint` at runtime; none where the peer is skipped. -/
def discoveredEndpoint (peer : PeerEntry) : Option SocketAddr :=
  match peer.lastEndpoint.filter fun s => !isWildcard s with
  | some s => some ((SocketAddr.parse s).getD placeholder)
  | none => if (discoveredViaRelay peer).isSome then some placeholder else none

/-- The configuration of a new peer at runtime; none where the peer is skipped. -/
def discoveredPeer (localPub : Key) (relayEndpoint : Option SocketAddr) (senderId : UInt32)
    (peerPub : Key) (peer : PeerEntry) : Option PeerConfig := do
  let peerIp ← Ipv4Addr.parse peer.ip
  let peerEndpoint ← discoveredEndpoint peer
  pure {
    peerPub
    psk := Arr.zeros 32
    localSenderId := senderId
    isInitiator := isInitiator localPub peerPub relayEndpoint (discoveredViaRelay peer)
    peerEndpoint
    peerIp
    viaRelay := (discoveredViaRelay peer).or relayEndpoint }

/-! ## What a node tells the coordinator -/

/-- `relay_endpoint`. -/
def parseRelay (relay : Option String) : Except UpError (Option SocketAddr) :=
  match relay with
  | some s => (parseAddr (.invalidRelay s) s).map some
  | none => .ok none

/-- `advertised`: the flag, else the address of the relay, else the environment, else what the
socket is bound to. -/
def advertised (args : UpArgs) (relayEndpoint : Option SocketAddr) : String :=
  (args.advertiseEndpoint.or ((relayEndpoint.map toString).or args.envAdvertiseEndpoint)).getD
    (toString args.boundEndpoint)

/-- What stays fixed while `cmd_up` runs. -/
structure Run where
  wgPublic : Key
  relayEndpoint : Option SocketAddr
  advertised : String

/-- The part of `cmd_up` that reads its arguments. -/
def Run.start (wgPublic : Key) (args : UpArgs) : Except UpError Run := do
  let relayEndpoint ← parseRelay args.relay
  let advertised := Cli.advertised args relayEndpoint
  let _ ← parseAddr (.advertiseEndpoint advertised) advertised
  pure ⟨wgPublic, relayEndpoint, advertised⟩

/-- `via_relay_for_heartbeat`. -/
def Run.viaRelay (run : Run) : Option String := run.relayEndpoint.map toString

/-- The run has a configuration for a peer when it reads the listing, as one of its peers at
startup or as a new one at runtime. -/
def Run.Configures (run : Run) (listing : List PeerEntry) (config : PeerConfig) : Prop :=
  (∃ configs, startupPeers run.wgPublic run.relayEndpoint 0 listing = .ok configs ∧
    config ∈ configs) ∨
  ∃ peer ∈ listing, ∃ peerPub senderId, peerKey peer = .ok peerPub ∧
    discoveredPeer run.wgPublic run.relayEndpoint senderId peerPub peer = some config

/-! ## The two copies agree -/

variable {wgPublic : Key} {relayEndpoint : Option SocketAddr} {peer : PeerEntry}
  {config : PeerConfig}

omit [CoordCrates] in
/-- What discovery puts into a configuration. -/
theorem discoveredPeer_some {localPub peerPub : Key} {senderId : UInt32}
    (h : discoveredPeer localPub relayEndpoint senderId peerPub peer = some config) :
    ∃ peerIp peerEndpoint, Ipv4Addr.parse peer.ip = some peerIp ∧
      discoveredEndpoint peer = some peerEndpoint ∧
      config = {
        peerPub
        psk := Arr.zeros 32
        localSenderId := senderId
        isInitiator := isInitiator localPub peerPub relayEndpoint (discoveredViaRelay peer)
        peerEndpoint
        peerIp
        viaRelay := (discoveredViaRelay peer).or relayEndpoint } := by
  obtain ⟨peerIp, hip, h⟩ := Option.bind_eq_some_iff.1 h
  obtain ⟨peerEndpoint, hendpoint, h⟩ := Option.bind_eq_some_iff.1 h
  exact ⟨peerIp, peerEndpoint, hip, hendpoint, (Option.some.inj h).symm⟩

/-- Where startup accepts the relay of a peer, discovery reads the same one. -/
theorem startupViaRelay_ok {viaRelay : Option SocketAddr}
    (h : startupViaRelay peer = .ok viaRelay) : viaRelay = discoveredViaRelay peer := by
  rw [startupViaRelay] at h
  rw [discoveredViaRelay]
  cases hrelay : peer.viaRelay with
  | none =>
      rw [hrelay] at h
      cases h
      rfl
  | some s =>
      rw [hrelay] at h
      simp only [parseAddr] at h
      rw [Option.bind_some]
      cases hparse : SocketAddr.parse s with
      | none =>
          rw [hparse] at h
          cases h
      | some addr =>
          rw [hparse] at h
          cases h
          rfl

/-- Where startup accepts the endpoint of a peer, discovery takes the same one. -/
theorem startupEndpoint_ok {endpoint : String} {addr : SocketAddr}
    (hendpoint : peer.lastEndpoint = some endpoint)
    (husable : ¬ (isWildcard endpoint && (discoveredViaRelay peer).isNone) = true)
    (h : startupEndpoint endpoint = .ok addr) : discoveredEndpoint peer = some addr := by
  rw [startupEndpoint] at h
  rw [discoveredEndpoint, hendpoint]
  cases hwildcard : isWildcard endpoint with
  | true =>
      rw [if_pos hwildcard] at h
      cases h
      have hrelay : (discoveredViaRelay peer).isSome = true := by
        rw [hwildcard, Bool.true_and, Bool.not_eq_true, Option.isNone_eq_false_iff] at husable
        exact husable
      simp [Option.filter, hwildcard, hrelay]
  | false =>
      rw [if_neg (hwildcard ▸ Bool.false_ne_true), parseAddr] at h
      cases hparse : SocketAddr.parse endpoint with
      | none =>
          rw [hparse] at h
          cases h
      | some addr' =>
          rw [hparse] at h
          cases h
          simp [Option.filter, hwildcard, hparse]

/-- A configuration that startup makes is the one that discovery would make. -/
theorem discovered_of_startup {i : ℕ}
    (h : startupPeer wgPublic relayEndpoint i peer = .ok (some config)) :
    peerKey peer = .ok config.peerPub ∧
      discoveredPeer wgPublic relayEndpoint config.localSenderId config.peerPub peer =
        some config := by
  obtain ⟨peerPub, hkey, h⟩ := ok_of_bind h
  obtain ⟨viaRelay, hrelay, h⟩ := ok_of_bind h
  cases startupViaRelay_ok hrelay
  cases hendpoint : peer.lastEndpoint with
  | none =>
      rw [hendpoint] at h
      cases h
  | some endpoint =>
      simp only [hendpoint] at h
      by_cases husable : (isWildcard endpoint && (discoveredViaRelay peer).isNone) = true
      · rw [if_pos husable] at h
        cases h
      · rw [if_neg husable] at h
        obtain ⟨addr, haddr, h⟩ := ok_of_bind h
        have hdiscovered := startupEndpoint_ok hendpoint husable haddr
        cases hip : Ipv4Addr.parse peer.ip with
        | none =>
            rw [hip] at h
            cases h
        | some peerIp =>
            rw [hip] at h
            cases h
            refine ⟨hkey, ?_⟩
            simp only [discoveredPeer, hip, hdiscovered, bind, Option.bind_some, pure]

/-- Each configuration at startup comes from one of the listed peers. -/
theorem startupPeers_mem {i : ℕ} {listing : List PeerEntry} {configs : List PeerConfig}
    (h : startupPeers wgPublic relayEndpoint i listing = .ok configs) (hconfig : config ∈ configs) :
    ∃ peer ∈ listing, ∃ j, startupPeer wgPublic relayEndpoint j peer = .ok (some config) := by
  induction listing generalizing i configs with
  | nil =>
      cases h
      cases hconfig
  | cons peer listing ih =>
      obtain ⟨first, hfirst, h⟩ := ok_of_bind h
      obtain ⟨rest, hrest, h⟩ := ok_of_bind h
      cases h
      obtain hmem | hmem := List.mem_append.1 hconfig
      · rw [Option.mem_toList] at hmem
        cases hmem
        exact ⟨peer, List.mem_cons_self .., i, hfirst⟩
      · obtain ⟨peer', hpeer', j, hj⟩ := ih hrest hmem
        exact ⟨peer', List.mem_cons_of_mem _ hpeer', j, hj⟩

/-- Every configuration is one that discovery makes of a listed peer. -/
theorem Run.Configures.discovered {run : Run} {listing : List PeerEntry}
    (h : run.Configures listing config) :
    ∃ peer ∈ listing, ∃ senderId, peerKey peer = .ok config.peerPub ∧
      discoveredPeer run.wgPublic run.relayEndpoint senderId config.peerPub peer =
        some config := by
  obtain ⟨configs, hconfigs, hmem⟩ | ⟨peer, hpeer, peerPub, senderId, hkey, hconfig⟩ := h
  · obtain ⟨peer, hpeer, i, hi⟩ := startupPeers_mem hconfigs hmem
    exact ⟨peer, hpeer, _, discovered_of_startup hi⟩
  · have hpub : config.peerPub = peerPub := by
      obtain ⟨_, _, _, _, rfl⟩ := discoveredPeer_some hconfig
      rfl
    exact ⟨peer, hpeer, senderId, hpub ▸ hkey, hpub ▸ hconfig⟩

end Naboscale.Cli
