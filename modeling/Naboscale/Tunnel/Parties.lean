import Naboscale.Tunnel.Runs
import Naboscale.Crypto.Symbolic

/-!
# Parties over the symbolic primitives

Keys, addresses and configurations of two nodes and an outsider, and the rule by which a run of
them that was evaluated becomes a fact about reachable managers.
-/

namespace Naboscale

open Rust

namespace TunnelManager

variable [Profile] [Primitives] {env : Env} {config : ManagerConfig} {peerCfgs : List PeerConfig}
  {events : List Event}

/-- The manager that a run of a newly made manager ends in. -/
def after (env : Env) (config : ManagerConfig) (peerCfgs : List PeerConfig)
    (events : List Event) : Option TunnelManager :=
  (new env config peerCfgs).toOption.bind fun start => Transition.exec fire start events

omit [Profile] in
/-- What was evaluated at a newly made manager holds of one. -/
theorem of_new {check : TunnelManager → Bool}
    (h : (new env config peerCfgs).toOption.any check = true) :
    ∃ start, new env config peerCfgs = .ok start ∧ check start = true := by
  obtain ⟨start, hstart, hcheck⟩ := (Option.any_eq_true _ _).1 h
  exact ⟨start, ok_of_toOption hstart, hcheck⟩

/-- What was evaluated at the end of a run holds of a manager that the run reaches. -/
theorem of_after {check : TunnelManager → Bool}
    (h : (after env config peerCfgs events).any check = true) :
    ∃ start self, new env config peerCfgs = .ok start ∧
      Transition.exec fire start events = some self ∧ check self = true := by
  obtain ⟨self, hself, hcheck⟩ := (Option.any_eq_true _ _).1 h
  obtain ⟨start, hstart, hrun⟩ := Option.bind_eq_some_iff.1 hself
  exact ⟨start, self, ok_of_toOption hstart, hrun, hcheck⟩

theorem reachable_of_run {start self : TunnelManager} (hnew : new env config peerCfgs = .ok start)
    (hrun : Transition.exec fire start events = some self) : self.Reachable :=
  ⟨env, config, peerCfgs, start, hnew, events, hrun⟩

/-- A manager at the end of a run is reachable. -/
theorem reachable_of_after {self : TunnelManager}
    (h : after env config peerCfgs events = some self) : self.Reachable := by
  obtain ⟨start, hstart, hrun⟩ := Option.bind_eq_some_iff.1 h
  exact reachable_of_run (ok_of_toOption hstart) hrun

end TunnelManager

namespace Symbolic

attribute [local instance] primitives release

/-- The key pair of the node with a number. -/
def keypair (node : UInt8) : Keypair := ⟨key node⟩

/-- The address of the node with a number. -/
def address (node : UInt8) : SocketAddr := ⟨.v4 ⟨10, 0, 0, node⟩, 51820⟩

/-- A network that takes every datagram, at an instant and with the random draws `rng`. -/
def quietEnv (now : Instant) (tai : Tai64N) (rng : UInt8) : Env where
  now := now
  tai := tai
  ephemeral := fun _ => rng
  cookieSecret := key 9
  sendError := fun _ _ => none
  writeError := fun _ => none

/-- Cookies that are all the same. -/
def plainCookie : Key → SocketAddr → Arr 16 := fun _ _ => Arr.zeros 16

/-- The configuration of a node. -/
def nodeConfig (node : UInt8) : ManagerConfig := ⟨keypair node, ⟨100, 100, 0, node⟩, .default⟩

/-- The configuration of a session with a node, with the pre-shared key zero. -/
def sessionWith (node : UInt8) (isInitiator : Bool) : PeerConfig where
  peerPub := publicKey (key node)
  psk := key 0
  localSenderId := 1
  isInitiator := isInitiator
  peerEndpoint := address node
  peerIp := ⟨100, 100, 0, node⟩
  viaRelay := none

/-- The INIT that a node makes for another one. -/
def initFor (sender receiver : UInt8) (tai : Tai64N) (rng : UInt8) : Bytes :=
  match Initiator.new (keypair sender) (publicKey (key receiver)) (key 0) 1 tai with
  | .error _ => []
  | .ok initiator =>
      match Initiator.writeInit rng initiator with
      | .ok message _ => message.val
      | _ => []

end Symbolic

end Naboscale
