import Naboscale.Outside
import Naboscale.Rust.Lockstep
import Naboscale.Tunnel.Parties
import Naboscale.Tunnel.Steady

/-!
# The manager without some of its peers

`without F` is the manager as if the peers at the indices in `F` were not configured. A handler of
another peer, and a datagram that concerns only others, does the same in both managers.
-/

namespace Naboscale

open Rust Method Outside

variable [Profile] [Primitives]

/-- The inputs of a call on the manager without some of its peers: each of the others has its own
draw. -/
def Env.without (F : ℕ → Bool) (n : ℕ) (env : Env) : Env :=
  { env with ephemeral := fun k => env.ephemeral (source F n k) }

namespace TunnelManager

/-- The manager as if the peers at the indices of the set were not configured. -/
def without (F : ℕ → Bool) (self : TunnelManager) : TunnelManager :=
  { self with
    peers := outside F self.peers
    endpointToPeer := fun addr =>
      (self.endpointToPeer addr).bind fun i => if F i then none else some (rank F i)
    pubkeyToPeer := fun key =>
      (self.pubkeyToPeer key).bind fun i => if F i then none else some (rank F i) }

variable {F : ℕ → Bool} {self : TunnelManager} {env : Env} {i : ℕ}

/-- The first peer with an address. -/
def peerAt (self : TunnelManager) (destIp : Ipv4Addr) : Option ℕ :=
  self.peers.findIdx? fun peer => peer.config.peerIp = destIp

/-- The datagram concerns no peer of the set: its source is not the endpoint of one, and it is
neither an INIT, nor a RELAY packet from or for one. -/
structure Foreign (F : ℕ → Bool) (source : SocketAddr) (pkt : Bytes) (manager : TunnelManager) :
    Prop where
  source : ∀ i ∈ manager.endpointToPeer source, F i = false
  init : pkt[0]? = some messageTypeInit → ∀ i ∈ manager.initiatorByMac1 pkt, F i = false
  sender : pkt[0]? = some messageTypeRelay →
    ∀ i ∈ (relayFrom pkt).bind manager.pubkeyToPeer, F i = false
  dest : pkt[0]? = some messageTypeRelay → ∀ destIp ∈ relayDest pkt,
    ∀ i ∈ manager.peerAt destIp, F i = false

end TunnelManager

end Naboscale
