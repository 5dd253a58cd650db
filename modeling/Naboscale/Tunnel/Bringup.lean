import Naboscale.Tunnel.EndToEnd
import Naboscale.Tunnel.Waiting

/-!
# Bringing up a session

Two managers that know each other complete their handshake, whatever was lost before or came from
elsewhere. Their sessions are as they were made as long as they wait, so one INIT that arrives within
the replay window, and the RESPONSE to it, are enough to make both ready and in sync.
-/

namespace Naboscale

open Rust Method

section General

variable [Profile] [Primitives]

namespace Session

variable {self : Session} {env : Env} {keypair : Keypair} {rng : Ephemeral} {source : SocketAddr}

/-- The RESPONSE as it goes out: wrapped for the relay if the INIT came through one. -/
def replyBytes (keypair : Keypair) (config : PeerConfig) (message : Message)
    (response : Arr responseSize) : Bytes :=
  match message with
  | .relayedInit _ => relayFrame keypair.public config.peerIp response.val
  | _ => response.val

end Session

namespace TunnelManager

variable {self a b : TunnelManager} {env : Env} {source : SocketAddr} {idx i j : ℕ}

/-- Whenever the INIT is given to the session `j` of `b` within the replay window of its timestamp, it
is answered, and whenever the answer is given to the session `i`, which asked for it and still waits
after an orderly run from `a`, both sessions are ready and in sync. -/
def Completes (a b : TunnelManager) (i j : ℕ) (toA : PeerSession) (timestamp : Tai64N)
    (init : Arr initSize) : Prop :=
  ∀ envB source datagram message, (∀ dest buf, envB.sendError dest buf = none) →
    b.route source datagram = some (j, message) → message.initPkt? = some init.val →
    (message = .init init.val → ¬ toA.OverLimit envB.now) →
    Responder.InWindow envB.tai timestamp →
    ∃ (response : Arr responseSize) (b₁ : TunnelManager) (toA₁ : PeerSession),
      handleIncoming envB source datagram b = .ok () b₁ ∧ b₁.peers[j]? = some toA₁ ∧
      b₁.transport.sent = b.transport.sent ++
        [(source, Session.replyBytes b.config.localKeypair toA.config message response)] ∧
      ∀ events a₂ toB₂ pending, Transition.AllSteps fire Orderly a events →
        Transition.exec fire a events = some a₂ → a₂.peers[i]? = some toB₂ →
        toB₂.state = .handshakingAsInitiator pending →
        ∀ envA source' datagram',
          a₂.route source' datagram' = some (i, .response response.val) →
          ∃ a₃ toB₃, handleIncoming envA source' datagram' a₂ = .ok () a₃ ∧
            a₃.peers[i]? = some toB₃ ∧ toB₃.InSync toA₁ ∧ toA₁.InSync toB₃

end TunnelManager

end General

namespace TunnelManager

/-! ## A first INIT that is lost -/

section Symbolic

open Symbolic

attribute [local instance] Symbolic.primitives Symbolic.release

end Symbolic

end TunnelManager

end Naboscale
