import Naboscale.Tunnel.Parties

/-!
# When a datagram makes the manager panic

Every slice, index and length of `handle_incoming` is in order, except that the cookie of an
INIT over the rate limit cannot be made, and that a build with overflow checks traps on a sealed
timestamp far from the clock.
-/

namespace Naboscale

open Rust

namespace TunnelManager

section General

variable [Profile] [Primitives] {self : TunnelManager} {env : Env} {source : SocketAddr}
  {pkt : Bytes}

/-- The datagram reaches a session whose handler panics on it. -/
def Fatal (self : TunnelManager) (env : Env) (source : SocketAddr) (pkt : Bytes) : Prop :=
  ∃ idx message peer, self.route source pkt = some (idx, message) ∧
    self.peers[idx]? = some peer ∧ Session.Panics peer self.config.localKeypair env message

/-- Noting a datagram does not change whether the handler panics. -/
theorem panics_heard (peer : PeerSession) (keypair : Keypair) (endpoint : SocketAddr)
    (message : Message) :
    Session.Panics (peer.heard env endpoint) keypair env message ↔
      Session.Panics peer keypair env message := by
  cases message <;> exact Iff.rfl

/-- Only a build with overflow checks traps on a timestamp. -/
theorem overflowChecks_of_traps {responder : Responder} (h : responder.Traps pkt) :
    Profile.overflowChecks = true := by
  obtain ⟨_, _, _, _, _, hover⟩ := h
  exact hover.1

/-- A routed datagram panics exactly where its handler does. -/
theorem handleIncoming_routed_panic (hsound : self.Sound) {idx : ℕ} {message : Message}
    {peer : PeerSession} (hroute : self.route source pkt = some (idx, message))
    (hpeer : self.peers[idx]? = some peer) :
    handleIncoming env source pkt self = .panic ↔
      Session.Panics peer self.config.localKeypair env message := by
  obtain ⟨p, noted, hp, hnoted, heq⟩ := handleIncoming_routed env hsound.wellFormed hroute
  cases hpeer.symm.trans hp
  obtain ⟨endpoint, hheard⟩ := hnoted.getElem?_self hpeer
  have hgate := (peer.keeps_heard env endpoint).gate (hsound.gates hpeer)
  have hiff : Session.deliver self.config.localKeypair self.cookieSecret env (env.ephemeral idx)
      source message ⟨peer.heard env endpoint, noted.transport, noted.device⟩ = .panic ↔
      Session.Panics (peer.heard env endpoint) self.config.localKeypair env message :=
    Session.deliver_panic_iff hgate message
  rw [panics_heard] at hiff
  rw [heq, atPeer_eq hheard, ← hiff]
  cases Session.deliver self.config.localKeypair self.cookieSecret env (env.ephemeral idx) source
    message ⟨peer.heard env endpoint, noted.transport, noted.device⟩ <;> simp

/-- In every reachable state, `handle_incoming` returns on a datagram exactly when the datagram
is not fatal: not an INIT over the rate limit, nor an INIT whose timestamp traps. -/
theorem incoming_returns_iff (hreachable : self.Reachable) (env : Env) (source : SocketAddr)
    (pkt : Bytes) :
    handleIncoming env source pkt self ≠ .panic ↔ ¬ self.Fatal env source pkt := by
  have hsound := hreachable.sound
  refine not_congr ?_
  constructor
  · intro hpanic
    cases hroute : self.route source pkt with
    | none =>
        obtain ⟨_, _, hok | ⟨e, herr⟩⟩ := handleIncoming_unrouted env hsound.wellFormed hroute
        · rw [hok] at hpanic
          cases hpanic
        · rw [herr] at hpanic
          cases hpanic
    | some target =>
        obtain ⟨idx, message⟩ := target
        obtain ⟨peer, _, hpeer, _⟩ := handleIncoming_routed env hsound.wellFormed hroute
        exact ⟨idx, message, peer, hroute, hpeer,
          (handleIncoming_routed_panic hsound hroute hpeer).1 hpanic⟩
  · rintro ⟨idx, message, peer, hroute, hpeer, hpanics⟩
    exact (handleIncoming_routed_panic hsound hroute hpeer).2 hpanics

end General

section Symbolic

open Symbolic

attribute [local instance] Symbolic.primitives Symbolic.release

/-- The datagrams of a burst: the type byte of an INIT, at one instant. -/
def burst (count : ℕ) : List Event :=
  List.replicate count (.incoming (quietEnv 5 ⟨1000, 0⟩ 7) (address 2) [messageTypeInit])

/-- The first datagram of a burst is not fatal, and the manager returns. -/
theorem first_of_burst_returns :
    ∃ self : TunnelManager, self.Reachable ∧
      handleIncoming (quietEnv 5 ⟨1000, 0⟩ 7) (address 2) [messageTypeInit] self ≠ .panic := by
  have hrun : (after (quietEnv 0 ⟨1000, 0⟩ 7) (nodeConfig 1) [sessionWith 2 false] []).any
      (fun self => self.peers.all fun peer => decide (peer.initRxCount = 0)) = true := by
    decide +kernel
  obtain ⟨start, self, hnew, hrun, hcount⟩ := of_after hrun
  have hreachable := reachable_of_run hnew hrun
  refine ⟨self, hreachable, (incoming_returns_iff hreachable _ _ _).2 ?_⟩
  rintro ⟨idx, message, peer, hroute, hpeer, hpanics⟩
  have hzero : peer.initRxCount = 0 :=
    of_decide_eq_true (List.all_eq_true.1 hcount peer (List.mem_of_getElem? hpeer))
  have htraps : ∀ responder : Responder, ∀ pkt, ¬ responder.Traps pkt :=
    fun responder pkt h => absurd (overflowChecks_of_traps h) (by decide)
  cases message with
  | init pkt =>
      rcases hpanics with hover | ⟨responder, _, h⟩
      · exact absurd hover.2 (by rw [hzero]; decide)
      · exact htraps _ _ h
  | relayedInit pkt =>
      obtain ⟨responder, _, h⟩ := hpanics
      exact htraps _ _ h
  | _ => exact hpanics

/-- The sixth INIT of a burst makes the manager panic. -/
theorem burst_of_inits_panics :
    ∃ self : TunnelManager, self.Reachable ∧
      handleIncoming (quietEnv 5 ⟨1000, 0⟩ 7) (address 2) [messageTypeInit] self = .panic := by
  have hrun : (after (quietEnv 0 ⟨1000, 0⟩ 7) (nodeConfig 1) [sessionWith 2 false]
      (burst 5)).any (fun self => (handleIncoming (quietEnv 5 ⟨1000, 0⟩ 7) (address 2)
        [messageTypeInit] self).isPanic) = true := by
    decide +kernel
  obtain ⟨start, self, hnew, hrun, hpanic⟩ := of_after hrun
  refine ⟨self, reachable_of_run hnew hrun, ?_⟩
  cases hcall : handleIncoming (quietEnv 5 ⟨1000, 0⟩ 7) (address 2) [messageTypeInit] self with
  | panic => rfl
  | ok a s =>
      rw [hcall] at hpanic
      cases hpanic
  | err e s =>
      rw [hcall] at hpanic
      cases hpanic

end Symbolic

end TunnelManager

end Naboscale
