import Naboscale.Tunnel.Invariant

/-!
# A stale peer

Maintenance marks a session stale when its peer was silent for too long, and from then on passes it
over: it plans neither a keepalive nor a rekey for it. No handshake is under way in a stale
session, so the initiator never starts one, and only an INIT of the other side ends the state.
-/

namespace Naboscale

open Rust Method Transition

section General

variable [Profile] [Primitives]

/-- A handshake attempt is under way: a rekey is pending, or an INIT is scheduled. -/
def PeerSession.underWay (peer : PeerSession) : Bool :=
  match peer.state with
  | .ready _ _ rehandshake => rehandshake.isSome
  | .handshakingAsInitiator _ => peer.nextInitAt.isSome
  | _ => false

/-- The action sends an INIT. -/
def Session.Action.sendsInit : Session.Action → Bool
  | .startRekey _ _ => true
  | .retryRekey => true
  | _ => false

namespace TunnelManager

variable {self self' : TunnelManager} {env : Env} {idx : ℕ} {peer : PeerSession}

/-- A maintenance pass whose tick is due. -/
def TickDue (self : TunnelManager) (env : Env) : Prop :=
  self.config.timings.maintenanceTick ≤ env.now.durationSince self.lastMaintenanceAt

/-- The pass decides to send the peer an INIT. -/
def DecidesInit (self : TunnelManager) (env : Env) (idx : ℕ) : Prop :=
  ∃ actions s, plan self.config env 0 self.peers s = .ok actions s ∧
    ∃ action ∈ actionsFor idx actions, action.sendsInit = true

/-- The session restarts its handshake by itself: an attempt is under way, or the first pass of
maintenance that is due sends an INIT. -/
def Restarts (self : TunnelManager) (idx : ℕ) : Prop :=
  (∃ peer, self.peers[idx]? = some peer ∧ peer.underWay = true) ∨
    ∃ env, self.TickDue env ∧ self.DecidesInit env idx

omit [Profile] in
/-- Maintenance passes over a stale session. -/
theorem not_decidesInit (hpeer : self.peers[idx]? = some peer) (hstale : peer.stale = true) :
    ¬ self.DecidesInit env idx := by
  rintro ⟨actions, s, hplan, action, haction, hsends⟩
  obtain ⟨planned, hok, _, hsuits⟩ := plan_ok self.config env s self.peers
  cases hplan.symm.trans hok
  have hfits := hsuits idx peer hpeer
  generalize actionsFor idx actions = left at haction hfits
  cases hfits with
  | none => exact absurd haction List.not_mem_nil
  | silent hstate =>
      rw [List.mem_singleton.1 haction] at hsends
      cases hsends
  | heard hheard hproper => exact Bool.noConfusion (hstale.symm.trans hheard)

omit [Profile] in
/-- In a stale session that is valid no handshake is under way. -/
theorem not_underWay (hvalid : peer.Valid) (hstale : peer.stale = true) :
    peer.underWay = false := by
  unfold PeerSession.Valid at hvalid
  unfold PeerSession.underWay
  cases hstate : peer.state with
  | init => rfl
  | handshakingAsResponder responder => rfl
  | handshakingAsInitiator initiator =>
      rw [hstate] at hvalid
      exact Bool.noConfusion (hstale.symm.trans hvalid.2.1)
  | ready transport sid rehandshake =>
      rw [hstate] at hvalid
      cases rehandshake with
      | none => rfl
      | some r => exact Bool.noConfusion (hstale.symm.trans (hvalid.2.2 r rfl).2.1)

/-- A stale session of a reachable manager does not restart its handshake. -/
theorem stale_never_restarts (h : self.Reachable) (hpeer : self.peers[idx]? = some peer)
    (hstale : peer.stale = true) : ¬ self.Restarts idx := by
  rintro (⟨p, hp, hunderWay⟩ | ⟨env, _, hdecides⟩)
  · cases hpeer.symm.trans hp
    exact Bool.noConfusion
      (hunderWay.symm.trans (not_underWay (h.allValid idx peer hpeer) hstale))
  · exact not_decidesInit hpeer hstale hdecides

end TunnelManager

end General

section Symbolic

open Symbolic TunnelManager

attribute [local instance] Symbolic.primitives Symbolic.release

/-- The timings of a fast test: a peer that is silent for 150 ms is stale. -/
def fastTimings : ManagerTimings where
  keepalive := 3600 * second
  rekeyAfter := 3600 * second
  rejectAfter := second * 150 / 1000
  maintenanceTick := second * 20 / 1000

/-- What node 2 answers to the first INIT of node 1. -/
def firstResponse : Bytes :=
  match after (quietEnv 0 ⟨1000, 0⟩ 8) (nodeConfig 2) [sessionWith 1 false]
    [.incoming (quietEnv 0 ⟨1000, 0⟩ 8) (address 1) (initFor 1 2 ⟨1000, 0⟩ 7)] with
  | some self => (self.transport.sent.map Prod.snd).getLastD []
  | none => []

/-- Node 1 initiates, node 2 answers and falls silent, and half a second later a pass of
maintenance is due. -/
def silence : List Event :=
  [.retryInit (quietEnv 0 ⟨1000, 0⟩ 7) 0,
    .incoming (quietEnv 0 ⟨1000, 0⟩ 7) (address 2) firstResponse,
    .maintenance (quietEnv (second / 2) ⟨1000, 0⟩ 7)]

/-- The first session initiates and is stale. -/
def hasStaleInitiator (self : TunnelManager) : Bool :=
  self.peers[0]?.any fun peer => peer.stale && peer.config.isInitiator

namespace TunnelManager

/-- Node 1 after the silence of node 2. -/
theorem silence_not_restarted :
    ∃ self peer, after (quietEnv 0 ⟨1000, 0⟩ 7) { nodeConfig 1 with timings := fastTimings }
        [sessionWith 2 true] silence = some self ∧
      self.peers[0]? = some peer ∧ peer.config.isInitiator = true ∧ ¬ self.Restarts 0 := by
  have hrun : (after (quietEnv 0 ⟨1000, 0⟩ 7) { nodeConfig 1 with timings := fastTimings }
      [sessionWith 2 true] silence).any hasStaleInitiator = true := by
    decide +kernel
  obtain ⟨self, hself, hcheck⟩ := (Option.any_eq_true _ _).1 hrun
  obtain ⟨peer, hpeer, hcheck⟩ := (Option.any_eq_true _ _).1 hcheck
  simp only [Bool.and_eq_true] at hcheck
  exact ⟨self, peer, hself, hpeer, hcheck.2,
    stale_never_restarts (reachable_of_after hself) hpeer hcheck.1⟩

/-- Half a second later a pass is due, and it sends nothing to the stale peer. -/
theorem stale_peer_not_contacted :
    ∃ self peer next, after (quietEnv 0 ⟨1000, 0⟩ 7) { nodeConfig 1 with timings := fastTimings }
        [sessionWith 2 true] silence = some self ∧
      self.peers[0]? = some peer ∧ peer.config.isInitiator = true ∧ peer.stale = true ∧
      peer.underWay = false ∧ self.TickDue (quietEnv second ⟨1001, 0⟩ 7) ∧
      fire self (.maintenance (quietEnv second ⟨1001, 0⟩ 7)) = some next ∧
      next.transport.sent.length = self.transport.sent.length := by
  have hrun : (after (quietEnv 0 ⟨1000, 0⟩ 7) { nodeConfig 1 with timings := fastTimings }
      [sessionWith 2 true] silence).any (fun self =>
        self.peers[0]?.any (fun peer => peer.config.isInitiator && peer.stale && !peer.underWay) &&
        decide (self.config.timings.maintenanceTick ≤
          (quietEnv second ⟨1001, 0⟩ 7).now.durationSince self.lastMaintenanceAt) &&
        (fire self (.maintenance (quietEnv second ⟨1001, 0⟩ 7))).any fun next =>
          decide (next.transport.sent.length = self.transport.sent.length)) = true := by
    decide +kernel
  obtain ⟨self, hself, hcheck⟩ := (Option.any_eq_true _ _).1 hrun
  simp only [Bool.and_eq_true, decide_eq_true_eq] at hcheck
  obtain ⟨⟨hpeer, hdue⟩, hnext⟩ := hcheck
  obtain ⟨peer, hpeer, hfields⟩ := (Option.any_eq_true _ _).1 hpeer
  simp only [Bool.and_eq_true, Bool.not_eq_true'] at hfields
  obtain ⟨next, hnext, hsent⟩ := (Option.any_eq_true _ _).1 hnext
  exact ⟨self, peer, next, hself, hpeer, hfields.1.1, hfields.1.2, hfields.2, hdue, hnext,
    of_decide_eq_true hsent⟩

end TunnelManager

end Symbolic

end Naboscale
