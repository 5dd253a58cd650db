import Naboscale.Tunnel.Errors
import Naboscale.Tunnel.Without

/-!
# Peers that are not sent to

A step handles the peers one after another and stops at the first error. As long as no peer of a
set is sent to, the step does for the others what it does without the set; a peer of the set whose
send fails ends the step for those that come after it.
-/

namespace Naboscale

open Rust Method Outside

section General

variable [Profile] [Primitives]

/-! ## Sessions that are not sent to -/

namespace PeerSession

/-- The INIT loop sends an INIT of the session. -/
def initDue (now : Instant) (peer : PeerSession) : Bool :=
  peer.nextInitAt.any (fun due => decide (due ≤ now)) &&
    match peer.state with
    | .handshakingAsInitiator _ => true
    | _ => false

/-- Maintenance sends nothing for the session: it is stale or about to become stale, or neither a
keepalive nor a rekey nor the retry of one is due. -/
def keptUp (timings : ManagerTimings) (now : Instant) (peer : PeerSession) : Bool :=
  peer.stale ||
    match peer.state with
    | .ready _ _ (some rehandshake) => decide (now < rehandshake.nextRetryAt)
    | .ready _ _ none =>
        peer.lastRxAt.any (fun t => decide (timings.rejectAfter < now.durationSince t)) ||
          (!peer.lastTxAt.all (fun t => decide (timings.keepalive < now.durationSince t)) &&
            !(peer.config.isInitiator &&
              peer.lastHandshakeAt.any
                (fun t => decide (timings.rekeyAfter < now.durationSince t)) &&
              !peer.config.peerEndpoint.ip.isUnspecified))
    | _ => true

end PeerSession

namespace Session

variable {σ τ ε : Type} {f : σ → τ} {s : σ} {env : Env} {keypair : Keypair} {rng : Ephemeral}
  {timings : ManagerTimings} {peer : PeerSession}

omit [Profile] in
/-- The INIT loop sends nothing for a session whose INIT is not due. -/
theorem retryInit_spared (keypair : Keypair) (rng : Ephemeral) {self : Session}
    (h : self.peer.initDue env.now = false) :
    ∃ peer, retryInit keypair env rng self = .ok () { self with peer } ∧
      peer.initDue env.now = false ∧
        ∀ timings, peer.keptUp timings env.now = self.peer.keptUp timings env.now := by
  by_cases hdue : self.peer.nextInitAt.any (fun due => decide (due ≤ env.now)) = true
  · have hrun : retryInit keypair env rng self = .ok ()
        { self with peer := { self.peer with nextInitAt := none, cachedInit := none } } := by
      rw [retryInit, bind_ok (get_apply self), if_pos hdue]
      rw [PeerSession.initDue, hdue, Bool.true_and] at h
      rcases hstate : self.peer.state with _ | initiator | _ | _
      case handshakingAsInitiator =>
        rw [hstate] at h
        cases h
      all_goals rfl
    exact ⟨_, hrun, rfl, fun _ => rfl⟩
  · refine ⟨self.peer, ?_, h, fun _ => rfl⟩
    rw [retryInit, bind_ok (get_apply self), if_neg hdue]
    rfl

end Session

/-! ## The phases of a step -/

namespace TunnelManager

variable {F : ℕ → Bool} {self : TunnelManager} {env : Env} {n : ℕ}

/-- After the receive loop, no peer of the set is sent to: no INIT of it is due, the packet that
the device yields is not for it, and maintenance sends nothing to it. That the device fails
concerns others too. -/
structure Idle (F : ℕ → Bool) (env : Env) (tun : Except String (Option Bytes))
    (manager : TunnelManager) : Prop where
  init : ∀ i peer, F i = true → manager.peers[i]? = some peer → peer.initDue env.now = false
  packet : ∀ pkt, tun = .ok (some pkt) → ∀ i ∈ manager.lookupPeerByDestIp pkt, F i = false
  device : (∃ e, tun = .error e) → manager.anyPeerReady = true →
    (manager.without F).anyPeerReady = true
  maintenance : manager.config.timings.maintenanceTick ≤
      env.now.durationSince manager.lastMaintenanceAt →
    ∀ i peer, F i = true → manager.peers[i]? = some peer →
      peer.keptUp manager.config.timings env.now = true

/-- The INIT loop and the packet of the device leave the peers of the set to maintenance. -/
def Spared (F : ℕ → Bool) (env : Env) (self : TunnelManager) : Prop :=
  ∀ i peer, F i = true → self.peers[i]? = some peer → peer.initDue env.now = false ∧
    (self.config.timings.maintenanceTick ≤ env.now.durationSince self.lastMaintenanceAt →
      peer.keptUp self.config.timings env.now = true)

/-! ### The number of peers -/

/-- The number of peers. -/
def count (self : TunnelManager) : ℕ := self.peers.length

omit [Profile] in
theorem keeps_count_atPeer {α : Type} (i : ℕ) (handler : Method Session TunnelError α) :
    Keeps count (atPeer i handler) := by
  refine keeps_atPeer i (f := fun _ => ()) (fun session => ?_) fun self peers _ _ h => ?_
  · rw [wp_def]
    cases handler session <;> trivial
  · show peers.length = self.peers.length
    rw [← List.length_map (fun _ : PeerSession => ()), h, List.length_map]

omit [Profile] in
theorem keeps_count_refreshEndpoint (i : ℕ) (source : SocketAddr) :
    Keeps count (refreshEndpoint env i source) := by
  refine keeps_get_bind fun self => (keeps_unwrap _).bind fun peer => Keeps.ite (fun _ => ?_)
    fun _ => keeps_count_atPeer _ _
  exact Keeps.bind (keeps_modify fun _ => rfl) fun _ =>
    (keeps_count_atPeer _ _).bind fun _ => keeps_count_atPeer _ _

theorem keeps_count_gateInit (i : ℕ) (source : SocketAddr) (pkt : Bytes) :
    Keeps count (gateInit env i source pkt) := by
  refine keeps_get_bind fun self => (keeps_count_atPeer _ _).bind fun handled => ?_
  exact Keeps.ite (fun _ => keeps_pure _) fun _ => keeps_count_atPeer _ _

theorem keeps_count_handleRelay (source : SocketAddr) (pkt : Bytes) :
    Keeps count (handleRelay env source pkt) := by
  refine Keeps.ite (fun _ => keeps_fail _) fun _ => ?_
  refine (keeps_slice _ _ _).bind fun _ => (keeps_expectArr _ _).bind fun fromPub =>
    (keeps_index _ _).bind fun _ => (keeps_index _ _).bind fun _ => (keeps_index _ _).bind fun _ =>
    (keeps_index _ _).bind fun _ => (keeps_slice _ _ _).bind fun inner =>
    keeps_get_bind fun self => Keeps.ite (fun _ => ?_) fun _ => ?_
  · cases self.pubkeyToPeer fromPub with
    | none => exact keeps_fail _
    | some i =>
        refine keeps_get_bind fun self => Keeps.ite (fun _ => keeps_count_atPeer _ _) fun _ =>
          Keeps.ite (fun _ => keeps_count_atPeer _ _) fun _ =>
            Keeps.ite (fun _ => keeps_count_atPeer _ _) fun _ => keeps_fail _
  · refine keeps_get_bind fun self => ?_
    cases self.peers.find? _ with
    | none => exact keeps_fail _
    | some dest => exact keeps_zoom _ fun _ _ => rfl

theorem keeps_count_handleIncoming (env : Env) (source : SocketAddr) (pkt : Bytes) :
    Keeps count (handleIncoming env source pkt) := by
  refine Keeps.ite (fun _ => keeps_pure _) fun _ => (keeps_index _ _).bind fun type =>
    keeps_get_bind fun self => Keeps.ite (fun _ => ?_) fun _ => ?_
  · refine Keeps.ite (fun _ => keeps_pure _) fun _ => (keeps_slice _ _ _).bind fun _ =>
      (keeps_expectArr _ _).bind fun fromPub => ?_
    cases self.pubkeyToPeer fromPub with
    | none => exact keeps_pure _
    | some i =>
        refine Keeps.bind (keeps_modify fun self => ?_) fun _ =>
          (keeps_count_atPeer _ _).bind fun _ => keeps_count_handleRelay _ _
        rw [learnEndpoint]
        split <;> rfl
  · cases self.endpointToPeer source with
    | none =>
        refine Keeps.ite (fun _ => ?_) fun _ => keeps_pure _
        refine Keeps.bind ?_ fun found => ?_
        · exact keeps_get_bind fun _ => (keeps_slice _ _ _).bind fun _ =>
            (keeps_slice _ _ _).bind fun _ => keeps_pure _
        · cases found with
          | none => exact keeps_pure _
          | some i =>
              exact (keeps_count_refreshEndpoint _ _).bind fun _ => keeps_count_gateInit _ _ _
    | some i =>
        refine (keeps_count_refreshEndpoint _ _).bind fun _ =>
          Keeps.ite (fun _ => keeps_count_gateInit _ _ _) fun _ =>
            Keeps.ite (fun _ => keeps_count_atPeer _ _) fun _ =>
              Keeps.ite (fun _ => keeps_count_atPeer _ _) fun _ =>
                Keeps.ite (fun _ => keeps_count_atPeer _ _) fun _ => keeps_pure _

theorem keeps_count_receiveAll (received : List (Env × SocketAddr × Bytes)) :
    Keeps count (receiveAll received) := by
  induction received with
  | nil => exact keeps_pure _
  | cons entry rest ih => exact (keeps_count_handleIncoming _ _ _).bind fun _ => ih

/-! ### The receive loop -/

omit [Profile] in
/-- A handler of another peer. -/
theorem Spared.atPeer {α : Type} {handler : Method Session TunnelError α} {i : ℕ} {a : α}
    {self' : TunnelManager} (h : Spared F env self) (hi : F i = false)
    (hrun : atPeer i handler self = .ok a self') : Spared F env self' := by
  cases hpeer : self.peers[i]? with
  | none =>
      rw [TunnelManager.atPeer, bind_ok (get_apply self), hpeer] at hrun
      cases hrun
  | some peer =>
      rw [atPeer_eq hpeer] at hrun
      cases hhandler : handler ⟨peer, self.transport, self.device⟩ with
      | err e session =>
          rw [hhandler] at hrun
          cases hrun
      | panic =>
          rw [hhandler] at hrun
          cases hrun
      | ok b session =>
          rw [hhandler] at hrun
          cases hrun
          intro j other hj hother
          have hne : i ≠ j := fun heq => Bool.false_ne_true (hi.symm.trans (heq ▸ hj))
          exact h j other hj ((List.getElem?_set_ne hne).symm.trans hother)

omit [Profile] in
theorem Spared.retryInit {i : ℕ} {self' : TunnelManager} (h : Spared F env self)
    (hrun : retryInit env i self = .ok () self') : Spared F env self' := by
  cases hi : F i with
  | false => exact h.atPeer hi hrun
  | true =>
      cases hpeer : self.peers[i]? with
      | none =>
          rw [TunnelManager.retryInit, bind_ok (get_apply self), TunnelManager.atPeer,
            bind_ok (get_apply self), hpeer] at hrun
          cases hrun
      | some peer =>
          have hlt : i < self.peers.length := (List.getElem?_eq_some_iff.1 hpeer).1
          obtain ⟨hdue, hkept⟩ := h i peer hi hpeer
          let session : Session := ⟨peer, self.transport, self.device⟩
          have hdue : session.peer.initDue env.now = false := hdue
          obtain ⟨peer', hspared, hdue', hkept'⟩ :=
            Session.retryInit_spared self.config.localKeypair (env.ephemeral i) hdue
          rw [TunnelManager.retryInit, bind_ok (get_apply self), atPeer_eq hpeer, hspared] at hrun
          cases hrun
          intro j other hj hother
          rcases eq_or_ne i j with rfl | hne
          · cases (List.getElem?_set_self hlt).symm.trans hother
            exact ⟨hdue', fun htick => (hkept' _).trans (hkept htick)⟩
          · exact h j other hj ((List.getElem?_set_ne hne).symm.trans hother)

omit [Profile] in
theorem Spared.retryAll {idxs : List ℕ} {self' : TunnelManager} (h : Spared F env self)
    (hrun : retryAll env idxs self = .ok () self') : Spared F env self' := by
  induction idxs generalizing self with
  | nil =>
      cases hrun
      exact h
  | cons i rest ih =>
      rw [TunnelManager.retryAll, bind_eq] at hrun
      cases hfirst : TunnelManager.retryInit env i self with
      | err e s =>
          rw [hfirst] at hrun
          cases hrun
      | panic =>
          rw [hfirst] at hrun
          cases hrun
      | ok a s =>
          rw [hfirst] at hrun
          exact ih (h.retryInit hfirst) hrun

/-- What a step receives from outside, for the manager without the set. -/
def StepInput.without (F : ℕ → Bool) (n : ℕ) (input : StepInput) : StepInput :=
  { input with
    received := input.received.map fun (env, source, pkt) => (env.without F n, source, pkt)
    env := input.env.without F n }

/-- The receive loop comes to its end, and after it no peer of the set is sent to. -/
def Quiet (F : ℕ → Bool) (input : StepInput) (self : TunnelManager) : Prop :=
  input.recvError = none ∧ ∃ received, receiveAll input.received self = .ok () received ∧
    Idle F input.env input.tun received

end TunnelManager

end General

/-! ## A peer without an endpoint -/

section Symbolic

open Symbolic TunnelManager

attribute [local instance] Symbolic.primitives Symbolic.release

namespace TunnelManager

end TunnelManager

end Symbolic

end Naboscale
