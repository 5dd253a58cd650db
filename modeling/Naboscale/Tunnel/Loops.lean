import Naboscale.Tunnel.Isolation
import Naboscale.Tunnel.Traffic

/-!
# The loops around a step

`run` and `run_until_ready` call `step` over and over. One `step` works through what the socket
holds, one INIT and at most two actions of maintenance for each peer, and one packet of the tun
device, and each of these sends at most one datagram. `run_until_ready` looks whether the peers are
ready before each of its steps, but not after the last one.
-/

namespace Naboscale

open Rust Method

section General

variable [Profile] [Primitives]

namespace TunnelManager

/-- `is_ready`. -/
def isReady (self : TunnelManager) : Bool :=
  !self.peers.isEmpty && self.peers.all fun peer => peer.state.isReady

/-- `run`, as far as the inputs of its steps go. -/
def run : List StepInput → Method TunnelManager TunnelError Unit
  | [] => pure ()
  | input :: inputs => do
      step input
      run inputs

end TunnelManager

/-! ## What a step sends -/

namespace Session

variable {env : Env} {keypair : Keypair} {rng : Ephemeral} {P : SocketAddr × Bytes → Prop}

omit [Profile] in
theorem keepsSent_modifyPeer (f : PeerSession → PeerSession) : Keeps sent (modifyPeer f) :=
  fun _ => rfl

omit [Profile] in
theorem sendMaybeRelay_spends (config : PeerConfig) (fromPub : Key) (inner : Bytes) :
    Spends sent 1 (fun _ => True) (sendMaybeRelay env config fromPub inner) := by
  have hsend (dest : SocketAddr) (buf : Bytes) :
      Spends sent 1 (fun _ => True) (sendTo env dest buf) := by
    intro self
    rw [wp_sendTo]
    exact ⟨fun _ => Adds.snoc trivial, fun e _ => Adds.refl 1 self.sent⟩
  unfold sendMaybeRelay
  cases config.viaRelay with
  | none => exact hsend _ _
  | some relay =>
      simp only
      rw [wrapRelay_eq, pure_bind]
      exact hsend _ _

theorem sendEncrypted_spends (packet : Bytes) (room : ℕ) :
    Spends sent 1 (fun _ => True) (sendEncrypted keypair env packet room) := by
  unfold sendEncrypted
  refine spends_get_bind fun self => ?_
  cases self.peer.state with
  | ready transport sid rehandshake =>
      refine (keeps_on _ _).bind_spends fun result => Keeps.bind_spends (fun _ => rfl) fun _ =>
        (keeps_lift _ _).bind_spends fun ciphertext => ?_
      exact (sendMaybeRelay_spends _ _ _).bind_keeps fun _ _ => rfl
  | init => exact spends_pure _ _
  | handshakingAsInitiator initiator => exact spends_pure _ _
  | handshakingAsResponder responder => exact spends_pure _ _

omit [Profile] in
theorem retryInit_spends : Spends sent 1 (fun _ => True) (retryInit keypair env rng) := by
  unfold retryInit
  refine spends_get_bind fun self => Spends.ite (fun _ => ?_) fun _ => spends_pure _ _
  cases self.peer.state with
  | handshakingAsInitiator initiator =>
      refine Keeps.bind_spends ?_ fun msg => (sendMaybeRelay_spends _ _ _).bind_keeps fun _ _ => rfl
      refine keeps_get_bind fun self => ?_
      cases self.peer.cachedInit with
      | some msg => exact keeps_pure _
      | none =>
          exact (keeps_on _ _).bind fun _ => Keeps.bind (fun _ => rfl) fun _ =>
            (keeps_lift _ _).bind fun _ => (keeps_fullInit _ _).bind fun _ =>
            Keeps.bind (fun _ => rfl) fun _ => keeps_pure _
  | init => exact (keepsSent_modifyPeer _).spends 1
  | handshakingAsResponder responder => exact (keepsSent_modifyPeer _).spends 1
  | ready transport sid rehandshake => exact (keepsSent_modifyPeer _).spends 1

theorem perform_spends (action : Action) :
    Spends sent 1 (fun _ => True) (perform keypair env action) := by
  cases action with
  | markStale =>
      exact (keepsSent_modifyPeer fun peer => { peer with stale := true }).spends 1
  | sendKeepalive => exact sendEncrypted_spends _ _
  | startRekey initiator initMsg =>
      refine spends_get_bind fun self => (sendMaybeRelay_spends _ _ _).bind_keeps fun _ => ?_
      cases self.peer.state with
      | ready transport sid pending => exact fun _ => rfl
      | init => exact keeps_pure _
      | handshakingAsInitiator initiator => exact keeps_pure _
      | handshakingAsResponder responder => exact keeps_pure _
  | retryRekey =>
      refine spends_get_bind fun self => ?_
      rcases self.peer.state with _ | initiator | responder | ⟨transport, sid, _ | rehandshake⟩
      case ready.some => exact (sendMaybeRelay_spends _ _ _).bind_keeps fun _ _ => rfl
      all_goals exact spends_pure _ _

omit [Profile] in
/-- Maintenance decides at most two actions for a peer: a keepalive and a rekey. -/
theorem planPeer_length {σ : Type} {s : σ} {timings : ManagerTimings} {peer : PeerSession} :
    (planPeer keypair timings env rng peer).wp
      ⟨fun actions _ => actions.length ≤ 2, fun _ _ => True, True⟩ s := by
  unfold planPeer
  rw [wp_ite]
  refine ⟨fun _ => Nat.zero_le 2, fun _ => ?_⟩
  cases peer.state with
  | init => exact Nat.zero_le 2
  | handshakingAsInitiator initiator => exact Nat.zero_le 2
  | handshakingAsResponder responder => exact Nat.zero_le 2
  | ready transport sid rehandshake =>
      cases rehandshake with
      | some rehandshake =>
          show (if rehandshake.nextRetryAt ≤ env.now then [Action.retryRekey] else []).length ≤ 2
          split
          · exact one_le_two
          · exact Nat.zero_le 2
      | none =>
          simp only
          rw [wp_ite]
          refine ⟨fun _ => one_le_two, fun _ => ?_⟩
          have hthen : ∀ actions : List Action, actions.length ≤ 1 →
              (if peer.lastTxAt.all (fun t => decide (timings.keepalive < env.now.durationSince t))
                then pure (.sendKeepalive :: actions) else pure actions :
                Method σ TunnelError (List Action)).wp
                ⟨fun actions _ => actions.length ≤ 2, fun _ _ => True, True⟩ s := by
            intro actions hactions
            rw [wp_ite]
            exact ⟨fun _ => Nat.succ_le_succ hactions, fun _ => hactions.trans one_le_two⟩
          rw [wp_bind, planRekey, wp_ite]
          exact ⟨fun _ => wp_buildRekey (hthen [] (Nat.zero_le 1)) fun _ _ _ _ => hthen _ le_rfl,
            fun _ => hthen [] (Nat.zero_le 1)⟩

end Session

namespace TunnelManager

variable {self self' : TunnelManager} {env : Env} {source : SocketAddr} {pkt : Bytes} {α : Type}

omit [Profile] in
theorem atPeer_spends {n : ℕ} {P : SocketAddr × Bytes → Prop}
    {handler : Method Session TunnelError α} (h : Spends Session.sent n P handler) (idx : ℕ) :
    Spends sent n P (atPeer idx handler) := by
  intro self
  cases hpeer : self.peers[idx]? with
  | none =>
      rw [wp_def, atPeer, bind_ok (get_apply self), hpeer]
      trivial
  | some peer =>
      have hpost := h ⟨peer, self.transport, self.device⟩
      rw [wp_def, atPeer_eq hpeer]
      rw [wp_def] at hpost
      cases hrun : handler ⟨peer, self.transport, self.device⟩ with
      | ok a s =>
          rw [hrun] at hpost
          exact hpost
      | err e s =>
          rw [hrun] at hpost
          exact hpost
      | panic => trivial

theorem handleIncoming_spends : Spends sent 1 (fun _ => True) (handleIncoming env source pkt) := by
  intro self
  have hadds {s : TunnelManager} (hs : Paid False pkt.length 1 self.sent s.sent self.credits
      s.credits) : Adds 1 (fun _ => True) self.sent s.sent := by
    obtain ⟨added, hadded, hlength, _⟩ := hs
    exact ⟨added, hadded, hlength, fun _ _ => trivial⟩
  rw [← handleIncomingWith_eq]
  exact wp_mono (handleIncomingWith_pays CookieGenerator.makes_generateCookie (fun _ => rfl) self)
    (fun _ _ => hadds) (fun _ _ => hadds) id

theorem receiveAll_spends (datagrams : List (Env × SocketAddr × Bytes)) :
    Spends sent datagrams.length (fun _ => True) (receiveAll datagrams) := by
  induction datagrams with
  | nil => exact spends_pure _ _
  | cons entry rest ih =>
      rw [List.length_cons, Nat.add_comm]
      exact handleIncoming_spends.bind fun _ => ih

omit [Profile] in
theorem retryAll_spends (indices : List ℕ) :
    Spends sent indices.length (fun _ => True) (retryAll env indices) := by
  induction indices with
  | nil => exact spends_pure _ _
  | cons idx rest ih =>
      rw [List.length_cons, Nat.add_comm]
      exact Spends.bind (spends_get_bind fun _ => atPeer_spends Session.retryInit_spends idx)
        fun _ => ih

theorem performAll_spends (keypair : Keypair) (actions : List (ℕ × Session.Action)) :
    Spends sent actions.length (fun _ => True) (performAll keypair env actions) := by
  induction actions with
  | nil => exact spends_pure _ _
  | cons entry rest ih =>
      obtain ⟨idx, action⟩ := entry
      rw [List.length_cons, Nat.add_comm]
      exact (atPeer_spends (Session.perform_spends action) idx).bind fun _ => ih

theorem dispatchTunPacket_spends (packet : Bytes) :
    Spends sent 1 (fun _ => True) (dispatchTunPacket env packet) := by
  refine spends_get_bind fun self => ?_
  cases self.lookupPeerByDestIp packet with
  | none => exact spends_pure _ _
  | some idx => exact atPeer_spends (Session.sendEncrypted_spends _ _) idx

omit [Profile] in
/-- Maintenance plans at most two actions for each peer. -/
theorem plan_length {config : ManagerConfig} {s : TunnelManager} (start : ℕ)
    (peers : List PeerSession) : (plan config env start peers).wp
      ⟨fun actions _ => actions.length ≤ 2 * peers.length, fun _ _ => True, True⟩ s := by
  induction peers generalizing start s with
  | nil => exact Nat.zero_le _
  | cons peer rest ih =>
      refine (wp_bind _ _).2 (wp_mono Session.planPeer_length (fun actions s' hactions => ?_)
        (fun _ _ h => h) id)
      refine (wp_bind _ _).2 (wp_mono (ih (start + 1)) (fun others s'' hothers => ?_)
        (fun _ _ h => h) id)
      show (actions.map (Prod.mk start) ++ others).length ≤ 2 * (peer :: rest).length
      rw [List.length_append, List.length_map, List.length_cons]
      have hactions : actions.length ≤ 2 := hactions
      have hothers : others.length ≤ 2 * rest.length := hothers
      omega

/-- A round of maintenance sends at most two datagrams for each peer. -/
theorem maintenance_spends (self : TunnelManager) : (maintenance env).wp
    (Within sent (2 * self.count) (fun _ => True) self.sent) self := by
  rw [maintenance, wp_get_bind, wp_ite]
  refine ⟨fun _ => Adds.refl _ _, fun _ => ?_⟩
  rw [wp_modify_bind]
  have hsent : (rotateCookieSecret env { self with lastMaintenanceAt := env.now }).sent =
      self.sent := by
    unfold rotateCookieSecret
    split <;> rfl
  obtain ⟨actions, hplan, _⟩ := plan_ok self.config env
    (rotateCookieSecret env { self with lastMaintenanceAt := env.now }) self.peers
  have hlength : actions.length ≤ 2 * self.count := by
    have hwp : (plan self.config env 0 self.peers).wp _
        (rotateCookieSecret env { self with lastMaintenanceAt := env.now }) :=
      plan_length 0 self.peers
    rwa [wp_def, hplan] at hwp
  rw [wp_def, bind_ok hplan, ← hsent]
  have hmono {s : TunnelManager} (hs : Adds actions.length (fun _ => True)
      (rotateCookieSecret env { self with lastMaintenanceAt := env.now }).sent s.sent) :
      Adds (2 * self.count) (fun _ => True)
        (rotateCookieSecret env { self with lastMaintenanceAt := env.now }).sent s.sent :=
    hs.mono hlength fun _ h => h
  exact wp_mono (performAll_spends self.config.localKeypair actions _) (fun _ _ => hmono)
    (fun _ _ => hmono) id

omit [Profile] in
theorem keeps_count_retryAll (indices : List ℕ) : Keeps count (retryAll env indices) := by
  induction indices with
  | nil => exact keeps_pure _
  | cons idx rest ih =>
      exact Keeps.bind (keeps_get_bind fun _ => keeps_count_atPeer _ _) fun _ => ih

theorem keeps_count_dispatchTunPacket (packet : Bytes) :
    Keeps count (dispatchTunPacket env packet) := by
  refine keeps_get_bind fun self => ?_
  cases self.lookupPeerByDestIp packet with
  | none => exact keeps_pure _
  | some idx => exact keeps_count_atPeer _ _

/-- One step sends at most one datagram for each that came in, three for each peer, and one for the
packet of the tun device. -/
theorem step_spends (input : StepInput) (self : TunnelManager) : (step input).wp
    (Within sent (input.received.length + 3 * self.count + 1) (fun _ => True) self.sent) self := by
  -- After the first phases, maintenance has two datagrams for each peer left.
  have hmaintenance {m : ℕ} {s : TunnelManager} (hadds : Adds m (fun _ => True) self.sent s.sent)
      (hcount : s.count = self.count)
      (hm : m ≤ input.received.length + self.count + 1) : (maintenance input.env).wp
        (Within sent (input.received.length + 3 * self.count + 1) (fun _ => True) self.sent) s := by
    have hall {t : TunnelManager} (ht : Adds (2 * s.count) (fun _ => True) s.sent t.sent) :
        Adds (input.received.length + 3 * self.count + 1) (fun _ => True) self.sent t.sent :=
      (hadds.trans ht).mono (by omega) fun _ h => h
    exact wp_mono (maintenance_spends s) (fun _ _ => hall) (fun _ _ => hall) id
  have hstop {m : ℕ} {s : TunnelManager} (hadds : Adds m (fun _ => True) self.sent s.sent)
      (hm : m ≤ input.received.length + self.count + 1) :
      Adds (input.received.length + 3 * self.count + 1) (fun _ => True) self.sent s.sent :=
    hadds.mono (by omega) fun _ h => h
  rw [step]
  refine (wp_bind _ _).2 (wp_mono (wp_and (receiveAll_spends input.received self)
    (keeps_count_receiveAll input.received self)) (fun _ first hfirst => ?_)
    (fun _ _ hs => hstop hs.1 (by omega)) fun _ => trivial)
  obtain ⟨hadds, hcount⟩ := hfirst
  cases input.recvError with
  | some e => exact hstop hadds (by omega)
  | none =>
      simp only
      rw [wp_get_bind]
      have hindices : (List.range first.peers.length).length = self.count := by
        rw [List.length_range]
        exact hcount
      refine (wp_bind _ _).2 (wp_mono (wp_and ((retryAll_spends _).after hadds)
        (keeps_count_retryAll _ first)) (fun _ second hsecond => ?_)
        (fun _ _ hs => hstop hs.1 (by omega)) fun _ => trivial)
      obtain ⟨hadds', hcount'⟩ := hsecond
      have hcount' : second.count = self.count := hcount'.trans hcount
      refine (wp_get_bind _).2 ((wp_ite _ _ _).2
        ⟨fun _ => ?_, fun _ => hmaintenance hadds' hcount' (by omega)⟩)
      cases input.tun with
      | error e => exact hstop hadds' (by omega)
      | ok read =>
          rw [lift_ok, pure_bind]
          cases read with
          | none => exact hmaintenance hadds' hcount' (by omega)
          | some packet =>
              refine (wp_bind _ _).2 (wp_mono (wp_and
                ((dispatchTunPacket_spends packet).after hadds')
                (keeps_count_dispatchTunPacket packet second)) (fun _ third hthird => ?_)
                (fun _ _ hs => hstop hs.1 (by omega)) fun _ => trivial)
              exact hmaintenance hthird.1 (hthird.2.trans hcount') (by omega)

theorem keeps_count_maintenance : Keeps count (maintenance env) := by
  have hsteady : Steady count := by
    refine ⟨fun idx _ => keeps_count_atPeer idx _, fun env self => ?_⟩
    unfold rotateCookieSecret
    split <;> rfl
  exact hsteady.maintenance

theorem keeps_count_step (input : StepInput) : Keeps count (step input) := by
  refine (keeps_count_receiveAll _).bind fun _ => ?_
  cases input.recvError with
  | some e => exact keeps_fail _
  | none =>
      refine keeps_get_bind fun first => (keeps_count_retryAll _).bind fun _ =>
        keeps_get_bind fun second => Keeps.ite (fun _ => (keeps_lift _ _).bind fun read => ?_)
          fun _ => keeps_count_maintenance
      cases read with
      | none => exact keeps_count_maintenance
      | some packet =>
          exact (keeps_count_dispatchTunPacket _).bind fun _ => keeps_count_maintenance

/-- The number of datagrams that the steps receive. -/
def receivedIn (inputs : List StepInput) : ℕ :=
  (inputs.map fun input => input.received.length).sum

/-- The main loop sends at most one datagram for each that came in, and for each of its steps three
for each peer and one for the packet of the tun device. -/
theorem run_sends_bounded {inputs : List StepInput} (h : (run inputs self).state? = some self') :
    ∃ added, self'.sent = self.sent ++ added ∧
      added.length ≤ receivedIn inputs + inputs.length * (3 * self.peers.length + 1) := by
  have hrun : ∀ inputs self, (run inputs).wp (Within sent
      (receivedIn inputs + inputs.length * (3 * self.count + 1)) (fun _ => True) self.sent) self := by
    intro inputs
    induction inputs with
    | nil => exact fun self => Adds.refl _ _
    | cons input inputs ih =>
        intro self
        have hcons : receivedIn (input :: inputs) = input.received.length + receivedIn inputs :=
          List.sum_cons
        rw [List.length_cons, hcons, Nat.succ_mul]
        refine (wp_bind _ _).2 (wp_mono (wp_and (step_spends input self)
          (keeps_count_step input self)) (fun _ next hnext => ?_)
          (fun _ _ hs => hs.1.mono (by omega) fun _ h => h) fun _ => trivial)
        obtain ⟨hadds, hcount⟩ := hnext
        have hall {t : TunnelManager} (ht : Adds (receivedIn inputs + inputs.length *
            (3 * self.count + 1)) (fun _ => True) next.sent t.sent) :
            Adds (input.received.length + receivedIn inputs + (inputs.length *
              (3 * self.count + 1) + (3 * self.count + 1))) (fun _ => True) self.sent t.sent :=
          (hadds.trans ht).mono (by omega) fun _ h => h
        have hrest := ih next
        rw [show next.count = self.count from hcount] at hrest
        exact wp_mono hrest (fun _ _ => hall) (fun _ _ => hall) id
  obtain ⟨added, hadded, hlength, _⟩ := wp_state (P := fun s => Adds (receivedIn inputs +
    inputs.length * (3 * self.count + 1)) (fun _ => True) self.sent s.sent) (hrun inputs self) h
  exact ⟨added, hadded, hlength⟩

/-! ## `run_until_ready` -/

end TunnelManager

end General

section Symbolic

open Symbolic TunnelManager

attribute [local instance] Symbolic.primitives Symbolic.release

/-- A step at an instant with nothing to read. -/
def idleStep (now : Instant) : StepInput where
  received := []
  recvError := none
  env := quietEnv now ⟨1000, 0⟩ 7
  tun := .ok none

namespace TunnelManager

/-- In two steps, two seconds apart, an initiator sends its INIT twice. -/
theorem idle_run_bounded :
    ∃ start self, new (quietEnv 0 ⟨1000, 0⟩ 7) (nodeConfig 1) [sessionWith 2 true] = .ok start ∧
      (run [idleStep 0, idleStep (2 * second)] start).state? = some self ∧
      self.sent.length = start.sent.length + 2 ∧
      ∃ added, self.sent = start.sent ++ added ∧
        added.length ≤ receivedIn [idleStep 0, idleStep (2 * second)] +
          2 * (3 * start.peers.length + 1) := by
  have hrun : (new (quietEnv 0 ⟨1000, 0⟩ 7) (nodeConfig 1) [sessionWith 2 true]).toOption.any
      (fun start => (run [idleStep 0, idleStep (2 * second)] start).state?.any fun self =>
        decide (self.sent.length = start.sent.length + 2)) = true := by
    decide +kernel
  obtain ⟨start, hnew, hcheck⟩ := of_new hrun
  obtain ⟨self, hself, hlength⟩ := (Option.any_eq_true _ _).1 hcheck
  exact ⟨start, self, hnew, hself, of_decide_eq_true hlength, run_sends_bounded hself⟩

end TunnelManager

end Symbolic

end Naboscale
