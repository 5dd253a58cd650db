import Naboscale.Tunnel.Freshness
import Naboscale.Tunnel.Recovery

/-!
# What maintenance leaves behind

Maintenance looks at four fields of a session: whether it is ready, when it last received, when it
last sent, and whether it is stale. On these, a pass that sends everything it decides to send is a
function. It passes over a session with a rekey in flight.
-/

namespace Naboscale

open Rust Method

/-! ## The timers of a session -/

/-- What maintenance looks at. -/
structure Timers where
  ready : Bool
  lastRxAt : Option Instant
  lastTxAt : Option Instant
  stale : Bool

namespace Timers

/-- Nothing was received for longer than `reject_after`. -/
def silent (timings : ManagerTimings) (now : Instant) (timers : Timers) : Bool :=
  timers.lastRxAt.any fun t => decide (timings.rejectAfter < now.durationSince t)

/-- Nothing was sent within the keepalive interval. -/
def idle (timings : ManagerTimings) (now : Instant) (timers : Timers) : Bool :=
  timers.lastTxAt.all fun t => decide (timings.keepalive < now.durationSince t)

/-- A pass of maintenance, with or without a rekey in flight. -/
def maintain (timings : ManagerTimings) (now : Instant) (rekeying : Bool) (timers : Timers) :
    Timers :=
  if timers.stale || !timers.ready || rekeying then timers
  else if timers.silent timings now then { timers with stale := true }
  else if timers.idle timings now then { timers with lastTxAt := some now }
  else timers

/-- A ready session is stale if its peer is silent, and if it is not stale it has sent within the
keepalive interval. -/
def Attended (timings : ManagerTimings) (now : Instant) (timers : Timers) : Prop :=
  timers.ready = true →
    (∀ t ∈ timers.lastRxAt, timings.rejectAfter < now.durationSince t → timers.stale = true) ∧
    (timers.stale = false →
      ∃ t ∈ timers.lastTxAt, now.durationSince t ≤ timings.keepalive)

variable {timings : ManagerTimings} {now : Instant} {timers : Timers}

theorem not_idle_iff : timers.idle timings now = false ↔
    ∃ t ∈ timers.lastTxAt, now.durationSince t ≤ timings.keepalive := by
  unfold idle
  cases timers.lastTxAt <;> simp

theorem not_silent_iff : timers.silent timings now = false ↔
    ∀ t ∈ timers.lastRxAt, ¬ timings.rejectAfter < now.durationSince t := by
  unfold silent
  cases timers.lastRxAt <;> simp

/-- A pass leaves the timers of a session alone that is stale, not ready, or has a rekey in
flight. -/
theorem maintain_passed {rekeying : Bool}
    (h : timers.stale = true ∨ timers.ready = false ∨ rekeying = true) :
    timers.maintain timings now rekeying = timers := by
  refine if_pos ?_
  rcases h with h | h | h <;> simp [h]

/-- A pass over a session that is looked at. -/
theorem maintain_ready (hstale : timers.stale = false) (hready : timers.ready = true) :
    timers.maintain timings now false =
      if timers.silent timings now then { timers with stale := true }
      else if timers.idle timings now then { timers with lastTxAt := some now }
      else timers := by
  refine if_neg ?_
  simp [hstale, hready]

/-- A stale session is attended to. -/
theorem attended_of_stale (h : timers.stale = true) : timers.Attended timings now :=
  fun _ => ⟨fun _ _ _ => h, fun hfresh => Bool.noConfusion (h.symm.trans hfresh)⟩

/-- After a pass, a session without a rekey in flight is attended to. -/
theorem attended_maintain (timers : Timers) :
    (timers.maintain timings now false).Attended timings now := by
  cases hstale : timers.stale with
  | true =>
      rw [maintain_passed (.inl hstale)]
      exact attended_of_stale hstale
  | false =>
      cases hready : timers.ready with
      | false =>
          rw [maintain_passed (.inr (.inl hready))]
          exact fun h => Bool.noConfusion (hready.symm.trans h)
      | true =>
          rw [maintain_ready hstale hready]
          split
          · exact attended_of_stale rfl
          · rename_i hsilent
            have hheard := not_silent_iff.1 (Bool.eq_false_iff.2 hsilent)
            split
            · refine fun _ => ⟨fun t ht hlate => absurd hlate (hheard t ht),
                fun _ => ⟨now, rfl, ?_⟩⟩
              rw [Instant.durationSince, Nat.sub_self]
              exact Nat.zero_le _
            · rename_i hidle
              exact fun _ => ⟨fun t ht hlate => absurd hlate (hheard t ht),
                fun _ => not_idle_iff.1 (Bool.eq_false_iff.2 hidle)⟩

/-- A pass attends to a session exactly if it has no rekey in flight or needs no attention. -/
theorem attended_maintain_iff (rekeying : Bool) :
    (timers.maintain timings now rekeying).Attended timings now ↔
      (rekeying = true → timers.Attended timings now) := by
  cases rekeying with
  | false => exact iff_of_true (attended_maintain timers) nofun
  | true =>
      rw [maintain_passed (.inr (.inr rfl))]
      exact ⟨fun h _ => h, fun h => h rfl⟩

end Timers

section General

variable [Profile] [Primitives]

/-- The timers of a session. -/
def PeerSession.timers (peer : PeerSession) : Timers where
  ready := peer.state.isReady
  lastRxAt := peer.lastRxAt
  lastTxAt := peer.lastTxAt
  stale := peer.stale

namespace Session

/-- What an action does to the timers. -/
def Action.advance (now : Instant) : Action → Timers → Timers
  | .markStale, timers => { timers with stale := true }
  | .sendKeepalive, timers => if timers.ready then { timers with lastTxAt := some now } else timers
  | _, timers => timers

/-- What actions do to the timers, in order. -/
def advanceAll (now : Instant) (actions : List Action) (timers : Timers) : Timers :=
  actions.foldl (fun timers action => action.advance now timers) timers

variable {self : Session} {env : Env} {keypair : Keypair} {rng : Ephemeral}

/-- An action that is carried out does this to the timers. -/
theorem perform_timers (action : Action) :
    (perform keypair env action).wp
      ⟨fun _ s => s.peer.timers = action.advance env.now self.peer.timers, fun _ _ => True, True⟩
      self := by
  cases action with
  | markStale => rfl
  | sendKeepalive =>
      unfold perform sendEncrypted
      rw [wp_get_bind]
      rcases hstate : self.peer.state with _ | _ | _ | ⟨transport, sid, rehandshake⟩
      case ready =>
        have hready : self.peer.timers.ready = true := by
          show self.peer.state.isReady = true
          rw [hstate]
          rfl
        simp only
        rw [wp_on_bind]
        refine Transport.wp_encrypt (fun ciphertext inner _ => ?_) (fun _ _ _ => ?_)
          (fun _ _ => trivial)
        · simp only
          rw [wp_setState_bind, lift_ok, pure_bind, wp_bind]
          refine wp_sendMaybeRelay (fun _ => ?_) (fun _ => trivial)
          show _ = if self.peer.timers.ready then _ else _
          rw [if_pos hready, hready]
          show PeerSession.timers _ = _
          rfl
        · trivial
      all_goals
        -- Only a ready session sends a keepalive; the others leave the timers alone.
        show self.peer.timers = if self.peer.timers.ready then _ else _
        rw [if_neg]
        show ¬ self.peer.state.isReady = true
        rw [hstate]
        exact Bool.false_ne_true
  | startRekey initiator initMsg =>
      unfold perform
      rw [wp_get_bind, wp_bind]
      refine wp_sendMaybeRelay (fun _ => ?_) (fun _ => trivial)
      rcases hstate : self.peer.state with _ | _ | _ | ⟨transport, sid, rehandshake⟩
      case ready =>
        show PeerSession.timers _ = self.peer.timers
        unfold PeerSession.timers
        rw [hstate]
        rfl
      all_goals rfl
  | retryRekey =>
      unfold perform
      rw [wp_get_bind]
      rcases hstate : self.peer.state with _ | _ | _ | ⟨transport, sid, _ | rehandshake⟩
      case ready.some =>
        simp only
        rw [wp_bind]
        refine wp_sendMaybeRelay (fun _ => ?_) (fun _ => trivial)
        show PeerSession.timers _ = self.peer.timers
        unfold PeerSession.timers
        rw [hstate]
        rfl
      all_goals rfl

omit [Profile] in
/-- Starting a rekey leaves the timers alone. -/
theorem advanceAll_start {actions : List Action}
    (h : ∀ action ∈ actions, action.sendsInit = true) (now : Instant) (timers : Timers) :
    advanceAll now actions timers = timers := by
  induction actions generalizing timers with
  | nil => rfl
  | cons action actions ih =>
      have hfirst : action.advance now timers = timers := by
        cases action with
        | markStale => exact absurd (h _ (List.mem_cons_self ..)) Bool.false_ne_true
        | sendKeepalive => exact absurd (h _ (List.mem_cons_self ..)) Bool.false_ne_true
        | startRekey | retryRekey => rfl
      rw [advanceAll, List.foldl_cons, hfirst]
      exact ih (fun other hother => h other (List.mem_cons_of_mem _ hother)) timers

omit [Profile] in
/-- The decision to send a keepalive, before the one to start a rekey. -/
theorem wp_keepalive {σ : Type} {timings : ManagerTimings} {peer : PeerSession} {s : σ}
    {actions : List Action} (hready : peer.timers.ready = true)
    (hactions : ∀ action ∈ actions, action.sendsInit = true) :
    (if peer.lastTxAt.all (fun t => decide (timings.keepalive < env.now.durationSince t))
      then pure (.sendKeepalive :: actions) else pure actions :
      Method σ TunnelError (List Action)).wp
    ⟨fun actions _ => advanceAll env.now actions peer.timers =
      if peer.timers.idle timings env.now then { peer.timers with lastTxAt := some env.now }
      else peer.timers, fun _ _ => True, True⟩ s := by
  rw [wp_ite]
  refine ⟨fun hidle => ?_, fun hidle => ?_⟩
  · have hsends : peer.timers.idle timings env.now = true := hidle
    have hkept : Action.advance env.now .sendKeepalive peer.timers =
        { peer.timers with lastTxAt := some env.now } := if_pos hready
    show advanceAll env.now actions (Action.advance env.now .sendKeepalive peer.timers) =
      if _ then _ else _
    rw [if_pos hsends, hkept]
    exact advanceAll_start hactions _ _
  · have hsends : ¬ peer.timers.idle timings env.now = true := hidle
    rw [wp_pure, if_neg hsends]
    exact advanceAll_start hactions _ _

omit [Profile] in
/-- What is decided for a session does to its timers what a pass does. -/
theorem planPeer_timers {σ : Type} {timings : ManagerTimings} {peer : PeerSession} (s : σ) :
    (planPeer keypair timings env rng peer).wp
      ⟨fun actions _ => advanceAll env.now actions peer.timers =
        peer.timers.maintain timings env.now peer.state.pending.isSome,
        fun _ _ => True, True⟩ s := by
  have hpassed (h : peer.timers.stale = true ∨ peer.timers.ready = false ∨
      peer.state.pending.isSome = true) : advanceAll env.now [] peer.timers =
        peer.timers.maintain timings env.now peer.state.pending.isSome :=
    (Timers.maintain_passed h).symm
  unfold planPeer
  rw [wp_ite]
  refine ⟨fun hstale => hpassed (.inl hstale), fun hstale => ?_⟩
  rcases hstate : peer.state with _ | _ | _ | ⟨transport, sid, _ | rehandshake⟩
  case ready.some =>
    have hrekeying : peer.timers.maintain timings env.now true = peer.timers :=
      Timers.maintain_passed (.inr (.inr rfl))
    show advanceAll env.now (if rehandshake.nextRetryAt ≤ env.now then [.retryRekey] else [])
      peer.timers = peer.timers.maintain timings env.now true
    rw [hrekeying]
    split <;> rfl
  case ready.none =>
    have hready : peer.timers.ready = true := by
      show peer.state.isReady = true
      rw [hstate]
      rfl
    show Method.wp _ ⟨fun actions _ => advanceAll env.now actions peer.timers =
      peer.timers.maintain timings env.now false, _, _⟩ s
    rw [Timers.maintain_ready (Bool.eq_false_iff.2 hstale) hready]
    simp only
    rw [wp_ite]
    refine ⟨fun hsilent => ?_, fun hsilent => ?_⟩
    · have hlate : peer.timers.silent timings env.now = true := hsilent
      rw [hlate]
      rfl
    · have hheard : ¬ peer.timers.silent timings env.now = true := hsilent
      simp only [if_neg hheard]
      rw [wp_bind, planRekey, wp_ite]
      exact ⟨fun _ => wp_buildRekey (wp_keepalive hready (List.forall_mem_nil _))
          fun initiator msg _ _ => wp_keepalive hready (by simp [Action.sendsInit]),
        fun _ => wp_keepalive hready (List.forall_mem_nil _)⟩
  all_goals
    have hidle : peer.timers.ready = false := by
      show peer.state.isReady = false
      rw [hstate]
      rfl
    rw [hstate] at hpassed
    exact hpassed (.inr (.inl hidle))

end Session

namespace TunnelManager

variable {self self' : TunnelManager} {env : Env}

/-- Actions that are all carried out do to the timers of each session what those for it do. -/
theorem performAll_timers {keypair : Keypair} {actions : List (ℕ × Session.Action)}
    (h : performAll keypair env actions self = .ok () self') {idx : ℕ} {peer' : PeerSession}
    (hpeer' : self'.peers[idx]? = some peer') :
    ∃ peer, self.peers[idx]? = some peer ∧
      peer'.timers = Session.advanceAll env.now (actionsFor idx actions) peer.timers := by
  induction actions generalizing self with
  | nil =>
      cases h
      exact ⟨peer', hpeer', rfl⟩
  | cons entry rest ih =>
      obtain ⟨i, action⟩ := entry
      rw [performAll, bind_eq] at h
      cases hrun : atPeer i (Session.perform keypair env action) self with
      | ok a next =>
          rw [hrun] at h
          obtain ⟨p, hp, htimers⟩ := ih h
          rw [actionsFor_cons]
          cases hfound : self.peers[i]? with
          | none =>
              rw [atPeer, bind_ok (get_apply self), hfound] at hrun
              cases hrun
          | some q =>
              have hpost : (Session.perform keypair env action).wp _
                ⟨q, self.transport, self.device⟩ := Session.perform_timers action
              rw [atPeer_eq hfound] at hrun
              rw [wp_def] at hpost
              cases hperform : Session.perform keypair env action ⟨q, self.transport, self.device⟩
                with
              | ok u session =>
                  rw [hperform] at hrun hpost
                  cases hrun
                  -- An action advances the timers of its own peer only.
                  by_cases hsame : i = idx
                  · subst hsame
                    have hlt := (List.getElem?_eq_some_iff.1 hfound).1
                    rw [List.getElem?_set_self hlt] at hp
                    cases hp
                    have hmoved : session.peer.timers = action.advance env.now q.timers := hpost
                    refine ⟨q, hfound, ?_⟩
                    rw [htimers, hmoved, if_pos rfl]
                    rfl
                  · rw [List.getElem?_set_ne hsame] at hp
                    refine ⟨p, hp, ?_⟩
                    rw [htimers, if_neg hsame]
              | err e session =>
                  rw [hperform] at hrun
                  cases hrun
              | panic =>
                  rw [hperform] at hrun
                  cases hrun
      | err e next =>
          rw [hrun] at h
          cases h
      | panic =>
          rw [hrun] at h
          cases h

/-- A pass that is due and that sends everything does to the timers of each session what a pass
does. -/
theorem maintenance_timers (hdue : self.TickDue env) (h : maintenance env self = .ok () self')
    {idx : ℕ} {peer' : PeerSession} (hpeer' : self'.peers[idx]? = some peer') :
    ∃ peer, self.peers[idx]? = some peer ∧ peer'.timers =
      peer.timers.maintain self.config.timings env.now peer.state.pending.isSome := by
  rw [maintenance, bind_ok (get_apply self), if_neg (not_lt.2 hdue),
    bind_ok (modify_apply _ _)] at h
  obtain ⟨-, hpeers, -, -⟩ :=
    rotateCookieSecret_fields env { self with lastMaintenanceAt := env.now }
  generalize rotateCookieSecret env { self with lastMaintenanceAt := env.now } = rotated at *
  obtain ⟨actions, hplan, -, -⟩ := plan_ok self.config env rotated self.peers
  have hdecided : (plan self.config env 0 self.peers).wp
      ⟨fun actions _ => _ ∧ ∀ k peer, self.peers[k]? = some peer →
        Session.advanceAll env.now (actionsFor (0 + k) actions) peer.timers =
          peer.timers.maintain self.config.timings env.now peer.state.pending.isSome, _, _⟩
      rotated :=
    plan_for (fun _ _ s => Session.planPeer_timers s) self.peers 0 rotated
  rw [wp_def, hplan] at hdecided
  rw [bind_ok hplan] at h
  obtain ⟨peer, hpeer, htimers⟩ := performAll_timers h hpeer'
  rw [hpeers] at hpeer
  have hmaintained := hdecided.2 idx peer hpeer
  rw [Nat.zero_add] at hmaintained
  exact ⟨peer, hpeer, htimers.trans hmaintained⟩

/-- After a pass that was due and that sent everything, every ready peer is attended to if and only
if every peer with a rekey in flight was so before. -/
theorem maintenance_attends_iff (hdue : self.TickDue env)
    (h : maintenance env self = .ok () self') :
    (∀ (idx : ℕ) peer', self'.peers[idx]? = some peer' →
      peer'.timers.Attended self.config.timings env.now) ↔
      ∀ (idx : ℕ) peer, self.peers[idx]? = some peer → peer.state.pending.isSome = true →
        peer.timers.Attended self.config.timings env.now := by
  constructor
  · intro hall idx peer hpeer hpending
    have hstate : (maintenance env self).state? = some self' := by rw [h]; rfl
    have hlt : idx < self'.peers.length := by
      rw [(maintenance_evolves hstate).length]
      exact (List.getElem?_eq_some_iff.1 hpeer).1
    have hpeer' := List.getElem?_eq_getElem hlt
    obtain ⟨found, hfound, htimers⟩ := maintenance_timers hdue h hpeer'
    cases hpeer.symm.trans hfound
    have hattended := hall idx _ hpeer'
    rw [htimers, Timers.attended_maintain_iff] at hattended
    exact hattended hpending
  · intro hall idx peer' hpeer'
    obtain ⟨peer, hpeer, htimers⟩ := maintenance_timers hdue h hpeer'
    rw [htimers, Timers.attended_maintain_iff]
    exact hall idx peer hpeer

end TunnelManager

end General

section Symbolic

open Symbolic TunnelManager

attribute [local instance] Symbolic.primitives Symbolic.release

/-- Node 1 initiates and node 2 answers; a pass of maintenance comes some time later. -/
def answered (now : Instant) : List Event :=
  [.retryInit (quietEnv 0 ⟨1000, 0⟩ 7) 0,
    .incoming (quietEnv 0 ⟨1000, 0⟩ 7) (address 2) firstResponse,
    .maintenance (quietEnv now ⟨1000, 0⟩ 7)]

/-- What is evaluated: a pass at the given time is due and sends everything. -/
def passes (env : Env) (self : TunnelManager) (check : TunnelManager → Bool) : Bool :=
  decide (self.config.timings.maintenanceTick ≤ env.now.durationSince self.lastMaintenanceAt) &&
    match maintenance env self with
    | .ok _ self' => check self'
    | _ => false

theorem of_passes {env : Env} {self : TunnelManager} {check : TunnelManager → Bool}
    (h : passes env self check = true) :
    self.TickDue env ∧ ∃ self', maintenance env self = .ok () self' ∧ check self' = true := by
  obtain ⟨hdue, hrun⟩ := Bool.and_eq_true_iff.1 h
  have htick : self.config.timings.maintenanceTick ≤
      env.now.durationSince self.lastMaintenanceAt := of_decide_eq_true hdue
  refine ⟨htick, ?_⟩
  cases hmaintenance : maintenance env self with
  | ok u self' =>
      rw [hmaintenance] at hrun
      exact ⟨self', rfl, hrun⟩
  | err e self' =>
      rw [hmaintenance] at hrun
      cases hrun
  | panic =>
      rw [hmaintenance] at hrun
      cases hrun

/-- What is evaluated: the first peer is ready and neither stale nor heard nor sent to. -/
def isForgotten (timings : ManagerTimings) (now : Instant) (self : TunnelManager) : Bool :=
  self.peers[0]?.any fun peer => peer.timers.ready && !peer.timers.stale &&
    peer.timers.silent timings now && peer.timers.idle timings now

namespace TunnelManager

/-- Node 2 falls silent after the handshake. At 121 seconds node 1 starts a rekey. After a pass at
200 seconds the peer is not stale, and nothing but INITs was sent to it since then. -/
theorem rekeying_peer_forgotten :
    ∃ self self' peer', self.Reachable ∧ self.TickDue (quietEnv (200 * second) ⟨1200, 0⟩ 7) ∧
      maintenance (quietEnv (200 * second) ⟨1200, 0⟩ 7) self = .ok () self' ∧
      self'.peers[0]? = some peer' ∧ peer'.timers.ready = true ∧ peer'.timers.stale = false ∧
      peer'.timers.silent .default (200 * second) = true ∧
      ¬ peer'.timers.Attended .default (200 * second) := by
  have hrun : (after (quietEnv 0 ⟨1000, 0⟩ 7) (nodeConfig 1) [sessionWith 2 true]
      (answered (121 * second))).any (fun self => passes (quietEnv (200 * second) ⟨1200, 0⟩ 7) self
        (isForgotten .default (200 * second))) = true := by
    decide +kernel
  obtain ⟨self, hself, hcheck⟩ := (Option.any_eq_true _ _).1 hrun
  obtain ⟨hdue, self', hpass, hforgotten⟩ := of_passes hcheck
  obtain ⟨peer', hpeer', hfields⟩ := (Option.any_eq_true _ _).1 hforgotten
  simp only [Bool.and_eq_true, Bool.not_eq_true'] at hfields
  obtain ⟨⟨⟨hready, hstale⟩, hsilent⟩, hidle⟩ := hfields
  refine ⟨self, self', peer', reachable_of_after hself, hdue, hpass, hpeer', hready, hstale,
    hsilent, fun h => ?_⟩
  have hsent := Timers.not_idle_iff.2 ((h hready).2 hstale)
  exact Bool.noConfusion (hidle.symm.trans hsent)

/-- Before a rekey is due, a pass leaves every ready peer attended to. -/
theorem quiet_peer_kept :
    ∃ self self', self.Reachable ∧
      maintenance (quietEnv (20 * second) ⟨1020, 0⟩ 7) self = .ok () self' ∧
      ∀ (idx : ℕ) peer', self'.peers[idx]? = some peer' →
        peer'.timers.Attended self.config.timings (20 * second) := by
  have hrun : (after (quietEnv 0 ⟨1000, 0⟩ 7) (nodeConfig 1) [sessionWith 2 true]
      (answered (10 * second))).any (fun self =>
        passes (quietEnv (20 * second) ⟨1020, 0⟩ 7) self (fun _ => true) &&
          self.peers.all fun peer => !peer.state.pending.isSome) = true := by
    decide +kernel
  obtain ⟨self, hself, hcheck⟩ := (Option.any_eq_true _ _).1 hrun
  obtain ⟨hpasses, hpending⟩ := Bool.and_eq_true_iff.1 hcheck
  obtain ⟨hdue, self', hpass, -⟩ := of_passes hpasses
  refine ⟨self, self', reachable_of_after hself, hpass,
    (maintenance_attends_iff hdue hpass).2 fun idx peer hpeer hrekeying => ?_⟩
  have hnone := List.all_eq_true.1 hpending peer (List.mem_of_getElem? hpeer)
  rw [hrekeying] at hnone
  cases hnone

end TunnelManager

end Symbolic

end Naboscale
