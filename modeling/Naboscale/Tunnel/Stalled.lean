import Naboscale.Tunnel.Invariant

/-!
# A cookie for an initiator

`handle_cookie` forgets the INIT that is cached, so that the next pass of the INIT loop writes a
new one. The Noise state of the initiator can write its first message only once. An initiator
that has sent its INIT therefore cannot answer a COOKIE: the pass fails, and `step` with it.
-/

namespace Naboscale

open Rust Method Transition

section General

variable [Profile] [Primitives]

omit [Profile] in
/-- An initiator that wrote its INIT has written its message. -/
theorem Initiator.Wrote.written {initiator : Initiator} {datagram : Bytes}
    (h : initiator.Wrote datagram) : Written initiator.state := by
  obtain ⟨start, rng, init, hwrite, _⟩ := h
  have hwp : (Initiator.writeInit rng).wp ⟨fun _ i => Written i.state, fun _ _ => True, True⟩
      start :=
    Initiator.wp_writeInit (fun _ _ _ h _ => .once h) fun _ _ _ _ _ => trivial
  rw [wp_def, hwrite] at hwp
  exact hwp

namespace PeerSession

/-- The Noise state of the handshake that the session started has written its message. -/
def HasWritten (peer : PeerSession) : Prop :=
  ∀ initiator, peer.state = .handshakingAsInitiator initiator → Written initiator.state

/-- The session is due to send the INIT of its handshake, has none cached, and cannot write it. -/
structure Stuck (peer : PeerSession) (now : Instant) : Prop where
  waiting : ∃ initiator, peer.state = .handshakingAsInitiator initiator
  written : peer.HasWritten
  uncached : peer.cachedInit = none
  due : peer.nextInitAt.any (fun due => decide (due ≤ now)) = true

end PeerSession

section Change

variable {keypair : Keypair} {env : Env} {rng : Ephemeral} {message : Option Message}
  {peer peer' : PeerSession}

/-- No move takes the message back. -/
theorem Change.hasWritten (h : Change keypair env rng message peer peer')
    (hwritten : peer.HasWritten) : peer'.HasWritten := by
  intro initiator' hstate'
  have hmove := h.state
  rw [hstate'] at hmove
  generalize hstate : peer.state = state at hmove
  cases hmove with
  | keep => exact hwritten _ hstate
  | write hwrite => exact (hwritten _ hstate).again hwrite

end Change

namespace Session

variable {self : Session} {env : Env} {keypair : Keypair} {rng : Ephemeral}

omit [Profile] in
/-- A stuck session fails the INIT loop. -/
theorem retryInit_stuck (honce : WritesOnce) (h : self.peer.Stuck env.now) (s : Session) :
    retryInit keypair env rng self ≠ .ok () s := by
  obtain ⟨⟨initiator, hstate⟩, hwritten, huncached, hdue⟩ := h
  have hrefused := hwritten initiator hstate
  have hwp : (retryInit keypair env rng).wp ⟨fun _ _ => False, fun _ _ => True, True⟩ self := by
    unfold retryInit
    rw [wp_get_bind, if_pos hdue, hstate]
    refine (wp_bind _ _).2 (wp_cacheInit (fun msg hcached => ?_)
      (fun message state init msg _ hwrite _ _ => ?_) (fun _ _ _ _ _ => trivial))
    · cases huncached.symm.trans hcached
    · obtain ⟨e, h', hwrite'⟩ := honce _ rng initiator.timestamp.toBytes.val noiseInitPayloadSize
        hrefused
      cases hwrite.symm.trans hwrite'
  intro hok
  rw [wp_def, hok] at hwp
  exact hwp

omit [Profile] in
/-- The INIT that a pass of the INIT loop sends was written. -/
theorem retryInit_written (hvalid : self.peer.Valid) :
    (retryInit keypair env rng).wp
      ⟨fun _ s => s.transport.sent ≠ self.transport.sent → s.peer.HasWritten,
        fun _ s => s.transport.sent ≠ self.transport.sent → s.peer.HasWritten, True⟩ self := by
  have hquiet : ∀ peer : PeerSession, self.transport.sent ≠ self.transport.sent →
      peer.HasWritten := fun _ hne => absurd rfl hne
  unfold retryInit
  rw [wp_get_bind, wp_ite]
  refine ⟨fun _ => ?_, fun _ => hquiet _⟩
  cases hstate : self.peer.state with
  | handshakingAsInitiator initiator =>
      rw [PeerSession.Valid, hstate] at hvalid
      obtain ⟨_, _, _, hwrote⟩ := hvalid
      refine (wp_bind _ _).2 (wp_cacheInit (fun msg hmsg => ?_)
        (fun message state init msg _ hwrite _ _ => ?_) (fun _ _ _ _ _ => hquiet _))
      · have hwritten : self.peer.HasWritten := by
          intro initiator' hinitiator'
          cases hstate.symm.trans hinitiator'
          exact (hwrote msg hmsg).written
        refine (wp_bind _ _).2 (wp_sendMaybeRelay (fun _ _ => ?_) fun _ => hquiet _)
        exact hwritten
      · have hwritten : ∀ peer : PeerSession, peer.state = .handshakingAsInitiator
            { initiator with state } → peer.HasWritten := by
          intro peer hpeer initiator' hinitiator'
          cases hpeer.symm.trans hinitiator'
          exact .once hwrite
        refine (wp_bind _ _).2 (wp_sendMaybeRelay (fun _ _ => ?_) fun _ => hquiet _)
        exact hwritten _ rfl
  | init => exact hquiet _
  | handshakingAsResponder responder => exact hquiet _
  | ready transport sid rehandshake => exact hquiet _

end Session

namespace TunnelManager

variable {self self' : TunnelManager} {env : Env} {idx : ℕ} {peer peer' : PeerSession}

theorem Event.Moves.hasWritten {event : Event} (h : event.Moves self idx peer peer')
    (hwritten : peer.HasWritten) : peer'.HasWritten := by
  unfold Event.Moves at h
  cases hmessage : event.message self idx with
  | some message =>
      rw [hmessage] at h
      exact h.hasWritten hwritten
  | none =>
      rw [hmessage] at h
      induction h with
      | refl => exact hwritten
      | tail _ hmove ih => exact hmove.hasWritten ih

/-- A pass of the INIT loop is one for its session alone. -/
theorem retryInit_fired (h : fire self (.retryInit env idx) = some self') :
    ∃ peer s, self.peers[idx]? = some peer ∧
      (Session.retryInit self.config.localKeypair env (env.ephemeral idx)
        ⟨peer, self.transport, self.device⟩).state? = some s ∧
      self' =
        { self with
          peers := self.peers.set idx s.peer, transport := s.transport, device := s.device } := by
  have hcall : (retryInit env idx self).state? = some self' := h
  rw [retryInit, bind_ok (get_apply self)] at hcall
  cases hpeer : self.peers[idx]? with
  | none =>
      rw [atPeer, bind_ok (get_apply self), hpeer] at hcall
      cases hcall
  | some peer =>
      rw [atPeer_state hpeer] at hcall
      obtain ⟨s, hs, rfl⟩ := Option.map_eq_some_iff.1 hcall
      exact ⟨peer, s, rfl, hs, rfl⟩

/-- The manager is reached by a run in which the INIT loop sent the peer an INIT. -/
def HasSentInit (self : TunnelManager) (idx : ℕ) : Prop :=
  ∃ before env after, before.Reachable ∧ fire before (.retryInit env idx) = some after ∧
    after.transport.sent ≠ before.transport.sent ∧ Reaches fire after self

/-- The session at an index has written the message of its handshake. -/
def Spent (self : TunnelManager) (idx : ℕ) : Prop :=
  ∃ peer, self.peers[idx]? = some peer ∧ peer.HasWritten

/-- No event takes the message back. -/
theorem Spent.fire {event : Event} (hsound : self.Sound) (hspent : self.Spent idx)
    (h : fire self event = some self') : self'.Spent idx := by
  obtain ⟨peer, hpeer, hwritten⟩ := hspent
  have hadvances := fire_advances hsound h
  have hlt : idx < self.peers.length := (List.getElem?_eq_some_iff.1 hpeer).1
  refine ⟨_, List.getElem?_eq_getElem (hlt.trans_le hadvances.length), ?_⟩
  rcases hadvances.peers (List.getElem?_eq_getElem (hlt.trans_le hadvances.length)) with
    ⟨old, hold, hmoves⟩ | ⟨hidx, _⟩
  · cases hpeer.symm.trans hold
    exact hmoves.hasWritten hwritten
  · omega

/-- A session that was sent an INIT has written its message. -/
theorem HasSentInit.spent (h : self.HasSentInit idx) : self.Sound ∧ self.Spent idx := by
  obtain ⟨before, env, after, hreachable, hfire, hsent, hrun⟩ := h
  have hadvances := fire_advances hreachable.sound hfire
  have hspent : after.Spent idx := by
    obtain ⟨peer, s, hpeer, hs, rfl⟩ := retryInit_fired hfire
    have hwritten := wp_state (Session.retryInit_written (hreachable.allValid idx peer hpeer)) hs hsent
    exact ⟨s.peer, List.getElem?_set_self (List.getElem?_eq_some_iff.1 hpeer).1, hwritten⟩
  exact Transition.Reaches.invariant (I := fun manager => manager.Sound ∧ manager.Spent idx)
    (fun _ _ _ hI hfire => ⟨(fire_advances hI.1 hfire).sound, hI.2.fire hI.1 hfire⟩)
    ⟨hadvances.sound, hspent⟩ hrun

/-! ## The step that the COOKIE comes in -/

/-- The INIT loop fails at a stuck session at the latest. -/
theorem retryAll_stuck (honce : WritesOnce) {indices : List ℕ} (hmem : idx ∈ indices)
    (hpeer : self.peers[idx]? = some peer) (hstuck : peer.Stuck env.now) (s : TunnelManager) :
    retryAll env indices self ≠ .ok () s := by
  induction indices generalizing self with
  | nil => exact absurd hmem List.not_mem_nil
  | cons i rest ih =>
      intro hok
      rw [retryAll, bind_eq] at hok
      cases hrun : retryInit env i self with
      | err e next =>
          rw [hrun] at hok
          cases hok
      | panic =>
          rw [hrun] at hok
          cases hok
      | ok a next =>
          rw [hrun] at hok
          obtain ⟨p, t, hp, ht, rfl⟩ := retryInit_fired (show (retryInit env i self).state? = _ by
            rw [hrun]
            rfl)
          by_cases hsame : i = idx
          · subst hsame
            cases hpeer.symm.trans hp
            rw [retryInit, bind_ok (get_apply self), atPeer_eq hpeer] at hrun
            cases hretry : Session.retryInit self.config.localKeypair env (env.ephemeral i)
                ⟨peer, self.transport, self.device⟩ with
            | ok a session => exact Session.retryInit_stuck honce hstuck session hretry
            | err e session =>
                rw [hretry] at hrun
                cases hrun
            | panic =>
                rw [hretry] at hrun
                cases hrun
          · have hrest : idx ∈ rest := (List.mem_cons.1 hmem).resolve_left (Ne.symm hsame)
            refine ih hrest ?_ hok
            exact (List.getElem?_set_ne hsame).trans hpeer

/-- The COOKIE makes the session due and leaves it without an INIT. -/
theorem handleIncoming_cookie (env : Env) (hsound : self.Sound) {source : SocketAddr} {pkt : Bytes}
    (hroute : self.route source pkt = some (idx, .cookie pkt)) (hlen : 24 ≤ pkt.length) :
    ∃ peer peer' next, self.peers[idx]? = some peer ∧ next.peers[idx]? = some peer' ∧
      handleIncoming env source pkt self = .ok () next ∧ peer'.state = peer.state ∧
      peer'.cachedInit = none ∧ peer'.nextInitAt = some env.now := by
  obtain ⟨peer, noted, hpeer, hnoted, heq⟩ := handleIncoming_routed env hsound.wellFormed hroute
  obtain ⟨endpoint, hheard⟩ := hnoted.getElem?_self hpeer
  obtain ⟨cookie, hcookie⟩ := Session.handleCookie_eq
    ⟨peer.heard env endpoint, noted.transport, noted.device⟩ env hlen
  have hidx : idx < noted.peers.length := (List.getElem?_eq_some_iff.1 hheard).1
  rw [atPeer_eq hheard, Session.deliver, hcookie] at heq
  let answering : PeerSession :=
    { peer.heard env endpoint with
      receivedCookie := some cookie, cachedInit := none, nextInitAt := some env.now }
  exact ⟨peer, answering, _, hpeer, List.getElem?_set_self hidx, heq, rfl, rfl, rfl⟩

/-- The step in which an initiator that has sent its INIT receives a COOKIE fails. -/
theorem cookie_never_answered (honce : WritesOnce) {input : StepInput} {initiator : Initiator}
    {env : Env} {source : SocketAddr} {pkt : Bytes} (hsent : self.HasSentInit idx)
    (hpeer : self.peers[idx]? = some peer)
    (hstate : peer.state = .handshakingAsInitiator initiator)
    (hsource : self.endpointToPeer source = some idx)
    (htype : pkt[0]? = some messageTypeCookie) (hlen : 24 ≤ pkt.length)
    (hreceived : input.received = [(env, source, pkt)]) (hclock : env.now ≤ input.env.now)
    (self' : TunnelManager) : step input self ≠ .ok () self' := by
  obtain ⟨hsound, spent, hspent, hwritten⟩ := hsent.spent
  cases hpeer.symm.trans hspent
  have hroute : self.route source pkt = some (idx, .cookie pkt) := by
    rw [route_direct htype (by decide), hsource]
    simp only [directMessage, htype]
    rfl
  obtain ⟨old, peer', next, hold, hpeer', hincoming, hsame, huncached, hdue⟩ :=
    handleIncoming_cookie env hsound hroute hlen
  cases hpeer.symm.trans hold
  have hstuck : peer'.Stuck input.env.now := by
    refine ⟨⟨initiator, hsame.trans hstate⟩, fun i hi => hwritten i (hsame.symm.trans hi),
      huncached, ?_⟩
    rw [hdue]
    exact decide_eq_true hclock
  have hidx : idx < next.peers.length := (List.getElem?_eq_some_iff.1 hpeer').1
  have hreceive : receiveAll input.received self = .ok () next := by
    rw [hreceived, receiveAll, bind_ok hincoming]
    rfl
  intro hok
  rw [step, bind_ok hreceive] at hok
  cases herror : input.recvError with
  | some e =>
      rw [herror] at hok
      cases hok
  | none =>
      rw [herror] at hok
      simp only [bind_ok (get_apply next)] at hok
      rw [bind_eq] at hok
      cases hretry : retryAll input.env (List.range next.peers.length) next with
      | ok a s => exact retryAll_stuck honce (List.mem_range.2 hidx) hpeer' hstuck s hretry
      | err e s =>
          rw [hretry] at hok
          cases hok
      | panic =>
          rw [hretry] at hok
          cases hok

end TunnelManager

end General

section Symbolic

open Symbolic TunnelManager

attribute [local instance] Symbolic.primitives Symbolic.release

/-- A COOKIE of the smallest size that is read. -/
def cookiePkt : Bytes := messageTypeCookie :: List.replicate 23 0

/-- A pass of the INIT loop for the only peer. -/
def firstInit : Event := .retryInit (quietEnv 0 ⟨1000, 0⟩ 7) 0

/-- The step that a COOKIE from node 2 comes in, a second later. -/
def cookieStep : StepInput where
  received := [(quietEnv second ⟨1001, 0⟩ 7, address 2, cookiePkt)]
  recvError := none
  env := quietEnv second ⟨1001, 0⟩ 7
  tun := .ok none

/-- The INIT of the first pass is sent, and node 2 is the peer whose RESPONSE it waits for. -/
def sendsFirst (start : TunnelManager) : Bool :=
  (fire start firstInit).any fun self =>
    decide (self.transport.sent.length ≠ start.transport.sent.length) &&
    decide (self.endpointToPeer (address 2) = some 0) &&
    match self.peers[0]?.map PeerSession.state with
    | some (.handshakingAsInitiator _) => true
    | _ => false

namespace TunnelManager

variable {start : TunnelManager}

theorem sendsFirst_spec (hnew : new (quietEnv 0 ⟨1000, 0⟩ 7) (nodeConfig 1)
    [sessionWith 2 true] = .ok start) (h : sendsFirst start = true) :
    ∃ self peer initiator, fire start firstInit = some self ∧ self.HasSentInit 0 ∧
      self.peers[0]? = some peer ∧ peer.state = .handshakingAsInitiator initiator ∧
      self.endpointToPeer (address 2) = some 0 := by
  obtain ⟨self, hfire, hcheck⟩ := (Option.any_eq_true _ _).1 h
  simp only [Bool.and_eq_true, decide_eq_true_eq] at hcheck
  obtain ⟨⟨hsent, hknown⟩, hwaits⟩ := hcheck
  have hreachable : start.Reachable := ⟨_, _, _, start, hnew, Reaches.refl start⟩
  have hsentInit : self.HasSentInit 0 :=
    ⟨start, _, self, hreachable, hfire, fun hsame => hsent (by rw [hsame]), Reaches.refl self⟩
  cases hpeer : self.peers[0]? with
  | none =>
      rw [hpeer] at hwaits
      cases hwaits
  | some peer =>
      rw [hpeer] at hwaits
      cases hstate : peer.state with
      | handshakingAsInitiator initiator =>
          exact ⟨self, peer, initiator, hfire, hsentInit, hpeer, hstate, hknown⟩
      | _ =>
          simp only [Option.map_some, hstate] at hwaits
          cases hwaits

/-- A COOKIE from the peer that a newly made initiator has just sent its INIT to. -/
theorem first_cookie_not_answered :
    ∃ start self, new (quietEnv 0 ⟨1000, 0⟩ 7) (nodeConfig 1) [sessionWith 2 true] = .ok start ∧
      fire start firstInit = some self ∧ ∀ self', step cookieStep self ≠ .ok () self' := by
  have hrun : (new (quietEnv 0 ⟨1000, 0⟩ 7) (nodeConfig 1) [sessionWith 2 true]).toOption.any
      sendsFirst = true := by
    decide +kernel
  obtain ⟨start, hnew, hsends⟩ := of_new hrun
  obtain ⟨self, peer, initiator, hfire, hsent, hpeer, hstate, hknown⟩ := sendsFirst_spec hnew hsends
  exact ⟨start, self, hnew, hfire, cookie_never_answered Symbolic.writes_once hsent hpeer hstate
    hknown (by decide) (by decide) (show cookieStep.received = _ from rfl) (by decide)⟩

/-- A step that fails. -/
def fails (input : StepInput) (self : TunnelManager) : Option TunnelManager :=
  match step input self with
  | .err _ next => some next
  | _ => none

theorem fails_spec {input : StepInput} {self next : TunnelManager}
    (h : fails input self = some next) : ∃ e, step input self = .err e next := by
  unfold fails at h
  cases hstep : step input self with
  | err e s =>
      rw [hstep] at h
      cases h
      exact ⟨e, rfl⟩
  | ok a s =>
      rw [hstep] at h
      cases h
  | panic =>
      rw [hstep] at h
      cases h

/-- The step that the COOKIE comes in fails, and so does the next one, which receives nothing. -/
theorem first_cookie_stalls :
    ∃ start self next e e' next', new (quietEnv 0 ⟨1000, 0⟩ 7) (nodeConfig 1)
        [sessionWith 2 true] = .ok start ∧
      fire start firstInit = some self ∧ self.HasSentInit 0 ∧
      (∃ peer initiator, self.peers[0]? = some peer ∧
        peer.state = .handshakingAsInitiator initiator) ∧
      self.endpointToPeer (address 2) = some 0 ∧ step cookieStep self = .err e next ∧
      step { cookieStep with received := [] } next = .err e' next' := by
  have hrun : (new (quietEnv 0 ⟨1000, 0⟩ 7) (nodeConfig 1) [sessionWith 2 true]).toOption.any
      (fun start => sendsFirst start && ((fire start firstInit).bind fun self =>
        (fails cookieStep self).bind (fails { cookieStep with received := [] })).isSome) = true := by
    decide +kernel
  obtain ⟨start, hnew, hcheck⟩ := of_new hrun
  simp only [Bool.and_eq_true] at hcheck
  obtain ⟨hsends, hstalls⟩ := hcheck
  obtain ⟨self, peer, initiator, hfire, hsent, hpeer, hstate, hknown⟩ := sendsFirst_spec hnew hsends
  rw [hfire, Option.bind_some] at hstalls
  obtain ⟨next', hstalls⟩ := Option.isSome_iff_exists.1 hstalls
  obtain ⟨next, hfirst, hsecond⟩ := Option.bind_eq_some_iff.1 hstalls
  obtain ⟨e, he⟩ := fails_spec hfirst
  obtain ⟨e', he'⟩ := fails_spec hsecond
  exact ⟨start, self, next, e, e', next', hnew, hfire, hsent, ⟨peer, initiator, hpeer, hstate⟩,
    hknown, he, he'⟩

end TunnelManager

end Symbolic

end Naboscale
