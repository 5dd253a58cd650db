import Naboscale.Tunnel.Parties
import Naboscale.Tunnel.Runs

/-!
# Rejected INITs

`consume_init` advances the Noise state of its responder before it has checked the timestamp and
mac1, so a responder that rejected an INIT is of no use for the next one. A session that waits for
an INIT replaces it by a fresh one, and a ready session works with a responder that it throws away:
whatever is rejected, the next INIT meets the responder that the first one would have met.
-/

namespace Naboscale

open Rust Method Transition

section General

variable [Profile] [Primitives]

/-! ## The responder that a message meets -/

/-- The responder is as it was made for the configuration, at whatever time. -/
def Responder.Unused (responder : Responder) (keypair : Keypair) (config : PeerConfig) : Prop :=
  ∃ time, Responder.new keypair config.psk config.localSenderId time = .ok responder

/-- The responder that consumes the INIT of a message. Through a relay, only a session that waits
for an INIT has one. -/
def PeerSession.ConsumedBy (peer : PeerSession) (keypair : Keypair) (env : Env) :
    Message → Responder → Prop
  | .init _, responder => peer.Consults keypair env responder
  | .relayedInit _, responder => peer.state = .handshakingAsResponder responder
  | _, _ => False

/-- The message is an INIT that `consume_init` answers, and `used` is what is then left of the
responder. -/
def PeerSession.Accepts (peer : PeerSession) (keypair : Keypair) (env : Env) (rng : Ephemeral)
    (message : Message) (response : Arr responseSize) (used : Responder) : Prop :=
  ∃ responder pkt, message.initPkt? = some pkt ∧ peer.ConsumedBy keypair env message responder ∧
    Responder.consumeInit pkt rng (responder.setCurrentTime env.tai) = .ok response used

/-- The message is an INIT of full length that `consume_init` rejects. -/
def PeerSession.Rejects (peer : PeerSession) (keypair : Keypair) (env : Env) (rng : Ephemeral)
    (message : Message) : Prop :=
  ∃ pkt, message.initPkt? = some pkt ∧ initSize ≤ pkt.length ∧
    ∀ responder, peer.ConsumedBy keypair env message responder →
      ∃ e used, Responder.consumeInit pkt rng (responder.setCurrentTime env.tai) = .err e used

/-- The session is ready, or it waits for an INIT with a responder that was not used. -/
def PeerSession.Receptive (peer : PeerSession) (keypair : Keypair) : Prop :=
  match peer.state with
  | .ready _ _ _ => True
  | .handshakingAsResponder responder => responder.Unused keypair peer.config
  | _ => False

/-- The session came through: it is ready with the same transport, sender id, pending rekey,
handshake time and stale flag, or it waits for an INIT with a responder that was not used. -/
def PeerSession.Outlasts (keypair : Keypair) (peer peer' : PeerSession) : Prop :=
  peer.config.Same peer'.config ∧
    match peer.state with
    | .ready transport sid rehandshake =>
        peer'.state = .ready transport sid rehandshake ∧
          peer'.lastHandshakeAt = peer.lastHandshakeAt ∧ peer'.stale = peer.stale
    | .handshakingAsResponder _ =>
        ∃ responder, peer'.state = .handshakingAsResponder responder ∧
          responder.Unused keypair peer'.config
    | _ => False

variable {keypair : Keypair} {env : Env} {rng : Ephemeral} {peer peer' peer'' : PeerSession}
  {responder : Responder} {config config' : PeerConfig}

section Unused

omit [Profile]

/-- A responder that is made later differs in its clock only. -/
theorem Responder.Unused.new (h : responder.Unused keypair config) (time : Tai64N) :
    Responder.new keypair config.psk config.localSenderId time =
      .ok (responder.setCurrentTime time) := by
  obtain ⟨start, hnew⟩ := h
  unfold Responder.new at *
  cases hbuild : buildResponder keypair.secret wgIdentifier config.psk with
  | error e =>
      rw [hbuild] at hnew
      cases hnew
  | ok state =>
      rw [hbuild] at hnew
      cases hnew
      rfl

/-- Two unused responders of a session are the same but for the clock, which is set before each
use. -/
theorem Responder.Unused.unique {other : Responder} (h : responder.Unused keypair config)
    (hother : other.Unused keypair config) (time : Tai64N) :
    responder.setCurrentTime time = other.setCurrentTime time :=
  Except.ok.inj ((h.new time).symm.trans (hother.new time))

theorem Responder.Unused.of_same (h : responder.Unused keypair config)
    (hsame : config.Same config') : responder.Unused keypair config' := by
  obtain ⟨time, hnew⟩ := h
  refine ⟨time, ?_⟩
  rw [hsame]
  exact hnew

end Unused

namespace PeerSession

omit [Profile] in
theorem Receptive.outlasts (h : peer.Receptive keypair) : peer.Outlasts keypair peer := by
  refine ⟨PeerConfig.Same.refl _, ?_⟩
  unfold Receptive at h
  cases hstate : peer.state with
  | ready transport sid rehandshake => exact ⟨rfl, rfl, rfl⟩
  | handshakingAsResponder responder =>
      rw [hstate] at h
      exact ⟨responder, rfl, h⟩
  | init =>
      rw [hstate] at h
      exact h
  | handshakingAsInitiator initiator =>
      rw [hstate] at h
      exact h

omit [Profile] in
theorem Outlasts.trans (h : peer.Outlasts keypair peer') (h' : peer'.Outlasts keypair peer'') :
    peer.Outlasts keypair peer'' := by
  obtain ⟨hsame, h⟩ := h
  obtain ⟨hsame', h'⟩ := h'
  refine ⟨hsame.trans hsame', ?_⟩
  cases hstate : peer.state with
  | ready transport sid rehandshake =>
      rw [hstate] at h
      obtain ⟨hready, hat, hstale⟩ := h
      rw [hready] at h'
      exact ⟨h'.1, h'.2.1.trans hat, h'.2.2.trans hstale⟩
  | handshakingAsResponder responder =>
      rw [hstate] at h
      obtain ⟨fresh, hwaits, _⟩ := h
      rw [hwaits] at h'
      exact h'
  | init =>
      rw [hstate] at h
      exact h.elim
  | handshakingAsInitiator initiator =>
      rw [hstate] at h
      exact h.elim

omit [Profile] in
/-- A session that came through can take in another INIT. -/
theorem Outlasts.receptive (h : peer.Outlasts keypair peer') : peer'.Receptive keypair := by
  obtain ⟨_, h⟩ := h
  unfold Receptive
  cases hstate : peer.state with
  | ready transport sid rehandshake =>
      rw [hstate] at h
      rw [h.1]
      trivial
  | handshakingAsResponder responder =>
      rw [hstate] at h
      obtain ⟨fresh, hwaits, hunused⟩ := h
      rw [hwaits]
      exact hunused
  | init =>
      rw [hstate] at h
      exact h.elim
  | handshakingAsInitiator initiator =>
      rw [hstate] at h
      exact h.elim

omit [Profile] in
/-- What consumes a message in the session that came through is what consumed it before, but for
the clock. -/
theorem Outlasts.consumedBy (h : peer.Outlasts keypair peer') (hreceptive : peer.Receptive keypair)
    {message : Message} (hconsumed : peer.ConsumedBy keypair env message responder) :
    ∃ other, peer'.ConsumedBy keypair env message other ∧
      other.setCurrentTime env.tai = responder.setCurrentTime env.tai := by
  obtain ⟨hsame, h⟩ := h
  unfold Receptive at hreceptive
  cases hstate : peer.state with
  | ready transport sid rehandshake =>
      rw [hstate] at h
      cases message with
      | init pkt =>
          obtain hwaits | ⟨_, hnew⟩ := hconsumed
          · cases hstate.symm.trans hwaits
          · refine ⟨responder, Or.inr ⟨by rw [h.1]; rfl, ?_⟩, rfl⟩
            rw [hsame]
            exact hnew
      | relayedInit pkt => cases hstate.symm.trans hconsumed
      | _ => exact hconsumed.elim
  | handshakingAsResponder waiting =>
      rw [hstate] at h hreceptive
      obtain ⟨fresh, hwaits, hunused⟩ := h
      have hsole : responder = waiting → fresh.setCurrentTime env.tai =
          responder.setCurrentTime env.tai := by
        rintro rfl
        exact hunused.unique (hreceptive.of_same hsame) env.tai
      cases message with
      | init pkt =>
          obtain hwaiting | ⟨hready, _⟩ := hconsumed
          · refine ⟨fresh, Or.inl hwaits, hsole ?_⟩
            exact PeerState.handshakingAsResponder.inj (hwaiting.symm.trans hstate)
          · rw [hstate] at hready
            cases hready
      | relayedInit pkt =>
          refine ⟨fresh, hwaits, hsole ?_⟩
          exact PeerState.handshakingAsResponder.inj (hconsumed.symm.trans hstate)
      | _ => exact hconsumed.elim
  | init =>
      rw [hstate] at h
      exact h.elim
  | handshakingAsInitiator initiator =>
      rw [hstate] at h
      exact h.elim

omit [Profile] in
theorem Outlasts.symm (h : peer.Outlasts keypair peer') (hreceptive : peer.Receptive keypair) :
    peer'.Outlasts keypair peer := by
  obtain ⟨hsame, h⟩ := h
  have hback : peer'.config.Same peer.config := by
    unfold PeerConfig.Same at *
    rw [hsame]
  refine ⟨hback, ?_⟩
  unfold Receptive at hreceptive
  cases hstate : peer.state with
  | ready transport sid rehandshake =>
      rw [hstate] at h
      rw [h.1]
      exact ⟨rfl, h.2.1.symm, h.2.2.symm⟩
  | handshakingAsResponder responder =>
      rw [hstate] at h hreceptive
      obtain ⟨fresh, hwaits, _⟩ := h
      rw [hwaits]
      exact ⟨responder, rfl, hreceptive⟩
  | init =>
      rw [hstate] at h
      exact h.elim
  | handshakingAsInitiator initiator =>
      rw [hstate] at h
      exact h.elim

theorem Outlasts.accepts (h : peer.Outlasts keypair peer') (hreceptive : peer.Receptive keypair)
    {message : Message} {response : Arr responseSize} {used : Responder}
    (haccepts : peer.Accepts keypair env rng message response used) :
    peer'.Accepts keypair env rng message response used := by
  obtain ⟨responder, pkt, hpkt, hconsumed, hconsume⟩ := haccepts
  obtain ⟨other, hother, hclock⟩ := h.consumedBy hreceptive hconsumed
  refine ⟨other, pkt, hpkt, hother, ?_⟩
  rw [hclock]
  exact hconsume

/-- A session that came through accepts the INITs that it would have accepted before, and answers
them in the same way. -/
theorem Outlasts.accepts_iff (h : peer.Outlasts keypair peer')
    (hreceptive : peer.Receptive keypair) {message : Message} {response : Arr responseSize}
    {used : Responder} :
    peer'.Accepts keypair env rng message response used ↔
      peer.Accepts keypair env rng message response used :=
  ⟨(h.symm hreceptive).accepts h.receptive, h.accepts hreceptive⟩

end PeerSession

/-! ## One rejected INIT -/

namespace Session

variable {self : Session} {source : SocketAddr} {pkt : Bytes} {cookieSecret : Key}

/-- A rejected INIT costs a session that waits its responder, and it gets a fresh one. -/
theorem respond_rejected {frame : Arr responseSize → Method Session TunnelError Bytes}
    {e : CryptoError} {used : Responder} (hunused : responder.Unused keypair self.peer.config)
    (hreject : Responder.consumeInit pkt rng (responder.setCurrentTime env.tai) = .err e used) :
    respond keypair env rng source pkt responder frame self =
      .ok () (self.withState (.handshakingAsResponder (responder.setCurrentTime env.tai))) := by
  have hnew : Responder.new keypair self.peer.config.psk self.peer.config.localSenderId env.tai =
      .ok (responder.setCurrentTime env.tai) := hunused.new env.tai
  rw [respond, bind_ok (get_apply self), bind_eq, on, hreject]
  dsimp only
  rw [hnew]
  rfl

omit [Profile] in
theorem outlasts_withState (hwaits : self.peer.state = .handshakingAsResponder responder)
    (hunused : responder.Unused keypair self.peer.config) (time : Tai64N) :
    self.peer.Outlasts keypair
      (self.withState (.handshakingAsResponder (responder.setCurrentTime time))).peer := by
  refine ⟨PeerConfig.Same.refl _, ?_⟩
  rw [hwaits]
  exact ⟨_, rfl, time, hunused.new time⟩

/-- A direct INIT that is rejected. -/
theorem handleInit_rejected (hreceptive : self.peer.Receptive keypair)
    (hreject : self.peer.Rejects keypair env rng (.init pkt)) :
    (handleInit keypair env rng source pkt).wp
      ⟨fun _ s => self.peer.Outlasts keypair s.peer, fun _ s => self.peer.Outlasts keypair s.peer,
        True⟩ self := by
  have hsame := hreceptive.outlasts
  obtain ⟨_, hpkt, hlen, hreject⟩ := hreject
  cases hpkt
  unfold handleInit
  rw [wp_ite]
  refine ⟨fun hshort => absurd hlen (not_le.2 hshort), fun _ => ?_⟩
  refine wp_readSenderId (le_trans (by decide) hlen) ?_
  rw [wp_get_bind]
  cases hstate : self.peer.state with
  | init => exact hsame
  | handshakingAsInitiator initiator => exact hsame
  | handshakingAsResponder responder =>
      obtain ⟨e, used, herr⟩ := hreject responder (Or.inl hstate)
      unfold PeerSession.Receptive at hreceptive
      rw [hstate] at hreceptive
      simp only
      rw [wp_def, respond_rejected hreceptive herr]
      exact outlasts_withState hstate hreceptive env.tai
  | ready transport sid rehandshake =>
      -- The responder is made for this INIT only, and the session does not keep it.
      simp only
      rw [respondRekey, wp_get_bind]
      cases hnew : Responder.new keypair self.peer.config.psk self.peer.config.localSenderId
          env.tai with
      | error e => exact hsame
      | ok responder =>
          have hready : self.peer.state.isReady = true := by
            rw [hstate]
            rfl
          obtain ⟨e, used, herr⟩ := hreject responder (Or.inr ⟨hready, hnew⟩)
          rw [lift_ok, pure_bind, wp_def, bind_eq, on, herr]
          exact hsame

/-- An INIT that comes through a relay and is rejected. -/
theorem handleInitViaRelay_rejected (hreceptive : self.peer.Receptive keypair)
    (hreject : self.peer.Rejects keypair env rng (.relayedInit pkt)) :
    (handleInitViaRelay keypair env rng source pkt).wp
      ⟨fun _ s => self.peer.Outlasts keypair s.peer, fun _ s => self.peer.Outlasts keypair s.peer,
        True⟩ self := by
  have hsame := hreceptive.outlasts
  obtain ⟨_, hpkt, hlen, hreject⟩ := hreject
  cases hpkt
  unfold handleInitViaRelay
  rw [wp_ite]
  refine ⟨fun hshort => absurd hlen (not_le.2 hshort), fun _ => ?_⟩
  rw [wp_get_bind]
  cases hstate : self.peer.state with
  | init => exact hsame
  | handshakingAsInitiator initiator => exact hsame
  | ready transport sid rehandshake => exact hsame
  | handshakingAsResponder responder =>
      obtain ⟨e, used, herr⟩ := hreject responder hstate
      unfold PeerSession.Receptive at hreceptive
      rw [hstate] at hreceptive
      simp only
      rw [wp_def, respond_rejected hreceptive herr]
      exact outlasts_withState hstate hreceptive env.tai

end Session

/-! ## Any number of rejected INITs -/

/-- The sessions agree in everything that the handling of an INIT depends on. -/
structure PeerSession.Alike (peer peer' : PeerSession) : Prop where
  config : peer.config.Same peer'.config
  state : peer'.state = peer.state
  handshakeAt : peer'.lastHandshakeAt = peer.lastHandshakeAt
  stale : peer'.stale = peer.stale

namespace PeerSession

omit [Profile] in
theorem alike_heard (peer : PeerSession) (env : Env) (endpoint : SocketAddr) :
    peer.Alike (peer.heard env endpoint) :=
  ⟨rfl, rfl, rfl, rfl⟩

omit [Profile] in
theorem alike_counted (peer : PeerSession) (now : Instant) : peer.Alike (peer.counted now) := by
  unfold counted Session.restartWindow
  split <;> exact ⟨rfl, rfl, rfl, rfl⟩

omit [Profile] in
theorem Alike.outlasts (h : peer.Alike peer') (hreceptive : peer.Receptive keypair) :
    peer.Outlasts keypair peer' := by
  refine ⟨h.config, ?_⟩
  unfold Receptive at hreceptive
  cases hstate : peer.state with
  | ready transport sid rehandshake => exact ⟨h.state.trans hstate, h.handshakeAt, h.stale⟩
  | handshakingAsResponder responder =>
      rw [hstate] at hreceptive
      exact ⟨responder, h.state.trans hstate, hreceptive.of_same h.config⟩
  | init =>
      rw [hstate] at hreceptive
      exact hreceptive
  | handshakingAsInitiator initiator =>
      rw [hstate] at hreceptive
      exact hreceptive

theorem Outlasts.rejects (h : peer.Outlasts keypair peer') (hreceptive : peer.Receptive keypair)
    {message : Message} (hrejects : peer.Rejects keypair env rng message) :
    peer'.Rejects keypair env rng message := by
  obtain ⟨pkt, hpkt, hlen, hall⟩ := hrejects
  refine ⟨pkt, hpkt, hlen, fun other hother => ?_⟩
  obtain ⟨responder, hconsumed, hclock⟩ := (h.symm hreceptive).consumedBy h.receptive hother
  rw [← hclock]
  exact hall responder hconsumed

end PeerSession

/-- A rejected INIT leaves a session that came through. -/
theorem Session.deliver_rejected {self : Session} {source : SocketAddr} {cookieSecret : Key}
    {message : Message} (hgate : self.peer.GateOpen) (hreceptive : self.peer.Receptive keypair)
    (hreject : self.peer.Rejects keypair env rng message) :
    (deliver keypair cookieSecret env rng source message).wp
      ⟨fun _ s => self.peer.Outlasts keypair s.peer, fun _ s => self.peer.Outlasts keypair s.peer,
        True⟩ self := by
  cases message with
  | init pkt =>
      rw [deliver, wp_def, bind_eq, checkInitCookie_eq hgate]
      by_cases hover : self.peer.OverLimit env.now
      · rw [if_pos hover]
        trivial
      · rw [if_neg hover]
        -- The gate only counts the INIT.
        have hpassed : self.peer.Outlasts keypair (self.peer.counted env.now) :=
          (self.peer.alike_counted env.now).outlasts hreceptive
        have hinit : (handleInit keypair env rng source pkt).wp _
            { self with peer := self.peer.counted env.now } :=
          handleInit_rejected hpassed.receptive (hpassed.rejects hreceptive hreject)
        exact wp_mono hinit (fun _ _ h => hpassed.trans h) (fun _ _ h => hpassed.trans h) id
  | relayedInit pkt => exact handleInitViaRelay_rejected hreceptive hreject
  | _ =>
      obtain ⟨_, hpkt, _⟩ := hreject
      cases hpkt

namespace TunnelManager

variable {self self' : TunnelManager} {idx : ℕ} {events : List Event}

/-- The event is a datagram, and if it gets to the session at `idx`, it is an INIT that
`consume_init` rejects there. -/
def Event.Refused (idx : ℕ) (self : TunnelManager) : Event → Prop
  | .incoming env source pkt => ∀ message peer, self.route source pkt = some (idx, message) →
      self.peers[idx]? = some peer →
      peer.Rejects self.config.localKeypair env (env.ephemeral idx) message
  | _ => False

/-- The manager has a session at `idx` that came through since it was `peer`. -/
def Holds (keypair : Keypair) (idx : ℕ) (peer : PeerSession) (self : TunnelManager) : Prop :=
  self.Sound ∧ self.config.localKeypair = keypair ∧
    ∃ peer', self.peers[idx]? = some peer' ∧ peer.Outlasts keypair peer'

/-- One refused datagram. -/
theorem Holds.step {event : Event} (h : self.Holds keypair idx peer)
    (hrefused : event.Refused idx self) (hfire : fire self event = some self') :
    self'.Holds keypair idx peer := by
  obtain ⟨hsound, rfl, p, hp, houtlasts⟩ := h
  cases event with
  | incoming env source pkt =>
      have hreceptive := houtlasts.receptive
      have hheard : ∀ endpoint, p.Outlasts self.config.localKeypair (p.heard env endpoint) :=
        fun endpoint => (p.alike_heard env endpoint).outlasts hreceptive
      have hevolves : Evolves (fun i q q' => i = idx → q.Receptive self.config.localKeypair →
          q.Outlasts self.config.localKeypair q') self self' := by
        refine incoming_evolves_of hsound (fun i q _ hq => hq.outlasts)
          (fun i q endpoint _ _ hq => (q.alike_heard env endpoint).outlasts hq)
          (fun {i q endpoint message transport device} hroute hq => ?_) hfire
        by_cases hi : i = idx
        · subst hi
          cases hp.symm.trans hq
          have hgate := (p.keeps_heard env endpoint).gate (hsound.gates hp)
          refine wp_mono (Session.deliver_rejected hgate (hheard endpoint).receptive
            ((hheard endpoint).rejects hreceptive (hrefused message p hroute hp)))
            (fun _ s hs _ _ => (hheard endpoint).trans hs)
            (fun _ s hs _ _ => (hheard endpoint).trans hs) id
        · exact wp_mono (Session.deliver_moves
            ((q.keeps_heard env endpoint).gate (hsound.gates hq)) message)
            (fun _ _ _ h => absurd h hi) (fun _ _ _ h => absurd h hi) fun _ => trivial
      have hadvances := fire_advances hsound hfire
      have hlt : idx < self'.peers.length := by
        rw [hevolves.length]
        exact (List.getElem?_eq_some_iff.1 hp).1
      have hp' := List.getElem?_eq_getElem hlt
      obtain ⟨q, hq, hmoved⟩ := hevolves.peers hp'
      cases hp.symm.trans hq
      exact ⟨hadvances.sound, congrArg ManagerConfig.localKeypair hevolves.config, _, hp',
        houtlasts.trans (hmoved rfl hreceptive)⟩
  | addPeer env config => exact hrefused.elim
  | retryInit env i => exact hrefused.elim
  | dispatchTunPacket env pkt => exact hrefused.elim
  | maintenance env => exact hrefused.elim

/-- A session that is ready, or that waits with an unused responder, comes through any number of
rejected INITs, and then accepts the INITs that it would have accepted before them. -/
theorem rejected_inits_harmless (h : self.Reachable) (hpeer : self.peers[idx]? = some peer)
    (hreceptive : peer.Receptive self.config.localKeypair)
    (hrefused : AllSteps fire (fun manager event => event.Refused idx manager) self events)
    (hrun : exec fire self events = some self') :
    ∃ peer', self'.peers[idx]? = some peer' ∧ peer.Outlasts self.config.localKeypair peer' ∧
      ∀ env rng message response used,
        peer'.Accepts self.config.localKeypair env rng message response used ↔
          peer.Accepts self.config.localKeypair env rng message response used := by
  have hstart : self.Holds self.config.localKeypair idx peer :=
    ⟨h.sound, rfl, peer, hpeer, hreceptive.outlasts⟩
  have hend : self'.Holds self.config.localKeypair idx peer :=
    Transition.invariant (fun _ _ _ hholds hgood hstep => hholds.step hgood hstep) hstart hrefused
      hrun
  obtain ⟨_, _, peer', hpeer', houtlasts⟩ := hend
  exact ⟨peer', hpeer', houtlasts, fun _ _ _ _ _ => houtlasts.accepts_iff hreceptive⟩

omit [Profile] in
/-- A new session that does not initiate is receptive. -/
theorem newSession_receptive {config : PeerConfig} (hresponds : config.isInitiator = false)
    (h : newSession keypair env config = .ok peer) : peer.Receptive keypair := by
  unfold newSession at h
  rw [if_neg (by rw [hresponds]; exact Bool.false_ne_true)] at h
  cases hnew : Responder.new keypair config.psk config.localSenderId env.tai with
  | error e =>
      rw [hnew] at h
      cases h
  | ok responder =>
      rw [hnew] at h
      cases h
      exact ⟨env.tai, hnew⟩

end TunnelManager

end General

section Symbolic

open Symbolic TunnelManager

attribute [local instance] Symbolic.primitives Symbolic.release

/-- A datagram of the length and the type of an INIT, and nothing else of one. -/
def garbage : Bytes := 1 :: List.replicate 147 0

/-- Node 1 waits for the INIT of node 2. -/
def awaiting : Except CryptoError TunnelManager :=
  new (quietEnv 0 ⟨1000, 0⟩ 7) (nodeConfig 1) [sessionWith 2 false]

/-- The datagram is an INIT for the session 0, whose responder rejects it. -/
def isRejecting (self : TunnelManager) : Bool :=
  decide (self.route (address 2) garbage = some (0, .init garbage)) &&
    self.peers[0]?.any fun peer =>
      match peer.state with
      | .handshakingAsResponder responder =>
          match Responder.consumeInit garbage ((quietEnv 0 ⟨1000, 0⟩ 7).ephemeral 0)
              (responder.setCurrentTime ⟨1000, 0⟩) with
          | .err _ _ => true
          | _ => false
      | _ => false

theorem rejects_of_isRejecting {self : TunnelManager} {peer : PeerSession}
    (hcheck : isRejecting self = true) (hpeer : self.peers[0]? = some peer) :
    self.route (address 2) garbage = some (0, .init garbage) ∧
      peer.Rejects self.config.localKeypair (quietEnv 0 ⟨1000, 0⟩ 7)
        ((quietEnv 0 ⟨1000, 0⟩ 7).ephemeral 0) (.init garbage) := by
  rw [isRejecting, hpeer, Bool.and_eq_true, Option.any_some] at hcheck
  obtain ⟨hroute, hcheck⟩ := hcheck
  have hlen : garbage.length = initSize := by
    rw [garbage, List.length_cons, List.length_replicate]
    rfl
  refine ⟨of_decide_eq_true hroute, garbage, rfl, hlen.ge, fun responder hconsults => ?_⟩
  split at hcheck
  · rename_i waiting hwaits
    obtain hsame | ⟨hready, -⟩ := hconsults
    · cases hwaits.symm.trans hsame
      cases hconsume : Responder.consumeInit garbage ((quietEnv 0 ⟨1000, 0⟩ 7).ephemeral 0)
          (responder.setCurrentTime ⟨1000, 0⟩) with
      | err e used => exact ⟨e, used, hconsume⟩
      | ok response used =>
          rw [hconsume] at hcheck
          cases hcheck
      | panic =>
          rw [hconsume] at hcheck
          cases hcheck
    · rw [hwaits] at hready
      cases hready
  · cases hcheck

/-- Node 1 is sent garbage that looks like an INIT, and goes on waiting. -/
theorem garbage_harmless :
    ∃ self self' peer, awaiting = .ok self ∧ self.peers[0]? = some peer ∧
      exec fire self [.incoming (quietEnv 0 ⟨1000, 0⟩ 7) (address 2) garbage] = some self' ∧
      ∃ peer', self'.peers[0]? = some peer' ∧ peer.Outlasts self.config.localKeypair peer' ∧
        ∀ env rng message response used,
          peer'.Accepts self.config.localKeypair env rng message response used ↔
            peer.Accepts self.config.localKeypair env rng message response used := by
  have hcheck : awaiting.toOption.any (fun self => isRejecting self &&
      (exec fire self [.incoming (quietEnv 0 ⟨1000, 0⟩ 7) (address 2) garbage]).isSome) = true := by
    decide +kernel
  obtain ⟨self, hnew, hcheck⟩ := of_new hcheck
  obtain ⟨hcheck, hrun⟩ := (Bool.and_eq_true _ _).mp hcheck
  obtain ⟨self', hrun⟩ := Option.isSome_iff_exists.1 hrun
  have hreachable : self.Reachable :=
    reachable_of_run hnew (show exec fire self [] = some self from rfl)
  obtain ⟨peer, hpeer, hself⟩ := ok_of_bind hnew
  cases hself
  obtain ⟨hroute, hrejects⟩ := rejects_of_isRejecting hcheck rfl
  refine ⟨_, self', peer, hnew, rfl, hrun, ?_⟩
  refine rejected_inits_harmless hreachable rfl (newSession_receptive rfl hpeer) ?_ hrun
  refine ⟨fun message other hmessage hother => ?_, fun _ _ => trivial⟩
  cases hroute.symm.trans hmessage
  cases hother
  exact hrejects

end Symbolic

end Naboscale
