import Naboscale.Crypto.Completion
import Naboscale.Tunnel.Delivery
import Naboscale.Tunnel.Invariant
import Naboscale.Tunnel.Steady

/-!
# Sessions that wait

A session that still waits for its handshake is pristine: the initiator has the INIT that it wrote
once and sends it again and again, and the responder is one that has answered nothing. In a run
without COOKIEs, on a network that takes what is sent, nothing that is received changes that.
-/

namespace Naboscale

open Rust Method Transition

section General

variable [Profile] [Primitives]

/-! ## Pristine sessions -/

/-- The initiator was made for the session and wrote the INIT, which is cached. -/
def PeerSession.Written (keypair : Keypair) (peer : PeerSession) (initiator : Initiator)
    (init : Arr initSize) : Prop :=
  peer.cachedInit = some init.val ∧ ∃ start rng,
    Initiator.new keypair peer.config.peerPub peer.config.psk peer.config.localSenderId
      initiator.timestamp = .ok start ∧
    Initiator.writeInit rng start = .ok init initiator

/-- The initiator was made for the session, and has written nothing or the INIT that is cached. -/
def PeerSession.Offers (keypair : Keypair) (peer : PeerSession) (initiator : Initiator) : Prop :=
  (peer.cachedInit = none ∧ Initiator.new keypair peer.config.peerPub peer.config.psk
    peer.config.localSenderId initiator.timestamp = .ok initiator) ∨
  ∃ init, peer.Written keypair initiator init

/-- The responder was made for the session and has answered nothing. -/
def PeerSession.Awaits (keypair : Keypair) (peer : PeerSession) (responder : Responder) : Prop :=
  ∃ made, Responder.new keypair peer.config.psk peer.config.localSenderId made = .ok responder

/-- No cookie was received, and the handshake that the session waits to finish can still be
finished, as initiator if the public key of the peer is a real one. -/
structure PeerSession.Pristine (keypair : Keypair) (peer : PeerSession) : Prop where
  receivedCookie : peer.receivedCookie = none
  initiator {other : Keypair} {initiator : Initiator} : peer.config.peerPub = other.public →
    peer.state = .handshakingAsInitiator initiator → peer.Offers keypair initiator
  responder {responder : Responder} : peer.state = .handshakingAsResponder responder →
    peer.Awaits keypair responder ∧ peer.stale = false

/-- The handshake stands as it did, or the session no longer waits, or a fresh responder does. -/
inductive PeerSession.Rests (keypair : Keypair) (peer peer' : PeerSession) : Prop where
  | keep : peer'.state = peer.state → peer'.stale = peer.stale → Rests keypair peer peer'
  | settle : (∀ i, peer'.state ≠ .handshakingAsInitiator i) →
      (∀ r, peer'.state ≠ .handshakingAsResponder r) → Rests keypair peer peer'
  | renew {responder fresh : Responder} : peer.state = .handshakingAsResponder responder →
      peer'.state = .handshakingAsResponder fresh → peer'.stale = peer.stale →
      peer.Awaits keypair fresh → Rests keypair peer peer'

section Pristine

variable {keypair : Keypair} {peer peer' : PeerSession}

omit [Profile]

theorem PeerSession.Rests.refl (keypair : Keypair) (peer : PeerSession) :
    PeerSession.Rests keypair peer peer :=
  .keep rfl rfl

theorem PeerSession.rests_init (keypair : Keypair) (h : peer'.state = .init) :
    PeerSession.Rests keypair peer peer' := by
  refine .settle (fun i hi => ?_) fun r hr => ?_
  · cases h.symm.trans hi
  · cases h.symm.trans hr

theorem PeerSession.rests_ready (keypair : Keypair) {transport : Transport} {sid : UInt32}
    {rehandshake : Option Rehandshake} (h : peer'.state = .ready transport sid rehandshake) :
    PeerSession.Rests keypair peer peer' := by
  refine .settle (fun i hi => ?_) fun r hr => ?_
  · cases h.symm.trans hi
  · cases h.symm.trans hr

/-- Of the session only its endpoint, its times and its cookie gate changed, and its handshake
rests. -/
structure PeerSession.Undisturbed (keypair : Keypair) (peer peer' : PeerSession) : Prop where
  config : peer.config.Same peer'.config
  cachedInit : peer'.cachedInit = peer.cachedInit
  receivedCookie : peer'.receivedCookie = peer.receivedCookie
  handshake : PeerSession.Rests keypair peer peer'

theorem PeerSession.Undisturbed.of_fixed (hfixed : peer'.fixed = peer.fixed)
    (hrests : PeerSession.Rests keypair peer peer') :
    PeerSession.Undisturbed keypair peer peer' := by
  have hconfig : peer'.config = peer.config := (congrArg PeerSession.config hfixed :)
  refine ⟨?_, (congrArg PeerSession.cachedInit hfixed :),
    (congrArg PeerSession.receivedCookie hfixed :), hrests⟩
  rw [hconfig]
  exact PeerConfig.Same.refl _

/-- The gate first, and then a handler. -/
theorem PeerSession.Undisturbed.of_ungated {gated : PeerSession}
    (hgate : gated.ungated = peer.ungated) (h : PeerSession.Undisturbed keypair gated peer') :
    PeerSession.Undisturbed keypair peer peer' := by
  have hconfig : gated.config = peer.config := (congrArg PeerSession.config hgate :)
  have hstate : gated.state = peer.state := (congrArg PeerSession.state hgate :)
  have hstale : gated.stale = peer.stale := (congrArg PeerSession.stale hgate :)
  have hcached : gated.cachedInit = peer.cachedInit := (congrArg PeerSession.cachedInit hgate :)
  have hcookie : gated.receivedCookie = peer.receivedCookie :=
    (congrArg PeerSession.receivedCookie hgate :)
  refine ⟨hconfig ▸ h.config, h.cachedInit.trans hcached, h.receivedCookie.trans hcookie, ?_⟩
  cases h.handshake with
  | keep hstate' hstale' => exact .keep (hstate'.trans hstate) (hstale'.trans hstale)
  | settle hinitiator hresponder => exact .settle hinitiator hresponder
  | renew hold hnew hstale' hawaits =>
      refine .renew (hstate.symm.trans hold) hnew (hstale'.trans hstale) ?_
      rw [PeerSession.Awaits, ← hconfig]
      exact hawaits

theorem PeerSession.Pristine.undisturbed (h : peer.Pristine keypair)
    (hpeer : PeerSession.Undisturbed keypair peer peer') : peer'.Pristine keypair := by
  have hpub : peer'.config.peerPub = peer.config.peerPub := by rw [hpeer.config]
  have hpsk : peer'.config.psk = peer.config.psk := by rw [hpeer.config]
  have hid : peer'.config.localSenderId = peer.config.localSenderId := by rw [hpeer.config]
  refine ⟨hpeer.receivedCookie.trans h.receivedCookie, fun {other i} hkey hi => ?_,
    fun {r} hr => ?_⟩
  · cases hpeer.handshake with
    | keep hstate hstale =>
        have hoffers := h.initiator (hpub.symm.trans hkey) (hstate.symm.trans hi)
        simp only [PeerSession.Offers, PeerSession.Written] at hoffers ⊢
        rw [hpub, hpsk, hid, hpeer.cachedInit]
        exact hoffers
    | settle hinitiator hresponder => exact absurd hi (hinitiator i)
    | renew hold hnew hstale hawaits => cases hnew.symm.trans hi
  · rw [PeerSession.Awaits, hpsk, hid]
    cases hpeer.handshake with
    | keep hstate hstale =>
        obtain ⟨hawaits, hheard⟩ := h.responder (hstate.symm.trans hr)
        exact ⟨hawaits, hstale.trans hheard⟩
    | settle hinitiator hresponder => exact absurd hr (hresponder r)
    | renew hold hnew hstale hawaits =>
        cases hnew.symm.trans hr
        exact ⟨hawaits, hstale.trans (h.responder hold).2⟩

/-- As long as the session waits as initiator, it is this initiator with this INIT. -/
def PeerSession.Stands (initiator : Initiator) (init : Bytes) (peer : PeerSession) : Prop :=
  ∀ waiting, peer.state = .handshakingAsInitiator waiting →
    waiting = initiator ∧ peer.cachedInit = some init

theorem PeerSession.Stands.undisturbed {initiator : Initiator} {init : Bytes}
    (h : peer.Stands initiator init) (hpeer : PeerSession.Undisturbed keypair peer peer') :
    peer'.Stands initiator init := by
  intro waiting hwaiting
  cases hpeer.handshake with
  | keep hstate hstale =>
      obtain ⟨hsame, hcached⟩ := h waiting (hstate.symm.trans hwaiting)
      exact ⟨hsame, hpeer.cachedInit.trans hcached⟩
  | settle hinitiator hresponder => exact absurd hwaiting (hinitiator waiting)
  | renew hold hnew hstale hawaits => cases hnew.symm.trans hwaiting

end Pristine

namespace Session

variable {self : Session} {env : Env} {keypair : Keypair} {rng : Ephemeral} {source : SocketAddr}
  {pkt : Bytes}

/-- The postcondition that the session is undisturbed. -/
abbrev LeavesUndisturbed (keypair : Keypair) (peer : PeerSession) {α : Type} :
    Post Session TunnelError α where
  ok _ self' := PeerSession.Undisturbed keypair peer self'.peer
  err _ self' := PeerSession.Undisturbed keypair peer self'.peer
  panic := True

/-- The postcondition that the handshake rests. -/
abbrev LeavesResting (keypair : Keypair) (peer : PeerSession) {α : Type} :
    Post Session TunnelError α where
  ok _ self' := PeerSession.Rests keypair peer self'.peer
  err _ self' := PeerSession.Rests keypair peer self'.peer
  panic := True

omit [Profile] in
/-- A handler that leaves the fixed part of its session alone. -/
theorem undisturbed_of_keeps {handler : Method Session TunnelError Unit}
    (hkeeps : KeepsFixed handler) (hrests : handler.wp (LeavesResting keypair self.peer) self) :
    handler.wp (LeavesUndisturbed keypair self.peer) self :=
  wp_mono (wp_and (hkeeps self) hrests) (fun _ _ hs => .of_fixed hs.1 hs.2)
    (fun _ _ hs => .of_fixed hs.1 hs.2) fun _ => trivial

/-! ## What a datagram does -/

/-- A failed INIT costs the responder its Noise state, and a fresh one takes over. -/
theorem respond_rests (completion : CompletionLaws) (hsend : ∀ dest buf, env.sendError dest buf = none)
    {responder : Responder} (hstate : self.peer.state = .handshakingAsResponder responder)
    {bytes : Arr responseSize → Bytes} {frame : Arr responseSize → Method Session TunnelError Bytes}
    (hframe : ∀ response, frame response = pure (bytes response)) (hlen : initSize ≤ pkt.length) :
    (respond keypair env rng source pkt responder frame).wp (LeavesResting keypair self.peer)
      self := by
  refine wp_respond hframe hlen (fun fresh hfresh => ?_) (fun e state herror => ?_)
    (fun e pub reply state response _ herror => ?_) (fun e pub reply state response _ _ => ?_)
    (fun pub reply state inner response _ _ _ => ?_) fun _ => trivial
  · exact .renew hstate rfl rfl ⟨env.tai, hfresh⟩
  · obtain ⟨built, hbuilt⟩ :=
      completion.builds_responder keypair.secret self.peer.config.psk wgIdentifier
    rw [Responder.new_eq hbuilt] at herror
    cases herror
  · rw [hsend] at herror
    cases herror
  · exact PeerSession.rests_init keypair rfl
  · exact PeerSession.rests_ready keypair rfl

theorem handleInit_rests (completion : CompletionLaws)
    (hsend : ∀ dest buf, env.sendError dest buf = none) :
    (handleInit keypair env rng source pkt).wp (LeavesResting keypair self.peer) self := by
  unfold handleInit
  rw [wp_ite]
  refine ⟨fun _ => .refl _ _, fun hlen => ?_⟩
  have hlen : initSize ≤ pkt.length := not_lt.1 hlen
  refine wp_readSenderId (le_trans (by decide) hlen) ?_
  rw [wp_get_bind]
  cases hstate : self.peer.state with
  | init => exact .refl _ _
  | handshakingAsInitiator initiator => exact .refl _ _
  | handshakingAsResponder responder =>
      exact respond_rests completion hsend hstate (fun _ => rfl) hlen
  | ready transport sid rehandshake =>
      exact wp_respondRekey (.refl _ _) (fun _ _ => .refl _ _) (fun _ _ _ _ _ _ _ => .refl _ _)
        (fun _ _ _ => .refl _ _)
        (fun _ _ _ _ _ _ _ _ _ _ _ => PeerSession.rests_ready keypair rfl) fun _ _ _ => trivial

theorem handleInitViaRelay_rests (completion : CompletionLaws)
    (hsend : ∀ dest buf, env.sendError dest buf = none) :
    (handleInitViaRelay keypair env rng source pkt).wp (LeavesResting keypair self.peer) self := by
  unfold handleInitViaRelay
  rw [wp_ite]
  refine ⟨fun _ => .refl _ _, fun hlen => ?_⟩
  have hlen : initSize ≤ pkt.length := not_lt.1 hlen
  rw [wp_get_bind]
  cases hstate : self.peer.state with
  | handshakingAsResponder responder =>
      exact respond_rests completion hsend hstate (fun _ => wrapRelay_eq _ _ _) hlen
  | init => exact .refl _ _
  | handshakingAsInitiator initiator => exact .refl _ _
  | ready transport sid rehandshake => exact .refl _ _

omit [Profile] in
theorem handleResponse_rests :
    (handleResponse env pkt).wp (LeavesResting keypair self.peer) self :=
  wp_handleResponse (fun _ _ => .refl _ _)
    (fun _ _ _ _ => PeerSession.rests_ready keypair rfl)
    (fun _ _ _ _ _ _ => PeerSession.rests_ready keypair rfl)
    (fun _ _ _ _ _ _ _ => PeerSession.rests_ready keypair rfl)
    (fun _ _ _ _ _ => PeerSession.rests_init keypair rfl)
    fun _ _ _ => PeerSession.rests_init keypair rfl

omit [Profile] in
theorem handleTransport_rests :
    (handleTransport env pkt).wp (LeavesResting keypair self.peer) self := by
  unfold handleTransport
  rw [wp_ite]
  refine ⟨fun _ => .refl _ _, fun _ => ?_⟩
  rw [wp_get_bind, wp_ite]
  refine ⟨fun _ => .refl _ _, fun _ => ?_⟩
  cases self.peer.state with
  | init => exact .refl _ _
  | handshakingAsInitiator initiator => exact .refl _ _
  | handshakingAsResponder responder => exact .refl _ _
  | ready transport sid rehandshake =>
      refine wp_onDecrypt fun result transport' _ => ?_
      simp only
      rw [wp_setState_bind]
      cases result with
      | error e => exact PeerSession.rests_ready keypair rfl
      | ok plaintext =>
          refine (wp_ite _ _ _).2 ⟨fun _ => (wp_write _).2 ⟨fun _ => ?_, fun _ _ => ?_⟩,
            fun _ => ?_⟩ <;> exact PeerSession.rests_ready keypair rfl

omit [Profile] in
theorem handleRelayedTransport_rests :
    (handleRelayedTransport env pkt).wp (LeavesResting keypair self.peer) self := by
  unfold handleRelayedTransport
  rw [wp_get_bind]
  cases self.peer.state with
  | init => exact .refl _ _
  | handshakingAsInitiator initiator => exact .refl _ _
  | handshakingAsResponder responder => exact .refl _ _
  | ready transport sid rehandshake =>
      simp only
      rw [wp_ite]
      refine ⟨fun _ => .refl _ _, fun _ => wp_onDecrypt fun result transport' _ => ?_⟩
      simp only
      rw [wp_setState_bind]
      cases result with
      | error e => exact PeerSession.rests_ready keypair rfl
      | ok plaintext =>
          rw [lift_ok, pure_bind]
          refine (wp_ite _ _ _).2 ⟨fun _ => (wp_write _).2 ⟨fun _ => ?_, fun _ _ => ?_⟩,
            fun _ => ?_⟩ <;> exact PeerSession.rests_ready keypair rfl

variable (self keypair rng source) in
/-- Every message but a COOKIE leaves the session undisturbed. -/
theorem deliver_undisturbed (cookieSecret : Key) (completion : CompletionLaws)
    (hsend : ∀ dest buf, env.sendError dest buf = none) {message : Message}
    (hmessage : ∀ pkt, message ≠ .cookie pkt) :
    (deliver keypair cookieSecret env rng source message).wp (LeavesUndisturbed keypair self.peer)
      self := by
  cases message with
  | init pkt =>
      have hgate : Keeps (fun self : Session => self.peer.ungated)
          (checkInitCookie cookieSecret env source pkt) :=
        keeps_checkInitCookieWith PeerSession.ungated (fun _ _ _ _ _ => rfl)
          (keeps_generateCookie cookieSecret)
      have hkeep (s : Session) (hs : s.peer.ungated = self.peer.ungated) :
          PeerSession.Undisturbed keypair self.peer s.peer :=
        .of_ungated hs (.of_fixed rfl (.refl _ _))
      refine (wp_bind _ _).2 (wp_mono (hgate self) (fun handled s hs => ?_)
        (fun _ s hs => hkeep s hs) id)
      refine (wp_ite _ _ _).2 ⟨fun _ => hkeep s hs, fun _ => ?_⟩
      refine wp_mono (undisturbed_of_keeps keepsFixed_handleInit (handleInit_rests completion hsend))
        (fun _ _ hs' => ?_) (fun _ _ hs' => ?_) id <;> exact .of_ungated hs hs'
  | relayedInit pkt =>
      exact undisturbed_of_keeps keepsFixed_handleInitViaRelay
        (handleInitViaRelay_rests completion hsend)
  | response pkt => exact undisturbed_of_keeps keepsFixed_handleResponse handleResponse_rests
  | transport pkt => exact undisturbed_of_keeps keepsFixed_handleTransport handleTransport_rests
  | relayedTransport pkt =>
      exact undisturbed_of_keeps keepsFixed_handleRelayedTransport handleRelayedTransport_rests
  | cookie pkt => exact absurd rfl (hmessage pkt)

/-! ## What a session does on its own -/

omit [Profile] in
variable (rng) in
/-- An initiator that is waiting has written the cached INIT, or writes it now. -/
theorem cacheInit_ok (completion : CompletionLaws) {other : Keypair} {initiator : Initiator}
    (h : self.peer.Pristine keypair) (hkey : self.peer.config.peerPub = other.public)
    (hstate : self.peer.state = .handshakingAsInitiator initiator) :
    ∃ (next : Initiator) (init : Arr initSize) (peer : PeerSession),
      cacheInit rng initiator self = .ok init.val { self with peer } ∧
      peer = { self.peer with
        state := .handshakingAsInitiator next, cachedInit := some init.val } ∧
      next.timestamp = initiator.timestamp ∧ peer.Written keypair next init := by
  unfold cacheInit
  rcases h.initiator hkey hstate with ⟨hnone, hnew⟩ | ⟨init, hwritten⟩
  · have hmade := hnew
    rw [hkey] at hmade
    obtain ⟨init, next, hwrite⟩ := Initiator.new_writes completion rng hmade
    have hstamp : next.timestamp = initiator.timestamp := by
      obtain ⟨_, _, _, _, rfl⟩ := Initiator.write_init_ok hwrite
      rfl
    refine ⟨next, init, _, ?_, rfl, hstamp, rfl, initiator, rng, ?_, hwrite⟩
    · have hfull : (fullInit self.peer.receivedCookie init : Method Session TunnelError Bytes) =
          pure init.val := by
        rw [h.receivedCookie]
        rfl
      rw [bind_ok (get_apply self), hnone]
      simp only
      rw [bind_eq, on, hwrite]
      simp only
      rw [bind_ok (show setState _ self = .ok () _ from rfl), lift_ok, pure_bind, hfull]
      rfl
    · rw [hstamp]
      exact hnew
  · refine ⟨initiator, init, self.peer, ?_, ?_, rfl, hwritten⟩
    · rw [bind_ok (get_apply self), hwritten.1]
      rfl
    · rw [← hstate, ← hwritten.1]

omit [Profile] in
variable (self rng) in
/-- The INIT loop sends the INIT that is written, the same one every time. -/
theorem retryInit_ok (completion : CompletionLaws)
    (hsend : ∀ dest buf, env.sendError dest buf = none) {other : Keypair} {initiator : Initiator}
    (h : self.peer.Pristine keypair) (hkey : self.peer.config.peerPub = other.public)
    (hstate : self.peer.state = .handshakingAsInitiator initiator)
    (hdue : self.peer.nextInitAt.any (fun due => decide (due ≤ env.now)) = true) :
    ∃ (next : Initiator) (init : Arr initSize) (s : Session),
      retryInit keypair env rng self = .ok () s ∧
      s.peer = { self.peer with
        state := .handshakingAsInitiator next, cachedInit := some init.val,
        nextInitAt := some (env.now + initRetryInterval) } ∧
      s.transport.sent = self.transport.sent ++
        [self.peer.config.carrier keypair.public init.val] ∧
      next.timestamp = initiator.timestamp ∧ s.peer.Written keypair next init := by
  obtain ⟨next, init, peer, hcache, rfl, hstamp, hwritten⟩ :=
    cacheInit_ok rng completion h hkey hstate
  have hrun : retryInit keypair env rng self = .ok ()
      { self with
        peer := { self.peer with
          state := .handshakingAsInitiator next, cachedInit := some init.val,
          nextInitAt := some (env.now + initRetryInterval) }
        transport := ⟨self.transport.sent ++
          [self.peer.config.carrier keypair.public init.val]⟩ } := by
    rw [retryInit, bind_ok (get_apply self), if_pos hdue, hstate]
    simp only
    rw [bind_ok hcache, bind_ok (sendMaybeRelay_ok hsend _ _ _)]
    rfl
  exact ⟨next, init, _, hrun, rfl, rfl, hstamp, hwritten.1, hwritten.2⟩

omit [Profile] in
/-- An initiator for a key that no secret has may be stuck. -/
theorem pristine_of_unreal {peer : PeerSession} {initiator : Initiator}
    (hcookie : peer.receivedCookie = none)
    (hunreal : ∀ other : Keypair, peer.config.peerPub ≠ other.public)
    (hstate : peer.state = .handshakingAsInitiator initiator) : peer.Pristine keypair := by
  refine ⟨hcookie, fun {other i} hkey _ => absurd hkey (hunreal other), fun {r} hr => ?_⟩
  cases hstate.symm.trans hr

omit [Profile] in
theorem retryInit_pristine (completion : CompletionLaws)
    (hsend : ∀ dest buf, env.sendError dest buf = none) (h : self.peer.Pristine keypair) :
    (retryInit keypair env rng).wp (Leaves (PeerSession.Pristine keypair)) self := by
  have hidle (hstate : ∀ i, self.peer.state ≠ .handshakingAsInitiator i) :
      PeerSession.Pristine keypair { self.peer with nextInitAt := none, cachedInit := none } :=
    ⟨h.receivedCookie, fun _ hi => absurd hi (hstate _), h.responder⟩
  by_cases hdue : self.peer.nextInitAt.any (fun due => decide (due ≤ env.now)) = true
  · cases hstate : self.peer.state with
    | handshakingAsInitiator initiator =>
        by_cases hreal : ∃ other : Keypair, self.peer.config.peerPub = other.public
        · obtain ⟨other, hkey⟩ := hreal
          obtain ⟨next, init, s, hrun, hpeer, -, -, hwritten⟩ :=
            retryInit_ok self rng completion hsend h hkey hstate hdue
          rw [wp_def, hrun]
          refine ⟨?_, fun _ hi => ?_, fun hr => ?_⟩
          · rw [hpeer]
            exact h.receivedCookie
          · rw [hpeer] at hi
            cases hi
            exact Or.inr ⟨init, hwritten⟩
          · rw [hpeer] at hr
            cases hr
        · have hunreal : ∀ other : Keypair, self.peer.config.peerPub ≠ other.public :=
            fun other hkey => hreal ⟨other, hkey⟩
          rw [retryInit, wp_get_bind, if_pos hdue, hstate]
          refine (wp_bind _ _).2 (wp_cacheInit (fun msg _ => ?_) (fun _ state _ msg _ _ _ _ => ?_)
            fun _ state _ _ _ => pristine_of_unreal h.receivedCookie hunreal rfl)
          · refine (wp_bind _ _).2 (wp_sendMaybeRelay (fun _ => ?_) fun _ => h)
            exact pristine_of_unreal h.receivedCookie hunreal hstate
          · refine (wp_bind _ _).2 (wp_sendMaybeRelay (fun _ => ?_) fun _ => ?_) <;>
              exact pristine_of_unreal h.receivedCookie hunreal rfl
    | init =>
        rw [retryInit, wp_get_bind, if_pos hdue, hstate]
        exact hidle fun i hi => by cases hstate.symm.trans hi
    | handshakingAsResponder responder =>
        rw [retryInit, wp_get_bind, if_pos hdue, hstate]
        exact hidle fun i hi => by cases hstate.symm.trans hi
    | ready transport sid rehandshake =>
        rw [retryInit, wp_get_bind, if_pos hdue, hstate]
        exact hidle fun i hi => by cases hstate.symm.trans hi
  · rw [retryInit, wp_get_bind, if_neg hdue]
    exact h

/-- A property of sessions that nothing changes in an orderly run. -/
structure Durable (keypair : Keypair) (P : PeerSession → Prop) : Prop where
  undisturbed {peer peer' : PeerSession} :
    P peer → PeerSession.Undisturbed keypair peer peer' → P peer'
  retried {env : Env} {rng : Ephemeral} {self : Session} :
    (∀ dest buf, env.sendError dest buf = none) → P self.peer →
      (retryInit keypair env rng).wp (Leaves P) self

omit [Profile] in
theorem durable_pristine (completion : CompletionLaws) (keypair : Keypair) :
    Durable keypair (PeerSession.Pristine keypair) where
  undisturbed h hpeer := h.undisturbed hpeer
  retried hsend h := retryInit_pristine completion hsend h

theorem sendEncrypted_undisturbed (keypair' : Keypair) (packet : Bytes) (room : ℕ) :
    (sendEncrypted keypair' env packet room).wp (LeavesUndisturbed keypair self.peer) self := by
  refine undisturbed_of_keeps (keepsFixed_sendEncrypted room) ?_
  unfold sendEncrypted
  rw [wp_get_bind]
  cases self.peer.state with
  | init => exact .refl _ _
  | handshakingAsInitiator initiator => exact .refl _ _
  | handshakingAsResponder responder => exact .refl _ _
  | ready transport sid rehandshake =>
      simp only
      rw [wp_on_bind]
      refine Transport.wp_encrypt (fun _ _ _ => ?_) (fun _ _ _ => ?_) fun _ _ => trivial
      · simp only
        rw [wp_setState_bind, lift_ok, pure_bind, wp_bind]
        refine wp_sendMaybeRelay (fun _ => ?_) fun _ => ?_ <;>
          exact PeerSession.rests_ready keypair rfl
      · exact PeerSession.rests_ready keypair rfl

/-- An action that fits leaves the session undisturbed: one that waits is not marked stale. -/
theorem perform_undisturbed {action : Action} {rest : List Action}
    (hsuits : Suits self.peer (action :: rest)) (keypair' : Keypair) :
    (perform keypair' env action).wp (LeavesUndisturbed keypair self.peer) self := by
  cases action with
  | sendKeepalive => exact sendEncrypted_undisturbed keypair' _ _
  | markStale =>
      refine undisturbed_of_keeps (keepsFixed_perform _) ?_
      cases hsuits with
      | silent hstate => exact PeerSession.rests_ready keypair hstate
      | heard hstale hproper => exact absurd (hproper _ (List.mem_cons_self ..)) id
  | startRekey initiator initMsg =>
      refine undisturbed_of_keeps (keepsFixed_perform _) ?_
      rw [perform, wp_get_bind, wp_bind]
      refine wp_sendMaybeRelay (fun _ => ?_) fun _ => .refl _ _
      cases self.peer.state with
      | init => exact .refl _ _
      | handshakingAsInitiator initiator => exact .refl _ _
      | handshakingAsResponder responder => exact .refl _ _
      | ready transport sid rehandshake => exact PeerSession.rests_ready keypair rfl
  | retryRekey =>
      refine undisturbed_of_keeps (keepsFixed_perform _) ?_
      rw [perform, wp_get_bind]
      rcases hstate : self.peer.state with _ | _ | _ | ⟨transport, sid, _ | rehandshake⟩
      case ready.some =>
        refine (wp_bind _ _).2 (wp_sendMaybeRelay (fun _ => ?_) fun _ => .refl _ _)
        exact PeerSession.rests_ready keypair rfl
      all_goals exact .refl _ _

end Session

namespace TunnelManager

variable {self self' : TunnelManager} {env : Env} {idx : ℕ} {peer : PeerSession}

/-! ## Orderly runs -/

/-- The network takes what the event sends, and no COOKIE comes in. -/
def Orderly (self : TunnelManager) (event : Event) : Prop :=
  (∀ dest buf, event.inputs.sendError dest buf = none) ∧
    ∀ idx pkt, event.message self idx ≠ some (.cookie pkt)

omit [Profile] in
theorem newSession_pristine {keypair : Keypair} {config : PeerConfig}
    (h : newSession keypair env config = .ok peer) : peer.Pristine keypair := by
  unfold newSession at h
  by_cases hinitiator : config.isInitiator = true
  · cases hnew : Initiator.new keypair config.peerPub config.psk config.localSenderId env.tai with
    | error e =>
        simp only [if_pos hinitiator, hnew] at h
        cases h
    | ok initiator =>
        simp only [if_pos hinitiator, hnew] at h
        cases h
        refine ⟨rfl, fun _ hi => ?_, fun hr => (by cases hr)⟩
        cases hi
        refine Or.inl ⟨rfl, ?_⟩
        have hstamp : initiator.timestamp = env.tai := by
          obtain ⟨_, _, rfl⟩ := Initiator.new_ok hnew
          rfl
        rw [hstamp]
        exact hnew
  · cases hnew : Responder.new keypair config.psk config.localSenderId env.tai with
    | error e =>
        simp only [if_neg hinitiator, hnew] at h
        cases h
    | ok responder =>
        simp only [if_neg hinitiator, hnew] at h
        cases h
        refine ⟨rfl, fun _ hi => (by cases hi), fun hr => ?_⟩
        cases hr
        exact ⟨⟨env.tai, hnew⟩, rfl⟩

section Durable

variable {P : PeerSession → Prop}

omit [Profile] in
/-- A handler that leaves its session undisturbed. -/
theorem evolves_of_undisturbed {handler : Method Session TunnelError Unit}
    (hP : Session.Durable self.config.localKeypair P)
    (hwp : ∀ p, self.peers[idx]? = some p →
      handler.wp (Session.LeavesUndisturbed self.config.localKeypair p)
        ⟨p, self.transport, self.device⟩)
    (hcall : (atPeer idx handler self).state? = some self') :
    Evolves (fun _ p p' => P p → P p') self self' :=
  atPeer_evolves (P := True) (fun p hp => wp_mono (hwp p hp)
    (fun _ _ hs h => hP.undisturbed h hs) (fun _ _ hs h => hP.undisturbed h hs) id)
    (fun _ _ _ => id) hcall

theorem incoming_durable (completion : CompletionLaws) (hsound : self.Sound)
    (hP : Session.Durable self.config.localKeypair P) {source : SocketAddr} {pkt : Bytes}
    (horderly : self.Orderly (.incoming env source pkt))
    (hfire : fire self (.incoming env source pkt) = some self') :
    Evolves (fun _ p p' => P p → P p') self self' := by
  have hheard (p : PeerSession) (endpoint : SocketAddr) :
      PeerSession.Undisturbed self.config.localKeypair p (p.heard env endpoint) :=
    ⟨rfl, rfl, rfl, .keep rfl rfl⟩
  refine incoming_evolves_of hsound (fun _ _ => id)
    (fun _ p endpoint _ h => hP.undisturbed h (hheard p endpoint))
    (fun {i p endpoint message transport device} hroute hp => ?_) hfire
  have hmessage (cookie : Bytes) : message ≠ .cookie cookie := by
    rintro rfl
    exact horderly.2 i cookie (message_incoming.2 hroute)
  have hdeliver := Session.deliver_undisturbed ⟨p.heard env endpoint, transport, device⟩
    self.config.localKeypair (env.ephemeral i) source self.cookieSecret completion horderly.1 hmessage
  exact wp_mono hdeliver
    (fun _ _ hs h => hP.undisturbed (hP.undisturbed h (hheard p endpoint)) hs)
    (fun _ _ hs h => hP.undisturbed (hP.undisturbed h (hheard p endpoint)) hs) id

/-- Carrying out actions that fit. -/
theorem performAll_durable {keypair : Keypair} {actions : List (ℕ × Session.Action)}
    (hP : Session.Durable self.config.localKeypair P) (hfits : self.Fits actions)
    (hcall : (performAll keypair env actions self).state? = some self') :
    Evolves (fun _ p p' => P p → P p') self self' := by
  induction actions generalizing self with
  | nil =>
      cases hcall
      exact Evolves.refl (fun _ _ => id) _
  | cons entry rest ih =>
      obtain ⟨i, action⟩ := entry
      have hstep {next : TunnelManager}
          (hfirst : (TunnelManager.atPeer i (Session.perform keypair env action) self).state? =
            some next) : Evolves (fun _ p p' => P p → P p') self next := by
        refine evolves_of_undisturbed hP (fun p hp => ?_) hfirst
        obtain ⟨_, hsuits⟩ := hfits i p hp
        rw [actionsFor_cons, if_pos rfl] at hsuits
        exact Session.perform_undisturbed hsuits keypair
      rcases state?_bind hcall with hfirst | ⟨_, next, hfirst, hrest⟩
      · exact hstep hfirst
      · have hnext : (TunnelManager.atPeer i (Session.perform keypair env action) self).state? =
            some next := by rw [hfirst]; rfl
        have hevolves := hstep hnext
        have hrest : Evolves (fun _ p p' => P p → P p') next self' :=
          ih (hevolves.config ▸ hP) (hfits.perform hnext) hrest
        refine Evolves.trans ?_ hevolves hrest
        exact fun _ _ _ _ h h' => h' ∘ h

theorem maintenance_durable (hP : Session.Durable self.config.localKeypair P)
    (hvalid : self.AllValid)
    (hcall : (TunnelManager.maintenance env self).state? = some self') {p' : PeerSession}
    (hp' : self'.peers[idx]? = some p') : ∃ p, self.peers[idx]? = some p ∧ (P p → P p') := by
  rw [TunnelManager.maintenance, bind_ok (get_apply self)] at hcall
  split at hcall
  · cases hcall
    exact ⟨p', hp', id⟩
  · obtain ⟨hconfig, hpeers, _, _⟩ :=
      rotateCookieSecret_fields env { self with lastMaintenanceAt := env.now }
    rw [bind_ok (modify_apply _ _)] at hcall
    generalize rotateCookieSecret env { self with lastMaintenanceAt := env.now } = rotated at *
    obtain ⟨actions, hplan, _, hsuits⟩ := plan_ok self.config env rotated self.peers
    rw [bind_ok hplan] at hcall
    have hfits : rotated.Fits actions := by
      intro k p hp
      rw [hpeers] at hp
      exact ⟨hvalid k p hp, hsuits k p hp⟩
    obtain ⟨p, hp, hkeeps⟩ := (performAll_durable (hconfig ▸ hP) hfits hcall).peers hp'
    rw [hpeers] at hp
    exact ⟨p, hp, hkeeps⟩

/-- What an event of an orderly run leaves of a durable property: a session is a new one or keeps
it. -/
theorem fire_durable (completion : CompletionLaws) {event : Event} (hsound : self.Sound)
    (hvalid : self.AllValid) (hP : Session.Durable self.config.localKeypair P)
    (horderly : self.Orderly event) (hfire : fire self event = some self') {p' : PeerSession}
    (hp' : self'.peers[idx]? = some p') :
    (∃ p, self.peers[idx]? = some p ∧ (P p → P p')) ∨
      idx = self.peers.length ∧
        ∃ env config, newSession self.config.localKeypair env config = .ok p' := by
  cases event with
  | addPeer env config =>
      obtain rfl | ⟨made, hnew, rfl⟩ := addPeer_cases hfire
      · exact Or.inl ⟨p', hp', id⟩
      · rcases getElem?_insertSession hp' with hold | ⟨hidx, rfl⟩
        · exact Or.inl ⟨p', hold, id⟩
        · exact Or.inr ⟨hidx, env, config, hnew⟩
  | incoming env source pkt =>
      exact Or.inl ((incoming_durable completion hsound hP horderly hfire).peers hp')
  | retryInit env i =>
      have hcall : (TunnelManager.retryInit env i self).state? = some self' := hfire
      rw [TunnelManager.retryInit, bind_ok (get_apply self)] at hcall
      have hevolves : Evolves (fun _ p p' => P p → P p') self self' := by
        refine atPeer_evolves (P := True) (fun p hp => ?_) (fun _ _ _ => id) hcall
        by_cases hpP : P p
        · exact wp_mono (hP.retried horderly.1 hpP) (fun _ _ hs _ => hs) (fun _ _ hs _ => hs) id
        · exact wp_mono (wp_trivial _ _) (fun _ _ _ h => absurd h hpP)
            (fun _ _ _ h => absurd h hpP) id
      exact Or.inl (hevolves.peers hp')
  | dispatchTunPacket env pkt =>
      have hcall : (TunnelManager.dispatchTunPacket env pkt self).state? = some self' := hfire
      rw [TunnelManager.dispatchTunPacket, bind_ok (get_apply self)] at hcall
      cases hlookup : self.lookupPeerByDestIp pkt with
      | none =>
          rw [hlookup] at hcall
          cases hcall
          exact Or.inl ⟨p', hp', id⟩
      | some i =>
          rw [hlookup] at hcall
          refine Or.inl (Evolves.peers (evolves_of_undisturbed hP (fun p _ => ?_) hcall) hp')
          exact Session.sendEncrypted_undisturbed _ pkt 1600
  | maintenance env => exact Or.inl (maintenance_durable hP hvalid hfire hp')

end Durable

/-- What holds of the states of an orderly run. -/
structure Tidy (manager : TunnelManager) : Prop where
  reachable : manager.Reachable
  pristine {idx : ℕ} {peer : PeerSession} :
    manager.peers[idx]? = some peer → peer.Pristine manager.config.localKeypair

theorem Tidy.fire (completion : CompletionLaws) {event : Event} (h : self.Tidy)
    (horderly : self.Orderly event) (hfire : TunnelManager.fire self event = some self') :
    self'.Tidy := by
  refine ⟨h.reachable.fire hfire, fun {i p'} hp' => ?_⟩
  have hconfig : self'.config = self.config := (fire_advances h.reachable.sound hfire).config
  rw [hconfig]
  obtain ⟨p, hp, hkeeps⟩ | ⟨_, env, config, hnew⟩ := fire_durable completion h.reachable.sound
    h.reachable.allValid (Session.durable_pristine completion _) horderly hfire hp'
  · exact hkeeps (h.pristine hp)
  · exact newSession_pristine hnew

end TunnelManager

end General

end Naboscale
