import Naboscale.Tunnel.Delivery

/-!
# What every manager keeps

The invariant of a session that is reached: which of its fields are set in which state, and whose
INIT it keeps. Every handler preserves it, from where the session has just heard from its peer,
and so does everything that a session does on its own.
-/

namespace Naboscale

open Rust Method

section General

variable [Profile] [Primitives]

namespace PeerSession

/-- What holds of the other fields of a session in each state of its handshake. A rekey is pending
only as initiator and only while the peer is not stale, and the initiator that waits for its
RESPONSE wrote the INIT that is sent. -/
def Valid (peer : PeerSession) : Prop :=
  match peer.state with
  | .init => True
  | .handshakingAsInitiator initiator =>
      peer.config.isInitiator = true ∧ peer.stale = false ∧ peer.nextInitAt.isSome = true ∧
        ∀ msg ∈ peer.cachedInit, initiator.Wrote msg
  | .handshakingAsResponder _ => peer.config.isInitiator = false
  | .ready _ _ rehandshake =>
      peer.lastRxAt.isSome = true ∧ peer.lastHandshakeAt.isSome = true ∧
        ∀ r ∈ rehandshake, peer.config.isInitiator = true ∧ peer.stale = false ∧
          r.initiator.Wrote r.initMsg

variable {peer peer' : PeerSession}

omit [Profile] in
/-- The invariant depends on what it names alone. -/
theorem Valid.of_same (h : peer.Valid) (hstate : peer'.state = peer.state)
    (hinitiates : peer'.config.isInitiator = peer.config.isInitiator)
    (hstale : peer'.stale = peer.stale) (hnext : peer'.nextInitAt = peer.nextInitAt)
    (hcached : peer'.cachedInit = peer.cachedInit)
    (hrx : peer.lastRxAt.isSome = true → peer'.lastRxAt.isSome = true)
    (hhandshake : peer'.lastHandshakeAt = peer.lastHandshakeAt) : peer'.Valid := by
  unfold Valid at *
  rw [hstate, hinitiates, hstale, hnext, hcached, hhandshake]
  cases hcase : peer.state with
  | init => trivial
  | handshakingAsInitiator initiator =>
      rw [hcase] at h
      exact h
  | handshakingAsResponder responder =>
      rw [hcase] at h
      exact h
  | ready transport sid rehandshake =>
      rw [hcase] at h
      obtain ⟨hheard, hdone, hpending⟩ := h
      exact ⟨hrx hheard, hdone, hpending⟩

/-- A session but for its cookie gate. -/
def ungated (peer : PeerSession) : PeerSession :=
  { peer with
    cookieRequired := false, sentCookie := none, initRxCount := 0, initRxWindowStart := 0 }

omit [Profile] in
theorem valid_ungated : peer.ungated.Valid ↔ peer.Valid := Iff.rfl

omit [Profile] in
/-- Another transport for a ready session. -/
theorem Valid.use {transport transport' : Transport} {sid : UInt32}
    {rehandshake : Option Rehandshake} (h : peer.Valid)
    (hstate : peer.state = .ready transport sid rehandshake) :
    Valid { peer with state := .ready transport' sid rehandshake } := by
  rw [Valid, hstate] at h
  exact h

omit [Profile] in
/-- The cached INIT is forgotten, and the next one is due. -/
theorem Valid.cookie {cookie : Arr 16} {now : Instant} (h : peer.Valid) :
    Valid { peer with
      receivedCookie := some cookie, cachedInit := none, nextInitAt := some now } := by
  unfold Valid at *
  cases hstate : peer.state with
  | handshakingAsInitiator initiator =>
      simp only [hstate] at h ⊢
      exact ⟨h.1, h.2.1, rfl, fun msg hmsg => nomatch hmsg⟩
  | init => trivial
  | handshakingAsResponder responder =>
      simp only [hstate] at h ⊢
      exact h
  | ready transport sid rehandshake =>
      simp only [hstate] at h ⊢
      exact h

omit [Profile] in
/-- Only an initiator that waits for a RESPONSE needs its INIT. -/
theorem Valid.idle (h : peer.Valid) (hidle : ∀ i, peer.state ≠ .handshakingAsInitiator i) :
    Valid { peer with nextInitAt := none, cachedInit := none } := by
  unfold Valid at *
  cases hstate : peer.state with
  | handshakingAsInitiator initiator => exact absurd hstate (hidle initiator)
  | init => trivial
  | handshakingAsResponder responder =>
      simp only [hstate] at h ⊢
      exact h
  | ready transport sid rehandshake =>
      simp only [hstate] at h ⊢
      exact h

end PeerSession

namespace Session

variable {self : Session} {env : Env} {keypair : Keypair} {rng : Ephemeral} {source : SocketAddr}
  {pkt : Bytes}

/-- The postcondition that the session is valid, and not stale if it was not before. -/
def Leaves (P : PeerSession → Prop) {α : Type} : Post Session TunnelError α where
  ok _ self' := P self'.peer
  err _ self' := P self'.peer
  panic := True

theorem respond_valid {responder : Responder} {bytes : Arr responseSize → Bytes}
    {frame : Arr responseSize → Method Session TunnelError Bytes} (hvalid : self.peer.Valid)
    (hstate : self.peer.state = .handshakingAsResponder responder)
    (hframe : ∀ response, frame response = pure (bytes response))
    (hlen : initSize ≤ pkt.length) :
    (respond keypair env rng source pkt responder frame).wp (Leaves PeerSession.Valid) self := by
  have hresponds : self.peer.config.isInitiator = false := by
    rw [PeerSession.Valid, hstate] at hvalid
    exact hvalid
  refine wp_respond hframe hlen (fun fresh _ => ?_) (fun e state _ => ?_)
    (fun e pub reply state response _ _ => ?_) (fun e pub reply state response _ _ => ?_)
    (fun pub reply state inner response _ _ _ => ?_) fun _ => trivial
  · exact hresponds
  · exact hresponds
  · exact hresponds
  · trivial
  · exact ⟨rfl, rfl, fun r hr => nomatch hr⟩

theorem handleInit_valid (hvalid : self.peer.Valid) :
    (handleInit keypair env rng source pkt).wp (Leaves PeerSession.Valid) self := by
  unfold handleInit
  rw [wp_ite]
  refine ⟨fun _ => hvalid, fun hlen => ?_⟩
  have hlen : initSize ≤ pkt.length := not_lt.1 hlen
  refine wp_readSenderId (le_trans (by decide) hlen) ?_
  rw [wp_get_bind]
  cases hstate : self.peer.state with
  | init => exact hvalid
  | handshakingAsInitiator initiator => exact hvalid
  | handshakingAsResponder responder =>
      exact respond_valid hvalid hstate (fun _ => rfl) hlen
  | ready transport sid rehandshake =>
      refine wp_respondRekey hvalid (fun _ _ => hvalid) (fun _ _ _ _ _ _ _ => hvalid)
        (fun _ _ _ => hvalid) (fun responder pub reply state inner response _ _ _ _ _ => ?_)
        fun _ _ _ => trivial
      rw [PeerSession.Valid, hstate] at hvalid
      obtain ⟨hheard, _, hpending⟩ := hvalid
      refine ⟨hheard, rfl, fun r hr => ?_⟩
      obtain ⟨hinitiates, _, hwrote⟩ := hpending r hr
      exact ⟨hinitiates, rfl, hwrote⟩

theorem handleInitViaRelay_valid (hvalid : self.peer.Valid) :
    (handleInitViaRelay keypair env rng source pkt).wp (Leaves PeerSession.Valid) self := by
  unfold handleInitViaRelay
  rw [wp_ite]
  refine ⟨fun _ => hvalid, fun hlen => ?_⟩
  have hlen : initSize ≤ pkt.length := not_lt.1 hlen
  rw [wp_get_bind]
  cases hstate : self.peer.state with
  | handshakingAsResponder responder =>
      exact respond_valid hvalid hstate (fun _ => wrapRelay_eq _ _ _) hlen
  | init => exact hvalid
  | handshakingAsInitiator initiator => exact hvalid
  | ready transport sid rehandshake => exact hvalid

omit [Profile] in
/-- A RESPONSE finds the session just heard from. -/
theorem handleResponse_valid (hvalid : self.peer.Valid)
    (hheard : self.peer.lastRxAt.isSome = true) :
    (handleResponse env pkt).wp (Leaves PeerSession.Valid) self := by
  refine wp_handleResponse (fun _ _ => hvalid) (fun initiator inner _ _ => ?_)
    (fun transport sid rehandshake inner _ _ => ?_)
    (fun transport sid rehandshake _ hstate _ _ => ?_) (fun initiator _ _ _ _ => trivial)
    (fun _ _ _ => trivial)
  · exact ⟨hheard, rfl, fun r hr => nomatch hr⟩
  · exact ⟨hheard, rfl, fun r hr => nomatch hr⟩
  · rw [PeerSession.Valid, hstate] at hvalid
    exact ⟨hheard, hvalid.2.1, fun r hr => nomatch hr⟩

omit [Profile] in
theorem handleTransport_valid (hvalid : self.peer.Valid) :
    (handleTransport env pkt).wp (Leaves PeerSession.Valid) self := by
  unfold handleTransport
  rw [wp_ite]
  refine ⟨fun _ => hvalid, fun _ => ?_⟩
  rw [wp_get_bind, wp_ite]
  refine ⟨fun _ => hvalid, fun _ => ?_⟩
  cases hstate : self.peer.state with
  | ready transport sid rehandshake =>
      refine wp_onDecrypt fun result transport' _ => ?_
      have hused : PeerSession.Valid { self.peer with state := .ready transport' sid rehandshake } :=
        hvalid.use hstate
      simp only
      rw [wp_setState_bind]
      cases result with
      | error e => exact hused
      | ok plaintext =>
          simp only
          rw [wp_ite]
          exact ⟨fun _ => (wp_write _).2 ⟨fun _ => hused, fun _ _ => hused⟩, fun _ => hused⟩
  | init => exact hvalid
  | handshakingAsInitiator initiator => exact hvalid
  | handshakingAsResponder responder => exact hvalid

omit [Profile] in
theorem handleRelayedTransport_valid (hvalid : self.peer.Valid) :
    (handleRelayedTransport env pkt).wp (Leaves PeerSession.Valid) self := by
  unfold handleRelayedTransport
  rw [wp_get_bind]
  cases hstate : self.peer.state with
  | ready transport sid rehandshake =>
      simp only
      rw [wp_ite]
      refine ⟨fun _ => hvalid, fun _ => wp_onDecrypt fun result transport' _ => ?_⟩
      have hused : PeerSession.Valid { self.peer with state := .ready transport' sid rehandshake } :=
        hvalid.use hstate
      simp only
      rw [wp_setState_bind]
      cases result with
      | error e => exact hused
      | ok plaintext =>
          simp only [lift_ok, pure_bind]
          rw [wp_ite]
          exact ⟨fun _ => (wp_write _).2 ⟨fun _ => hused, fun _ _ => hused⟩, fun _ => hused⟩
  | init => exact hvalid
  | handshakingAsInitiator initiator => exact hvalid
  | handshakingAsResponder responder => exact hvalid

/-- Every message leaves a valid session valid that has just been heard from. -/
theorem deliver_valid {cookieSecret : Key} (hvalid : self.peer.Valid)
    (hheard : self.peer.lastRxAt.isSome = true) (message : Message) :
    (deliver keypair cookieSecret env rng source message).wp (Leaves PeerSession.Valid) self := by
  cases message with
  | init pkt =>
      have hgate : Keeps (fun self : Session => self.peer.ungated)
          (checkInitCookie cookieSecret env source pkt) :=
        keeps_checkInitCookieWith PeerSession.ungated (fun _ _ _ _ _ => rfl)
          (keeps_generateCookie cookieSecret)
      have hsame : ∀ s : Session, s.peer.ungated = self.peer.ungated → s.peer.Valid := by
        intro s hs
        rw [← PeerSession.valid_ungated, hs]
        exact hvalid
      refine (wp_bind _ _).2 (wp_mono (hgate self) (fun handled s hs => ?_) (fun _ s hs => hsame s hs) id)
      refine (wp_ite _ _ _).2 ⟨fun _ => hsame s hs, fun _ => ?_⟩
      exact handleInit_valid (hsame s hs)
  | relayedInit pkt => exact handleInitViaRelay_valid hvalid
  | response pkt => exact handleResponse_valid hvalid hheard
  | transport pkt => exact handleTransport_valid hvalid
  | relayedTransport pkt => exact handleRelayedTransport_valid hvalid
  | cookie pkt => exact wp_handleCookie hvalid fun _ => hvalid.cookie

/-! ## What a session does on its own -/

omit [Profile] in
theorem retryInit_valid (hvalid : self.peer.Valid) :
    (retryInit keypair env rng).wp (Leaves PeerSession.Valid) self := by
  have hidle := hvalid.idle
  unfold retryInit
  rw [wp_get_bind, wp_ite]
  refine ⟨fun _ => ?_, fun _ => hvalid⟩
  cases hstate : self.peer.state with
  | init => exact hidle fun i hi => nomatch hstate.symm.trans hi
  | handshakingAsResponder responder => exact hidle fun i hi => nomatch hstate.symm.trans hi
  | ready transport sid rehandshake => exact hidle fun i hi => nomatch hstate.symm.trans hi
  | handshakingAsInitiator initiator =>
      have hbefore := hvalid
      rw [PeerSession.Valid, hstate] at hvalid
      obtain ⟨hinitiates, hstale, hnext, hwrote⟩ := hvalid
      refine (wp_bind _ _).2 (wp_cacheInit (fun msg hmsg => ?_)
        (fun message state init msg _ hwrite hinit hmsg => ?_)
        (fun e state result hnone hwrite => ?_))
      · -- The INIT was cached: it is sent again as it is.
        refine (wp_bind _ _).2 (wp_sendMaybeRelay (fun _ => ?_) fun _ => hbefore)
        show PeerSession.Valid _
        rw [PeerSession.Valid]
        simp only [hstate]
        exact ⟨hinitiates, hstale, rfl, hwrote⟩
      · have hnew : ∀ m ∈ some msg, Initiator.Wrote { initiator with state } m := by
          intro m hm
          cases hm
          exact Initiator.wrote_of_write hwrite hinit hmsg
        refine (wp_bind _ _).2 (wp_sendMaybeRelay (fun _ => ?_) fun _ => ?_)
        · exact ⟨hinitiates, hstale, rfl, hnew⟩
        · exact ⟨hinitiates, hstale, hnext, hnew⟩
      · refine ⟨hinitiates, hstale, hnext, fun m hm => ?_⟩
        cases hnone.symm.trans hm

/-- Sending a packet leaves the session as the invariant sees it. -/
theorem sendEncrypted_valid (hvalid : self.peer.Valid) (pkt : Bytes) (room : ℕ) :
    (sendEncrypted keypair env pkt room).wp (Leaves fun peer => peer.Valid ∧
      peer.stale = self.peer.stale ∧ peer.config = self.peer.config) self := by
  unfold sendEncrypted
  rw [wp_get_bind]
  cases hstate : self.peer.state with
  | init => exact ⟨hvalid, rfl, rfl⟩
  | handshakingAsInitiator initiator => exact ⟨hvalid, rfl, rfl⟩
  | handshakingAsResponder responder => exact ⟨hvalid, rfl, rfl⟩
  | ready transport sid rehandshake =>
      have hused : ∀ transport' : Transport, PeerSession.Valid
          { self.peer with state := .ready transport' sid rehandshake } :=
        fun _ => hvalid.use hstate
      simp only
      rw [wp_on_bind]
      refine Transport.wp_encrypt (fun ciphertext inner _ => ?_) (fun e transport' _ => ?_)
        (fun _ _ => trivial)
      · simp only
        rw [wp_setState_bind, lift_ok, pure_bind, wp_bind]
        refine wp_sendMaybeRelay (fun _ => ?_) (fun _ => ⟨hused _, rfl, rfl⟩)
        exact ⟨(hused _).of_same rfl rfl rfl rfl rfl id rfl, rfl, rfl⟩
      · exact ⟨hused _, rfl, rfl⟩

/-- An action that fits leaves the session valid, and the actions that are left still fit. -/
theorem perform_valid {action : Action} {rest : List Action} (hvalid : self.peer.Valid)
    (hsuits : Suits self.peer (action :: rest)) :
    (perform keypair env action).wp (Leaves fun peer => peer.Valid ∧ Suits peer rest) self := by
  cases hsuits with
  | @silent transport sid hstate =>
      rw [PeerSession.Valid, hstate] at hvalid
      refine ⟨?_, .none⟩
      show PeerSession.Valid _
      rw [PeerSession.Valid]
      simp only [hstate]
      exact ⟨hvalid.1, hvalid.2.1, fun r hr => nomatch hr⟩
  | heard hstale hproper =>
      obtain ⟨hfirst, hrest⟩ := List.forall_mem_cons.1 hproper
      -- What an action leaves alone of the session suits the actions after it as before.
      have hsame : ∀ peer : PeerSession, peer.stale = self.peer.stale →
          peer.config = self.peer.config → Suits peer rest := by
        intro peer hs hc
        exact .heard (hs.trans hstale) (by rw [hc]; exact hrest)
      cases action with
      | markStale => exact absurd hfirst id
      | sendKeepalive =>
          refine wp_mono (sendEncrypted_valid hvalid _ _) (fun _ s h => ?_) (fun _ s h => ?_) id
          · exact ⟨h.1, hsame _ h.2.1 h.2.2⟩
          · exact ⟨h.1, hsame _ h.2.1 h.2.2⟩
      | startRekey initiator initMsg =>
          obtain ⟨hinitiates, hwrote⟩ := hfirst
          unfold perform
          rw [wp_get_bind, wp_bind]
          refine wp_sendMaybeRelay (fun _ => ?_) (fun _ => ⟨hvalid, hsame _ rfl rfl⟩)
          cases hstate : self.peer.state with
          | init => exact ⟨hvalid, hsame _ rfl rfl⟩
          | handshakingAsInitiator initiator => exact ⟨hvalid, hsame _ rfl rfl⟩
          | handshakingAsResponder responder => exact ⟨hvalid, hsame _ rfl rfl⟩
          | ready transport sid rehandshake =>
              rw [PeerSession.Valid, hstate] at hvalid
              refine ⟨⟨hvalid.1, hvalid.2.1, fun r hr => ?_⟩, hsame _ rfl rfl⟩
              cases hr
              exact ⟨hinitiates, hstale, hwrote⟩
      | retryRekey =>
          unfold perform
          rw [wp_get_bind]
          rcases hstate : self.peer.state with _ | _ | _ | ⟨transport, sid, _ | rehandshake⟩
          case ready.some =>
            simp only
            rw [wp_bind]
            refine wp_sendMaybeRelay (fun _ => ?_) (fun _ => ⟨hvalid, hsame _ rfl rfl⟩)
            rw [PeerSession.Valid, hstate] at hvalid
            refine ⟨⟨hvalid.1, hvalid.2.1, fun r hr => ?_⟩, hsame _ rfl rfl⟩
            cases hr
            exact hvalid.2.2 rehandshake rfl
          all_goals exact ⟨hvalid, hsame _ rfl rfl⟩

end Session

namespace TunnelManager

variable {self self' : TunnelManager} {env : Env} {idx : ℕ} {peer : PeerSession}

/-- All sessions are valid. -/
def AllValid (self : TunnelManager) : Prop :=
  ∀ (idx : ℕ) (peer : PeerSession), self.peers[idx]? = some peer → peer.Valid

omit [Profile] in
theorem newSession_valid {keypair : Keypair} {config : PeerConfig}
    (h : newSession keypair env config = .ok peer) : peer.Valid := by
  unfold newSession at h
  by_cases hinitiator : config.isInitiator = true
  · cases hnew : Initiator.new keypair config.peerPub config.psk config.localSenderId env.tai with
    | error e =>
        simp only [if_pos hinitiator, hnew] at h
        cases h
    | ok initiator =>
        simp only [if_pos hinitiator, hnew] at h
        cases h
        exact ⟨hinitiator, rfl, rfl, fun msg hmsg => nomatch hmsg⟩
  · cases hnew : Responder.new keypair config.psk config.localSenderId env.tai with
    | error e =>
        simp only [if_neg hinitiator, hnew] at h
        cases h
    | ok responder =>
        simp only [if_neg hinitiator, hnew] at h
        cases h
        exact Bool.eq_false_iff.2 hinitiator

omit [Profile] in
/-- A change of sessions that keeps each of them valid. -/
theorem AllValid.evolves (h : self.AllValid)
    (hevolves : Evolves (fun _ p p' => p.Valid → p'.Valid) self self') : self'.AllValid := by
  intro i p' hp'
  obtain ⟨p, hp, hkeeps⟩ := hevolves.peers hp'
  exact hkeeps (h i p hp)

omit [Profile] in
/-- A handler that keeps its session valid keeps all of them valid. -/
theorem AllValid.atPeer {handler : Method Session TunnelError Unit} (h : self.AllValid)
    (hwp : ∀ p, self.peers[idx]? = some p → p.Valid →
      handler.wp (Session.Leaves PeerSession.Valid) ⟨p, self.transport, self.device⟩)
    (hcall : (atPeer idx handler self).state? = some self') : self'.AllValid := by
  refine h.evolves (atPeer_evolves (P := True) (fun p hp => ?_) (fun _ _ _ => id) hcall)
  exact wp_mono (hwp p hp (h _ p hp)) (fun _ _ hs _ => hs) (fun _ _ hs _ => hs) id

/-- A received datagram leaves all sessions valid. -/
theorem AllValid.incoming (hsound : self.Sound) (h : self.AllValid) {source : SocketAddr}
    {pkt : Bytes} (hfire : fire self (.incoming env source pkt) = some self') :
    self'.AllValid := by
  have hheard : ∀ (p : PeerSession) endpoint, p.Valid → (p.heard env endpoint).Valid :=
    fun p endpoint hvalid => hvalid.of_same rfl rfl rfl rfl rfl (fun _ => rfl) rfl
  refine h.evolves (incoming_evolves_of hsound (fun _ _ => id) (fun _ p e _ => hheard p e)
    (fun {i p endpoint message transport device} _ hp => ?_) hfire)
  have hvalid := hheard p endpoint (h i p hp)
  exact wp_mono (Session.deliver_valid hvalid rfl message) (fun _ _ hs _ => hs)
    (fun _ _ hs _ => hs) id

omit [Profile] in
theorem actionsFor_cons (k i : ℕ) (action : Session.Action)
    (rest : List (ℕ × Session.Action)) :
    actionsFor k ((i, action) :: rest) =
      if i = k then action :: actionsFor k rest else actionsFor k rest := by
  by_cases h : i = k <;> simp [actionsFor, h]

/-- Each session is valid, and the actions that are left for it fit it. -/
def Fits (self : TunnelManager) (actions : List (ℕ × Session.Action)) : Prop :=
  ∀ (idx : ℕ) (peer : PeerSession), self.peers[idx]? = some peer →
    peer.Valid ∧ Session.Suits peer (actionsFor idx actions)

/-- One action leaves the actions after it fitting. -/
theorem Fits.perform {keypair : Keypair} {i : ℕ} {action : Session.Action}
    {rest : List (ℕ × Session.Action)} (h : self.Fits ((i, action) :: rest))
    (hcall : (TunnelManager.atPeer i (Session.perform keypair env action) self).state? =
      some self') : self'.Fits rest := by
  have hevolves : Evolves (fun k p p' =>
      p.Valid ∧ Session.Suits p (actionsFor k ((i, action) :: rest)) →
      p'.Valid ∧ Session.Suits p' (actionsFor k rest)) self self' := by
    refine atPeer_evolves (P := True) (fun p hp => ?_) (fun k p hne hfits => ?_) hcall
    · obtain ⟨hvalid, hsuits⟩ := h i p hp
      rw [actionsFor_cons, if_pos rfl] at hsuits
      exact wp_mono (Session.perform_valid hvalid hsuits) (fun _ _ hs _ => hs)
        (fun _ _ hs _ => hs) id
    · rw [actionsFor_cons, if_neg (Ne.symm hne)] at hfits
      exact hfits
  intro k p' hp'
  obtain ⟨p, hp, hfits⟩ := hevolves.peers hp'
  exact hfits (h k p hp)

/-- Carrying out actions that fit leaves all sessions valid. -/
theorem Fits.performAll {keypair : Keypair} {actions : List (ℕ × Session.Action)}
    (h : self.Fits actions)
    (hcall : (performAll keypair env actions self).state? = some self') : self'.AllValid := by
  induction actions generalizing self with
  | nil =>
      cases hcall
      exact fun k p hp => (h k p hp).1
  | cons entry rest ih =>
      obtain ⟨i, action⟩ := entry
      rcases state?_bind hcall with hfirst | ⟨_, next, hfirst, hrest⟩
      · exact fun k p hp => (h.perform hfirst k p hp).1
      · exact ih (h.perform (by rw [hfirst]; rfl)) hrest

theorem AllValid.maintenance (h : self.AllValid)
    (hcall : (TunnelManager.maintenance env self).state? = some self') : self'.AllValid := by
  rw [TunnelManager.maintenance, bind_ok (get_apply self)] at hcall
  split at hcall
  · cases hcall
    exact h
  · obtain ⟨_, hpeers, _, _⟩ :=
      rotateCookieSecret_fields env { self with lastMaintenanceAt := env.now }
    rw [bind_ok (modify_apply _ _)] at hcall
    generalize rotateCookieSecret env { self with lastMaintenanceAt := env.now } = rotated at *
    obtain ⟨actions, hplan, _, hsuits⟩ := plan_ok self.config env rotated self.peers
    rw [bind_ok hplan] at hcall
    refine Fits.performAll (fun k p hp => ?_) hcall
    rw [hpeers] at hp
    exact ⟨h k p hp, hsuits k p hp⟩

/-- One event leaves all sessions valid. -/
theorem AllValid.fire {event : Event} (hsound : self.Sound) (h : self.AllValid)
    (hfire : TunnelManager.fire self event = some self') : self'.AllValid := by
  cases event with
  | addPeer env config =>
      obtain rfl | ⟨made, hnew, rfl⟩ := addPeer_cases hfire
      · exact h
      · intro i p hp
        rcases getElem?_insertSession hp with hold | ⟨_, rfl⟩
        · exact h i p hold
        · exact newSession_valid hnew
  | incoming env source pkt => exact h.incoming hsound hfire
  | retryInit env i =>
      have hcall : (TunnelManager.retryInit env i self).state? = some self' := hfire
      rw [TunnelManager.retryInit, bind_ok (get_apply self)] at hcall
      exact h.atPeer (fun p _ hvalid => Session.retryInit_valid hvalid) hcall
  | dispatchTunPacket env pkt =>
      have hcall : (TunnelManager.dispatchTunPacket env pkt self).state? = some self' := hfire
      rw [TunnelManager.dispatchTunPacket, bind_ok (get_apply self)] at hcall
      cases hlookup : self.lookupPeerByDestIp pkt with
      | none =>
          rw [hlookup] at hcall
          cases hcall
          exact h
      | some i =>
          rw [hlookup] at hcall
          refine h.atPeer (fun p _ hvalid => ?_) hcall
          exact wp_mono (Session.sendEncrypted_valid hvalid pkt 1600) (fun _ _ hs => hs.1)
            (fun _ _ hs => hs.1) id
  | maintenance env => exact h.maintenance hfire

/-- All sessions of a reachable manager are valid. -/
theorem Reachable.allValid (h : self.Reachable) : self.AllValid := by
  obtain ⟨env, config, configs, start, hnew, hrun⟩ := h
  obtain ⟨_, hsound, hmade⟩ := new_spec hnew
  have hstart : start.AllValid := by
    intro i p hp
    obtain ⟨peerConfig, hp⟩ := hmade hp
    exact newSession_valid hp
  exact (Transition.Reaches.invariant (I := fun manager => manager.Sound ∧ manager.AllValid)
    (fun _ _ _ hI hfire => ⟨(fire_advances hI.1 hfire).sound, hI.2.fire hI.1 hfire⟩)
    ⟨hsound, hstart⟩ hrun).2

/-! ## The invariant -/

/-- What the maps, the sessions and their fields agree on. An address that is mapped to a session is
its stored endpoint, so a packet from there never moves it. -/
structure Consistent (manager : TunnelManager) : Prop where
  endpoints {addr : SocketAddr} {idx : ℕ} : manager.endpointToPeer addr = some idx →
    ∃ peer, manager.peers[idx]? = some peer ∧ peer.config.peerEndpoint = addr
  keys {key : Key} {idx : ℕ} : manager.pubkeyToPeer key = some idx →
    ∃ peer, manager.peers[idx]? = some peer ∧ peer.config.peerPub = key
  ready {peer : PeerSession} : peer ∈ manager.peers → peer.state.isReady = true →
    peer.lastRxAt.isSome = true ∧ peer.lastHandshakeAt.isSome = true
  rekey {peer : PeerSession} {transport : Transport} {sid : UInt32} {rehandshake : Rehandshake} :
    peer ∈ manager.peers → peer.state = .ready transport sid (some rehandshake) →
    peer.config.isInitiator = true ∧ peer.stale = false ∧
      rehandshake.initiator.Wrote rehandshake.initMsg
  initiator {peer : PeerSession} {initiator : Initiator} : peer ∈ manager.peers →
    peer.state = .handshakingAsInitiator initiator →
    peer.config.isInitiator = true ∧ peer.nextInitAt.isSome = true ∧
      ∀ msg, peer.cachedInit = some msg → initiator.Wrote msg
  responder {peer : PeerSession} {responder : Responder} : peer ∈ manager.peers →
    peer.state = .handshakingAsResponder responder → peer.config.isInitiator = false
  gate {peer : PeerSession} : peer ∈ manager.peers → peer.cookieRequired = true →
    peer.sentCookie.isSome = true

/-- Every reachable manager is consistent. -/
theorem reachable_consistent (h : self.Reachable) : self.Consistent := by
  have hvalid : ∀ peer ∈ self.peers, peer.Valid := by
    intro peer hpeer
    obtain ⟨idx, hidx⟩ := List.mem_iff_getElem?.1 hpeer
    exact h.allValid idx peer hidx
  refine ⟨fun {addr idx} hmapped => ?_, fun {key idx} hmapped => ?_, fun {peer} hmem hready => ?_,
    fun {peer transport sid rehandshake} hmem hstate => ?_,
    fun {peer initiator} hmem hstate => ?_, fun {peer responder} hmem hstate => ?_,
    fun {peer} hmem hrequired => ?_⟩
  · have hfound := h.routes_sound addr idx hmapped
    rw [Routes.endpoints, routes, List.map_map, List.getElem?_map] at hfound
    obtain ⟨peer, hpeer, hendpoint⟩ := Option.map_eq_some_iff.1 hfound
    exact ⟨peer, hpeer, hendpoint⟩
  · have hfound := h.known key idx hmapped
    rw [peerKeys, List.getElem?_map] at hfound
    obtain ⟨peer, hpeer, hkey⟩ := Option.map_eq_some_iff.1 hfound
    exact ⟨peer, hpeer, hkey⟩
  · have hpeer := hvalid peer hmem
    cases hstate : peer.state with
    | ready transport sid rehandshake =>
        rw [PeerSession.Valid, hstate] at hpeer
        exact ⟨hpeer.1, hpeer.2.1⟩
    | init =>
        rw [hstate] at hready
        cases hready
    | handshakingAsInitiator initiator =>
        rw [hstate] at hready
        cases hready
    | handshakingAsResponder responder =>
        rw [hstate] at hready
        cases hready
  · have hpeer := hvalid peer hmem
    rw [PeerSession.Valid, hstate] at hpeer
    exact hpeer.2.2 rehandshake rfl
  · have hpeer := hvalid peer hmem
    rw [PeerSession.Valid, hstate] at hpeer
    exact ⟨hpeer.1, hpeer.2.2.1, fun msg hmsg => hpeer.2.2.2 msg hmsg⟩
  · have hpeer := hvalid peer hmem
    rw [PeerSession.Valid, hstate] at hpeer
    exact hpeer
  · obtain ⟨idx, hidx⟩ := List.mem_iff_getElem?.1 hmem
    rw [(h.sound.gates hidx).1] at hrequired
    cases hrequired

end TunnelManager

end General

section Symbolic

open Symbolic TunnelManager

attribute [local instance] Symbolic.primitives Symbolic.release

/-- A manager that has sent its first INIT is consistent. -/
theorem TunnelManager.first_init_consistent :
    ∃ self, after (quietEnv 0 ⟨1000, 0⟩ 7) (nodeConfig 1) [sessionWith 2 true]
        [.retryInit (quietEnv 0 ⟨1000, 0⟩ 7) 0] = some self ∧
      self.peers.any (fun peer => peer.cachedInit.isSome) = true ∧ self.Consistent := by
  have hrun : (after (quietEnv 0 ⟨1000, 0⟩ 7) (nodeConfig 1) [sessionWith 2 true]
      [.retryInit (quietEnv 0 ⟨1000, 0⟩ 7) 0]).any
      (fun self => self.peers.any fun peer => peer.cachedInit.isSome) = true := by
    decide +kernel
  obtain ⟨self, hself, hcached⟩ := (Option.any_eq_true _ _).1 hrun
  exact ⟨self, hself, hcached, reachable_consistent (reachable_of_after hself)⟩

end Symbolic

end Naboscale
