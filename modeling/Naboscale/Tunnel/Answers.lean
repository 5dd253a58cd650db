import Naboscale.Crypto.Transcript
import Naboscale.Tunnel.Freshness

/-!
# Answers, and rekeys in flight

What one event does to a session, as its peer has to know it: a session that is given neither an
INIT nor a RESPONSE keeps its handshake and the rekey that is in flight, and an INIT that moves a
session has made it send the RESPONSE that its new transport belongs to.
-/

namespace Naboscale

open Rust Method Relation

section General

variable [Profile] [Primitives]

/-! ## Sessions on their own -/

/-- The state keeps its handshake: a transport is used, and an initiator writes its INIT. -/
inductive PeerState.Rests : PeerState → PeerState → Prop where
  | same {state} : Rests state state
  | writes {initiator initiator'} :
      Rests (.handshakingAsInitiator initiator) (.handshakingAsInitiator initiator')
  | uses {t t' sid rehandshake rehandshake'} : t.Becomes t' →
      Rests (.ready t sid rehandshake) (.ready t' sid rehandshake')

variable {keypair : Keypair} {env : Env} {rng : Ephemeral} {config : PeerConfig} {idx : ℕ}
  {message : Option Message} {state state' state'' : PeerState} {peer peer' : PeerSession}

omit [Profile] in
theorem PeerState.Rests.trans (h : state.Rests state') (hnext : state'.Rests state'') :
    state.Rests state'' := by
  cases h with
  | same => exact hnext
  | writes => cases hnext <;> exact .writes
  | uses hbecomes =>
      cases hnext with
      | same => exact .uses hbecomes
      | uses hmore => exact .uses (hbecomes.trans hmore)

/-- A move without an INIT and a RESPONSE keeps the handshake. -/
theorem StateChange.rests (h : StateChange keypair env rng config message state state')
    (hinit : message.bind Message.initPkt? = none)
    (hresponse : ∀ pkt, message ≠ some (.response pkt)) : state.Rests state' := by
  cases h with
  | keep => exact .same
  | use _ huses => exact .uses (ReflTransGen.single huses)
  | write _ => exact .writes
  | startRekey _ => exact .uses ReflTransGen.refl
  | retryRekey => exact .uses ReflTransGen.refl
  | renew hpkt _ | spend hpkt _ | exhaust hpkt _ | accept hpkt _ | lose hpkt _ _ =>
      cases hinit.symm.trans hpkt
  | replace _ _ => cases hinit
  | complete _ | completeRekey _ | abort _ _ | discard _ _ _ => exact absurd rfl (hresponse _)

theorem OwnMoves.rests (h : TunnelManager.OwnMoves keypair env idx peer peer') :
    peer.state.Rests peer'.state := by
  induction h with
  | refl => exact .same
  | tail _ hmove ih => exact ih.trans (hmove.state.rests rfl nofun)

/-- An event keeps the handshake of a session that it gives neither an INIT nor a RESPONSE. -/
theorem TunnelManager.Event.Moves.rests {self : TunnelManager} {event : TunnelManager.Event}
    (h : event.Moves self idx peer peer')
    (hinit : (event.message self idx).bind Message.initPkt? = none)
    (hresponse : ∀ pkt, event.message self idx ≠ some (.response pkt)) :
    peer.state.Rests peer'.state := by
  unfold TunnelManager.Event.Moves at h
  cases hmessage : event.message self idx with
  | none =>
      rw [hmessage] at h
      exact OwnMoves.rests h
  | some message =>
      rw [hmessage] at h hinit hresponse
      exact h.state.rests hinit hresponse

/-! ## Rekeys in flight -/

/-- The rekey that is in flight, if there is one, still is, with the same initiator. -/
def PeerSession.KeepsRekey (peer peer' : PeerSession) : Prop :=
  ∀ r ∈ peer.state.pending, ∃ r' ∈ peer'.state.pending, r'.initiator = r.initiator

omit [Profile] in
theorem PeerSession.KeepsRekey.of_eq (h : peer'.state.pending = peer.state.pending) :
    peer.KeepsRekey peer' := by
  intro r hr
  rw [← h] at hr
  exact ⟨r, hr, rfl⟩

omit [Profile] in
theorem PeerSession.KeepsRekey.of_none (h : peer.state.pending = none) : peer.KeepsRekey peer' := by
  intro r hr
  rw [h] at hr
  cases hr

omit [Profile] in
theorem PeerSession.KeepsRekey.trans {peer'' : PeerSession} (h : peer.KeepsRekey peer')
    (hnext : peer'.KeepsRekey peer'') : peer.KeepsRekey peer'' := by
  intro r hr
  obtain ⟨r', hr', hsame⟩ := h r hr
  obtain ⟨r'', hr'', hsame'⟩ := hnext r' hr'
  exact ⟨r'', hr'', hsame'.trans hsame⟩

omit [Profile] in
/-- A rekey is in flight in a ready session. -/
theorem PeerState.ready_of_pending {r : Rehandshake} (h : state.pending = some r) :
    ∃ t sid, state = .ready t sid (some r) := by
  cases state with
  | ready t sid rehandshake =>
      cases h
      exact ⟨t, sid, rfl⟩
  | init => cases h
  | handshakingAsInitiator initiator => cases h
  | handshakingAsResponder responder => cases h

namespace Session

variable {self : Session}

theorem retryInit_keepsRekey :
    (retryInit keypair env rng).wp (Leaves fun peer => self.peer.KeepsRekey peer) self := by
  cases hpending : self.peer.state.pending with
  | none =>
      refine wp_mono retryInit_moves (fun _ _ _ => ?_) (fun _ _ _ => ?_) id <;>
        exact PeerSession.KeepsRekey.of_none hpending
  | some r =>
      obtain ⟨t, sid, hstate⟩ := PeerState.ready_of_pending hpending
      unfold retryInit
      rw [wp_get_bind, wp_ite, hstate]
      exact ⟨fun _ => .of_eq rfl, fun _ => .of_eq rfl⟩

theorem sendEncrypted_keepsRekey (packet : Bytes) (room : ℕ) :
    (sendEncrypted keypair env packet room).wp (Leaves fun peer => self.peer.KeepsRekey peer)
      self :=
  wp_mono (sendEncrypted_pending packet room) (fun _ _ hs => .of_eq hs.2)
    (fun _ _ hs => .of_eq hs.2) id

/-- Only the start of a rekey puts another one in flight. -/
theorem perform_keepsRekey {action : Action}
    (h : ∀ initiator msg, action ≠ .startRekey initiator msg) :
    (perform keypair env action).wp (Leaves fun peer => self.peer.KeepsRekey peer) self := by
  cases action with
  | markStale => exact PeerSession.KeepsRekey.of_eq rfl
  | sendKeepalive => exact sendEncrypted_keepsRekey _ _
  | startRekey initiator msg => exact absurd rfl (h initiator msg)
  | retryRekey =>
      unfold perform
      rw [wp_get_bind]
      rcases hstate : self.peer.state with _ | _ | _ | ⟨t, sid, _ | rehandshake⟩
      case ready.some =>
        simp only
        rw [wp_bind]
        refine wp_sendMaybeRelay (fun _ r hr => ?_) fun _ => .of_eq rfl
        rw [hstate] at hr
        cases hr
        exact ⟨_, rfl, rfl⟩
      all_goals exact PeerSession.KeepsRekey.of_eq rfl

omit [Profile] in
/-- A rekey is planned only while none is in flight. -/
theorem planPeer_pending {σ : Type} {timings : ManagerTimings} (s : σ) :
    (planPeer keypair timings env rng peer).wp
      ⟨fun actions _ => ∀ initiator msg, Action.startRekey initiator msg ∈ actions →
        peer.state.pending = none, fun _ _ => True, True⟩ s := by
  cases hpending : peer.state.pending with
  | none => exact wp_mono (wp_trivial _ s) (fun _ _ _ _ _ _ => rfl) (fun _ _ _ => trivial) id
  | some r =>
      obtain ⟨t, sid, hstate⟩ := PeerState.ready_of_pending hpending
      unfold planPeer
      rw [wp_ite, hstate]
      refine ⟨fun _ _ _ hmem => (nomatch hmem), fun _ initiator msg hmem => ?_⟩
      have hretry : Action.startRekey initiator msg ∈
          if r.nextRetryAt ≤ env.now then [Action.retryRekey] else [] := hmem
      split at hretry
      · cases List.mem_singleton.1 hretry
      · cases hretry

end Session

/-! ## Answers to INITs -/

/-- The responder that the session gives the INIT answers it. A ready session answers direct INITs
only, and takes the new transport after it has sent the RESPONSE. -/
def PeerSession.Answers (peer : PeerSession) (keypair : Keypair) (env : Env) (rng : Ephemeral)
    (source : SocketAddr) (message : Message) (init : Bytes) : Prop :=
  ∃ responder pub reply state, peer.Consults keypair env responder ∧
    (responder.setCurrentTime env.tai).Answers init rng pub reply state ∧
    (peer.state.isReady = true → message = .init init ∧
      (∃ inner, intoTransportMode state = .ok inner) ∧
      env.sendError source ((responder.setCurrentTime env.tai).answer init pub reply) = none)

/-- What an INIT does to a session and to what was sent. -/
inductive Took (keypair : Keypair) (env : Env) (rng : Ephemeral) (source : SocketAddr)
    (message : Message) (init : Bytes) (sent : List (SocketAddr × Bytes)) (peer : PeerSession) :
    List (SocketAddr × Bytes) → PeerState → Prop where
  /-- The INIT leaves the session as it is, or costs it its responder. -/
  | refused {next : PeerState} : (next = peer.state ∨ ∃ responder : Responder,
        next = .handshakingAsResponder responder ∧
          (responder.AtStart keypair peer.config.psk ∨ responder.Spent)) →
      Took keypair env rng source message init sent peer sent next
  /-- The session sends the RESPONSE of its transport, unless the handshake turns into none. -/
  | answered {dest : SocketAddr} {datagram : Bytes} {next : PeerState} :
      peer.Answers keypair env rng source message init →
      (next = .init ∨ ∃ t sid rehandshake, next = .ready t sid rehandshake ∧
        Replied keypair peer.config.psk init (payload datagram) t) →
      Took keypair env rng source message init sent peer (sent ++ [(dest, datagram)]) next

/-- The responder of the session, if it waits with one, is at its start or spent. -/
def PeerSession.Responds (peer : PeerSession) (keypair : Keypair) : Prop :=
  ∀ responder, peer.state = .handshakingAsResponder responder →
    responder.AtStart keypair peer.config.psk ∨ responder.Spent

/-- What an INIT does depends on the state of the session, on its keys and on its id. -/
theorem Took.of_same {source : SocketAddr} {message : Message} {init : Bytes}
    {sent sent' : List (SocketAddr × Bytes)} {next : PeerState}
    (h : Took keypair env rng source message init sent peer' sent' next)
    (hstate : peer'.state = peer.state) (hpsk : peer'.config.psk = peer.config.psk)
    (hid : peer'.config.localSenderId = peer.config.localSenderId) :
    Took keypair env rng source message init sent peer sent' next := by
  cases h with
  | refused hnext =>
      rw [hstate, hpsk] at hnext
      exact .refused hnext
  | answered hanswers hnext =>
      rw [hpsk] at hnext
      obtain ⟨responder, pub, reply, state, hconsults, hanswers, hsends⟩ := hanswers
      rw [PeerSession.Consults, hstate, hpsk, hid] at hconsults
      rw [hstate] at hsends
      exact .answered ⟨responder, pub, reply, state, hconsults, hanswers, hsends⟩ hnext

namespace Session

variable {self : Session} {source : SocketAddr} {message : Message} {init : Bytes}

/-- The postcondition that the session took the INIT. -/
def TakesInit (keypair : Keypair) (env : Env) (rng : Ephemeral) (source : SocketAddr)
    (message : Message) (init : Bytes) (self : Session) {α : Type} :
    Post Session TunnelError α where
  ok _ s := Took keypair env rng source message init self.sent self.peer s.sent s.peer.state
  err _ s := Took keypair env rng source message init self.sent self.peer s.sent s.peer.state
  panic := True

theorem respond_took (builds : ResponderBuilds) (once : RepliesOnce) {responder : Responder}
    {bytes : Arr responseSize → Bytes}
    {frame : Arr responseSize → Method Session TunnelError Bytes}
    (hresponds : self.peer.Responds keypair)
    (hstate : self.peer.state = .handshakingAsResponder responder)
    (hframe : ∀ response, frame response = pure (bytes response))
    (hbytes : ∀ response : Arr responseSize, response.val[0]? = some messageTypeResponse →
      payload (bytes response) = response.val) (hlen : initSize ≤ init.length) :
    (respond keypair env rng source init responder frame).wp
      (TakesInit keypair env rng source message init self) self := by
  have hnot : ∀ {P : Prop}, self.peer.state.isReady = true → P := by
    intro P hready
    rw [hstate] at hready
    cases hready
  refine wp_respond hframe hlen (fun fresh hfresh => ?_) (fun e state he => ?_)
    (fun e pub reply state response hanswers _ => ?_)
    (fun e pub reply state response hanswers _ => ?_)
    (fun pub reply state inner response hanswers hresponse hinner => ?_) fun _ => trivial
  · exact Took.refused (.inr ⟨fresh, rfl, .inl (Responder.atStart_of_new hfresh)⟩)
  · -- snow builds a responder from every key pair.
    obtain ⟨made, hbuild⟩ := builds keypair.secret self.peer.config.psk wgIdentifier
    rw [Responder.new, hbuild] at he
    cases he
  · exact Took.refused (.inr ⟨_, rfl, .inr hanswers.spent⟩)
  · exact Took.answered ⟨responder, pub, reply, state, .inl hstate, hanswers, hnot⟩ (.inl rfl)
  · have hhead : response.val[0]? = some messageTypeResponse := by
      rw [hresponse]
      rfl
    refine Took.answered ⟨responder, pub, reply, state, .inl hstate, hanswers, hnot⟩
      (.inr ⟨_, _, _, rfl, ?_⟩)
    rw [hbytes response hhead]
    rcases hresponds responder hstate with hatStart | hspent
    · exact hatStart.replied hanswers hresponse hinner _
    · exact absurd hanswers (hspent.not_answers once)

/-- What a direct INIT does. -/
theorem handleInit_took (builds : ResponderBuilds) (once : RepliesOnce)
    (hresponds : self.peer.Responds keypair) :
    (handleInit keypair env rng source init).wp
      (TakesInit keypair env rng source (.init init) init self) self := by
  have hdirect : ∀ response : Arr responseSize, response.val[0]? = some messageTypeResponse →
      payload response.val = response.val := by
    intro response hhead
    refine payload_direct ?_
    rw [hhead]
    decide
  unfold handleInit
  rw [wp_ite]
  refine ⟨fun _ => .refused (.inl rfl), fun hlen => ?_⟩
  have hlen : initSize ≤ init.length := not_lt.1 hlen
  refine wp_readSenderId (le_trans (by decide) hlen) ?_
  rw [wp_get_bind]
  rcases hstate : self.peer.state with _ | initiator | responder | ⟨t, sid, rehandshake⟩
  · exact .refused (.inl rfl)
  · exact .refused (.inl rfl)
  · exact respond_took builds once hresponds hstate (fun _ => rfl) hdirect hlen
  · refine wp_respondRekey (.refused (.inl rfl)) (fun _ _ => .refused (.inl rfl))
      (fun _ _ _ _ _ _ _ => .refused (.inl rfl)) (fun _ _ _ => .refused (.inl rfl))
      (fun responder pub reply state inner response hnew hanswers hresponse hinner hsent => ?_)
      fun _ _ _ => trivial
    have hhead : response.val[0]? = some messageTypeResponse := by
      rw [hresponse]
      rfl
    have hready : self.peer.state.isReady = true := by
      rw [hstate]
      rfl
    refine Took.answered ⟨responder, pub, reply, state, .inr ⟨hready, hnew⟩, hanswers,
      fun _ => ⟨rfl, ⟨inner, hinner⟩, hresponse ▸ hsent⟩⟩ (.inr ⟨_, _, _, rfl, ?_⟩)
    rw [hdirect response hhead]
    exact (Responder.atStart_of_new hnew).replied hanswers hresponse hinner _

/-- What an INIT that came through a relay does. -/
theorem handleInitViaRelay_took (builds : ResponderBuilds) (once : RepliesOnce)
    (hresponds : self.peer.Responds keypair) :
    (handleInitViaRelay keypair env rng source init).wp
      (TakesInit keypair env rng source (.relayedInit init) init self) self := by
  unfold handleInitViaRelay
  rw [wp_ite]
  refine ⟨fun _ => .refused (.inl rfl), fun hlen => ?_⟩
  rw [wp_get_bind]
  rcases hstate : self.peer.state with _ | initiator | responder | ⟨t, sid, rehandshake⟩
  case handshakingAsResponder =>
    exact respond_took builds once hresponds hstate (fun _ => wrapRelay_eq _ _ _)
      (fun response _ => payload_relayFrame _ _ _) (not_lt.1 hlen)
  all_goals exact .refused (.inl rfl)

/-- What a message with an INIT does. -/
theorem deliver_took (builds : ResponderBuilds) (once : RepliesOnce) {cookieSecret : Key}
    (hgate : self.peer.GateOpen) (hinit : message.initPkt? = some init)
    (hresponds : self.peer.Responds keypair) :
    (deliver keypair cookieSecret env rng source message).wp
      (TakesInit keypair env rng source message init self) self := by
  cases message with
  | init pkt =>
      cases hinit
      rw [deliver, wp_def, bind_eq, checkInitCookie_eq hgate]
      by_cases hover : self.peer.OverLimit env.now
      · rw [if_pos hover]
        trivial
      · rw [if_neg hover]
        -- The gate only counts the INIT.
        obtain ⟨hconfig, hsame, -⟩ := restartWindow_fields env.now self.peer
        have hpsk : (self.peer.counted env.now).config.psk = self.peer.config.psk :=
          congrArg PeerConfig.psk hconfig
        have hsame : (self.peer.counted env.now).state = self.peer.state := hsame
        have hid := congrArg PeerConfig.localSenderId hconfig
        have hcounted : (handleInit keypair env rng source init).wp _
            { self with peer := self.peer.counted env.now } := handleInit_took builds once ?_
        · exact wp_mono hcounted (fun _ _ hs => hs.of_same hsame hpsk hid)
            (fun _ _ hs => hs.of_same hsame hpsk hid) id
        · intro responder hstate
          rw [hsame] at hstate
          rw [hpsk]
          exact hresponds responder hstate
  | relayedInit pkt =>
      cases hinit
      exact handleInitViaRelay_took builds once hresponds
  | response | transport | relayedTransport | cookie => cases hinit

end Session

namespace TunnelManager

variable {self self' : TunnelManager}

/-- Actions that start no rekey at a session keep the one that is in flight there. -/
theorem performAll_keepsRekey {actions : List (ℕ × Session.Action)}
    (h : ∀ initiator msg, (idx, Session.Action.startRekey initiator msg) ∉ actions)
    (hcall : (performAll keypair env actions self).state? = some self') :
    Evolves (fun i p p' => i = idx → p.KeepsRekey p') self self' := by
  have hrefl : ∀ (i : ℕ) (p : PeerSession), i = idx → p.KeepsRekey p := fun _ _ _ => .of_eq rfl
  induction actions generalizing self with
  | nil =>
      cases hcall
      exact Evolves.refl hrefl _
  | cons entry rest ih =>
      obtain ⟨i, action⟩ := entry
      have hfirst : ∀ {next}, (atPeer i (Session.perform keypair env action) self).state? =
          some next → Evolves (fun i p p' => i = idx → p.KeepsRekey p') self next := by
        intro next hnext
        refine atPeer_evolves (P := True) (fun p _ => ?_) (fun j q _ => hrefl j q) hnext
        by_cases hi : i = idx
        · subst hi
          have haction : ∀ initiator msg, action ≠ .startRekey initiator msg :=
            fun initiator msg heq => h initiator msg (heq ▸ List.mem_cons_self)
          exact wp_mono (Session.perform_keepsRekey haction) (fun _ _ hs _ => hs)
            (fun _ _ hs _ => hs) id
        · exact wp_mono (wp_trivial _ _) (fun _ _ _ heq => absurd heq hi)
            (fun _ _ _ heq => absurd heq hi) id
      rcases state?_bind hcall with hend | ⟨_, next, hnext, hrest⟩
      · exact hfirst hend
      · refine (hfirst (by rw [hnext]; rfl)).trans
          (fun _ _ _ _ hp hp' hi => (hp hi).trans (hp' hi))
          (ih (fun initiator msg hmem => h initiator msg (List.mem_cons_of_mem _ hmem)) hrest)

/-- Maintenance keeps the rekeys that are in flight. -/
theorem maintenance_keepsRekey (hcall : (maintenance env self).state? = some self')
    (hpeer : self.peers[idx]? = some peer) (hpeer' : self'.peers[idx]? = some peer') :
    peer.KeepsRekey peer' := by
  cases hpending : peer.state.pending with
  | none => exact .of_none hpending
  | some r =>
      rw [maintenance, bind_ok (get_apply self)] at hcall
      split at hcall
      · cases hcall
        cases hpeer.symm.trans hpeer'
        exact .of_eq rfl
      · obtain ⟨-, hpeers, -, -⟩ :=
          rotateCookieSecret_fields env { self with lastMaintenanceAt := env.now }
        rw [bind_ok (modify_apply _ _)] at hcall
        generalize rotateCookieSecret env { self with lastMaintenanceAt := env.now } = rotated at *
        obtain ⟨actions, hplan, -, -⟩ := plan_ok self.config env rotated self.peers
        have hplanned : (plan self.config env 0 self.peers).wp _ rotated :=
          plan_for (fun _ _ s => Session.planPeer_pending s) self.peers 0 rotated
        rw [wp_def, hplan] at hplanned
        rw [bind_ok hplan] at hcall
        have hidle : ∀ initiator msg,
            (idx, Session.Action.startRekey initiator msg) ∉ actions := by
          intro initiator msg hmem
          have hnone := hplanned.2 idx peer hpeer initiator msg
          rw [Nat.zero_add, hpending] at hnone
          cases hnone (List.mem_map_of_mem (List.mem_filter.2 ⟨hmem, decide_eq_true rfl⟩))
        obtain ⟨p, hp, hkeeps⟩ := (performAll_keepsRekey hidle hcall).peers hpeer'
        rw [hpeers] at hp
        cases hpeer.symm.trans hp
        exact hkeeps rfl

/-- An event keeps the rekey of a session that it gives no message. -/
theorem fire_keepsRekey {event : Event} (hsound : self.Sound) (hfire : fire self event = some self')
    (hmessage : event.message self idx = none) (hpeer : self.peers[idx]? = some peer)
    (hpeer' : self'.peers[idx]? = some peer') : peer.KeepsRekey peer' := by
  have hof : ∀ {R : ℕ → PeerSession → PeerSession → Prop}, Evolves R self self' →
      (∀ p p', R idx p p' → p.KeepsRekey p') → peer.KeepsRekey peer' := by
    intro R hevolves hR
    obtain ⟨p, hp, hmove⟩ := hevolves.peers hpeer'
    cases hpeer.symm.trans hp
    exact hR _ _ hmove
  cases event with
  | addPeer env config =>
      obtain rfl | ⟨made, -, rfl⟩ := addPeer_cases hfire
      · cases hpeer.symm.trans hpeer'
        exact .of_eq rfl
      · rcases getElem?_insertSession hpeer' with hold | ⟨hlast, -⟩
        · cases hpeer.symm.trans hold
          exact .of_eq rfl
        · have hlt := (List.getElem?_eq_some_iff.1 hpeer).1
          omega
  | incoming env source pkt =>
      refine hof (R := fun i p p' => (Event.incoming env source pkt).message self i = none →
        p.KeepsRekey p') (incoming_evolves_of hsound (fun _ _ _ => .of_eq rfl)
        (fun _ _ _ _ _ => .of_eq rfl) (fun {i p _ message _ _} hroute _ => ?_) hfire)
        fun _ _ hkeeps => hkeeps hmessage
      refine wp_mono (wp_trivial _ _) (fun _ _ _ hnone => ?_) (fun _ _ _ hnone => ?_) id <;>
        cases (message_incoming.2 hroute).symm.trans hnone
  | retryInit env i =>
      have hcall : (retryInit env i self).state? = some self' := hfire
      rw [retryInit, bind_ok (get_apply self)] at hcall
      exact hof (atPeer_evolves (R := fun _ => PeerSession.KeepsRekey) (P := True)
        (fun _ _ => Session.retryInit_keepsRekey) (fun _ _ _ => .of_eq rfl) hcall) fun _ _ h => h
  | dispatchTunPacket env pkt =>
      have hcall : (dispatchTunPacket env pkt self).state? = some self' := hfire
      rw [dispatchTunPacket, bind_ok (get_apply self)] at hcall
      cases hlookup : self.lookupPeerByDestIp pkt with
      | none =>
          rw [hlookup] at hcall
          cases hcall
          cases hpeer.symm.trans hpeer'
          exact .of_eq rfl
      | some i =>
          rw [hlookup] at hcall
          exact hof (atPeer_evolves (R := fun _ => PeerSession.KeepsRekey) (P := True)
            (fun _ _ => Session.sendEncrypted_keepsRekey pkt 1600) (fun _ _ _ => .of_eq rfl) hcall)
            fun _ _ h => h
  | maintenance env => exact maintenance_keepsRekey hfire hpeer hpeer'

/-- The session at an index makes its moves. -/
theorem fire_session {event : Event} (hsound : self.Sound) (hfire : fire self event = some self')
    (hpeer : self.peers[idx]? = some peer) :
    ∃ peer', self'.peers[idx]? = some peer' ∧ event.Moves self idx peer peer' := by
  have hadvances := fire_advances hsound hfire
  have hlt := (List.getElem?_eq_some_iff.1 hpeer).1
  have hget := List.getElem?_eq_getElem (hlt.trans_le hadvances.length)
  refine ⟨_, hget, ?_⟩
  rcases hadvances.peers hget with ⟨p, hp, hmoves⟩ | ⟨hlast, -⟩
  · cases hpeer.symm.trans hp
    exact hmoves
  · omega

/-- What an event leaves of the configuration of a session. -/
theorem Event.Moves.same {event : Event} (h : event.Moves self idx peer peer') :
    peer.config.Same peer'.config := by
  unfold Event.Moves at h
  cases hmessage : event.message self idx with
  | none =>
      rw [hmessage] at h
      exact OwnMoves.same h
  | some message =>
      rw [hmessage] at h
      exact h.config

/-- What an event does to the session that it gives an INIT. -/
theorem incoming_took (builds : ResponderBuilds) (once : RepliesOnce) {source : SocketAddr}
    {pkt init : Bytes} {message : Message} (hsound : self.Sound)
    (hfire : fire self (.incoming env source pkt) = some self')
    (hmessage : (Event.incoming env source pkt).message self idx = some message)
    (hinit : message.initPkt? = some init) (hpeer : self.peers[idx]? = some peer)
    (hpeer' : self'.peers[idx]? = some peer')
    (hresponds : peer.Responds self.config.localKeypair) :
    Took self.config.localKeypair env (env.ephemeral idx) source message init self.sent peer
      self'.sent peer'.state := by
  obtain ⟨p, noted, hp, hnoted, hrun⟩ :=
    handleIncoming_routed env hsound.wellFormed (message_incoming.1 hmessage)
  cases hpeer.symm.trans hp
  obtain ⟨endpoint, hheard⟩ := hnoted.getElem?_self hpeer
  have hsent : noted.transport = self.transport := by
    obtain ⟨_, _, _, rfl, -⟩ := hnoted
    rfl
  have hcall : (handleIncoming env source pkt self).state? = some self' := hfire
  rw [hrun, atPeer_state hheard, Option.map_eq_some_iff] at hcall
  obtain ⟨after, hafter, rfl⟩ := hcall
  have hidx : idx < noted.peers.length := (List.getElem?_eq_some_iff.1 hheard).1
  rw [List.getElem?_set_self hidx] at hpeer'
  cases hpeer'
  have hkeeps := peer.keeps_heard env endpoint
  have htook := wp_state (P := fun s : Session => Took self.config.localKeypair env
    (env.ephemeral idx) source message init noted.sent (peer.heard env endpoint) s.sent
    s.peer.state)
    (Session.deliver_took builds once (hkeeps.gate (hsound.gates hpeer)) hinit hresponds) hafter
  rw [show noted.sent = self.sent from congrArg UdpTransport.sent hsent] at htook
  exact htook.of_same rfl rfl rfl

end TunnelManager

end General

end Naboscale
