import Naboscale.Tunnel.Answers
import Naboscale.Tunnel.Parties

/-!
# Two managers and the network between them

Two managers with a session for each other, and a network that delays, loses, reorders and copies
their datagrams. The responder takes another transport with every INIT that it answers, and the
initiator with the RESPONSE that it waits for. Both hold transports of the same handshake as long
as the responder answers no INIT that the initiator does not wait with, and the initiator gets no
RESPONSE but the last one.
-/

namespace Naboscale

open Rust Relation

section General

variable [Profile] [Primitives]

/-- The initiator that waits for a RESPONSE. -/
def PeerState.awaiting : PeerState → Option Initiator
  | .handshakingAsInitiator initiator => some initiator
  | .ready _ _ rehandshake => rehandshake.map Rehandshake.initiator
  | _ => none

/-- The two managers, of which `true` is the initiator, the datagrams on their way to each of them,
and the last INIT that the responder sent a RESPONSE for, with the RESPONSE. -/
structure Pair where
  managers : Bool → TunnelManager
  flight : Bool → List Bytes
  answered : Option (Bytes × Bytes)

namespace Pair

open TunnelManager (Event)

/-- What can happen: a call that no datagram triggers, or that the network delivers, loses or copies
a datagram on its way to a side. -/
inductive Action where
  | own (side : Bool) (event : Event)
  | deliver (side : Bool) (n : ℕ) (env : Env) (source : SocketAddr)
  | lose (side : Bool) (n : ℕ)
  | copy (side : Bool) (n : ℕ)

/-- The call is not triggered by a datagram. -/
def isOwn : Event → Bool
  | .incoming .. => false
  | _ => true

variable (place : Bool → ℕ)

/-- The session of a side for the other one. -/
def session (s : Pair) (side : Bool) : Option PeerSession := (s.managers side).peers[place side]?

/-- The INIT that an event gives the responder, with the RESPONSE that is sent for it. -/
def answer (s : Pair) (event : Event) (next : TunnelManager) : Option (Bytes × Bytes) := do
  let message ← event.message (s.managers false) (place false)
  let init ← message.initPkt?
  let entry ← (next.sent.drop (s.managers false).sent.length).getLast?
  some (init, payload entry.2)

/-- The pair after an event of a side: what the side sends is on its way to the other one. -/
def fire (s : Pair) (side : Bool) (event : Event) : Option Pair :=
  (TunnelManager.fire (s.managers side) event).map fun next =>
    { managers := Function.update s.managers side next
      flight := Function.update s.flight (!side) (s.flight (!side) ++
        (next.sent.drop (s.managers side).sent.length).map Prod.snd)
      answered := if side then s.answered else (s.answer place event next).or s.answered }

/-- The pair after an action, unless a call panics. -/
def step (s : Pair) : Action → Option Pair
  | .own side event => if isOwn event then s.fire place side event else none
  | .deliver side n env source =>
      (s.flight side)[n]?.bind fun datagram =>
        fire place
          { s with flight := Function.update s.flight side ((s.flight side).eraseIdx n) } side
          (.incoming env source datagram)
  | .lose side n =>
      if n < (s.flight side).length then
        some { s with flight := Function.update s.flight side ((s.flight side).eraseIdx n) }
      else none
  | .copy side n =>
      (s.flight side)[n]?.map fun datagram =>
        { s with flight := Function.update s.flight side (datagram :: s.flight side) }

/-- Two newly made managers that are configured for each other, and an empty network. -/
structure Configured (keys : Bool → Keypair) (psk : Key) (s : Pair) : Prop where
  made : ∀ side, ∃ env config configs,
    TunnelManager.new env config configs = .ok (s.managers side) ∧
      config.localKeypair = keys side
  session : ∀ side, ∃ peer, s.session place side = some peer ∧
    peer.config.peerPub = (keys !side).public ∧ peer.config.psk = psk ∧
    peer.config.isInitiator = side
  flight : ∀ side, s.flight side = []
  answered : s.answered = none

/-- No INIT and no RESPONSE is in the network. -/
def Quiet (s : Pair) : Prop :=
  ∀ side, ∀ datagram ∈ s.flight side,
    ¬ CarriesInit datagram ∧ (payload datagram)[0]? ≠ some messageTypeResponse

/-- Where both sessions are ready and no rekey is in flight, the transports come from the same
handshake, so that each opens what the other seals. -/
def Agrees (s : Pair) : Prop :=
  ∀ first second ti tr sid sid' rehandshake, s.session place true = some first →
    s.session place false = some second → first.state = .ready ti sid none →
    second.state = .ready tr sid' rehandshake →
    SameHandshake ti tr ∧ sendingKey ti.inner = receivingKey tr.inner ∧
      sendingKey tr.inner = receivingKey ti.inner

/-- The message comes in order for the session of a side. -/
structure Fits (s : Pair) (side : Bool) (env : Env) (source : SocketAddr) (peer : PeerSession)
    (message : Message) : Prop where
  /-- The initiator answers no INIT while the responder is ready. -/
  unasked : side = true → ∀ pkt responder pub reply state, message.initPkt? = some pkt →
    peer.Consults (s.managers side).config.localKeypair env responder →
    (responder.setCurrentTime env.tai).Answers pkt (env.ephemeral (place side)) pub reply state →
    ∀ other, s.session place false = some other → other.state.isReady = false
  /-- An INIT that the responder answers while the initiator is ready is the one of its rekey in
  flight. -/
  rekeys : side = false → ∀ pkt, message.initPkt? = some pkt →
    peer.Answers (s.managers side).config.localKeypair env (env.ephemeral (place side)) source
      message pkt →
    ∀ other, s.session place true = some other → other.state.isReady = true →
    ∃ r ∈ other.state.pending, r.initiator.Began (s.managers true).config.localKeypair
      other.config.peerPub other.config.psk pkt
  /-- A RESPONSE that the initiator accepts is the last one, for the INIT that it waits with. -/
  accepted : side = true → ∀ pkt, message = .response pkt → ∀ initiator inner,
    peer.state.awaiting = some initiator → initiator.Accepts pkt inner →
    ∃ init, s.answered = some (init, pkt) ∧
      initiator.Began (s.managers side).config.localKeypair peer.config.peerPub peer.config.psk init
  /-- A RESPONSE that ends a rekey comes before its INIT was answered. -/
  refused : side = true → ∀ pkt, message = .response pkt → responseSize ≤ pkt.length →
    ∀ r ∈ peer.state.pending, (∀ inner, ¬ r.initiator.Accepts pkt inner) →
    ∀ init response, s.answered = some (init, response) →
      ¬ r.initiator.Began (s.managers side).config.localKeypair peer.config.peerPub
        peer.config.psk init

/-- The datagram that is delivered comes in order. -/
def Orderly (s : Pair) : Action → Prop
  | .deliver side n env source => ∀ datagram peer message, (s.flight side)[n]? = some datagram →
      s.session place side = some peer →
      (Event.incoming env source datagram).message (s.managers side) (place side) = some message →
      s.Fits place side env source peer message
  | _ => True

/-! ## The invariant -/

variable {place} {keys : Bool → Keypair} {psk : Key} {s s' : Pair} {side : Bool} {event : Event}

/-- A side is as it was configured, and its manager is one that is reached. -/
structure Party (place : Bool → ℕ) (keys : Bool → Keypair) (psk : Key) (s : Pair) (side : Bool) :
    Prop where
  sound : (s.managers side).Sound
  valid : (s.managers side).AllValid
  keypair : (s.managers side).config.localKeypair = keys side
  session : ∃ peer, s.session place side = some peer ∧ peer.config.peerPub = (keys !side).public ∧
    peer.config.psk = psk ∧ peer.config.isInitiator = side

/-- The transport of the responder is the one of the last RESPONSE. -/
def HoldsLast (answered : Option (Bytes × Bytes)) (keypair : Keypair) (psk : Key) :
    PeerState → Prop
  | .init => True
  | .handshakingAsInitiator _ => False
  | .handshakingAsResponder responder => responder.AtStart keypair psk ∨ responder.Spent
  | .ready t _ _ => ∃ init response, answered = some (init, response) ∧
      Replied keypair psk init response t

/-- The transports come from the same handshake, unless the responder has answered the INIT of the
rekey in flight. -/
def Matching (answered : Option (Bytes × Bytes)) (keys : Bool → Keypair) (psk : Key)
    (first second : PeerState) : Prop :=
  ∀ ti tr sid sid' pending rehandshake, first = .ready ti sid pending →
    second = .ready tr sid' rehandshake →
    (∃ r ∈ pending, ∃ init response, answered = some (init, response) ∧
      r.initiator.Began (keys true) (keys false).public psk init) ∨ SameHandshake ti tr

/-- What every run of the pair keeps. -/
structure Paired (place : Bool → ℕ) (keys : Bool → Keypair) (psk : Key) (s : Pair) : Prop where
  party : ∀ side, s.Party place keys psk side
  last : ∀ second, s.session place false = some second →
    HoldsLast s.answered (keys false) psk second.state
  same : ∀ first second, s.session place true = some first →
    s.session place false = some second → Matching s.answered keys psk first.state second.state

section Sessions

variable {answered : Option (Bytes × Bytes)} {first first' second second' : PeerSession}
  {state state' : PeerState} {keypair : Keypair} {env : Env} {rng : Ephemeral} {message : Message}

omit [Profile] in
theorem HoldsLast.rests (h : HoldsLast answered keypair psk state) (hrests : state.Rests state') :
    HoldsLast answered keypair psk state' := by
  cases hrests with
  | same => exact h
  | writes => exact h.elim
  | uses hbecomes =>
      obtain ⟨init, response, hanswered, hreplied⟩ := h
      exact ⟨init, response, hanswered, hreplied.becomes hbecomes⟩

omit [Profile] in
/-- The initiator on its own. -/
theorem Matching.rests_first (h : Matching answered keys psk first.state state)
    (hrests : first.state.Rests first'.state) (hkeeps : first.KeepsRekey first') :
    Matching answered keys psk first'.state state := by
  intro ti tr sid sid' pending rehandshake hfirst hsecond
  obtain ⟨ti₀, pending₀, hfirst₀, hbecomes⟩ : ∃ ti₀ pending₀,
      first.state = .ready ti₀ sid pending₀ ∧ ti₀.Becomes ti := by
    rw [hfirst] at hrests
    generalize first.state = before at hrests
    cases hrests with
    | same => exact ⟨ti, pending, rfl, ReflTransGen.refl⟩
    | uses hbecomes => exact ⟨_, _, rfl, hbecomes⟩
  rcases h ti₀ tr sid sid' pending₀ rehandshake hfirst₀ hsecond with
    ⟨r, hr, init, response, hanswered, hbegan⟩ | hsame
  · obtain ⟨r', hr', hinitiator⟩ := hkeeps r (by rw [hfirst₀]; exact hr)
    rw [hfirst] at hr'
    exact .inl ⟨r', hr', init, response, hanswered, hinitiator ▸ hbegan⟩
  · exact .inr (hsame.becomes hbecomes ReflTransGen.refl)

omit [Profile] in
/-- The responder on its own. -/
theorem Matching.rests_second (h : Matching answered keys psk state second.state)
    (hrests : second.state.Rests second'.state) :
    Matching answered keys psk state second'.state := by
  intro ti tr sid sid' pending rehandshake hfirst hsecond
  obtain ⟨tr₀, rehandshake₀, hsecond₀, hbecomes⟩ : ∃ tr₀ rehandshake₀,
      second.state = .ready tr₀ sid' rehandshake₀ ∧ tr₀.Becomes tr := by
    rw [hsecond] at hrests
    generalize second.state = before at hrests
    cases hrests with
    | same => exact ⟨tr, rehandshake, rfl, ReflTransGen.refl⟩
    | uses hbecomes => exact ⟨_, _, rfl, hbecomes⟩
  rcases h ti tr₀ sid sid' pending rehandshake₀ hfirst hsecond₀ with hpending | hsame
  · exact .inl hpending
  · exact .inr (hsame.becomes ReflTransGen.refl hbecomes)

/-- The initiator given a message that comes in order. -/
theorem Matching.given_first (h : Matching answered keys psk first.state second.state)
    (hlast : HoldsLast answered (keys false) psk second.state)
    (hchange : StateChange (keys true) env rng first.config (some message) first.state state')
    (hunasked : ∀ pkt responder pub reply state, message.initPkt? = some pkt →
      first.Consults (keys true) env responder →
      (responder.setCurrentTime env.tai).Answers pkt rng pub reply state →
      second.state.isReady = false)
    (haccepted : ∀ pkt, message = .response pkt → ∀ initiator inner,
      first.state.awaiting = some initiator → initiator.Accepts pkt inner →
      ∃ init, answered = some (init, pkt) ∧
        initiator.Began (keys true) (keys false).public psk init)
    (hrefused : ∀ pkt, message = .response pkt → responseSize ≤ pkt.length →
      ∀ r ∈ first.state.pending, (∀ inner, ¬ r.initiator.Accepts pkt inner) →
      ∀ init response, answered = some (init, response) →
        ¬ r.initiator.Began (keys true) (keys false).public psk init) :
    Matching answered keys psk state' second.state := by
  intro ti tr sid sid' pending rehandshake hfirst hsecond
  have hready : second.state.isReady = true := by
    rw [hsecond]
    rfl
  -- The handshake that an accepted RESPONSE completes is the one of the responder's transport.
  have hcompletes : ∀ {pkt initiator inner}, message = .response pkt →
      first.state.awaiting = some initiator → initiator.Accepts pkt inner →
      SameHandshake (Transport.new inner initiator.senderId) tr := by
    intro pkt initiator inner hresponse hawaits haccepts
    obtain ⟨init, hanswered, hbegan⟩ := haccepted pkt hresponse initiator inner hawaits haccepts
    rw [hsecond] at hlast
    obtain ⟨init', response, hanswered', hreplied⟩ := hlast
    cases hanswered.symm.trans hanswered'
    exact hbegan.same haccepts hreplied
  generalize hbefore : first.state = before at h hchange
  cases hchange with
  | keep => exact h ti tr sid sid' pending rehandshake hfirst hsecond
  | use _ huses =>
      cases hfirst
      refine (h _ _ _ _ _ _ rfl hsecond).imp_right fun hsame => ?_
      exact hsame.becomes (ReflTransGen.single huses) ReflTransGen.refl
  | accept hpkt hyields =>
      obtain ⟨pub, reply, state, inner, hanswers, -, -⟩ := hyields
      have hnot := hunasked _ _ pub reply state hpkt (.inl hbefore) hanswers
      rw [hready] at hnot
      cases hnot
  | replace hnew hyields =>
      obtain ⟨pub, reply, state, inner, hanswers, -, -⟩ := hyields
      have hisReady : first.state.isReady = true := by
        rw [hbefore]
        rfl
      have hnot := hunasked _ _ pub reply state rfl (.inr ⟨hisReady, hnew⟩) hanswers
      rw [hready] at hnot
      cases hnot
  | complete haccepts =>
      cases hfirst
      exact .inr (hcompletes rfl (by rw [hbefore]; rfl) haccepts)
  | completeRekey haccepts =>
      cases hfirst
      exact .inr (hcompletes rfl (by rw [hbefore]; rfl) haccepts)
  | abort hlen hnot =>
      cases hfirst
      rcases h _ _ _ _ _ _ rfl hsecond with ⟨r, hr, init, response, hanswered, hbegan⟩ | hsame
      · cases hr
        exact absurd hbegan
          (hrefused _ rfl hlen _ (by rw [hbefore]; rfl) hnot init response hanswered)
      · exact .inr hsame
  | renew _ _ | spend _ _ | exhaust _ _ | lose _ _ _ | discard _ _ _ => cases hfirst

/-- The responder given a RESPONSE. It has no rekey in flight that the RESPONSE could complete. -/
theorem HoldsLast.given_response {pkt : Bytes} {config : PeerConfig} {before : PeerState}
    (hlast : HoldsLast answered (keys false) psk state)
    (h : Matching answered keys psk before state)
    (hidle : state.pending = none)
    (hchange : StateChange keypair env rng config (some (.response pkt)) state state') :
    HoldsLast answered (keys false) psk state' ∧ Matching answered keys psk before state' := by
  cases hchange with
  | keep => exact ⟨hlast, h⟩
  | use hm _ => exact (hm _ rfl).elim
  | complete _ => exact hlast.elim
  | completeRekey _ | abort _ _ => cases hidle
  | discard _ _ _ => exact ⟨trivial, fun _ _ _ _ _ _ _ hsecond => nomatch hsecond⟩
  | renew hpkt _ | spend hpkt _ | exhaust hpkt _ | accept hpkt _ | lose hpkt _ _ => cases hpkt

end Sessions

/-! ## One step -/

section Step

variable {next : TunnelManager} {peer : PeerSession} {message : Message} {datagram : Bytes}

/-- What the event of a side leaves of the pair. -/
theorem fire_cases (hfire : s.fire place side event = some s') :
    ∃ next, TunnelManager.fire (s.managers side) event = some next ∧
      s'.managers = Function.update s.managers side next ∧
      s'.answered = if side then s.answered else (s.answer place event next).or s.answered := by
  obtain ⟨next, hnext, rfl⟩ := Option.map_eq_some_iff.1 hfire
  exact ⟨next, hnext, rfl, rfl⟩

omit [Profile] in
/-- Only an incoming datagram gives a session a message. -/
theorem incoming_of_message {manager : TunnelManager} {idx : ℕ}
    (h : event.message manager idx = some message) :
    ∃ env source pkt, event = .incoming env source pkt := by
  cases event with
  | incoming env source pkt => exact ⟨env, source, pkt, rfl⟩
  | addPeer | retryInit | dispatchTunPacket | maintenance => cases h

omit [Profile] in
theorem answer_of_init {init datagram : Bytes} {dest : SocketAddr}
    (hmessage : event.message (s.managers false) (place false) = some message)
    (hinit : message.initPkt? = some init)
    (hsent : next.sent = (s.managers false).sent ++ [(dest, datagram)]) :
    s.answer place event next = some (init, payload datagram) := by
  rw [answer, hmessage, Option.bind_eq_bind, Option.bind_some, hinit, Option.bind_eq_bind,
    Option.bind_some, hsent, List.drop_left]
  rfl

omit [Profile] in
theorem answer_of_silent (hsent : next.sent = (s.managers false).sent) :
    s.answer place event next = none := by
  rw [answer, hsent, List.drop_length]
  cases event.message (s.managers false) (place false) with
  | none => rfl
  | some message =>
      rw [Option.bind_eq_bind, Option.bind_some]
      cases message.initPkt? <;> rfl

omit [Profile] in
theorem answer_of_noInit
    (h : (event.message (s.managers false) (place false)).bind Message.initPkt? = none) :
    s.answer place event next = none := by
  rw [answer]
  cases hmessage : event.message (s.managers false) (place false) with
  | none => rfl
  | some message =>
      rw [hmessage, Option.bind_some] at h
      rw [Option.bind_eq_bind, Option.bind_some, h]
      rfl

/-- The session of a party after an event. -/
theorem Party.moves (h : s.Party place keys psk side)
    (hfire : TunnelManager.fire (s.managers side) event = some next)
    (hpeer : s.session place side = some peer) :
    ∃ peer', next.peers[place side]? = some peer' ∧
      event.Moves (s.managers side) (place side) peer peer' :=
  TunnelManager.fire_session h.sound hfire hpeer

omit [Profile] in
/-- The configuration of the session. -/
theorem Party.config (h : s.Party place keys psk side) (hpeer : s.session place side = some peer) :
    peer.config.peerPub = (keys !side).public ∧ peer.config.psk = psk ∧
      peer.config.isInitiator = side ∧ peer.Valid := by
  obtain ⟨p, hp, hpub, hpsk, hinitiates⟩ := h.session
  cases hpeer.symm.trans hp
  exact ⟨hpub, hpsk, hinitiates, h.valid _ _ hpeer⟩

omit [Profile] in
/-- The responder has no rekey in flight. -/
theorem Party.idle (h : s.Party place keys psk false)
    (hpeer : s.session place false = some peer) : peer.state.pending = none := by
  obtain ⟨-, -, hinitiates, hvalid⟩ := h.config hpeer
  cases hpending : peer.state.pending with
  | none => rfl
  | some r =>
      obtain ⟨t, sid, hstate⟩ := PeerState.ready_of_pending hpending
      rw [PeerSession.Valid, hstate] at hvalid
      cases hinitiates.symm.trans (hvalid.2.2 r rfl).1

theorem Party.fire (h : ∀ side, s.Party place keys psk side)
    (hfire : s.fire place side event = some s') (side' : Bool) :
    s'.Party place keys psk side' := by
  obtain ⟨next, hnext, hmanagers, -⟩ := fire_cases hfire
  by_cases hside : side' = side
  · subst hside
    have hmanager : s'.managers side' = next := by rw [hmanagers, Function.update_self]
    have hadvances := TunnelManager.fire_advances (h side').sound hnext
    obtain ⟨peer, hpeer, hpub, hpsk, hinitiates⟩ := (h side').session
    obtain ⟨peer', hpeer', hmoves⟩ := (h side').moves hnext hpeer
    have hsame := hmoves.same
    refine ⟨?_, ?_, ?_, peer', ?_, ?_, ?_, ?_⟩
    · rw [hmanager]
      exact hadvances.sound
    · rw [hmanager]
      exact (h side').valid.fire (h side').sound hnext
    · rw [hmanager, hadvances.config]
      exact (h side').keypair
    · rw [Pair.session, hmanager]
      exact hpeer'
    · rw [hsame]
      exact hpub
    · rw [hsame]
      exact hpsk
    · rw [hsame]
      exact hinitiates
  · have hmanager : s'.managers side' = s.managers side' := by
      rw [hmanagers, Function.update_of_ne hside]
    obtain ⟨hsound, hvalid, hkeypair, hsession⟩ := h side'
    rw [Pair.session] at hsession
    rw [← hmanager] at hsound hvalid hkeypair hsession
    exact ⟨hsound, hvalid, hkeypair, hsession⟩

/-- An event of the initiator. -/
theorem Paired.fire_first (h : s.Paired place keys psk)
    (hfits : ∀ env source pkt peer message, event = .incoming env source pkt →
      s.session place true = some peer →
      event.message (s.managers true) (place true) = some message →
      s.Fits place true env source peer message)
    (hfire : s.fire place true event = some s') : s'.Paired place keys psk := by
  obtain ⟨next, hnext, hmanagers, hanswered⟩ := fire_cases hfire
  have hanswered : s'.answered = s.answered := hanswered
  have hfirst : s'.managers true = next := by rw [hmanagers, Function.update_self]
  have hsecond : s'.session place false = s.session place false := by
    rw [session, hmanagers, Function.update_of_ne (by decide)]
    rfl
  refine ⟨Party.fire h.party hfire, fun second hs => ?_, fun first' second hf hs => ?_⟩
  · rw [hanswered]
    exact h.last second (hsecond ▸ hs)
  · rw [hsecond] at hs
    rw [session, hfirst] at hf
    rw [hanswered]
    obtain ⟨first, hold, -⟩ := (h.party true).session
    obtain ⟨hpub, hpsk, -, -⟩ := (h.party true).config hold
    obtain ⟨peer', hpeer', hmoves⟩ := (h.party true).moves hnext hold
    cases hf.symm.trans hpeer'
    -- The other side is as it was, so only the match between the two sides has to be kept.
    have hmatching := h.same first second hold hs
    cases hmessage : event.message (s.managers true) (place true) with
    | none =>
        refine hmatching.rests_first (hmoves.rests ?_ ?_) ?_
        · rw [hmessage]
          rfl
        · rw [hmessage]
          exact nofun
        · exact TunnelManager.fire_keepsRekey (h.party true).sound hnext hmessage hold hf
    | some message =>
        obtain ⟨env, source, pkt, rfl⟩ := incoming_of_message hmessage
        have hfit := hfits env source pkt first message rfl hold hmessage
        unfold TunnelManager.Event.Moves at hmoves
        rw [hmessage] at hmoves
        have hchange := hmoves.state
        rw [(h.party true).keypair] at hchange
        refine hmatching.given_first (h.last second hs) hchange
          (fun init responder pub reply state hinit hconsults hanswers => ?_)
          (fun response hresponse initiator inner hawaits haccepts => ?_)
          (fun response hresponse hlen r hr hnot init last hlast => ?_)
        · rw [← (h.party true).keypair] at hconsults
          exact hfit.unasked rfl init responder pub reply state hinit hconsults hanswers second hs
        · have hlast := hfit.accepted rfl response hresponse initiator inner hawaits haccepts
          rw [(h.party true).keypair, hpub, hpsk] at hlast
          exact hlast
        · have hfresh := hfit.refused rfl response hresponse hlen r hr hnot init last hlast
          rw [(h.party true).keypair, hpub, hpsk] at hfresh
          exact hfresh

/-- An event of the responder. -/
theorem Paired.fire_second (builds : ResponderBuilds) (once : RepliesOnce)
    (h : s.Paired place keys psk)
    (hfits : ∀ env source pkt peer message, event = .incoming env source pkt →
      s.session place false = some peer →
      event.message (s.managers false) (place false) = some message →
      s.Fits place false env source peer message)
    (hfire : s.fire place false event = some s') : s'.Paired place keys psk := by
  obtain ⟨next, hnext, hmanagers, hanswered⟩ := fire_cases hfire
  have hanswered : s'.answered = (s.answer place event next).or s.answered := hanswered
  have hmanager : s'.managers false = next := by rw [hmanagers, Function.update_self]
  have hfirst : s'.session place true = s.session place true := by
    rw [session, hmanagers, Function.update_of_ne (by decide)]
    rfl
  obtain ⟨second, hsecond, -⟩ := (h.party false).session
  obtain ⟨first, hf, -⟩ := (h.party true).session
  obtain ⟨second', hsecond', hmoves⟩ := (h.party false).moves hnext hsecond
  have hlast := h.last second hsecond
  have hmatching := h.same first second hf hsecond
  -- Only the session of this side changes: what it answered last, and its match with the other.
  suffices hboth : HoldsLast s'.answered (keys false) psk second'.state ∧
      Matching s'.answered keys psk first.state second'.state by
    refine ⟨Party.fire h.party hfire, fun p hp => ?_, fun p q hp hq => ?_⟩
    · rw [session, hmanager] at hp
      cases hp.symm.trans hsecond'
      exact hboth.1
    · rw [session, hmanager] at hq
      rw [hfirst] at hp
      cases hq.symm.trans hsecond'
      cases hp.symm.trans hf
      exact hboth.2
  cases hinit : (event.message (s.managers false) (place false)).bind Message.initPkt? with
  | none =>
      rw [answer_of_noInit hinit, Option.none_or] at hanswered
      rw [hanswered]
      by_cases hresponse : ∃ pkt,
          event.message (s.managers false) (place false) = some (.response pkt)
      · obtain ⟨pkt, hmessage⟩ := hresponse
        unfold TunnelManager.Event.Moves at hmoves
        rw [hmessage] at hmoves
        exact hlast.given_response hmatching ((h.party false).idle hsecond) hmoves.state
      · have hrests := hmoves.rests hinit fun pkt hmessage => hresponse ⟨pkt, hmessage⟩
        exact ⟨hlast.rests hrests, hmatching.rests_second hrests⟩
  | some init =>
      obtain ⟨message, hmessage, hpkt⟩ := Option.bind_eq_some_iff.1 hinit
      obtain ⟨env, source, pkt, rfl⟩ := incoming_of_message hmessage
      have hfit := hfits env source pkt second message rfl hsecond hmessage
      obtain ⟨-, hpsk, -, -⟩ := (h.party false).config hsecond
      have hkeypair := (h.party false).keypair
      have hresponds : second.Responds (s.managers false).config.localKeypair := by
        intro responder hstate
        rw [hstate] at hlast
        rw [hkeypair, hpsk]
        exact hlast
      -- An INIT is the only message that can change what was answered last.
      have htook := TunnelManager.incoming_took builds once (h.party false).sound hnext hmessage
        hpkt hsecond hsecond' hresponds
      generalize hafter : second'.state = after at htook
      generalize hsent : next.sent = sent at htook
      cases htook with
      | refused hstays =>
          rw [answer_of_silent hsent, Option.none_or] at hanswered
          rw [hanswered]
          rcases hstays with rfl | ⟨responder, rfl, hresponder⟩
          · exact ⟨hlast, hmatching⟩
          · rw [hkeypair, hpsk] at hresponder
            exact ⟨hresponder, fun _ _ _ _ _ _ _ hready => nomatch hready⟩
      | answered hanswers hbecomes =>
          rw [answer_of_init hmessage hpkt hsent, Option.some_or] at hanswered
          rw [hanswered]
          rcases hbecomes with rfl | ⟨t, sid, rehandshake, rfl, hreplied⟩
          · exact ⟨trivial, fun _ _ _ _ _ _ _ hready => nomatch hready⟩
          · rw [hkeypair, hpsk] at hreplied
            refine ⟨⟨init, _, rfl, hreplied⟩, fun ti _ _ _ pending _ hready _ => .inl ?_⟩
            have hisReady : first.state.isReady = true := by
              rw [hready]
              rfl
            obtain ⟨r, hr, hbegan⟩ := hfit.rekeys rfl init hpkt hanswers first hf hisReady
            obtain ⟨hpub, hpsk', -, -⟩ := (h.party true).config hf
            rw [hready] at hr
            have hbegan : r.initiator.Began (s.managers true).config.localKeypair
              first.config.peerPub first.config.psk init := hbegan
            rw [(h.party true).keypair, hpub, hpsk'] at hbegan
            exact ⟨r, hr, init, _, rfl, hbegan⟩

omit [Profile] in
/-- The network alone changes nothing. -/
theorem Paired.network (h : s.Paired place keys psk) (flight : Bool → List Bytes) :
    Paired place keys psk { s with flight } :=
  ⟨fun side => ⟨(h.party side).sound, (h.party side).valid, (h.party side).keypair,
    (h.party side).session⟩, h.last, h.same⟩

/-- An event of a side. -/
theorem Paired.fire (builds : ResponderBuilds) (once : RepliesOnce) (h : s.Paired place keys psk)
    (hfits : ∀ env source pkt peer message, event = .incoming env source pkt →
      s.session place side = some peer →
      event.message (s.managers side) (place side) = some message →
      s.Fits place side env source peer message)
    (hfire : s.fire place side event = some s') : s'.Paired place keys psk := by
  cases side with
  | true => exact h.fire_first hfits hfire
  | false => exact h.fire_second builds once hfits hfire

/-- Every action that comes in order keeps the pair together. -/
theorem Paired.step (builds : ResponderBuilds) (once : RepliesOnce) {action : Action}
    (h : s.Paired place keys psk) (horderly : s.Orderly place action)
    (hstep : s.step place action = some s') : s'.Paired place keys psk := by
  cases action with
  | own side event =>
      rw [Pair.step] at hstep
      split at hstep
      · next hown =>
          refine h.fire builds once (fun env source pkt _ _ heq _ _ => ?_) hstep
          rw [heq] at hown
          cases hown
      · cases hstep
  | deliver side n env source =>
      obtain ⟨datagram, hdatagram, hfire⟩ := Option.bind_eq_some_iff.1 hstep
      refine (h.network _).fire builds once (fun env source pkt peer message heq hp hm => ?_) hfire
      cases heq
      obtain ⟨hunasked, hrekeys, haccepted, hrefused⟩ :=
        horderly datagram peer message hdatagram hp hm
      exact ⟨hunasked, hrekeys, haccepted, hrefused⟩
  | lose side n =>
      rw [Pair.step] at hstep
      split at hstep
      · cases hstep
        exact h.network _
      · cases hstep
  | copy side n =>
      obtain ⟨datagram, -, rfl⟩ := Option.map_eq_some_iff.1 hstep
      exact h.network _

end Step

/-! ## Runs -/

omit [Profile] in
/-- Managers that are configured for each other are parties. -/
theorem Configured.party (h : s.Configured place keys psk) (side : Bool) :
    s.Party place keys psk side := by
  obtain ⟨env, config, configs, hnew, hkeys⟩ := h.made side
  obtain ⟨hconfig, hsound, hmade⟩ := TunnelManager.new_spec hnew
  refine ⟨hsound, fun i p hp => ?_, hconfig.symm ▸ hkeys, h.session side⟩
  obtain ⟨peerConfig, hp⟩ := hmade hp
  exact TunnelManager.newSession_valid hp

omit [Profile] in
/-- The pair starts together. -/
theorem Configured.paired (h : s.Configured place keys psk) : s.Paired place keys psk := by
  have hnotReady : ∀ second, s.session place false = some second →
      ∃ responder, second.state = .handshakingAsResponder responder ∧
        responder.AtStart (keys false) psk := by
    intro second hs
    obtain ⟨-, hpsk, hinitiates, hvalid⟩ := (h.party false).config hs
    obtain ⟨env, config, configs, hnew, hkeys⟩ := h.made false
    obtain ⟨-, -, hmade⟩ := TunnelManager.new_spec hnew
    obtain ⟨peerConfig, hsession⟩ := hmade hs
    obtain ⟨rfl, -, -, ⟨initiator, -, hstate⟩ | ⟨responder, hmake, hstate⟩⟩ :=
      TunnelManager.newSession_spec hsession
    · rw [PeerSession.Valid, hstate] at hvalid
      cases hinitiates.symm.trans hvalid.1
    · rw [hkeys, hpsk] at hmake
      exact ⟨responder, hstate, Responder.atStart_of_new hmake⟩
  refine ⟨h.party, fun second hs => ?_, fun first second _ hs => ?_⟩
  · obtain ⟨responder, hstate, hatStart⟩ := hnotReady second hs
    rw [hstate]
    exact .inl hatStart
  · obtain ⟨responder, hstate, -⟩ := hnotReady second hs
    intro ti tr sid sid' pending rehandshake _ hsecond
    cases hstate.symm.trans hsecond

omit [Profile] in
theorem Paired.agrees (handshake : HandshakeLaws) (laws : TransportLaws)
    (h : s.Paired place keys psk) : s.Agrees place := by
  intro first second ti tr sid sid' rehandshake hf hs hfirst hsecond
  rcases h.same first second hf hs ti tr sid sid' none rehandshake hfirst hsecond with
    ⟨r, hr, -⟩ | hsame
  · cases hr
  · exact ⟨hsame, hsame.keys handshake laws⟩

/-- Two managers that are configured for each other agree in every state of every run whose messages
come in order, whatever is in the network. -/
theorem orderly_runs_agree (builds : ResponderBuilds) (once : RepliesOnce)
    (handshake : HandshakeLaws) (laws : TransportLaws) {start : Pair} {actions : List Action}
    (hstart : start.Configured place keys psk)
    (hgood : Transition.AllSteps (step place) (Orderly place) start actions)
    (hrun : Transition.exec (step place) start actions = some s) : s.Agrees place := by
  have hpaired : s.Paired place keys psk := Transition.invariant
    (fun _ _ _ hpaired horderly hstep => hpaired.step builds once horderly hstep) hstart.paired
    hgood hrun
  exact hpaired.agrees handshake laws

end Pair

end General

/-! ## Two nodes -/

section Symbolic

open Symbolic TunnelManager

attribute [local instance] Symbolic.primitives Symbolic.release

namespace Pair

/-- The nodes 1 and 2, before any datagram. -/
def twoNodes : Option Pair := do
  let first ← (new (quietEnv 0 ⟨1000, 0⟩ 7) (nodeConfig 1) [sessionWith 2 true]).toOption
  let second ← (new (quietEnv 0 ⟨1000, 0⟩ 7) (nodeConfig 2) [sessionWith 1 false]).toOption
  some ⟨fun side => if side then first else second, fun _ => [], none⟩

/-- The key pairs of the two nodes. -/
def nodeKeys (side : Bool) : Keypair := keypair (if side then 1 else 2)

/-- The session of a side is for the other node. -/
def isForOther (s : Pair) (side : Bool) : Bool :=
  (s.session (fun _ => 0) side).any fun peer =>
    decide (peer.config.peerPub = (nodeKeys !side).public) && decide (peer.config.psk = key 0) &&
      decide (peer.config.isInitiator = side)

theorem configured_of_twoNodes {s : Pair} (h : twoNodes = some s)
    (hcheck : (s.isForOther true && s.isForOther false) = true) :
    s.Configured (fun _ => 0) nodeKeys (key 0) := by
  have hsession : ∀ side, s.isForOther side = true := by
    rw [Bool.and_eq_true] at hcheck
    intro side
    cases side with
    | true => exact hcheck.1
    | false => exact hcheck.2
  simp only [twoNodes, bind, Option.bind_eq_some_iff, Option.some.injEq] at h
  obtain ⟨first, hfirst, second, hsecond, rfl⟩ := h
  refine ⟨fun side => ?_, fun side => ?_, fun _ => rfl, rfl⟩
  · cases side with
    | true => exact ⟨_, _, _, ok_of_toOption hfirst, rfl⟩
    | false => exact ⟨_, _, _, ok_of_toOption hsecond, rfl⟩
  · obtain ⟨peer, hpeer, hfor⟩ := (Option.any_eq_true _ _).1 (hsession side)
    simp only [Bool.and_eq_true, decide_eq_true_eq] at hfor
    exact ⟨peer, hpeer, hfor.1.1, hfor.1.2, hfor.2⟩

/-- A handshake without a loss: the first node sends its INIT and gets the RESPONSE. -/
def handshakeRun : List Action :=
  [.own true (.retryInit (quietEnv 0 ⟨1000, 0⟩ 7) 0),
    .deliver false 0 (quietEnv 0 ⟨1000, 0⟩ 7) (address 1),
    .deliver true 0 (quietEnv 0 ⟨1000, 0⟩ 7) (address 2)]

/-- What is evaluated about an initiator that waits with an INIT. -/
def hasBegun (keypair : Keypair) (config : PeerConfig) (rng : UInt8) (stamp : Tai64N)
    (initiator : Initiator) (init : Bytes) : Bool :=
  match (initiator.state : Handshake) with
  | .initiatorSent first remotePub =>
      decide (first = Responder.noiseInit init) && decide (remotePub = config.peerPub) &&
        decide (first = firstMessage keypair.secret config.peerPub config.psk rng
          stamp.toBytes.val)
  | _ => false

theorem began_of_hasBegun {keypair : Keypair} {config : PeerConfig} {rng : UInt8} {stamp : Tai64N}
    {initiator : Initiator} {init : Bytes}
    (h : hasBegun keypair config rng stamp initiator init = true) :
    initiator.Began keypair config.peerPub config.psk init := by
  rw [hasBegun] at h
  split at h
  · rename_i first remotePub hstate
    simp only [Bool.and_eq_true, decide_eq_true_eq] at h
    obtain ⟨⟨hinit, hpub⟩, hfirst⟩ := h
    refine ⟨.initiatorStart keypair.secret config.peerPub config.psk, rng, stamp.toBytes.val,
      rfl, ?_⟩
    have hwrite := write_first_ok keypair.secret config.peerPub config.psk rng
      stamp.toBytes.length_eq
    rw [← hfirst] at hwrite
    rw [hstate, ← hinit, hpub]
    exact hwrite
  · cases h

/-- What is evaluated about an action of the run. -/
def isOrderly (s : Pair) : Action → Bool
  | .deliver side n env source =>
      match (s.flight side)[n]?, s.session (fun _ => 0) side with
      | some datagram, some peer =>
          match (Event.incoming env source datagram).message (s.managers side) 0 with
          | none => true
          | some message =>
              match side, message, peer.state with
              | false, _, _ =>
                  (s.session (fun _ => 0) true).all fun other => !other.state.isReady
              | true, .response pkt, .handshakingAsInitiator initiator =>
                  s.answered.any fun answer => decide (answer.2 = pkt) &&
                    hasBegun (s.managers true).config.localKeypair peer.config 7 ⟨1000, 0⟩ initiator
                      answer.1
              | _, _, _ => false
      | _, _ => true
  | _ => true

theorem orderly_of_isOrderly (s : Pair) (action : Action) (h : s.isOrderly action = true) :
    s.Orderly (fun _ => 0) action := by
  cases action with
  | own | lose | copy => trivial
  | deliver side n env source =>
      intro datagram peer message hdatagram hpeer hmessage
      simp only [isOrderly, hdatagram, hpeer, hmessage] at h
      split at h
      · refine ⟨nofun, fun _ pkt _ _ other hother hready => ?_, nofun, nofun⟩
        rw [hother, Option.all_some, hready] at h
        cases h
      · rename_i pkt initiator hstate
        obtain ⟨⟨init, response⟩, hanswered, hbegun⟩ := (Option.any_eq_true _ _).1 h
        simp only [Bool.and_eq_true, decide_eq_true_eq] at hbegun
        obtain ⟨rfl, hbegun⟩ := hbegun
        refine ⟨fun _ _ _ _ _ _ hinit => (nomatch hinit), nofun,
          fun _ pkt hpkt initiator inner hawaits _ => ?_, fun _ _ _ _ r hr => ?_⟩
        · cases hpkt
          rw [hstate] at hawaits
          cases hawaits
          exact ⟨init, hanswered, began_of_hasBegun hbegun⟩
        · rw [hstate] at hr
          cases hr
      · cases h

/-- What is evaluated about a pair whose sessions are both ready. -/
def isUp (s : Pair) : Bool :=
  (s.session (fun _ => 0) true).any (fun peer => peer.state.isReady) &&
    (s.session (fun _ => 0) false).any fun peer => peer.state.isReady

/-- The two nodes agree after a handshake without a loss. -/
theorem handshake_run_agrees : ∃ start s : Pair,
    start.Configured (fun _ => 0) nodeKeys (key 0) ∧
      Transition.exec (step fun _ => 0) start handshakeRun = some s ∧ s.isUp = true ∧
      s.Agrees fun _ => 0 := by
  have hcheck : twoNodes.any (fun start => (start.isForOther true && start.isForOther false) &&
      (decide (Transition.AllSteps (step fun _ => 0) (fun s action => s.isOrderly action = true)
        start handshakeRun) &&
      (Transition.exec (step fun _ => 0) start handshakeRun).any isUp)) = true := by
    decide +kernel
  obtain ⟨start, hstart, hcheck⟩ := (Option.any_eq_true _ _).1 hcheck
  obtain ⟨hfor, hcheck⟩ := Bool.and_eq_true_iff.1 hcheck
  obtain ⟨hgood, hcheck⟩ := Bool.and_eq_true_iff.1 hcheck
  obtain ⟨s, hrun, hup⟩ := (Option.any_eq_true _ _).1 hcheck
  have hconfigured := configured_of_twoNodes hstart hfor
  exact ⟨start, s, hconfigured, hrun, hup, orderly_runs_agree responder_builds replies_once
    handshake_laws transport_laws hconfigured
    ((of_decide_eq_true hgood).mono orderly_of_isOrderly) hrun⟩

/-- The first node sends its INIT again after two seconds, since both copies are late. The RESPONSE
to the second one is lost. -/
def lateRun : List Action :=
  [.own true (.retryInit (quietEnv 0 ⟨1000, 0⟩ 7) 0),
    .own true (.retryInit (quietEnv (2 * second) ⟨1002, 0⟩ 7) 0),
    .deliver false 0 (quietEnv (2 * second) ⟨1002, 0⟩ 7) (address 1),
    .deliver true 0 (quietEnv (2 * second) ⟨1002, 0⟩ 7) (address 2),
    .deliver false 0 (quietEnv (2 * second) ⟨1002, 0⟩ 8) (address 1), .lose true 0]

/-- What is evaluated about a pair whose transports come from two handshakes. -/
def isSplit (s : Pair) : Bool :=
  match s.session (fun _ => 0) true, s.session (fun _ => 0) false with
  | some first, some second =>
      match first.state, second.state with
      | .ready ti _ none, .ready tr _ _ =>
          decide (directionKey ti.inner (Channel.isInitiator ti.inner) ≠
              directionKey tr.inner !(Channel.isInitiator tr.inner)) &&
            (s.flight true).isEmpty && (s.flight false).isEmpty
      | _, _ => false
  | _, _ => false

/-- The INIT that was sent again reaches the responder after the handshake and makes it take another
transport. When its RESPONSE is lost, both sessions are ready, nothing is on its way, and neither
opens what the other one seals. -/
theorem late_init_splits : ∃ start s : Pair,
    start.Configured (fun _ => 0) nodeKeys (key 0) ∧
      Transition.exec (step fun _ => 0) start lateRun = some s ∧ s.Quiet ∧
      ¬ s.Agrees fun _ => 0 := by
  have hcheck : twoNodes.any (fun start => start.isForOther true && start.isForOther false &&
      (Transition.exec (step fun _ => 0) start lateRun).any isSplit) = true := by
    decide +kernel
  obtain ⟨start, hstart, hcheck⟩ := (Option.any_eq_true _ _).1 hcheck
  rw [Bool.and_eq_true] at hcheck
  obtain ⟨s, hrun, hsplit⟩ := (Option.any_eq_true _ _).1 hcheck.2
  refine ⟨start, s, configured_of_twoNodes hstart hcheck.1, hrun, ?_⟩
  rw [isSplit] at hsplit
  split at hsplit
  · rename_i first second hf hs
    split at hsplit
    · rename_i ti sid tr sid' rehandshake hfirst hsecond
      simp only [Bool.and_eq_true, decide_eq_true_eq, List.isEmpty_iff] at hsplit
      obtain ⟨⟨hkeys, hempty⟩, hempty'⟩ := hsplit
      refine ⟨fun side datagram hmem => ?_, fun hagrees => ?_⟩
      · cases side with
        | true => cases hempty ▸ hmem
        | false => cases hempty' ▸ hmem
      · exact hkeys (hagrees first second ti tr sid sid' rehandshake hf hs hfirst hsecond).2.1
    · cases hsplit
  · cases hsplit

end Pair

end Symbolic

end Naboscale
