import Naboscale.Tunnel.Parties

/-!
# What a RESPONSE does to a session that it does not complete

`handle_response` takes the pending handshake out of the session before it looks at the packet.
Only its length check comes first, so every longer RESPONSE that is not accepted costs the
session its handshake, or the session itself.
-/

namespace Naboscale

open Rust

section State

variable [Primitives]

/-- The postcondition that the state is as before exactly if the RESPONSE is too short to be
looked at, or the session was lost already. -/
def SparesIffShort (state : PeerState) (pkt : Bytes) :
    Method.Post Session TunnelError Unit where
  ok _ self' := self'.peer.state = state ↔ pkt.length < responseSize ∨ state = .init
  err _ self' := self'.peer.state = state ↔ pkt.length < responseSize ∨ state = .init
  panic := False

/-- A RESPONSE that completes no handshake leaves the state of the session alone exactly if it
is shorter than a RESPONSE. -/
theorem Session.handleResponse_spares {self : Session} {env : Env} {pkt : Bytes}
    (h : ¬ self.peer.state.Completes pkt) :
    (Session.handleResponse env pkt).wp (SparesIffShort self.peer.state pkt) self := by
  have hchanged {state' : PeerState} (hlen : responseSize ≤ pkt.length)
      (hne : state' ≠ self.peer.state) (hinit : self.peer.state ≠ .init) :
      state' = self.peer.state ↔ pkt.length < responseSize ∨ self.peer.state = .init :=
    iff_of_false hne (not_or.2 ⟨not_lt.2 hlen, hinit⟩)
  refine Session.wp_handleResponse (fun hlen _ => iff_of_true rfl (Or.inl hlen))
    (fun initiator inner hstate haccepts => ?_)
    (fun transport sid rehandshake inner hstate haccepts => ?_)
    (fun transport sid rehandshake hlen hstate _ _ => hchanged hlen ?_ ?_)
    (fun initiator hlen hstate _ _ => hchanged hlen ?_ ?_) (fun hlen _ _ => ?_)
  · exact absurd (Or.inl ⟨initiator, inner, hstate, haccepts⟩) h
  · exact absurd (Or.inr ⟨transport, sid, rehandshake, inner, hstate, haccepts⟩) h
  · rw [hstate]
    exact fun heq => nomatch heq
  · rw [hstate]
    exact fun heq => nomatch heq
  · rw [hstate]
    exact fun heq => nomatch heq
  · rw [hstate]
    exact fun heq => nomatch heq
  · refine ⟨fun heq => Or.inr heq.symm, fun hor => ?_⟩
    exact (hor.resolve_left (not_lt.2 hlen)).symm

end State

namespace TunnelManager

section General

variable [Profile] [Primitives] {self : TunnelManager}

/-- A RESPONSE that reaches a session and completes none of its handshakes leaves its state
alone exactly if it is shorter than a RESPONSE. -/
theorem incoming_response_spares (hsound : self.Sound) (env : Env) {source : SocketAddr}
    {pkt response : Bytes} {idx : ℕ} {peer : PeerSession}
    (hroute : self.route source pkt = some (idx, .response response))
    (hpeer : self.peers[idx]? = some peer) (h : ¬ peer.state.Completes response) :
    ∃ self' peer', fire self (.incoming env source pkt) = some self' ∧
      self'.peers[idx]? = some peer' ∧
      (peer'.state = peer.state ↔ response.length < responseSize ∨ peer.state = .init) := by
  obtain ⟨p, noted, hp, hnoted, heq⟩ := handleIncoming_routed env hsound.wellFormed hroute
  cases hpeer.symm.trans hp
  obtain ⟨endpoint, hheard⟩ := hnoted.getElem?_self hpeer
  have hidx : idx < noted.peers.length := (List.getElem?_eq_some_iff.1 hheard).1
  have hwp : (Session.handleResponse env response).wp (SparesIffShort peer.state response)
      ⟨peer.heard env endpoint, noted.transport, noted.device⟩ :=
    Session.handleResponse_spares h
  have hfire : fire self (.incoming env source pkt) =
      (atPeer idx (Session.handleResponse env response) noted).state? := congrArg _ heq
  rw [hfire, atPeer_eq hheard]
  rw [Method.wp_def] at hwp
  cases hrun : Session.handleResponse env response
      ⟨peer.heard env endpoint, noted.transport, noted.device⟩ with
  | ok a session =>
      rw [hrun] at hwp
      exact ⟨_, session.peer, rfl, List.getElem?_set_self hidx, hwp⟩
  | err e session =>
      rw [hrun] at hwp
      exact ⟨_, session.peer, rfl, List.getElem?_set_self hidx, hwp⟩
  | panic =>
      rw [hrun] at hwp
      exact absurd hwp id

/-- Every RESPONSE of the event that completes no handshake of its session is shorter than a
RESPONSE. -/
def Harmless (self : TunnelManager) (event : Event) : Prop :=
  ∀ idx peer response, self.peers[idx]? = some peer →
    event.message self idx = some (.response response) → ¬ peer.state.Completes response →
    response.length < responseSize

/-- A move on a message that is no RESPONSE, or one that completes a handshake, or a short one,
does not lose the session. -/
theorem stateChange_ne_init (finishes : ResponderFinishes) {keypair : Keypair} {env : Env}
    {rng : Ephemeral} {config : PeerConfig} {message : Option Message} {state state' : PeerState}
    (h : StateChange keypair env rng config message state state')
    (hharmless : ∀ response, message = some (.response response) → ¬ state.Completes response →
      response.length < responseSize)
    (hstate : state ≠ .init) : state' ≠ .init := by
  cases h with
  | keep => exact hstate
  | lose _ hanswers hinto =>
      obtain ⟨_, _, hopens, hwrite⟩ := hanswers
      obtain ⟨_, hok⟩ := finishes _ _ _ _ _ _ _ _ _ _ hopens.read hwrite
      cases hinto.symm.trans hok
  | discard hlen hrejects => exact absurd (hharmless _ rfl hrejects) (not_lt.2 hlen)
  | _ => exact fun heq => nomatch heq

/-- Harmless events lose no session. -/
theorem kept_ne_init (finishes : ResponderFinishes) :
    Kept Harmless fun _ peer => peer.state ≠ .init where
  made {keypair env config peer} hnew := by
    obtain ⟨_, _, _, ⟨_, _, hstate⟩ | ⟨_, _, hstate⟩⟩ := newSession_spec hnew <;>
      exact hstate ▸ fun heq => nomatch heq
  given {self event idx message peer peer'} hgood hpeer hmessage hchange hstate := by
    refine stateChange_ne_init finishes hchange.state (fun response hresponse hnot => ?_) hstate
    cases hresponse
    exact hgood idx peer response hpeer hmessage hnot
  alone {keypair env rng peer peer'} hchange hstate :=
    stateChange_ne_init finishes hchange.state (fun _ hresponse => nomatch hresponse) hstate

/-- A RESPONSE that completes no handshake spares the session exactly if it is too short to be
looked at. So in a run in which all such RESPONSEs are too short, no session is ever lost to
`Init`. -/
theorem response_spares_iff_short (finishes : ResponderFinishes) :
    (∀ {self : TunnelManager}, self.Reachable → ∀ (env : Env) (source : SocketAddr)
      (pkt response : Bytes) (idx : ℕ) (peer : PeerSession),
      self.route source pkt = some (idx, .response response) → self.peers[idx]? = some peer →
      ¬ peer.state.Completes response →
      ∃ self' peer', fire self (.incoming env source pkt) = some self' ∧
        self'.peers[idx]? = some peer' ∧
        (peer'.state = peer.state ↔ response.length < responseSize ∨ peer.state = .init)) ∧
    ∀ {env : Env} {config : ManagerConfig} {peerCfgs : List PeerConfig}
      {start self : TunnelManager} {events : List Event},
      new env config peerCfgs = .ok start → Transition.AllSteps fire Harmless start events →
      Transition.exec fire start events = some self →
      ∀ (idx : ℕ) (peer : PeerSession), self.peers[idx]? = some peer → peer.state ≠ .init := by
  constructor
  · intro self hreachable env source pkt response idx peer hroute hpeer hnot
    exact incoming_response_spares hreachable.sound env hroute hpeer hnot
  · intro env config peerCfgs start self events hnew hharmless hrun
    exact ((kept_ne_init finishes).run hnew hharmless hrun).2

end General

section Symbolic

open Symbolic

attribute [local instance] Symbolic.primitives Symbolic.release

/-- Node 1 with a session that waits for the INIT of node 2. -/
def waiting : Option TunnelManager :=
  after (quietEnv 0 ⟨1000, 0⟩ 7) (nodeConfig 1) [sessionWith 2 false] []

/-- The session waits for an INIT. -/
def isWaiting (peer : PeerSession) : Bool :=
  match peer.state with
  | .handshakingAsResponder _ => true
  | _ => false

/-- A session that waits for an INIT has no handshake that a RESPONSE completes. -/
theorem not_completes_of_waiting {peer : PeerSession} (h : isWaiting peer = true)
    (pkt : Bytes) : ¬ peer.state.Completes pkt := by
  rintro (⟨initiator, _, hstate, _⟩ | ⟨_, _, _, _, hstate, _⟩) <;>
    rw [isWaiting, hstate] at h <;> cases h

/-- A session that waits for an INIT stays as it is when the type byte of a RESPONSE arrives. -/
theorem short_response_spares :
    ∃ (self self' : TunnelManager) (peer peer' : PeerSession), self.Reachable ∧
      fire self (.incoming (quietEnv 5 ⟨1000, 0⟩ 7) (address 2) [messageTypeResponse]) =
        some self' ∧
      self.peers[0]? = some peer ∧ self'.peers[0]? = some peer' ∧ peer'.state = peer.state := by
  have hrun : waiting.any (fun self => (self.peers[0]?.any isWaiting) &&
      decide (self.route (address 2) [messageTypeResponse] =
        some (0, .response [messageTypeResponse]))) = true := by
    decide +kernel
  obtain ⟨start, self, hnew, hrun, hcheck⟩ := of_after hrun
  obtain ⟨hpeer, hroute⟩ := Bool.and_eq_true_iff.1 hcheck
  obtain ⟨peer, hpeer, hwaiting⟩ := (Option.any_eq_true _ _).1 hpeer
  have hreachable := reachable_of_run hnew hrun
  obtain ⟨self', peer', hfire, hpeer', hiff⟩ :=
    (response_spares_iff_short responder_finishes).1 hreachable (quietEnv 5 ⟨1000, 0⟩ 7)
      (address 2) _ _ 0 peer (of_decide_eq_true hroute) hpeer (not_completes_of_waiting hwaiting _)
  exact ⟨self, self', peer, peer', hreachable, hfire, hpeer, hpeer', hiff.2 (Or.inl (by decide))⟩

/-- A RESPONSE of 92 bytes that nobody waits for takes a session that waits for an INIT to
`Init`. -/
theorem stray_response_loses_session :
    ∃ (self self' : TunnelManager) (peer peer' : PeerSession) (response : Bytes),
      self.Reachable ∧ response[0]? = some messageTypeResponse ∧
      fire self (.incoming (quietEnv 5 ⟨1000, 0⟩ 7) (address 2) response) = some self' ∧
      self.peers[0]? = some peer ∧ self'.peers[0]? = some peer' ∧
      ¬ peer.state.Completes response ∧ peer'.state ≠ peer.state ∧ peer'.state = .init := by
  let response : Bytes := messageTypeResponse :: List.replicate 91 0
  have hrun : waiting.any (fun self => (self.peers[0]?.any isWaiting) &&
      ((fire self (.incoming (quietEnv 5 ⟨1000, 0⟩ 7) (address 2) response)).any fun self' =>
        self'.peers[0]?.any fun peer => match peer.state with
          | .init => true
          | _ => false)) = true := by
    decide +kernel
  obtain ⟨start, self, hnew, hrun, hcheck⟩ := of_after hrun
  obtain ⟨hpeer, hfire⟩ := Bool.and_eq_true_iff.1 hcheck
  obtain ⟨peer, hpeer, hwaiting⟩ := (Option.any_eq_true _ _).1 hpeer
  obtain ⟨self', hfire, hpeer'⟩ := (Option.any_eq_true _ _).1 hfire
  obtain ⟨peer', hpeer', hinit⟩ := (Option.any_eq_true _ _).1 hpeer'
  have hinit : peer'.state = .init := by
    cases hstate : peer'.state <;> rw [hstate] at hinit <;> first | rfl | cases hinit
  have hne : peer'.state ≠ peer.state := by
    rw [hinit]
    intro heq
    rw [isWaiting, ← heq] at hwaiting
    cases hwaiting
  exact ⟨self, self', peer, peer', response, reachable_of_run hnew hrun, rfl, hfire, hpeer, hpeer',
    not_completes_of_waiting hwaiting _, hne, hinit⟩

end Symbolic

end TunnelManager

end Naboscale
