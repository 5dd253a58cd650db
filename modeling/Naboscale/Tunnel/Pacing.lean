import Naboscale.Marks
import Naboscale.Tunnel.Freshness
import Naboscale.Tunnel.Parties

/-!
# The pace of the INITs

The INIT pass of `step` sends the INIT of a session when it is due and puts the next one off by
`INIT_RETRY_INTERVAL`. Nothing else that happens to a manager brings the next one forward, but for a
COOKIE of the peer, which `handle_cookie` answers with an INIT at once.
-/

namespace Naboscale

open Rust Method Transition

namespace TunnelManager

/-- What a run has to tell about the INITs of a session. -/
inductive InitMark where
  | sent (now : Instant)
  | cookie
  deriving DecidableEq

/-- Two INITs with no COOKIE between them are as far apart as the retry interval asks. -/
def InitMark.Spaced : InitMark → InitMark → Prop
  | .sent before, .sent now => before + initRetryInterval ≤ now
  | _, _ => True

end TunnelManager

section General

variable [Profile] [Primitives]

namespace Session

variable {self : Session} {env : Env} {keypair : Keypair} {rng : Ephemeral} {source : SocketAddr}

/-- What the INIT pass does: either it sends nothing and brings nothing forward, or an INIT was due
and the next one is put off. -/
inductive Retried (env : Env) (self self' : Session) : Prop where
  | idle : self'.sent.length = self.sent.length →
      (∀ due, self'.peer.nextInitAt = some due → self.peer.nextInitAt = some due) →
      Retried env self self'
  | again {due : Instant} : self.peer.nextInitAt = some due → due ≤ env.now →
      self.sent.length < self'.sent.length →
      self'.peer.nextInitAt = some (env.now + initRetryInterval) → Retried env self self'

omit [Profile] in
/-- A message is sent as one datagram. -/
theorem wp_sendMaybeRelay_sent {Q : Method.Post Session TunnelError Unit} {config : PeerConfig}
    {fromPub : Key} {inner : Bytes}
    (hok : ∀ transport : UdpTransport, self.sent.length < transport.sent.length →
      Q.ok () { self with transport })
    (herr : ∀ e, Q.err e self) : (sendMaybeRelay env config fromPub inner).wp Q self := by
  have hsend (dest : SocketAddr) (buf : Bytes) : (sendTo env dest buf).wp Q self := by
    refine (wp_sendTo dest buf).2 ⟨fun _ => hok _ ?_, fun e _ => herr _⟩
    rw [List.length_append]
    exact Nat.lt_succ_self _
  unfold sendMaybeRelay
  cases config.viaRelay with
  | none => exact hsend _ _
  | some relay =>
      simp only
      rw [wrapRelay_eq, pure_bind]
      exact hsend _ _

omit [Profile] in
theorem retryInit_retried : (retryInit keypair env rng).wp
    ⟨fun _ s => Retried env self s, fun _ s => Retried env self s, True⟩ self := by
  unfold retryInit
  rw [wp_get_bind, wp_ite]
  refine ⟨fun hdue => ?_, fun _ => .idle rfl fun _ => id⟩
  obtain ⟨due, hnext, hpast⟩ := Option.any_eq_true _ _ |>.1 hdue
  have hpast : due ≤ env.now := of_decide_eq_true hpast
  cases self.peer.state with
  | handshakingAsInitiator initiator =>
      have hsends (msg : Bytes) (s : Session) (hsent : s.sent = self.sent)
          (hkept : s.peer.nextInitAt = self.peer.nextInitAt) :
          (do sendMaybeRelay env self.peer.config keypair.public msg
              modifyPeer fun peer => { peer with
                nextInitAt := some (env.now + initRetryInterval) } :
            Method Session TunnelError Unit).wp
            ⟨fun _ s => Retried env self s, fun _ s => Retried env self s, True⟩ s := by
        refine (wp_bind _ _).2 (wp_sendMaybeRelay_sent (fun transport hgrows => ?_) fun e => ?_)
        · exact .again hnext hpast (hsent ▸ hgrows) rfl
        · exact .idle (congrArg List.length hsent) fun due hs => hkept.symm.trans hs
      refine (wp_bind _ _).2 (wp_cacheInit (fun msg _ => ?_) (fun _ _ _ msg _ _ _ _ => ?_)
        fun _ _ _ _ _ => ?_)
      · exact hsends msg self rfl rfl
      · exact hsends msg _ rfl rfl
      · exact .idle rfl fun _ => id
  | init => exact .idle rfl fun _ hs => by cases hs
  | handshakingAsResponder responder => exact .idle rfl fun _ hs => by cases hs
  | ready transport sid rehandshake => exact .idle rfl fun _ hs => by cases hs

/-- Only a COOKIE changes when the next INIT is due. -/
theorem deliver_nextInitAt (keypair : Keypair) (cookieSecret : Key) (env : Env) (rng : Ephemeral)
    (source : SocketAddr) {message : Message}
    (hmessage : ∀ pkt, message = .cookie pkt → pkt.length < 24) :
    Keeps (fun self : Session => self.peer.nextInitAt)
      (deliver keypair cookieSecret env rng source message) := by
  have hfixed {α : Type} {handler : Method Session TunnelError α} (h : KeepsFixed handler) :
      Keeps (fun self : Session => self.peer.nextInitAt) handler :=
    h.comp PeerSession.nextInitAt
  cases message with
  | init pkt =>
      refine Keeps.bind ?_ fun handled => Keeps.ite (fun _ => keeps_pure _) fun _ =>
        hfixed keepsFixed_handleInit
      exact keeps_checkInitCookieWith PeerSession.nextInitAt (fun _ _ _ _ _ => rfl)
        (keeps_generateCookie cookieSecret)
  | relayedInit pkt => exact hfixed keepsFixed_handleInitViaRelay
  | response pkt => exact hfixed keepsFixed_handleResponse
  | transport pkt => exact hfixed keepsFixed_handleTransport
  | relayedTransport pkt => exact hfixed keepsFixed_handleRelayedTransport
  | cookie pkt =>
      have hshort : handleCookie env pkt = pure () := if_pos (hmessage pkt rfl)
      rw [deliver, hshort]
      exact keeps_pure _

end Session

namespace TunnelManager

variable {self self' : TunnelManager} {env : Env} {idx : ℕ}

/-- The mark that an event leaves for the INITs of a session: the INIT pass has sent the INIT, or
the session took a COOKIE. -/
def initMark (idx : ℕ) (self : TunnelManager) (event : Event) (self' : TunnelManager) :
    Option InitMark :=
  match event with
  | .retryInit env i =>
      if i = idx ∧ self.sent.length < self'.sent.length then some (.sent env.now) else none
  | .incoming env source pkt =>
      match (Event.incoming env source pkt).message self idx with
      | some (.cookie body) => if body.length < 24 then none else some .cookie
      | _ => none
  | _ => none

/-- After an INIT that was sent at the time `before` the next one is not due too early. -/
def Paced (idx : ℕ) (before : Instant) (self : TunnelManager) : Prop :=
  ∃ peer, self.peers[idx]? = some peer ∧
    ∀ due, peer.nextInitAt = some due → before + initRetryInterval ≤ due

omit [Profile] in
/-- The times at which INITs are due do not depend on what sending and maintenance change. -/
theorem steady_nextInitAt : Steady fun self => self.peers.map PeerSession.nextInitAt where
  handled idx h := keeps_atPeer (f := PeerSession.nextInitAt) idx (h.comp PeerSession.nextInitAt)
    fun _ _ _ _ hpeers => hpeers
  rotated env self := by
    unfold rotateCookieSecret
    split <;> rfl

omit [Profile] in
theorem Paced.of_same {before : Instant} (h : self.Paced idx before)
    (hsame : self'.peers.map PeerSession.nextInitAt = self.peers.map PeerSession.nextInitAt) :
    self'.Paced idx before := by
  obtain ⟨peer, hpeer, hdue⟩ := h
  have hget : (self'.peers.map PeerSession.nextInitAt)[idx]? = some peer.nextInitAt := by
    rw [hsame, List.getElem?_map, hpeer]
    rfl
  rw [List.getElem?_map] at hget
  obtain ⟨peer', hpeer', hnext⟩ := Option.map_eq_some_iff.1 hget
  exact ⟨peer', hpeer', fun due hs => hdue due (hnext.symm.trans hs)⟩

omit [Profile] in
/-- A change of sessions that brings no INIT of this session forward. -/
theorem Paced.evolves {before : Instant} (h : self.Paced idx before)
    (hevolves : Evolves (fun i p p' => i = idx →
      ∀ due, p'.nextInitAt = some due → p.nextInitAt = some due) self self') :
    self'.Paced idx before := by
  obtain ⟨peer, hpeer, hdue⟩ := h
  have hlt : idx < self'.peers.length := by
    rw [hevolves.length]
    exact (List.getElem?_eq_some_iff.1 hpeer).1
  obtain ⟨p, hp, hkept⟩ := hevolves.peers (List.getElem?_eq_getElem hlt)
  cases hpeer.symm.trans hp
  exact ⟨_, List.getElem?_eq_getElem hlt, fun due hs => hdue due (hkept rfl due hs)⟩

/-- Whatever comes in but a COOKIE for the session leaves the time of its next INIT as it is. -/
theorem Paced.incoming {before : Instant} (h : self.Paced idx before) (hsound : self.Sound)
    {source : SocketAddr} {pkt : Bytes}
    (hmark : ∀ body, (Event.incoming env source pkt).message self idx = some (.cookie body) →
      body.length < 24)
    (hfire : fire self (.incoming env source pkt) = some self') : self'.Paced idx before := by
  refine h.evolves (incoming_evolves_of hsound (fun _ _ _ _ => id) (fun _ p endpoint _ _ _ => id)
    (fun {i p endpoint message transport device} hroute hp => ?_) hfire)
  by_cases hi : i = idx
  · subst hi
    have hkeeps := Session.deliver_nextInitAt self.config.localKeypair self.cookieSecret env
      (env.ephemeral i) source (fun body hbody => hmark body (message_incoming.2 (hbody ▸ hroute)))
      ⟨p.heard env endpoint, transport, device⟩
    exact wp_mono hkeeps (fun _ _ hs _ due hdue => hs.symm.trans hdue)
      (fun _ _ hs _ due hdue => hs.symm.trans hdue) id
  · exact wp_mono (wp_trivial _ _) (fun _ _ _ h => absurd h hi) (fun _ _ _ h => absurd h hi) id

/-- The INIT pass for one session. -/
theorem retryInit_session {i : ℕ} (hfire : fire self (.retryInit env i) = some self') :
    ∃ peer s, self.peers[i]? = some peer ∧
      Session.Retried env ⟨peer, self.transport, self.device⟩ s ∧
      self'.peers = self.peers.set i s.peer ∧ self'.sent = s.sent := by
  have hcall : (TunnelManager.retryInit env i self).state? = some self' := hfire
  rw [TunnelManager.retryInit, bind_ok (get_apply self)] at hcall
  cases hpeer : self.peers[i]? with
  | none =>
      rw [atPeer, bind_ok (get_apply self), hpeer] at hcall
      cases hcall
  | some peer =>
      rw [atPeer_state hpeer] at hcall
      obtain ⟨s, hs, rfl⟩ := Option.map_eq_some_iff.1 hcall
      exact ⟨peer, s, rfl, wp_state (P := Session.Retried env _) Session.retryInit_retried hs, rfl,
        rfl⟩

/-- What an event without a mark leaves alone. -/
theorem Paced.quiet {before : Instant} {event : Event} (h : self.Paced idx before)
    (hsound : self.Sound) (hfire : fire self event = some self')
    (hmark : initMark idx self event self' = none) : self'.Paced idx before := by
  cases event with
  | addPeer env config =>
      obtain rfl | ⟨made, _, rfl⟩ := addPeer_cases hfire
      · exact h
      · obtain ⟨peer, hpeer, hdue⟩ := h
        have hlt : idx < self.peers.length := (List.getElem?_eq_some_iff.1 hpeer).1
        exact ⟨peer, (List.getElem?_append_left hlt).trans hpeer, hdue⟩
  | incoming env source pkt =>
      refine h.incoming hsound (fun body hbody => ?_) hfire
      by_contra hlong
      rw [initMark, hbody] at hmark
      simp only [if_neg hlong] at hmark
      cases hmark
  | retryInit env i =>
      obtain ⟨peer, s, hpeer, hretried, hpeers, hsent⟩ := retryInit_session hfire
      obtain ⟨p, hp, hdue⟩ := h
      by_cases hi : i = idx
      · subst hi
        cases hpeer.symm.trans hp
        have hlt : i < self.peers.length := (List.getElem?_eq_some_iff.1 hpeer).1
        refine ⟨s.peer, ?_, ?_⟩
        · rw [hpeers, List.getElem?_set_self hlt]
        · cases hretried with
          | idle _ hkept => exact fun due hs => hdue due (hkept due hs)
          | again _ _ hgrows _ =>
              have hmarked : initMark i self (.retryInit env i) self' = some (.sent env.now) :=
                if_pos ⟨rfl, by rw [hsent]; exact hgrows⟩
              cases hmark.symm.trans hmarked
      · refine ⟨p, ?_, hdue⟩
        rw [hpeers, List.getElem?_set_ne hi]
        exact hp
  | dispatchTunPacket env pkt =>
      exact h.of_same (wp_state (P := fun s => s.peers.map PeerSession.nextInitAt = _)
        (steady_nextInitAt.dispatchTunPacket pkt self) hfire)
  | maintenance env =>
      exact h.of_same (wp_state (P := fun s => s.peers.map PeerSession.nextInitAt = _)
        (steady_nextInitAt.maintenance self) hfire)

/-- The invariant of the pace: after an INIT the next one is put off. -/
def AfterMark (idx : ℕ) : Option InitMark → TunnelManager → Prop
  | some (.sent before), self => self.Paced idx before
  | _, _ => True

/-- A mark is as far from the one before as it must be, and puts the next INIT off. -/
theorem AfterMark.marked {last : Option InitMark} {event : Event} {m : InitMark}
    (h : AfterMark idx last self) (hfire : fire self event = some self')
    (hmark : initMark idx self event self' = some m) :
    (∀ m₀ ∈ last, m₀.Spaced m) ∧ AfterMark idx (some m) self' := by
  cases event with
  | retryInit env i =>
      rw [initMark] at hmark
      split at hmark
      case isFalse => cases hmark
      case isTrue hsent =>
        obtain ⟨rfl, hgrows⟩ := hsent
        cases hmark
        obtain ⟨peer, s, hpeer, hretried, hpeers, hsent⟩ := retryInit_session hfire
        cases hretried with
        | idle hsame _ =>
            rw [hsent, hsame] at hgrows
            exact absurd hgrows (lt_irrefl _)
        | @again due hnext hpast _ hput =>
            constructor
            · intro m₀ hm₀
              cases m₀ with
              | cookie => trivial
              | sent before =>
                  cases hm₀
                  obtain ⟨p, hp, hdue⟩ := h
                  cases hpeer.symm.trans hp
                  exact (hdue due hnext).trans hpast
            · have hlt : i < self.peers.length := (List.getElem?_eq_some_iff.1 hpeer).1
              refine ⟨s.peer, ?_, fun due hs => ?_⟩
              · rw [hpeers, List.getElem?_set_self hlt]
              · cases hput.symm.trans hs
                exact le_rfl
  | incoming env source pkt =>
      have hcookie : m = .cookie := by
        rw [initMark] at hmark
        split at hmark
        · split at hmark
          · cases hmark
          · cases hmark
            rfl
        · cases hmark
      subst hcookie
      refine ⟨fun m₀ _ => ?_, trivial⟩
      cases m₀ <;> trivial
  | addPeer env config => cases hmark
  | dispatchTunPacket env pkt => cases hmark
  | maintenance env => cases hmark

/-- In any run, whatever the peers and anyone else send and whatever fails, the INIT pass sends two
INITs of a session only with the retry interval between them, unless the session took a COOKIE in
between. -/
theorem inits_paced (hself : self.Reachable) (idx : ℕ) (events : List Event) :
    (marks fire (initMark idx) self events).IsChain InitMark.Spaced := by
  refine isChain_marks (I := fun last s => s.Reachable ∧ AfterMark idx last s)
    (fun last s event t hI hfire hmark => ⟨hI.1.fire hfire, ?_⟩)
    (fun last s event t m hI hfire hmark => ?_) none ⟨hself, trivial⟩
  · rcases last with _ | before | _
    · trivial
    · exact Paced.quiet hI.2 hI.1.sound hfire hmark
    · trivial
  · obtain ⟨hspaced, hafter⟩ := AfterMark.marked hI.2 hfire hmark
    exact ⟨hspaced, hI.1.fire hfire, hafter⟩

end TunnelManager

end General

section Symbolic

open Symbolic TunnelManager

attribute [local instance] Symbolic.primitives Symbolic.release

/-- A COOKIE of the peer, and the INIT pass at three times. -/
def hurriedInits : List Event :=
  let envAt (now : Instant) : Env := quietEnv now ⟨1000, 0⟩ 7
  [.incoming (envAt 0) (address 2) (messageTypeCookie :: List.replicate 63 0),
    .retryInit (envAt 0) 0, .retryInit (envAt second) 0, .retryInit (envAt (3 * second)) 0]

namespace TunnelManager

/-- The second pass comes too early to send anything. -/
theorem hurried_inits_paced :
    ∃ start : TunnelManager, start.Reachable ∧
      marks fire (initMark 0) start hurriedInits = [.cookie, .sent 0, .sent (3 * second)] ∧
      (marks fire (initMark 0) start hurriedInits).IsChain InitMark.Spaced := by
  have hrun : (after (quietEnv 0 ⟨1000, 0⟩ 7) (nodeConfig 1) [sessionWith 2 true] []).any
      (fun start => decide (marks fire (initMark 0) start hurriedInits =
        [.cookie, .sent 0, .sent (3 * second)])) = true := by
    decide +kernel
  obtain ⟨start, self, hnew, hself, hmarks⟩ := of_after hrun
  have hreach : self.Reachable := reachable_of_run hnew hself
  exact ⟨self, hreach, of_decide_eq_true hmarks, inits_paced hreach 0 hurriedInits⟩

end TunnelManager

end Symbolic

end Naboscale
