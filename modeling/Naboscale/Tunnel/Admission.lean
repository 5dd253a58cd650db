import Naboscale.Tunnel.Steady

/-!
# What the gate decides

With a `generate_cookie` that returns, the cookie gate of a session counts every INIT, asks for
a cookie when there are too many, and then lets only an INIT pass that proves it. `Judges` lists
its decisions. In a run of the manager nothing else touches a gate.
-/

namespace Naboscale

open Rust Method

namespace CookieGate

variable (gate : CookieGate) (now : Instant)

/-- The gate of a new session. -/
def fresh (now : Instant) : CookieGate where
  cookieRequired := false
  sentCookie := none
  initRxCount := 0
  initRxWindowStart := now

/-- The window of the counter is over. -/
def WindowOver : Prop := second ≤ now.durationSince gate.initRxWindowStart

instance : Decidable (gate.WindowOver now) := inferInstanceAs (Decidable (_ ≤ _))

/-- The gate in the window that an INIT falls into. -/
def restarted : CookieGate :=
  if gate.WindowOver now then { gate with initRxCount := 0, initRxWindowStart := now } else gate

/-- The gate after it counted an INIT. -/
def counted : CookieGate :=
  { gate.restarted now with initRxCount := (gate.restarted now).initRxCount + 1 }

/-- The gate after an INIT proved its cookie. -/
def proven : CookieGate :=
  { gate.counted now with cookieRequired := false, sentCookie := none, initRxCount := 0 }

/-- The gate after it answered an INIT with a cookie. -/
def challenged (cookie : Arr 16) : CookieGate :=
  { gate.counted now with cookieRequired := true, sentCookie := some cookie }

/-- The gate asks for a cookie only after it sent one. -/
def Paired : Prop := gate.cookieRequired = gate.sentCookie.isSome

/-- The counter traps on one more INIT. -/
def Overflows [Profile] : Prop :=
  Profile.overflowChecks = true ∧ 2 ^ 32 ≤ (gate.restarted now).initRxCount.toNat + 1

instance [Profile] : Decidable (gate.Overflows now) := inferInstanceAs (Decidable (_ ∧ _))

/-- The INIT carries a mac2 that is valid for the cookie that was sent last. -/
def Proves [Primitives] (pkt : Bytes) : Prop :=
  ∃ sent ∈ gate.sentCookie, initWithCookieSize ≤ pkt.length ∧
    (computeMac2 sent (sub pkt 0 mac2OffsetInit)).val =
      sub pkt mac2OffsetInit (mac2OffsetInit + mac1Len)

instance [Primitives] (pkt : Bytes) : Decidable (gate.Proves pkt) :=
  inferInstanceAs (Decidable (∃ sent ∈ gate.sentCookie, _))

/-- The gate lets the INIT pass: it proves the cookie that the gate asks for, or it is not over the
rate limit. -/
def Admits [Profile] [Primitives] (pkt : Bytes) : Prop :=
  ¬ gate.Overflows now ∧
    if gate.cookieRequired = true then gate.Proves pkt
    else (gate.counted now).initRxCount.toNat ≤ cookieInitRateLimit

/-- What the gate decides about an INIT, and the gate after it: `some false` lets the INIT pass,
`some true` is the end of it, and `none` is an error of the socket. -/
inductive Judges [Primitives] (cookie : Arr 16) (pkt : Bytes) : Option Bool → CookieGate → Prop
  | proven (hrequired : gate.cookieRequired = true) (hproves : gate.Proves pkt) :
      Judges cookie pkt (some false) (gate.proven now)
  | refused (hrequired : gate.cookieRequired = true) (hproves : ¬ gate.Proves pkt) :
      Judges cookie pkt (some true) (gate.counted now)
  | admitted (hrequired : gate.cookieRequired = false)
      (hcount : (gate.counted now).initRxCount.toNat ≤ cookieInitRateLimit) :
      Judges cookie pkt (some false) (gate.counted now)
  | challenged (hrequired : gate.cookieRequired = false)
      (hcount : cookieInitRateLimit < (gate.counted now).initRxCount.toNat) :
      Judges cookie pkt (some true) (gate.challenged now cookie)
  | failed (hrequired : gate.cookieRequired = false)
      (hcount : cookieInitRateLimit < (gate.counted now).initRxCount.toNat) :
      Judges cookie pkt none (gate.counted now)

variable {gate : CookieGate} {now : Instant}

@[simp] theorem restarted_cookieRequired :
    (gate.restarted now).cookieRequired = gate.cookieRequired := by
  unfold restarted
  split <;> rfl

@[simp] theorem restarted_sentCookie : (gate.restarted now).sentCookie = gate.sentCookie := by
  unfold restarted
  split <;> rfl

@[simp] theorem counted_cookieRequired :
    (gate.counted now).cookieRequired = gate.cookieRequired :=
  restarted_cookieRequired

@[simp] theorem counted_sentCookie : (gate.counted now).sentCookie = gate.sentCookie :=
  restarted_sentCookie

theorem paired_fresh (now : Instant) : (fresh now).Paired := rfl

/-- A gate that asks for no cookie has none that an INIT could prove. -/
theorem Paired.not_proves [Primitives] (h : gate.Paired) (hrequired : gate.cookieRequired = false)
    (pkt : Bytes) : ¬ gate.Proves pkt := by
  rintro ⟨sent, hsent, _⟩
  rw [Paired, hrequired, Option.mem_def.1 hsent] at h
  cases h

/-- Every decision leaves a gate that asks for a cookie only after it sent one. -/
theorem Judges.paired [Primitives] {cookie : Arr 16} {pkt : Bytes} {verdict : Option Bool}
    {gate' : CookieGate} (h : gate.Judges now cookie pkt verdict gate') (hpaired : gate.Paired) :
    gate'.Paired := by
  have hcounted : (gate.counted now).Paired := by
    rw [Paired, counted_cookieRequired, counted_sentCookie]
    exact hpaired
  cases h with
  | proven => rfl
  | refused => exact hcounted
  | admitted => exact hcounted
  | challenged => rfl
  | failed => exact hcounted

end CookieGate

variable [Profile] [Primitives]

namespace PeerSession

omit [Profile] in
theorem gate_restartWindow (peer : PeerSession) (now : Instant) :
    (Session.restartWindow now peer).gate = peer.gate.restarted now := by
  rw [Session.restartWindow, CookieGate.restarted]
  by_cases hover : peer.gate.WindowOver now
  · rw [if_pos hover, if_pos (show second ≤ now.durationSince peer.initRxWindowStart from hover)]
    rfl
  · rw [if_neg hover,
      if_neg (show ¬ second ≤ now.durationSince peer.initRxWindowStart from hover)]

omit [Profile] in
theorem gate_counted (peer : PeerSession) (now : Instant) :
    (peer.counted now).gate = peer.gate.counted now := by
  rw [CookieGate.counted, ← gate_restartWindow]
  rfl

omit [Profile] in
theorem proves_iff (peer : PeerSession) {sent : Arr 16} (h : peer.sentCookie = some sent)
    (pkt : Bytes) :
    peer.gate.Proves pkt ↔ initWithCookieSize ≤ pkt.length ∧
      (computeMac2 sent (sub pkt 0 mac2OffsetInit)).val =
        sub pkt mac2OffsetInit (mac2OffsetInit + mac1Len) := by
  rw [CookieGate.Proves, show peer.gate.sentCookie = some sent from h]
  simp

/-- The session after an INIT proved its cookie. -/
def proven (peer : PeerSession) (now : Instant) : PeerSession :=
  { peer.counted now with cookieRequired := false, sentCookie := none, initRxCount := 0 }

omit [Profile] in
theorem gate_proven (peer : PeerSession) (now : Instant) :
    (peer.proven now).gate = peer.gate.proven now := by
  rw [CookieGate.proven, ← gate_counted]
  rfl

end PeerSession

/-- A `generate_cookie` that returns. -/
def CookieGenerator.returning (cookie : Key → SocketAddr → Arr 16) : CookieGenerator :=
  fun cookieSecret source => pure (cookie cookieSecret source)

namespace Session

variable {self : Session} {env : Env} {source : SocketAddr} {pkt : Bytes} {cookie : Arr 16}

omit [Primitives] in
/-- One more INIT is counted, unless the counter traps. -/
theorem nextCount_eq_ite {σ ε : Type} (count : UInt32) :
    (nextCount count : Method σ ε UInt32) =
      if Profile.overflowChecks = true ∧ 2 ^ 32 ≤ count.toNat + 1 then panic
      else pure (count + 1) := by
  rw [nextCount]
  by_cases hcount : count.toNat + 1 < 2 ^ 32
  · rw [if_pos hcount, if_neg fun h => absurd h.2 (not_le.2 hcount)]
  · rw [if_neg hcount]
    by_cases hchecks : Profile.overflowChecks = true
    · rw [if_pos hchecks, if_pos ⟨hchecks, not_lt.1 hcount⟩]
    · rw [if_neg hchecks, if_neg fun h => hchecks h.1]

/-- What is left to do with an INIT over the rate limit. -/
def challenge (env : Env) (source : SocketAddr) (cookie : Arr 16) :
    Method Session TunnelError Bool := do
  sendCookieReply env source cookie
  modifyPeer fun peer => { peer with cookieRequired := true, sentCookie := some cookie }
  pure true

/-- The gate with a cookie that could be made. -/
theorem checkInitCookieWith_eq_ite (hpaired : self.peer.gate.Paired) :
    checkInitCookieWith (pure cookie) env source pkt self =
      if self.peer.gate.Overflows env.now then .panic
      else if self.peer.cookieRequired = true then
        if self.peer.gate.Proves pkt then .ok false { self with peer := self.peer.proven env.now }
        else .ok true { self with peer := self.peer.counted env.now }
      else if (self.peer.counted env.now).initRxCount.toNat ≤ cookieInitRateLimit then
        .ok false { self with peer := self.peer.counted env.now }
      else challenge env source cookie { self with peer := self.peer.counted env.now } := by
  have hgate := self.peer.gate_restartWindow env.now
  have hrequired : (restartWindow env.now self.peer).cookieRequired = self.peer.cookieRequired :=
    (restartWindow_fields env.now self.peer).2.2
  have hsent : (restartWindow env.now self.peer).sentCookie = self.peer.sentCookie :=
    (congrArg CookieGate.sentCookie hgate).trans CookieGate.restarted_sentCookie
  have hoverflows : (Profile.overflowChecks = true ∧
      2 ^ 32 ≤ (restartWindow env.now self.peer).initRxCount.toNat + 1) ↔
        self.peer.gate.Overflows env.now := by
    rw [CookieGate.Overflows, ← hgate]
    rfl
  rw [checkInitCookieWith, bind_ok (show modifyPeer _ self = .ok () _ from rfl),
    bind_ok (get_apply _), nextCount_eq_ite]
  simp only [hoverflows]
  by_cases hover : self.peer.gate.Overflows env.now
  · rw [if_pos hover, if_pos hover]
    rfl
  rw [if_neg hover, if_neg hover, pure_bind, bind_ok (show modifyPeer _ _ = .ok () _ from rfl),
    hrequired]
  -- A cookie that is required has been sent, so the branch without one is never taken.
  by_cases hreq : self.peer.cookieRequired = true
  · obtain ⟨sent, hsome⟩ : ∃ sent, self.peer.sentCookie = some sent :=
      Option.isSome_iff_exists.1 (hpaired.symm.trans hreq)
    have hproves := self.peer.proves_iff hsome pkt
    rw [if_pos hreq, if_pos hreq, hsent, hsome]
    by_cases hlen : pkt.length < initWithCookieSize
    · rw [if_pos hlen, if_neg fun h => absurd (hproves.1 h).1 (not_le.2 hlen)]
      rfl
    have hsize : mac2OffsetInit + mac1Len ≤ pkt.length := not_lt.1 hlen
    rw [if_neg hlen]
    simp only
    rw [slice_eq (Nat.zero_le _) (le_trans (Nat.le_add_right _ _) hsize), pure_bind,
      slice_eq (Nat.le_add_right _ _) hsize, pure_bind]
    by_cases hmac : (computeMac2 sent (sub pkt 0 mac2OffsetInit)).val =
        sub pkt mac2OffsetInit (mac2OffsetInit + mac1Len)
    · rw [if_neg (not_not.2 hmac), if_pos (hproves.2 ⟨not_lt.1 hlen, hmac⟩)]
      rfl
    · rw [if_pos hmac, if_neg fun h => hmac (hproves.1 h).2]
      rfl
  · rw [if_neg hreq, if_neg hreq]
    rw [show (self.peer.counted env.now).initRxCount =
      (restartWindow env.now self.peer).initRxCount + 1 from rfl]
    by_cases hcount : ((restartWindow env.now self.peer).initRxCount + 1).toNat ≤
        cookieInitRateLimit
    · rw [if_pos hcount, if_neg (not_lt.2 hcount)]
      rfl
    · rw [if_neg hcount, if_pos (not_le.1 hcount), pure_bind]
      rfl

/-- An INIT that does not prove the cookie that the gate asks for is only counted. -/
theorem checkInitCookieWith_refused (hpaired : self.peer.gate.Paired)
    (hrequired : self.peer.cookieRequired = true) (hproves : ¬ self.peer.gate.Proves pkt) :
    checkInitCookieWith (pure cookie) env source pkt self =
      if self.peer.gate.Overflows env.now then .panic
      else .ok true { self with peer := self.peer.counted env.now } := by
  rw [checkInitCookieWith_eq_ite hpaired, if_pos hrequired, if_neg hproves]

/-- The handler decides as `Judges` says. -/
theorem checkInitCookieWith_judges (hpaired : self.peer.gate.Paired) :
    (checkInitCookieWith (pure cookie) env source pkt).wp
      ⟨fun handled s => self.peer.gate.Judges env.now cookie pkt (some handled) s.peer.gate,
        fun _ s => self.peer.gate.Judges env.now cookie pkt none s.peer.gate, True⟩ self := by
  have hcounted := self.peer.gate_counted env.now
  rw [wp_def, checkInitCookieWith_eq_ite hpaired]
  by_cases hover : self.peer.gate.Overflows env.now
  · rw [if_pos hover]
    trivial
  rw [if_neg hover]
  by_cases hreq : self.peer.cookieRequired = true
  · rw [if_pos hreq]
    by_cases hproves : self.peer.gate.Proves pkt
    · rw [if_pos hproves]
      show self.peer.gate.Judges env.now cookie pkt _ (self.peer.proven env.now).gate
      rw [PeerSession.gate_proven]
      exact .proven hreq hproves
    · rw [if_neg hproves]
      show self.peer.gate.Judges env.now cookie pkt _ (self.peer.counted env.now).gate
      rw [hcounted]
      exact .refused hreq hproves
  rw [if_neg hreq]
  have hreq : self.peer.gate.cookieRequired = false := Bool.eq_false_iff.2 hreq
  have hcount : (self.peer.counted env.now).initRxCount =
      (self.peer.gate.counted env.now).initRxCount := congrArg CookieGate.initRxCount hcounted
  rw [hcount]
  by_cases hlimit : (self.peer.gate.counted env.now).initRxCount.toNat ≤ cookieInitRateLimit
  · rw [if_pos hlimit]
    show self.peer.gate.Judges env.now cookie pkt _ (self.peer.counted env.now).gate
    rw [hcounted]
    exact .admitted hreq hlimit
  · have hover := not_le.1 hlimit
    rw [if_neg hlimit, challenge, ← wp_def, wp_bind]
    have hsent : ∀ s : Session, s.peer = self.peer.counted env.now →
        s.peer.gate = self.peer.gate.counted env.now :=
      fun s hpeer => (congrArg PeerSession.gate hpeer).trans hcounted
    refine wp_mono (keepsPeer_sendCookieReply cookie _) (fun _ s hpeer => ?_)
      (fun _ s hpeer => ?_) id
    · show self.peer.gate.Judges env.now cookie pkt _
        { s.peer.gate with cookieRequired := true, sentCookie := some cookie }
      rw [hsent s hpeer]
      exact .challenged hreq hover
    · show self.peer.gate.Judges env.now cookie pkt _ s.peer.gate
      rw [hsent s hpeer]
      exact .failed hreq hover

omit [Profile] in
theorem challenge_handles {handled : Bool} {s : Session}
    (h : challenge env source cookie self = .ok handled s) : handled = true := by
  have hwp : (challenge env source cookie).wp ⟨fun handled _ => handled = true, fun _ _ => True,
      True⟩ self := by
    refine (wp_bind _ _).2 (wp_mono (keepsPeer_sendCookieReply cookie self) (fun _ _ _ => rfl)
      (fun _ _ _ => trivial) id)
  rw [wp_def, h] at hwp
  exact hwp

/-- The gate lets exactly those INITs pass that it admits. -/
theorem checkInitCookieWith_passes_iff (hpaired : self.peer.gate.Paired) :
    (∃ s, checkInitCookieWith (pure cookie) env source pkt self = .ok false s) ↔
      self.peer.gate.Admits env.now pkt := by
  have hcount : (self.peer.counted env.now).initRxCount =
      (self.peer.gate.counted env.now).initRxCount :=
    congrArg CookieGate.initRxCount (self.peer.gate_counted env.now)
  rw [checkInitCookieWith_eq_ite hpaired, CookieGate.Admits, hcount]
  by_cases hover : self.peer.gate.Overflows env.now
  · rw [if_pos hover]
    exact iff_of_false (fun ⟨_, h⟩ => nomatch h) fun h => h.1 hover
  rw [if_neg hover]
  by_cases hreq : self.peer.cookieRequired = true
  · rw [if_pos hreq, if_pos (show self.peer.gate.cookieRequired = true from hreq)]
    by_cases hproves : self.peer.gate.Proves pkt
    · rw [if_pos hproves]
      exact iff_of_true ⟨_, rfl⟩ ⟨hover, hproves⟩
    · rw [if_neg hproves]
      exact iff_of_false (fun ⟨_, h⟩ => nomatch h) fun h => hproves h.2
  · rw [if_neg hreq, if_neg (show ¬ self.peer.gate.cookieRequired = true from hreq)]
    by_cases hlimit : (self.peer.gate.counted env.now).initRxCount.toNat ≤ cookieInitRateLimit
    · rw [if_pos hlimit]
      exact iff_of_true ⟨_, rfl⟩ ⟨hover, hlimit⟩
    · rw [if_neg hlimit]
      exact iff_of_false (fun ⟨_, h⟩ => absurd (challenge_handles h) Bool.false_ne_true)
        fun h => hlimit h.2

/-- The gate does not touch the handshake of its session. -/
theorem keepsState_checkInitCookieWith :
    Keeps (fun self : Session => (self.peer.state, self.peer.config))
      (checkInitCookieWith (pure cookie) env source pkt) :=
  keeps_checkInitCookieWith (fun peer => (peer.state, peer.config)) (fun _ _ _ _ _ => rfl)
    (keeps_pure cookie)

/-- A direct INIT is judged by the gate, and nothing after that touches the gate. -/
theorem deliverWith_judges {cookie : Key → SocketAddr → Arr 16} {keypair : Keypair}
    {cookieSecret : Key} {rng : Ephemeral} (hpaired : self.peer.gate.Paired) :
    (deliverWith (.returning cookie) keypair cookieSecret env rng source (.init pkt)).wp
      ⟨fun _ s => ∃ verdict, self.peer.gate.Judges env.now (cookie cookieSecret source) pkt verdict
          s.peer.gate,
        fun _ s => ∃ verdict, self.peer.gate.Judges env.now (cookie cookieSecret source) pkt verdict
          s.peer.gate, True⟩ self := by
  refine (wp_bind _ _).2 (wp_mono (checkInitCookieWith_judges hpaired)
    (fun handled s hjudges => ?_) (fun _ s hjudges => ⟨_, hjudges⟩) id)
  have hkept : ∀ s' : Session, s'.peer.gate = s.peer.gate → ∃ verdict,
      self.peer.gate.Judges env.now (cookie cookieSecret source) pkt verdict s'.peer.gate := by
    intro s' hgate
    rw [hgate]
    exact ⟨_, hjudges⟩
  refine (wp_ite _ _ _).2 ⟨fun _ => ⟨_, hjudges⟩, fun _ => ?_⟩
  exact wp_mono (keepsFixed_handleInit.settings.gate s) (fun _ s' h => hkept s' h)
    (fun _ s' h => hkept s' h) id

end Session

/-! ## The gates of a manager -/

namespace TunnelManager

/-- The gates of the sessions. -/
def gates (self : TunnelManager) : List CookieGate := self.peers.map PeerSession.gate

variable {self self' : TunnelManager} {env : Env} {source : SocketAddr} {idx : ℕ}
  {peer : PeerSession}

omit [Profile] in
theorem getElem?_gates (hpeer : self.peers[idx]? = some peer) :
    self.gates[idx]? = some peer.gate := by
  rw [gates, List.getElem?_map, hpeer]
  rfl

/-- The gates of a manager and its maps. -/
def doors (self : TunnelManager) :
    List CookieGate × (SocketAddr → Option ℕ) × (Key → Option ℕ) :=
  (self.gates, self.endpointToPeer, self.pubkeyToPeer)

omit [Profile] in
/-- A handler that keeps the gate of its session keeps the gates. -/
theorem keepsDoors_atPeer {α : Type} {handler : Method Session TunnelError α}
    (h : Session.KeepsSettings handler) (idx : ℕ) : Keeps doors (atPeer idx handler) :=
  keeps_atPeer idx h.gate fun self _ _ _ hmap =>
    congrArg (·, self.endpointToPeer, self.pubkeyToPeer) hmap

omit [Profile] in
/-- Sessions on their own do not change the gates. -/
theorem steady_doors : Steady doors where
  handled idx h := keepsDoors_atPeer h.settings idx
  rotated env self := by
    unfold rotateCookieSecret
    split <;> rfl

/-- What an event does to the gates. -/
inductive GatesMove (self : TunnelManager) : Event → List CookieGate → Prop
  | kept {event : Event} (h : ∀ idx pkt, event.message self idx ≠ some (.init pkt)) :
      GatesMove self event self.gates
  | added (env : Env) (config : PeerConfig) :
      GatesMove self (.addPeer env config) (self.gates ++ [.fresh env.now])
  | judged {env : Env} {source : SocketAddr} {datagram pkt : Bytes} {idx : ℕ} {cookie : Arr 16}
      {verdict : Option Bool} {gate gate' : CookieGate}
      (hroute : self.route source datagram = some (idx, .init pkt))
      (hgate : self.gates[idx]? = some gate)
      (hjudges : gate.Judges env.now cookie pkt verdict gate') :
      GatesMove self (.incoming env source datagram) (self.gates.set idx gate')

/-- Every gate asks for a cookie only after it sent one. -/
structure Guarded (manager : TunnelManager) : Prop where
  wellFormed : manager.WellFormed
  paired : ∀ gate ∈ manager.gates, gate.Paired

variable {cookie : Key → SocketAddr → Arr 16}

omit [Profile] in
theorem WellFormed.of_doors (h : self'.doors = self.doors) (hwf : self.WellFormed) :
    self'.WellFormed := by
  obtain ⟨hgates, hmaps⟩ := Prod.ext_iff.1 h
  obtain ⟨hendpoints, hpubkeys⟩ := Prod.ext_iff.1 hmaps
  have hlength : self'.peers.length = self.peers.length := by
    have hcounts : (self'.peers.map PeerSession.gate).length =
        (self.peers.map PeerSession.gate).length := congrArg List.length hgates
    rwa [List.length_map, List.length_map] at hcounts
  refine ⟨fun {addr i} hi => ?_, fun {key i} hi => ?_⟩
  · rw [hlength]
    exact hwf.endpoints ((congrFun hendpoints addr).symm.trans hi)
  · rw [hlength]
    exact hwf.pubkeys ((congrFun hpubkeys key).symm.trans hi)

omit [Profile] in
theorem newSession_gate {keypair : Keypair} {config : PeerConfig}
    (h : newSession keypair env config = .ok peer) : peer.gate = .fresh env.now := by
  unfold newSession at h
  by_cases hinitiator : config.isInitiator = true
  · cases hnew : Initiator.new keypair config.peerPub config.psk config.localSenderId env.tai with
    | error e =>
        simp only [if_pos hinitiator, hnew] at h
        cases h
    | ok initiator =>
        simp only [if_pos hinitiator, hnew] at h
        cases h
        rfl
  · cases hnew : Responder.new keypair config.psk config.localSenderId env.tai with
    | error e =>
        simp only [if_neg hinitiator, hnew] at h
        cases h
    | ok responder =>
        simp only [if_neg hinitiator, hnew] at h
        cases h
        rfl

omit [Profile] in
theorem gates_insertSession : (self.insertSession peer).gates = self.gates ++ [peer.gate] := by
  rw [gates, insertSession, List.map_append]
  rfl

omit [Profile] in
theorem Noted.gates {noted : TunnelManager} (h : Noted env source idx peer self noted)
    (hpeer : self.peers[idx]? = some peer) : noted.gates = self.gates := by
  obtain ⟨_, _, endpoint, rfl, _⟩ := h
  exact map_set_of_eq hpeer rfl

/-- A direct INIT meets the gate of its session. -/
theorem incomingWith_judged (hguarded : self.Guarded) {datagram pkt : Bytes}
    (hroute : self.route source datagram = some (idx, .init pkt))
    (h : (handleIncomingWith (.returning cookie) env source datagram self).state? = some self') :
    self'.WellFormed ∧ GatesMove self (.incoming env source datagram) self'.gates := by
  obtain ⟨peer, noted, hpeer, hnoted, heq⟩ :=
    handleIncomingWith_routed (.returning cookie) env hguarded.wellFormed hroute
  obtain ⟨endpoint, hheard⟩ := hnoted.getElem?_self hpeer
  have hgate := getElem?_gates hpeer
  have hpaired : (peer.heard env endpoint).gate.Paired :=
    hguarded.paired _ (List.mem_of_getElem? hgate)
  rw [heq, atPeer_state hheard] at h
  obtain ⟨session, hrun, rfl⟩ := Option.map_eq_some_iff.1 h
  obtain ⟨verdict, hjudges⟩ := wp_state (P := fun s => ∃ verdict, peer.gate.Judges env.now
    (cookie self.cookieSecret source) pkt verdict s.peer.gate)
    (Session.deliverWith_judges hpaired) hrun
  have hwf := hnoted.wellFormed hpeer hguarded.wellFormed
  refine ⟨⟨fun hi => ?_, fun hi => ?_⟩, ?_⟩
  · rw [List.length_set]
    exact hwf.endpoints hi
  · rw [List.length_set]
    exact hwf.pubkeys hi
  · have hset : (noted.peers.set idx session.peer).map PeerSession.gate =
        self.gates.set idx session.peer.gate := by
      rw [List.map_set, ← hnoted.gates hpeer]
      rfl
    rw [gates, hset]
    exact .judged hroute hgate hjudges

/-- A datagram that is not a direct INIT does not touch a gate. -/
theorem incomingWith_kept (hwf : self.WellFormed) {datagram : Bytes}
    (hroute : ∀ idx pkt, self.route source datagram ≠ some (idx, .init pkt))
    (h : (handleIncomingWith (.returning cookie) env source datagram self).state? = some self') :
    self'.WellFormed ∧ self'.gates = self.gates := by
  cases htarget : self.route source datagram with
  | none =>
      obtain ⟨quiet, hquiet, hresult⟩ :=
        handleIncomingWith_unrouted (.returning cookie) env hwf htarget
      obtain rfl : quiet = self' := by
        rcases hresult with hok | ⟨e, herr⟩
        · rw [hok] at h
          exact Option.some.inj h
        · rw [herr] at h
          exact Option.some.inj h
      rcases hquiet with rfl | ⟨i, p, noted, transport, hp, hnoted, rfl⟩
      · exact ⟨hwf, rfl⟩
      · have hnext := hnoted.wellFormed hp hwf
        exact ⟨⟨hnext.endpoints, hnext.pubkeys⟩, hnoted.gates hp⟩
  | some target =>
      obtain ⟨i, message⟩ := target
      obtain ⟨p, noted, hp, hnoted, heq⟩ :=
        handleIncomingWith_routed (.returning cookie) env hwf htarget
      have hmessage : ∀ pkt, message ≠ .init pkt := by
        rintro pkt rfl
        exact hroute i pkt htarget
      rw [heq, Session.deliverWith_of_ne _ hmessage] at h
      have hdoors := (keepsDoors_atPeer (Session.keepsSettings_deliver _ hmessage) i).state h
      exact ⟨(hnoted.wellFormed hp hwf).of_doors hdoors,
        (congrArg Prod.fst hdoors).trans (hnoted.gates hp)⟩

/-- What one event does to the gates. -/
theorem fireWith_gates (hguarded : self.Guarded) {event : Event}
    (h : fireWith (.returning cookie) self event = some self') :
    self'.WellFormed ∧ GatesMove self event self'.gates := by
  have hwf := hguarded.wellFormed
  have hsteady : (∀ idx pkt, event.message self idx ≠ some (.init pkt)) →
      self'.doors = self.doors → self'.WellFormed ∧ GatesMove self event self'.gates := by
    intro hmessage hdoors
    have hgates : self'.gates = self.gates := congrArg Prod.fst hdoors
    rw [hgates]
    exact ⟨hwf.of_doors hdoors, .kept hmessage⟩
  cases event with
  | addPeer env config =>
      obtain rfl | ⟨peer, hnew, rfl⟩ := addPeer_cases h
      · exact ⟨hwf, .kept fun _ _ hmessage => nomatch hmessage⟩
      · rw [gates_insertSession, newSession_gate hnew]
        exact ⟨hwf.insertSession peer, .added env config⟩
  | incoming env source datagram =>
      by_cases hinit : ∃ idx pkt, self.route source datagram = some (idx, .init pkt)
      · obtain ⟨idx, pkt, hroute⟩ := hinit
        exact incomingWith_judged hguarded hroute h
      · have hroute : ∀ idx pkt, self.route source datagram ≠ some (idx, .init pkt) :=
          fun idx pkt heq => hinit ⟨idx, pkt, heq⟩
        obtain ⟨hnext, hgates⟩ := incomingWith_kept hwf hroute h
        rw [hgates]
        exact ⟨hnext, .kept fun idx pkt hmessage => hroute idx pkt (message_incoming.1 hmessage)⟩
  | retryInit env idx =>
      have hkeeps : Keeps doors (TunnelManager.retryInit env idx) :=
        keeps_get_bind fun _ => keepsDoors_atPeer Session.keepsSettings_retryInit idx
      exact hsteady (fun _ _ hmessage => nomatch hmessage) (hkeeps.state h)
  | dispatchTunPacket env pkt =>
      exact hsteady (fun _ _ hmessage => nomatch hmessage)
        ((steady_doors.dispatchTunPacket pkt).state h)
  | maintenance env =>
      exact hsteady (fun _ _ hmessage => nomatch hmessage) (steady_doors.maintenance.state h)

omit [Profile] in
/-- A move of the gates leaves gates that ask for a cookie only after they sent one. -/
theorem GatesMove.paired {event : Event} {gates : List CookieGate} (h : GatesMove self event gates)
    (hpaired : ∀ gate ∈ self.gates, gate.Paired) : ∀ gate ∈ gates, gate.Paired := by
  cases h with
  | kept => exact hpaired
  | added env config =>
      intro gate hgate
      rcases List.mem_append.1 hgate with hold | hnew
      · exact hpaired gate hold
      · rw [List.mem_singleton.1 hnew]
        exact CookieGate.paired_fresh env.now
  | judged hroute hgate hjudges =>
      intro gate hmem
      rcases List.mem_or_eq_of_mem_set hmem with hold | rfl
      · exact hpaired gate hold
      · exact hjudges.paired (hpaired _ (List.mem_of_getElem? hgate))

theorem Guarded.fireWith (hguarded : self.Guarded) {event : Event}
    (h : fireWith (.returning cookie) self event = some self') : self'.Guarded := by
  obtain ⟨hwf, hmove⟩ := fireWith_gates hguarded h
  exact ⟨hwf, hmove.paired hguarded.paired⟩


omit [Profile] in
/-- The gates of a new manager. -/
theorem gates_new {config : ManagerConfig} {peerCfgs : List PeerConfig}
    (hnew : new env config peerCfgs = .ok self) : ∀ gate ∈ self.gates, gate = .fresh env.now := by
  obtain ⟨_, _, hmade⟩ := new_spec hnew
  intro gate hgate
  obtain ⟨peer, hpeer, rfl⟩ := List.mem_map.1 hgate
  obtain ⟨i, hi⟩ := List.mem_iff_getElem?.1 hpeer
  obtain ⟨peerConfig, hnew⟩ := hmade hi
  exact newSession_gate hnew

omit [Profile] in
theorem guarded_new {config : ManagerConfig} {peerCfgs : List PeerConfig}
    (hnew : new env config peerCfgs = .ok self) : self.Guarded := by
  refine ⟨(new_spec hnew).2.1.wellFormed, fun gate hgate => ?_⟩
  rw [gates_new hnew gate hgate]
  exact CookieGate.paired_fresh env.now

/-! ## Direct INITs -/

/-- `handle_incoming` on a direct INIT up to the decision of the gate. -/
def judge (generate : CookieGenerator) (env : Env) (idx : ℕ) (source : SocketAddr) (pkt : Bytes) :
    Method TunnelManager TunnelError Bool := do
  refreshEndpoint env idx source
  let self ← Method.get
  atPeer idx (Session.checkInitCookieWith (generate self.cookieSecret source) env source pkt)

variable {pkt : Bytes}

/-- The decision about a direct INIT is the one of the gate of its session. -/
theorem judge_eq (cookie : Key → SocketAddr → Arr 16) (env : Env) (source : SocketAddr)
    (pkt : Bytes) (hpeer : self.peers[idx]? = some peer) :
    ∃ noted endpoint, noted.config = self.config ∧ noted.transport = self.transport ∧
      noted.peers[idx]? = some (peer.heard env endpoint) ∧
      judge (.returning cookie) env idx source pkt self =
        atPeer idx (Session.checkInitCookieWith (pure (cookie self.cookieSecret source)) env source
          pkt) noted := by
  obtain ⟨noted, hnoted, hrefresh⟩ := refreshEndpoint_eq env source hpeer
  obtain ⟨endpoint, hheard⟩ := hnoted.getElem?_self hpeer
  obtain ⟨hconfig, hsecret, _, htransport⟩ := hnoted.fields
  refine ⟨noted, endpoint, hconfig, htransport, hheard, ?_⟩
  rw [judge, bind_ok hrefresh, bind_ok (get_apply noted), ← hsecret]
  rfl

/-- A direct INIT passes exactly when the gate admits it. -/
theorem judge_passes_iff (hguarded : self.Guarded) (hpeer : self.peers[idx]? = some peer) :
    (∃ judged, judge (.returning cookie) env idx source pkt self = .ok false judged) ↔
      peer.gate.Admits env.now pkt := by
  obtain ⟨noted, endpoint, _, _, hheard, heq⟩ := judge_eq cookie env source pkt hpeer
  have hpaired : peer.gate.Paired :=
    hguarded.paired _ (List.mem_of_getElem? (getElem?_gates hpeer))
  have hpasses : (∃ s, Session.checkInitCookieWith (pure (cookie self.cookieSecret source)) env
      source pkt ⟨peer.heard env endpoint, noted.transport, noted.device⟩ = .ok false s) ↔
        peer.gate.Admits env.now pkt := Session.checkInitCookieWith_passes_iff hpaired
  rw [heq, atPeer_eq hheard, ← hpasses]
  cases Session.checkInitCookieWith (pure (cookie self.cookieSecret source)) env source pkt
      ⟨peer.heard env endpoint, noted.transport, noted.device⟩ with
  | ok handled s =>
      constructor
      · rintro ⟨_, h⟩
        cases h
        exact ⟨s, rfl⟩
      · rintro ⟨_, h⟩
        cases h
        exact ⟨_, rfl⟩
  | err e s => exact iff_of_false (fun ⟨_, h⟩ => nomatch h) fun ⟨_, h⟩ => nomatch h
  | panic => exact iff_of_false (fun ⟨_, h⟩ => nomatch h) fun ⟨_, h⟩ => nomatch h

/-- The decision of the gate leaves the handshake of the session as it was. -/
theorem judge_consults_iff (hpeer : self.peers[idx]? = some peer) {handled : Bool}
    {judged : TunnelManager} (h : judge (.returning cookie) env idx source pkt self =
      .ok handled judged) {responder : Responder} :
    (∃ peer', judged.peers[idx]? = some peer' ∧
        peer'.Consults judged.config.localKeypair env responder) ↔
      peer.Consults self.config.localKeypair env responder := by
  obtain ⟨noted, endpoint, hconfig, _, hheard, heq⟩ := judge_eq cookie env source pkt hpeer
  have hstate := congrArg Outcome.state? (heq.symm.trans h)
  rw [atPeer_state hheard] at hstate
  obtain ⟨s, hrun, rfl⟩ := Option.map_eq_some_iff.1 hstate
  have hkept : (s.peer.state, s.peer.config) =
      ((peer.heard env endpoint).state, (peer.heard env endpoint).config) :=
    Session.keepsState_checkInitCookieWith.state hrun
  obtain ⟨hstate, hpeerConfig⟩ := Prod.mk.inj hkept
  have hidx : idx < noted.peers.length := (List.getElem?_eq_some_iff.1 hheard).1
  have hconsults : s.peer.Consults noted.config.localKeypair env responder ↔
      peer.Consults self.config.localKeypair env responder := by
    rw [PeerSession.Consults, hstate, hpeerConfig, hconfig]
    rfl
  simp only [List.getElem?_set_self hidx, Option.some.injEq, exists_eq_left', hconsults]

end TunnelManager

end Naboscale
