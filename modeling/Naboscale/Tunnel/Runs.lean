import Naboscale.Tunnel.Dispatch

/-!
# What a run does to the sessions

Every event moves each session by at most one move on the message it is given, or by a series
of moves of its own. An invariant of sessions is proved by the cases of one move and holds in
every state of every run. One `step` of the main loop is such a run.
-/

namespace Naboscale

open Rust Relation

variable [Profile] [Primitives]

namespace TunnelManager

variable {self self' : TunnelManager} {env : Env} {source : SocketAddr} {idx : ℕ}
  {peer : PeerSession}

/-- The invariant of every state that is reached: the maps hold indices of peers, and the cookie
gates are open. -/
structure Sound (manager : TunnelManager) : Prop where
  wellFormed : manager.WellFormed
  gates : ∀ {idx : ℕ} {peer : PeerSession}, manager.peers[idx]? = some peer → peer.GateOpen

/-- Which session is given which message by an event. -/
def Event.message (self : TunnelManager) (event : Event) (idx : ℕ) : Option Message :=
  match event with
  | .incoming _ source pkt =>
      match self.route source pkt with
      | some (i, message) => if idx = i then some message else none
      | none => none
  | _ => none

/-- The inputs of an event. -/
def Event.inputs : Event → Env
  | addPeer env _ => env
  | incoming env _ _ => env
  | retryInit env _ => env
  | dispatchTunPacket env _ => env
  | maintenance env => env

/-- The sessions of the second manager come from those of the first by `R`. -/
structure Evolves (R : ℕ → PeerSession → PeerSession → Prop) (manager manager' : TunnelManager) :
    Prop where
  config : manager'.config = manager.config
  wellFormed : manager.WellFormed → manager'.WellFormed
  length : manager'.peers.length = manager.peers.length
  peers : ∀ {idx : ℕ} {peer' : PeerSession}, manager'.peers[idx]? = some peer' →
    ∃ peer, manager.peers[idx]? = some peer ∧ R idx peer peer'

section Evolves

omit [Profile]

variable {R S T : ℕ → PeerSession → PeerSession → Prop}

theorem Evolves.refl (h : ∀ idx peer, R idx peer peer) (self : TunnelManager) :
    Evolves R self self :=
  ⟨rfl, id, rfl, fun {_ peer} hpeer => ⟨peer, hpeer, h _ peer⟩⟩

theorem Evolves.trans {self'' : TunnelManager}
    (h : ∀ idx p p' p'', R idx p p' → S idx p' p'' → T idx p p'')
    (hfirst : Evolves R self self') (hsecond : Evolves S self' self'') :
    Evolves T self self'' := by
  refine ⟨hsecond.config.trans hfirst.config, hsecond.wellFormed ∘ hfirst.wellFormed,
    hsecond.length.trans hfirst.length, fun {idx peer''} hpeer => ?_⟩
  obtain ⟨peer', hpeer', hS⟩ := hsecond.peers hpeer
  obtain ⟨peer, hpeer, hR⟩ := hfirst.peers hpeer'
  exact ⟨peer, hpeer, h idx peer peer' peer'' hR hS⟩

/-- Replacing the session at one index. -/
theorem evolves_set (transport : UdpTransport) (device : Device) {peer' : PeerSession}
    (hpeer : self.peers[idx]? = some peer) (hmove : R idx peer peer')
    (hrefl : ∀ i p, i ≠ idx → R i p p) :
    Evolves R self { self with peers := self.peers.set idx peer', transport, device } := by
  have hidx : idx < self.peers.length := (List.getElem?_eq_some_iff.1 hpeer).1
  refine ⟨rfl, fun hwf => ⟨fun h => ?_, fun h => ?_⟩, List.length_set, fun {i p} hi => ?_⟩
  · rw [List.length_set]
    exact hwf.endpoints h
  · rw [List.length_set]
    exact hwf.pubkeys h
  · by_cases hne : i = idx
    · subst hne
      rw [List.getElem?_set_self hidx] at hi
      cases hi
      exact ⟨peer, hpeer, hmove⟩
    · rw [List.getElem?_set_ne (Ne.symm hne)] at hi
      exact ⟨p, hi, hrefl i p hne⟩

/-- A handler that moves its session moves the manager. -/
theorem atPeer_evolves {α : Type} {handler : Method Session TunnelError α} {P : Prop}
    (hwp : ∀ peer, self.peers[idx]? = some peer →
      handler.wp ⟨fun _ s => R idx peer s.peer, fun _ s => R idx peer s.peer, P⟩
        ⟨peer, self.transport, self.device⟩)
    (hrefl : ∀ i p, i ≠ idx → R i p p)
    (h : (atPeer idx handler self).state? = some self') : Evolves R self self' := by
  cases hpeer : self.peers[idx]? with
  | none =>
      rw [atPeer, Method.bind_ok (Method.get_apply self), hpeer] at h
      cases h
  | some peer =>
      have hpost := hwp peer hpeer
      rw [atPeer_eq hpeer] at h
      rw [Method.wp_def] at hpost
      cases hrun : handler ⟨peer, self.transport, self.device⟩ with
      | ok a session =>
          rw [hrun] at h hpost
          cases h
          exact evolves_set _ _ hpeer hpost hrefl
      | err e session =>
          rw [hrun] at h hpost
          cases h
          exact evolves_set _ _ hpeer hpost hrefl
      | panic =>
          rw [hrun] at h
          cases h

/-- Noting a source moves the session by what it does to what was heard. -/
theorem Noted.evolves_of {noted : TunnelManager} (h : Noted env source idx peer self noted)
    (hpeer : self.peers[idx]? = some peer) (hheard : ∀ endpoint, R idx peer (peer.heard env endpoint))
    (hrefl : ∀ i p, i ≠ idx → R i p p) : Evolves R self noted := by
  have hwf := h.wellFormed hpeer
  obtain ⟨endpointToPeer, learned, endpoint, rfl, _⟩ := h
  have hset := evolves_set self.transport self.device hpeer (hheard endpoint) hrefl
  exact ⟨rfl, hwf, hset.length, hset.peers⟩

theorem Noted.evolves {noted : TunnelManager} (h : Noted env source idx peer self noted)
    (hpeer : self.peers[idx]? = some peer) :
    Evolves (fun _ => PeerSession.Keeps) self noted :=
  h.evolves_of hpeer (peer.keeps_heard env) fun _ p _ => PeerSession.Keeps.refl p

end Evolves

/-- The moves of a session on its own. -/
def OwnMoves (keypair : Keypair) (env : Env) (idx : ℕ) : PeerSession → PeerSession → Prop :=
  ReflTransGen (Change keypair env (env.ephemeral idx) none)

/-- What an event does to the session at an index. -/
def Event.Moves (self : TunnelManager) (event : Event) (idx : ℕ) (peer peer' : PeerSession) :
    Prop :=
  match event.message self idx with
  | some message => Change self.config.localKeypair event.inputs (event.inputs.ephemeral idx)
      (some message) peer peer'
  | none => OwnMoves self.config.localKeypair event.inputs idx peer peer'

omit [Profile] in
theorem message_incoming {pkt : Bytes} {message : Message} :
    (Event.incoming env source pkt).message self idx = some message ↔
      self.route source pkt = some (idx, message) := by
  cases hroute : self.route source pkt with
  | none => simp [Event.message, hroute]
  | some target =>
      obtain ⟨i, m⟩ := target
      by_cases hidx : idx = i <;> simp [Event.message, hroute, hidx, eq_comm]

/-- The rule for received datagrams: what holds of a session that has heard from its peer, and what
the handling of a message does to it from there, holds of the manager. -/
theorem incoming_evolves_of {R : ℕ → PeerSession → PeerSession → Prop} (hsound : self.Sound)
    {pkt : Bytes} (hrefl : ∀ i p, R i p p)
    (hheard : ∀ i p endpoint, self.route source pkt = none → R i p (p.heard env endpoint))
    (hdeliver : ∀ {i p endpoint message transport device},
      self.route source pkt = some (i, message) → self.peers[i]? = some p →
      (Session.deliver self.config.localKeypair self.cookieSecret env (env.ephemeral i) source
        message).wp ⟨fun _ s => R i p s.peer, fun _ s => R i p s.peer, True⟩
        ⟨p.heard env endpoint, transport, device⟩)
    (h : fire self (.incoming env source pkt) = some self') : Evolves R self self' := by
  have hcall : (handleIncoming env source pkt self).state? = some self' := h
  cases hroute : self.route source pkt with
  | none =>
      obtain ⟨quiet, hquiet, hresult⟩ := handleIncoming_unrouted env hsound.wellFormed
        hroute
      have heq : quiet = self' := by
        rcases hresult with hok | ⟨e, herr⟩
        · rw [hok] at hcall
          exact Option.some.inj hcall
        · rw [herr] at hcall
          exact Option.some.inj hcall
      subst heq
      rcases hquiet with rfl | ⟨i, p, noted, transport, hp, hnoted, rfl⟩
      · exact Evolves.refl hrefl _
      · have hevolves := hnoted.evolves_of hp (fun endpoint => hheard i p endpoint hroute)
          fun j q _ => hrefl j q
        exact ⟨hevolves.config, fun hwf => ⟨(hevolves.wellFormed hwf).endpoints,
          (hevolves.wellFormed hwf).pubkeys⟩, hevolves.length, hevolves.peers⟩
  | some target =>
      obtain ⟨i, message⟩ := target
      obtain ⟨p, noted, hp, hnoted, heq⟩ :=
        handleIncoming_routed env hsound.wellFormed hroute
      obtain ⟨endpoint, hp'⟩ := hnoted.getElem?_self hp
      rw [heq] at hcall
      -- The step is in two parts: the packet is noted for its peer, and then handed to the session.
      have hnotes : Evolves (fun j q q' => j ≠ i → q' = q) self noted :=
        hnoted.evolves_of hp (fun _ hne => absurd rfl hne) fun _ _ _ _ => rfl
      have hhandler : Evolves (fun j q q' => (j = i → R i p q') ∧ (j ≠ i → q' = q)) noted self' := by
        refine atPeer_evolves (P := True) (fun q hq => ?_)
          (fun j q hne => ⟨fun h => absurd h hne, fun _ => rfl⟩) hcall
        cases hp'.symm.trans hq
        refine Method.wp_mono (hdeliver hroute hp) (fun _ s hmove => ?_) (fun _ s hmove => ?_) id
        · exact ⟨fun _ => hmove, fun hne => absurd rfl hne⟩
        · exact ⟨fun _ => hmove, fun hne => absurd rfl hne⟩
      refine ⟨hhandler.config.trans hnotes.config, hhandler.wellFormed ∘ hnotes.wellFormed,
        hhandler.length.trans hnotes.length, fun {j q''} hq'' => ?_⟩
      obtain ⟨q', hq', hmove, hkeep⟩ := hhandler.peers hq''
      obtain ⟨q, hq, hsame⟩ := hnotes.peers hq'
      refine ⟨q, hq, ?_⟩
      by_cases hj : j = i
      · subst hj
        cases hp.symm.trans hq
        exact hmove rfl
      · rw [hkeep hj, hsame hj]
        exact hrefl j q

/-- A received datagram makes one move of the session it is for. -/
theorem incoming_evolves (hsound : self.Sound) {pkt : Bytes}
    (h : fire self (.incoming env source pkt) = some self') :
    Evolves ((Event.incoming env source pkt).Moves self) self self' := by
  refine incoming_evolves_of hsound (fun i p => ?_) (fun i p endpoint hroute => ?_)
    (fun {i p endpoint message transport device} hroute hp => ?_) h
  · simp only [Event.Moves]
    cases (Event.incoming env source pkt).message self i with
    | none => exact ReflTransGen.refl
    | some message => exact Change.refl _ p
  · simp only [Event.Moves, Event.message, hroute]
    exact ReflTransGen.single (p.keeps_heard env endpoint).change
  · simp only [Event.Moves, Event.message, hroute, if_pos]
    have hkeeps := p.keeps_heard env endpoint
    refine Method.wp_mono (Session.deliver_moves (hkeeps.gate (hsound.gates hp)) message)
      (fun _ s hmove => ?_) (fun _ s hmove => ?_) (fun _ => trivial)
    · exact hmove.of_keeps hkeeps
    · exact hmove.of_keeps hkeeps

/-! ## Calls without a datagram -/

/-- A handler without a message makes one move of one session. -/
theorem atPeer_ownMoves {keypair : Keypair} {handler : Method Session TunnelError Unit}
    (hwp : ∀ peer, self.peers[idx]? = some peer →
      handler.wp (Session.Moves keypair env (env.ephemeral idx) none peer True)
        ⟨peer, self.transport, self.device⟩)
    (h : (atPeer idx handler self).state? = some self') :
    Evolves (OwnMoves keypair env) self self' := by
  refine atPeer_evolves (P := True) (fun peer hpeer => ?_) (fun _ _ _ => ReflTransGen.refl) h
  exact Method.wp_mono (hwp peer hpeer) (fun _ _ hmove => ReflTransGen.single hmove)
    (fun _ _ hmove => ReflTransGen.single hmove) id

omit [Profile] in
/-- The decision was made for the session it is for. -/
theorem planned_of_same {keypair : Keypair} {rng : Ephemeral}
    {config config' : PeerConfig} {action : Session.Action}
    (h : action.Planned keypair env rng config) (hsame : config.Same config') :
    action.Planned keypair env rng config' := by
  cases action with
  | startRekey initiator initMsg =>
      have hpub : config'.peerPub = config.peerPub := by rw [hsame]
      have hpsk : config'.psk = config.psk := by rw [hsame]
      have hid : config'.localSenderId = config.localSenderId := by rw [hsame]
      obtain ⟨start, message, state, hnew, hwrite, hinit⟩ := h
      exact ⟨start, message, state, by rwa [hpub, hpsk, hid], hwrite, hinit⟩
  | _ => trivial

/-- The session's configuration stays the same in every series of moves. -/
theorem OwnMoves.same {keypair : Keypair} {peer' : PeerSession}
    (h : OwnMoves keypair env idx peer peer') : peer.config.Same peer'.config := by
  induction h with
  | refl => exact .refl _
  | tail _ hmove ih => exact ih.trans hmove.config

/-- The actions that are for one of the peers. -/
def actionsFor (idx : ℕ) (actions : List (ℕ × Session.Action)) : List Session.Action :=
  (actions.filter fun entry => entry.1 = idx).map Prod.snd

omit [Profile] in
theorem actionsFor_append (idx : ℕ) (first rest : List (ℕ × Session.Action)) :
    actionsFor idx (first ++ rest) = actionsFor idx first ++ actionsFor idx rest := by
  simp only [actionsFor, List.filter_append, List.map_append]

omit [Profile] in
/-- All the actions that are decided for one peer are for it. -/
theorem actionsFor_planned (idx i : ℕ) (actions : List Session.Action) :
    actionsFor i (actions.map (Prod.mk idx)) = if i = idx then actions else [] := by
  by_cases h : i = idx
  · subst h
    simp [actionsFor, List.filter_map, Function.comp_def]
  · simp [actionsFor, List.filter_map, Function.comp_def, h, Ne.symm h]

omit [Profile] in
/-- What is decided for one peer is for it, and what is decided for the peers behind it is for them.
-/
theorem actionsFor_plan_cons {P : PeerSession → List Session.Action → Prop} {peer : PeerSession}
    {peers : List PeerSession} {start : ℕ} {first : List Session.Action}
    {rest : List (ℕ × Session.Action)} (hlater : ∀ entry ∈ rest, start < entry.1)
    (hfirst : P peer first)
    (hothers : ∀ k p, peers[k]? = some p → P p (actionsFor (start + 1 + k) rest)) (k : ℕ)
    (p : PeerSession) (hp : (peer :: peers)[k]? = some p) :
    P p (actionsFor (start + k) (first.map (Prod.mk start) ++ rest)) := by
  rw [actionsFor_append, actionsFor_planned]
  cases k with
  | zero =>
      cases hp
      have hempty : actionsFor (start + 0) rest = [] := by
        rw [actionsFor, List.map_eq_nil_iff, List.filter_eq_nil_iff]
        intro entry hentry
        rw [decide_eq_true_eq]
        exact (hlater entry hentry).ne'
      rw [if_pos (Nat.add_zero start), hempty, List.append_nil]
      exact hfirst
  | succ k =>
      rw [if_neg (by omega), List.nil_append, show start + (k + 1) = start + 1 + k by omega]
      exact hothers k p hp

omit [Profile] in
/-- Planning decides for each peer what fits it, and nothing else. -/
theorem wp_plan {Q : Method.Post TunnelManager TunnelError (List (ℕ × Session.Action))}
    {config : ManagerConfig} {peers : List PeerSession} {start : ℕ}
    (hok : ∀ actions, (∀ entry ∈ actions, ∃ k peer, peers[k]? = some peer ∧
      entry.1 = start + k ∧ entry.2.Planned config.localKeypair env (env.ephemeral entry.1)
        peer.config) → (∀ k peer, peers[k]? = some peer →
      Session.Suits peer (actionsFor (start + k) actions)) → Q.ok actions self) :
    (plan config env start peers).wp Q self := by
  induction peers generalizing start Q with
  | nil => exact hok [] (by simp) (by simp)
  | cons peer peers ih =>
      rw [plan, Method.wp_bind]
      refine Session.wp_planPeer fun first hfirst hsuits => (Method.wp_bind _ _).2 ?_
      refine ih fun rest hrest hothers => hok _ (fun entry hentry => ?_)
        (actionsFor_plan_cons (fun entry hentry => ?_) hsuits hothers)
      · rcases List.mem_append.1 hentry with hmem | hmem
        · obtain ⟨action, haction, rfl⟩ := List.mem_map.1 hmem
          exact ⟨0, peer, rfl, rfl, hfirst action haction⟩
        · obtain ⟨k, p, hp, hindex, hplanned⟩ := hrest entry hmem
          exact ⟨k + 1, p, hp, by omega, hplanned⟩
      · obtain ⟨k, _, _, hindex, _⟩ := hrest entry hentry
        omega

omit [Profile] in
/-- The rule for plans: what holds of the decisions for each peer holds of the actions that are for
it. -/
theorem plan_for {config : ManagerConfig} {P : PeerSession → List Session.Action → Prop}
    (h : ∀ (rng : Ephemeral) peer (s : TunnelManager),
      (Session.planPeer config.localKeypair config.timings env rng peer).wp
        ⟨fun actions _ => P peer actions, fun _ _ => True, True⟩ s)
    (peers : List PeerSession) (start : ℕ) (s : TunnelManager) :
    (plan config env start peers).wp
      ⟨fun actions _ => (∀ entry ∈ actions, start ≤ entry.1) ∧
        ∀ k peer, peers[k]? = some peer → P peer (actionsFor (start + k) actions),
        fun _ _ => True, True⟩ s := by
  induction peers generalizing start s with
  | nil =>
      rw [plan, Method.wp_pure]
      refine ⟨(fun entry hentry => nomatch hentry), fun k peer hpeer => ?_⟩
      rw [List.getElem?_nil] at hpeer
      cases hpeer
  | cons peer peers ih =>
      rw [plan, Method.wp_bind]
      refine Method.wp_mono (h (env.ephemeral start) peer s) (fun first s' hfirst => ?_)
        (fun _ _ _ => trivial) id
      refine (Method.wp_bind _ _).2 (Method.wp_mono (ih (start + 1) s') (fun rest _ hrest => ?_)
        (fun _ _ _ => trivial) id)
      obtain ⟨hlater, hothers⟩ := hrest
      refine ⟨fun entry hentry => ?_, actionsFor_plan_cons hlater hfirst hothers⟩
      rcases List.mem_append.1 hentry with hmem | hmem
      · obtain ⟨action, -, rfl⟩ := List.mem_map.1 hmem
        exact le_rfl
      · exact (Nat.le_succ start).trans (hlater entry hmem)

omit [Profile] in
/-- Planning succeeds and changes nothing. -/
theorem plan_ok (config : ManagerConfig) (env : Env) (self : TunnelManager)
    (peers : List PeerSession) :
    ∃ actions, plan config env 0 peers self = .ok actions self ∧
      (∀ entry ∈ actions, ∀ peer, peers[entry.1]? = some peer →
        entry.2.Planned config.localKeypair env (env.ephemeral entry.1) peer.config) ∧
      ∀ k peer, peers[k]? = some peer → Session.Suits peer (actionsFor k actions) := by
  have hwp : (plan config env 0 peers).wp ⟨fun actions s => s = self ∧
      (∀ entry ∈ actions, ∀ peer, peers[entry.1]? = some peer →
        entry.2.Planned config.localKeypair env (env.ephemeral entry.1) peer.config) ∧
      ∀ k peer, peers[k]? = some peer → Session.Suits peer (actionsFor k actions),
      fun _ _ => False, False⟩ self := by
    refine wp_plan fun actions hactions hsuits => ⟨rfl, fun entry hentry peer hpeer => ?_,
      fun k peer hpeer => ?_⟩
    · obtain ⟨k, p, hp, hindex, hplanned⟩ := hactions entry hentry
      rw [hindex, Nat.zero_add, hp] at hpeer
      cases hpeer
      exact hplanned
    · rw [← Nat.zero_add k]
      exact hsuits k peer hpeer
  obtain ⟨actions, s, hplan, rfl, hplanned⟩ := Method.ok_of_wp hwp
  exact ⟨actions, hplan, hplanned⟩

/-- Carrying out the decisions moves each session by a series of moves of its own. -/
theorem performAll_evolves {keypair : Keypair} {actions : List (ℕ × Session.Action)}
    (hplanned : ∀ entry ∈ actions, ∀ peer, self.peers[entry.1]? = some peer →
      entry.2.Planned keypair env (env.ephemeral entry.1) peer.config)
    (h : (performAll keypair env actions self).state? = some self') :
    Evolves (OwnMoves keypair env) self self' := by
  induction actions generalizing self with
  | nil =>
      cases h
      exact Evolves.refl (fun _ _ => ReflTransGen.refl) _
  | cons entry rest ih =>
      obtain ⟨i, action⟩ := entry
      have hfirst : ∀ {next}, (atPeer i (Session.perform keypair env action) self).state? =
          some next → Evolves (OwnMoves keypair env) self next :=
        fun hnext => atPeer_ownMoves (fun peer hpeer =>
          Session.perform_moves (hplanned _ List.mem_cons_self peer hpeer)) hnext
      rw [performAll, Method.bind_eq] at h
      cases hrun : atPeer i (Session.perform keypair env action) self with
      | ok a next =>
          rw [hrun] at h
          have hnext := hfirst (by rw [hrun]; rfl)
          refine hnext.trans (fun _ _ _ _ => ReflTransGen.trans) (ih (fun e he peer hpeer => ?_) h)
          obtain ⟨p, hp, hmoves⟩ := hnext.peers hpeer
          exact planned_of_same (hplanned e (List.mem_cons_of_mem _ he) p hp) hmoves.same
      | err e next =>
          rw [hrun] at h
          cases h
          exact hfirst (by rw [hrun]; rfl)
      | panic =>
          rw [hrun] at h
          cases h

omit [Profile] in
theorem rotateCookieSecret_fields (env : Env) (self : TunnelManager) :
    (rotateCookieSecret env self).config = self.config ∧
      (rotateCookieSecret env self).peers = self.peers ∧
      (rotateCookieSecret env self).endpointToPeer = self.endpointToPeer ∧
      (rotateCookieSecret env self).pubkeyToPeer = self.pubkeyToPeer := by
  unfold rotateCookieSecret
  split <;> exact ⟨rfl, rfl, rfl, rfl⟩

/-- Maintenance moves each session by a series of moves of its own. -/
theorem maintenance_evolves (h : (maintenance env self).state? = some self') :
    Evolves (OwnMoves self.config.localKeypair env) self self' := by
  rw [maintenance, Method.bind_ok (Method.get_apply self)] at h
  split at h
  · cases h
    exact Evolves.refl (fun _ _ => ReflTransGen.refl) _
  · obtain ⟨hconfig, hpeers, hendpoints, hpubkeys⟩ :=
      rotateCookieSecret_fields env { self with lastMaintenanceAt := env.now }
    rw [Method.bind_ok (Method.modify_apply _ _)] at h
    generalize rotateCookieSecret env { self with lastMaintenanceAt := env.now } = rotated at *
    have hrotate : Evolves (OwnMoves self.config.localKeypair env) self rotated := by
      refine ⟨hconfig, fun hwf => ⟨fun hi => ?_, fun hi => ?_⟩, by rw [hpeers], fun {i p} hi => ?_⟩
      · rw [hendpoints] at hi
        rw [hpeers]
        exact hwf.endpoints hi
      · rw [hpubkeys] at hi
        rw [hpeers]
        exact hwf.pubkeys hi
      · rw [hpeers] at hi
        exact ⟨p, hi, ReflTransGen.refl⟩
    obtain ⟨actions, hplan, hplanned, _⟩ := plan_ok self.config env rotated self.peers
    rw [Method.bind_ok hplan] at h
    rw [← hpeers] at hplanned
    exact hrotate.trans (fun _ _ _ _ => ReflTransGen.trans) (performAll_evolves hplanned h)

/-! ## New sessions -/

omit [Profile] in
/-- A new session is waiting for its handshake, with the gate open. -/
theorem newSession_spec {keypair : Keypair} {config : PeerConfig}
    (h : newSession keypair env config = .ok peer) :
    peer.config = config ∧ peer.GateOpen ∧ peer.cachedInit = none ∧
      ((∃ initiator, Initiator.new keypair config.peerPub config.psk config.localSenderId
          env.tai = .ok initiator ∧ peer.state = .handshakingAsInitiator initiator) ∨
        ∃ responder, Responder.new keypair config.psk config.localSenderId env.tai =
          .ok responder ∧ peer.state = .handshakingAsResponder responder) := by
  unfold newSession at h
  by_cases hinitiator : config.isInitiator = true
  · cases hnew : Initiator.new keypair config.peerPub config.psk config.localSenderId env.tai with
    | error e =>
        simp only [if_pos hinitiator, hnew] at h
        cases h
    | ok initiator =>
        simp only [if_pos hinitiator, hnew] at h
        cases h
        exact ⟨rfl, ⟨rfl, Nat.zero_le _⟩, rfl, Or.inl ⟨initiator, rfl, rfl⟩⟩
  · cases hnew : Responder.new keypair config.psk config.localSenderId env.tai with
    | error e =>
        simp only [if_neg hinitiator, hnew] at h
        cases h
    | ok responder =>
        simp only [if_neg hinitiator, hnew] at h
        cases h
        exact ⟨rfl, ⟨rfl, Nat.zero_le _⟩, rfl, Or.inr ⟨responder, rfl, rfl⟩⟩

omit [Profile] in
/-- A new session is the last one. -/
theorem getElem?_insertSession {peer' : PeerSession}
    (h : (self.insertSession peer).peers[idx]? = some peer') :
    self.peers[idx]? = some peer' ∨ idx = self.peers.length ∧ peer' = peer := by
  have hpeers : (self.peers ++ [peer])[idx]? = some peer' := h
  rcases Nat.lt_or_ge idx self.peers.length with hlt | hge
  · rw [List.getElem?_append_left hlt] at hpeers
    exact Or.inl hpeers
  · rw [List.getElem?_append_right hge] at hpeers
    obtain ⟨hlt, hget⟩ := List.getElem?_eq_some_iff.1 hpeers
    rw [List.length_singleton] at hlt
    refine Or.inr ⟨by omega, ?_⟩
    rw [← hget]
    simp

omit [Profile] in
theorem WellFormed.insertSession (hwf : self.WellFormed) (peer : PeerSession) :
    (self.insertSession peer).WellFormed := by
  have hlength : (self.insertSession peer).peers.length = self.peers.length + 1 :=
    List.length_append
  refine ⟨fun {addr i} hi => ?_, fun {key i} hi => ?_⟩
  · rw [hlength]
    simp only [TunnelManager.insertSession, Function.update_apply] at hi
    split at hi
    · cases hi
      exact Nat.lt_succ_self _
    · exact Nat.lt_succ_of_lt (hwf.endpoints hi)
  · rw [hlength]
    simp only [TunnelManager.insertSession, Function.update_apply] at hi
    split at hi
    · cases hi
      exact Nat.lt_succ_self _
    · exact Nat.lt_succ_of_lt (hwf.pubkeys hi)

omit [Profile] in
theorem Sound.insertSession (hsound : self.Sound) (hgate : peer.GateOpen) :
    (self.insertSession peer).Sound := by
  refine ⟨hsound.wellFormed.insertSession peer, fun {i p} hi => ?_⟩
  rcases getElem?_insertSession hi with hold | ⟨_, rfl⟩
  · exact hsound.gates hold
  · exact hgate

/-- `add_peer` does nothing, or it inserts a new session. -/
theorem addPeer_cases {config : PeerConfig} (h : fire self (.addPeer env config) = some self') :
    self' = self ∨ ∃ peer, newSession self.config.localKeypair env config = .ok peer ∧
      self' = self.insertSession peer := by
  have hcall : (((do let _ ← addPeer env config; pure ()) :
    Method TunnelManager TunnelError Unit) self).state? = some self' := h
  rw [addPeer, bind_assoc, Method.bind_ok (Method.get_apply self)] at hcall
  cases hkey : self.pubkeyToPeer config.peerPub with
  | some idx =>
      rw [hkey] at hcall
      cases hcall
      exact Or.inl rfl
  | none =>
      rw [hkey] at hcall
      cases hnew : newSession self.config.localKeypair env config with
      | error e =>
          rw [hnew] at hcall
          cases hcall
          exact Or.inl rfl
      | ok peer =>
          rw [hnew] at hcall
          cases hcall
          exact Or.inr ⟨peer, rfl, rfl⟩

/-! ## Every event -/

/-- What an event does to the manager: every session makes its moves, and `add_peer` may append
a new one. -/
structure Advances (manager : TunnelManager) (event : Event) (manager' : TunnelManager) :
    Prop where
  config : manager'.config = manager.config
  sound : manager'.Sound
  length : manager.peers.length ≤ manager'.peers.length
  peers : ∀ {idx : ℕ} {peer' : PeerSession}, manager'.peers[idx]? = some peer' →
    (∃ peer, manager.peers[idx]? = some peer ∧ event.Moves manager idx peer peer') ∨
      idx = manager.peers.length ∧ event.message manager idx = none ∧ ∃ config,
        newSession manager.config.localKeypair event.inputs config = .ok peer'

theorem OwnMoves.gate {keypair : Keypair} {peer' : PeerSession}
    (h : OwnMoves keypair env idx peer peer') (hgate : peer.GateOpen) : peer'.GateOpen := by
  induction h with
  | refl => exact hgate
  | tail _ hmove ih => exact hmove.gate ih

theorem Event.Moves.gate {event : Event} {peer' : PeerSession}
    (h : event.Moves self idx peer peer') (hgate : peer.GateOpen) : peer'.GateOpen := by
  unfold Event.Moves at h
  cases hmessage : event.message self idx with
  | some message =>
      rw [hmessage] at h
      exact h.gate hgate
  | none =>
      rw [hmessage] at h
      exact h.gate hgate

theorem Evolves.advances {event : Event} (h : Evolves (event.Moves self) self self')
    (hsound : self.Sound) : Advances self event self' := by
  refine ⟨h.config, ⟨h.wellFormed hsound.wellFormed, fun hi => ?_⟩, h.length.ge,
    fun hi => Or.inl (h.peers hi)⟩
  obtain ⟨peer, hpeer, hmoves⟩ := h.peers hi
  exact hmoves.gate (hsound.gates hpeer)

/-- `add_peer` leaves the sessions alone and may append a new one. -/
theorem addPeer_advances {config : PeerConfig} (hsound : self.Sound)
    (h : fire self (.addPeer env config) = some self') :
    Advances self (.addPeer env config) self' := by
  obtain rfl | ⟨peer, hnew, rfl⟩ := addPeer_cases h
  · exact Evolves.advances (Evolves.refl (fun _ _ => ReflTransGen.refl) _) hsound
  · refine ⟨rfl, hsound.insertSession (newSession_spec hnew).2.1,
      List.length_append.ge.trans' (Nat.le_add_right _ _), fun {i p} hi => ?_⟩
    rcases getElem?_insertSession hi with hold | ⟨hidx, rfl⟩
    · exact Or.inl ⟨p, hold, ReflTransGen.refl⟩
    · exact Or.inr ⟨hidx, rfl, config, hnew⟩

/-- What one event does. -/
theorem fire_advances {event : Event} (hsound : self.Sound) (h : fire self event = some self') :
    Advances self event self' := by
  cases event with
  | addPeer env config => exact addPeer_advances hsound h
  | incoming env source pkt => exact (incoming_evolves hsound h).advances hsound
  | retryInit env i =>
      have hcall : (retryInit env i self).state? = some self' := h
      rw [retryInit, Method.bind_ok (Method.get_apply self)] at hcall
      have hevolves : Evolves (OwnMoves self.config.localKeypair env) self self' :=
        atPeer_ownMoves (fun _ _ => Session.retryInit_moves) hcall
      exact Evolves.advances hevolves hsound
  | dispatchTunPacket env pkt =>
      have hcall : (dispatchTunPacket env pkt self).state? = some self' := h
      rw [dispatchTunPacket, Method.bind_ok (Method.get_apply self)] at hcall
      have hevolves : Evolves (OwnMoves self.config.localKeypair env) self self' := by
        cases hlookup : self.lookupPeerByDestIp pkt with
        | none =>
            rw [hlookup] at hcall
            cases hcall
            exact Evolves.refl (fun _ _ => ReflTransGen.refl) self
        | some i =>
            rw [hlookup] at hcall
            exact atPeer_ownMoves (fun _ _ => Session.sendEncrypted_moves pkt 1600) hcall
      exact Evolves.advances hevolves hsound
  | maintenance env =>
      have hevolves : Evolves (OwnMoves self.config.localKeypair env) self self' :=
        maintenance_evolves h
      exact Evolves.advances hevolves hsound

/-! ## Runs -/

omit [Profile] in
/-- The loop of `new` keeps the manager sound, and every session it adds is new. -/
theorem insertAll_spec {configs : List PeerConfig} (hsound : self.Sound)
    (hnew : ∀ {i : ℕ} {p}, self.peers[i]? = some p → ∃ config,
      newSession self.config.localKeypair env config = .ok p)
    (h : insertAll env self configs = .ok self') :
    self'.config = self.config ∧ self'.Sound ∧ ∀ {i : ℕ} {p}, self'.peers[i]? = some p → ∃ config,
      newSession self.config.localKeypair env config = .ok p := by
  induction configs generalizing self with
  | nil =>
      cases h
      exact ⟨rfl, hsound, hnew⟩
  | cons config configs ih =>
      rw [insertAll] at h
      cases hmade : newSession self.config.localKeypair env config with
      | error e =>
          rw [hmade] at h
          cases h
      | ok peer =>
          rw [hmade] at h
          have hnext : (self.insertSession peer).Sound :=
            hsound.insertSession (newSession_spec hmade).2.1
          have hmembers : ∀ {i : ℕ} {p}, (self.insertSession peer).peers[i]? = some p →
              ∃ config, newSession self.config.localKeypair env config = .ok p := by
            intro i p hi
            rcases getElem?_insertSession hi with hold | ⟨_, rfl⟩
            · exact hnew hold
            · exact ⟨config, hmade⟩
          have hrest := ih hnext hmembers h
          exact hrest

omit [Profile] in
/-- A new manager is sound and all its sessions are new. -/
theorem new_spec {config : ManagerConfig} {configs : List PeerConfig}
    (h : new env config configs = .ok self) :
    self.config = config ∧ self.Sound ∧ ∀ {i : ℕ} {p}, self.peers[i]? = some p → ∃ peerConfig,
      newSession config.localKeypair env peerConfig = .ok p := by
  have hempty : (empty env config).Sound :=
    ⟨⟨(fun h => nomatch h), (fun h => nomatch h)⟩, (fun h => nomatch h)⟩
  exact insertAll_spec hempty (fun h => nomatch h) h

/-- Every reachable manager is sound. -/
theorem Reachable.sound (h : self.Reachable) : self.Sound := by
  obtain ⟨env, config, configs, start, hnew, hrun⟩ := h
  exact Transition.Reaches.invariant (fun _ _ _ hsound hfire => (fire_advances hsound hfire).sound)
    (new_spec hnew).2.1 hrun

/-- A condition on one session together with the local key pair, which a run is to keep. -/
structure Kept (good : TunnelManager → Event → Prop) (I : Keypair → PeerSession → Prop) :
    Prop where
  made {keypair : Keypair} {env : Env} {config : PeerConfig} {peer : PeerSession} :
    newSession keypair env config = .ok peer → I keypair peer
  given {self : TunnelManager} {event : Event} {idx : ℕ} {message : Message}
    {peer peer' : PeerSession} :
    good self event → self.peers[idx]? = some peer → event.message self idx = some message →
    Change self.config.localKeypair event.inputs (event.inputs.ephemeral idx) (some message)
      peer peer' →
    I self.config.localKeypair peer → I self.config.localKeypair peer'
  alone {keypair : Keypair} {env : Env} {rng : Ephemeral} {peer peer' : PeerSession} :
    Change keypair env rng none peer peer' → I keypair peer → I keypair peer'

section Kept

variable {good : TunnelManager → Event → Prop} {I : Keypair → PeerSession → Prop}

/-- Every session of the manager satisfies the condition. -/
def Everywhere (I : Keypair → PeerSession → Prop) (self : TunnelManager) : Prop :=
  ∀ (idx : ℕ) (peer : PeerSession), self.peers[idx]? = some peer →
    I self.config.localKeypair peer

theorem Kept.own (h : Kept good I) {keypair : Keypair} {peer' : PeerSession}
    (hmoves : OwnMoves keypair env idx peer peer') (hI : I keypair peer) : I keypair peer' := by
  induction hmoves with
  | refl => exact hI
  | tail _ hmove ih => exact h.alone hmove ih

/-- A condition that single moves keep is kept by every event. -/
theorem Kept.fire (h : Kept good I) {event : Event} (hgood : good self event)
    (hadvances : Advances self event self') (hI : self.Everywhere I) : self'.Everywhere I := by
  intro i peer' hpeer'
  rw [hadvances.config]
  rcases hadvances.peers hpeer' with ⟨peer, hpeer, hmoves⟩ | ⟨_, _, config, hnew⟩
  · unfold Event.Moves at hmoves
    cases hmessage : event.message self i with
    | some message =>
        rw [hmessage] at hmoves
        exact h.given hgood hpeer hmessage hmoves (hI i peer hpeer)
    | none =>
        rw [hmessage] at hmoves
        exact h.own hmoves (hI i peer hpeer)
  · exact h.made hnew

/-- The invariant rule for sessions: what new sessions satisfy and moves keep holds in every
state of every run whose events meet the condition. -/
theorem Kept.run (h : Kept good I) {config : ManagerConfig} {configs : List PeerConfig}
    {events : List Event} (hnew : new env config configs = .ok self)
    (hgood : Transition.AllSteps TunnelManager.fire good self events)
    (hrun : Transition.exec TunnelManager.fire self events = some self') :
    self'.Sound ∧ self'.Everywhere I := by
  obtain ⟨hconfig, hsound, hmade⟩ := new_spec hnew
  have hstart : self.Everywhere I := by
    intro i p hp
    obtain ⟨peerConfig, hp⟩ := hmade hp
    exact h.made (hconfig ▸ hp)
  refine Transition.invariant (I := fun manager => manager.Sound ∧ manager.Everywhere I)
    (fun manager event next hI hgood hfire => ?_) ⟨hsound, hstart⟩ hgood hrun
  have hadvances := fire_advances hI.1 hfire
  exact ⟨hadvances.sound, h.fire hgood hadvances hI.2⟩

end Kept

/-! ## The main loop is a run -/

/-- A call is a run if every state it leaves behind is reached from its start. -/
def IsRun (call : Method TunnelManager TunnelError Unit) : Prop :=
  ∀ self self', (call self).state? = some self' → Transition.Reaches fire self self'

theorem isRun_event (event : Event) : IsRun event.call :=
  fun self _ h => (Transition.Reaches.refl self).snoc (e := event) h

omit [Profile] in
theorem state?_bind {α β : Type} {first : Method TunnelManager TunnelError α}
    {rest : α → Method TunnelManager TunnelError β}
    (h : ((first >>= rest) self).state? = some self') :
    (first self).state? = some self' ∨ ∃ a next, first self = .ok a next ∧
      (rest a next).state? = some self' := by
  rw [Method.bind_eq] at h
  cases hfirst : first self with
  | ok a next =>
      rw [hfirst] at h
      exact Or.inr ⟨a, next, rfl, h⟩
  | err e next =>
      rw [hfirst] at h
      exact Or.inl h
  | panic =>
      rw [hfirst] at h
      cases h

theorem IsRun.bind {first : Method TunnelManager TunnelError Unit}
    {rest : Unit → Method TunnelManager TunnelError Unit} (hfirst : IsRun first)
    (hrest : IsRun (rest ())) : IsRun (first >>= rest) := by
  intro self self' h
  rcases state?_bind h with h | ⟨_, next, hnext, h⟩
  · exact hfirst _ _ h
  · exact (hfirst _ _ (by rw [hnext]; rfl)).trans (hrest _ _ h)

theorem isRun_pure : IsRun (pure ()) := by
  intro self self' h
  cases h
  exact Transition.Reaches.refl self

theorem isRun_receiveAll (received : List (Env × SocketAddr × Bytes)) :
    IsRun (receiveAll received) := by
  induction received with
  | nil => exact isRun_pure
  | cons entry rest ih =>
      obtain ⟨env, source, pkt⟩ := entry
      exact (isRun_event (.incoming env source pkt)).bind ih

theorem isRun_retryAll (env : Env) (indices : List ℕ) : IsRun (retryAll env indices) := by
  induction indices with
  | nil => exact isRun_pure
  | cons idx rest ih => exact (isRun_event (.retryInit env idx)).bind ih

/-- One `step` of the main loop is a run, also if it ends in an error. -/
theorem isRun_step (input : StepInput) : IsRun (step input) := by
  have hfail (e : TunnelError) : IsRun (Method.fail e) := by
    intro self self' h
    cases h
    exact Transition.Reaches.refl self
  have hmaintenance : IsRun (maintenance input.env) := isRun_event (.maintenance input.env)
  rw [step]
  refine (isRun_receiveAll input.received).bind ?_
  cases input.recvError with
  | some e => exact hfail _
  | none =>
      intro self self'
      simp only
      rw [Method.bind_ok (Method.get_apply self)]
      refine (isRun_retryAll input.env (List.range self.peers.length)).bind ?_ self self'
      intro self self'
      rw [Method.bind_ok (Method.get_apply self)]
      split
      · cases input.tun with
        | error e => exact hfail _ self self'
        | ok read =>
            rw [Method.lift_ok, pure_bind]
            cases read with
            | none => exact hmaintenance self self'
            | some pkt =>
                exact (isRun_event (.dispatchTunPacket input.env pkt)).bind hmaintenance self self'
      · exact hmaintenance self self'

end TunnelManager

end Naboscale
