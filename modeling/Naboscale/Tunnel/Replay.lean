import Naboscale.Tunnel.Parties

/-!
# How often one INIT installs a transport

A run is recorded together with the INITs that installed a transport. A session remembers no
INIT, so only the replay window of its clock stands between a second copy of an INIT and a
second transport.
-/

namespace Naboscale

open Rust

section State

variable [Primitives]

/-- The transport of a ready session. -/
def PeerState.transport? : PeerState → Option Transport
  | .ready transport _ _ => some transport
  | _ => none

/-- The session waits for an INIT with a responder that was made before. -/
def PeerState.Waiting (state : PeerState) : Prop :=
  ∃ responder, state = .handshakingAsResponder responder

/-- The timestamp that a fresh responder finds in an INIT. -/
def sealedStamp (keypair : Keypair) (psk : Key) (initMsg : Bytes) : Option Tai64N :=
  match buildResponder keypair.secret wgIdentifier psk with
  | .error _ => none
  | .ok state =>
      match (readMessage state (Responder.noiseInit initMsg) 256).1 with
      | .error _ => none
      | .ok payload =>
          if h : payload.length = Tai64N.size then some (Tai64N.fromBytes ⟨payload, h⟩) else none

variable [Profile] {keypair : Keypair} {env : Env} {rng : Ephemeral} {config : PeerConfig}

/-- A fresh responder opens an INIT only if the timestamp sealed in it is in the window. -/
theorem sealedStamp_of_opens {psk : Key} {senderId : UInt32} {tai tai' : Tai64N}
    {responder : Responder} {pkt : Bytes} {stamp : Arr Tai64N.size} {opened : HandshakeState}
    {pub : Key} (hnew : Responder.new keypair psk senderId tai = .ok responder)
    (hopens : (responder.setCurrentTime tai').Opens pkt stamp opened pub) :
    sealedStamp keypair psk pkt = some (Tai64N.fromBytes stamp) ∧
      Responder.InWindow tai' (Tai64N.fromBytes stamp) := by
  refine ⟨?_, hopens.window⟩
  have hread : readMessage responder.state (Responder.noiseInit pkt) 256 =
      (.ok stamp.val, opened) := hopens.read
  rw [sealedStamp, (responder_new_ok hnew).1]
  simp only [hread]
  rw [dif_pos stamp.property]

/-- A session that waits for no INIT will never wait for one. -/
theorem StateChange.not_waiting {message : Option Message} {state state' : PeerState}
    (h : StateChange keypair env rng config message state state') (hstate : ¬ state.Waiting) :
    ¬ state'.Waiting := by
  cases h with
  | keep => exact hstate
  | renew => exact absurd ⟨_, rfl⟩ hstate
  | spend => exact absurd ⟨_, rfl⟩ hstate
  | exhaust => exact absurd ⟨_, rfl⟩ hstate
  | _ => exact fun ⟨_, heq⟩ => nomatch heq

/-- What an INIT can do to a session that does not wait for one: nothing, or it is direct, the
session is ready, and a fresh responder opens it. -/
theorem StateChange.of_init {message : Message} {pkt : Bytes} {state state' : PeerState}
    (h : StateChange keypair env rng config (some message) state state')
    (hmessage : message.initPkt? = some pkt) (hstate : ¬ state.Waiting) :
    state' = state ∨ message = .init pkt ∧ state.isReady = true ∧ ∃ responder stamp opened pub,
      Responder.new keypair config.psk config.localSenderId env.tai = .ok responder ∧
      (responder.setCurrentTime env.tai).Opens pkt stamp opened pub := by
  cases h with
  | keep => exact Or.inl rfl
  | use htransport =>
      cases hmessage.symm.trans (Message.initPkt?_of_isTransport (htransport _ rfl))
  | renew => exact absurd ⟨_, rfl⟩ hstate
  | spend => exact absurd ⟨_, rfl⟩ hstate
  | exhaust => exact absurd ⟨_, rfl⟩ hstate
  | accept => exact absurd ⟨_, rfl⟩ hstate
  | lose => exact absurd ⟨_, rfl⟩ hstate
  | replace hnew hyields =>
      cases hmessage
      obtain ⟨pub, _, _, _, ⟨stamp, opened, hopens, _⟩, _⟩ := hyields
      exact Or.inr ⟨rfl, rfl, _, stamp, opened, pub, hnew, hopens⟩
  | complete | completeRekey | abort | discard => cases hmessage

end State

namespace TunnelManager

section General

variable [Profile] [Primitives] {self self' : TunnelManager} {event : Event} {idx : ℕ}
  {pkt : Bytes}

/-- The transport of the session at an index. -/
def transportAt (self : TunnelManager) (idx : ℕ) : Option Transport :=
  self.peers[idx]?.bind fun peer => peer.state.transport?

/-- The event is an INIT for the session at the index, and it leaves the session with a transport
that it did not have before. -/
def Installs (self : TunnelManager) (event : Event) (self' : TunnelManager) (idx : ℕ)
    (pkt : Bytes) : Prop :=
  (∃ message, event.message self idx = some message ∧ message.initPkt? = some pkt) ∧
    self'.transportAt idx ≠ none ∧ self'.transportAt idx ≠ self.transportAt idx

open scoped Classical in
/-- The INIT that an event installs, together with its session. -/
noncomputable def installs (self : TunnelManager) (event : Event) (self' : TunnelManager) :
    List (ℕ × Bytes) :=
  match event with
  | .incoming _ source datagram =>
      match self.route source datagram with
      | some (idx, message) =>
          match message.initPkt? with
          | some pkt => if Installs self event self' idx pkt then [(idx, pkt)] else []
          | none => []
      | none => []
  | _ => []

omit [Profile] in
theorem mem_installs (h : (idx, pkt) ∈ installs self event self') :
    Installs self event self' idx pkt := by
  unfold installs at h
  repeat' split at h
  all_goals first | exact absurd h List.not_mem_nil | skip
  rw [List.mem_singleton] at h
  cases h
  assumption

omit [Profile] in
theorem installs_nodup : (installs self event self').Nodup := by
  unfold installs
  repeat' split
  all_goals first | exact List.nodup_nil | exact List.nodup_singleton _

omit [Profile] in
theorem installs_eq (h : Installs self event self' idx pkt) :
    installs self event self' = [(idx, pkt)] := by
  obtain ⟨message, hmessage, hpkt⟩ := h.1
  cases event with
  | incoming env source datagram =>
      rw [installs, message_incoming.1 hmessage]
      simp only [hpkt]
      rw [if_pos h]
  | _ => cases hmessage

/-- A run of the manager that records which INITs installed a transport at which session. -/
noncomputable def fireRecording (state : TunnelManager × List (ℕ × Bytes)) (event : Event) :
    Option (TunnelManager × List (ℕ × Bytes)) :=
  (fire state.1 event).map fun self' => (self', state.2 ++ installs state.1 event self')

/-- An INIT that installed a transport comes back to its ready session directly only when the
timestamp sealed in it has left the replay window. -/
def Expired (state : TunnelManager × List (ℕ × Bytes)) (event : Event) : Prop :=
  ∀ idx peer pkt, (idx, pkt) ∈ state.2 → state.1.peers[idx]? = some peer →
    event.message state.1 idx = some (.init pkt) → peer.state.isReady = true →
    ∀ stamp ∈ sealedStamp state.1.config.localKeypair peer.config.psk pkt,
      ¬ Responder.InWindow event.inputs.tai stamp

/-- The invariant of recorded runs: no INIT is recorded twice for a session, and a session with a
recorded INIT does not wait for one. -/
structure Recorded (state : TunnelManager × List (ℕ × Bytes)) : Prop where
  sound : state.1.Sound
  nodup : state.2.Nodup
  exists_peer {idx : ℕ} {pkt : Bytes} : (idx, pkt) ∈ state.2 → idx < state.1.peers.length
  not_waiting {idx : ℕ} {pkt : Bytes} {peer : PeerSession} : (idx, pkt) ∈ state.2 →
    state.1.peers[idx]? = some peer → ¬ peer.state.Waiting

/-- The session at the index did not start to wait. -/
theorem Event.Moves.not_waiting {peer peer' : PeerSession} (h : event.Moves self idx peer peer')
    (hstate : ¬ peer.state.Waiting) : ¬ peer'.state.Waiting := by
  unfold Event.Moves at h
  cases hmessage : event.message self idx with
  | some message =>
      rw [hmessage] at h
      exact h.state.not_waiting hstate
  | none =>
      rw [hmessage] at h
      induction h with
      | refl => exact hstate
      | tail _ hmove ih => exact hmove.state.not_waiting ih

omit [Profile] in
/-- A session that waits has no transport. -/
theorem transport?_of_waiting {state : PeerState} (h : state.Waiting) :
    state.transport? = none := by
  obtain ⟨_, rfl⟩ := h
  rfl

/-- An INIT that was recorded for its session installs nothing there, if it has expired. -/
theorem not_installs_of_expired {log : List (ℕ × Bytes)} (hrecorded : Recorded (self, log))
    (hexpired : Expired (self, log) event) (hadvances : Advances self event self')
    (hmem : (idx, pkt) ∈ log) : ¬ Installs self event self' idx pkt := by
  rintro ⟨⟨message, hmessage, hpkt⟩, hready, hne⟩
  obtain ⟨peer', hpeer'⟩ : ∃ peer', self'.peers[idx]? = some peer' := by
    cases h : self'.peers[idx]? with
    | some peer' => exact ⟨peer', rfl⟩
    | none => exact absurd (by rw [transportAt, h]; rfl) hready
  rcases hadvances.peers hpeer' with ⟨peer, hpeer, hmoves⟩ | ⟨_, hnone, _⟩
  · rw [Event.Moves, hmessage] at hmoves
    have hstate := hrecorded.not_waiting hmem hpeer
    rcases hmoves.state.of_init hpkt hstate with hsame |
      ⟨rfl, hisReady, r, stamp, opened, pub, hnew, hopens⟩
    · refine hne ?_
      rw [transportAt, transportAt, hpeer, hpeer', Option.bind_some, Option.bind_some, hsame]
    · obtain ⟨hstamp, hwindow⟩ := sealedStamp_of_opens hnew hopens
      exact hexpired idx peer pkt hmem hpeer hmessage hisReady _ hstamp hwindow
  · cases hmessage.symm.trans hnone

/-- An event on which every recorded INIT has expired keeps the record without repetitions. -/
theorem recorded_step {state state' : TunnelManager × List (ℕ × Bytes)}
    (hrecorded : Recorded state) (hexpired : Expired state event)
    (hstep : fireRecording state event = some state') : Recorded state' := by
  obtain ⟨self, log⟩ := state
  obtain ⟨self', hfire, rfl⟩ := Option.map_eq_some_iff.1 hstep
  have hadvances := fire_advances hrecorded.sound hfire
  have hready {i : ℕ} {p : Bytes} (hmem : (i, p) ∈ installs self event self') :
      ∃ peer' transport, self'.peers[i]? = some peer' ∧
        peer'.state.transport? = some transport := by
    obtain ⟨_, hsome, _⟩ := mem_installs hmem
    obtain ⟨transport, htransport⟩ := Option.ne_none_iff_exists'.1 hsome
    obtain ⟨peer', hpeer', h⟩ := Option.bind_eq_some_iff.1 htransport
    exact ⟨peer', transport, hpeer', h⟩
  refine ⟨hadvances.sound, ?_, fun hmem => ?_, fun {i p peer'} hmem hpeer' => ?_⟩
  · refine List.nodup_append'.2 ⟨hrecorded.nodup, installs_nodup, ?_⟩
    rintro ⟨i, p⟩ hlog hnew
    exact not_installs_of_expired hrecorded hexpired hadvances hlog (mem_installs hnew)
  · rcases List.mem_append.1 hmem with hlog | hnew
    · exact lt_of_lt_of_le (hrecorded.exists_peer hlog) hadvances.length
    · obtain ⟨_, _, hpeer', _⟩ := hready hnew
      exact (List.getElem?_eq_some_iff.1 hpeer').1
  · rcases List.mem_append.1 hmem with hlog | hnew
    · rcases hadvances.peers hpeer' with ⟨peer, hpeer, hmoves⟩ | ⟨hidx, _⟩
      · exact hmoves.not_waiting (hrecorded.not_waiting hlog hpeer)
      · exact absurd (hrecorded.exists_peer hlog) (by rw [hidx]; exact lt_irrefl _)
    · obtain ⟨peer, transport, hpeer, htransport⟩ := hready hnew
      cases hpeer.symm.trans hpeer'
      intro hwaiting
      rw [transport?_of_waiting hwaiting] at htransport
      cases htransport

/-- In every run in which an INIT that installed a transport comes back to its session only after
its timestamp has left the replay window, every INIT installs at most one transport at every
session. -/
theorem installs_once_of_expired {env : Env} {config : ManagerConfig}
    {peerCfgs : List PeerConfig} {start self : TunnelManager} {events : List Event}
    {log : List (ℕ × Bytes)} (hnew : new env config peerCfgs = .ok start)
    (hexpired : Transition.AllSteps fireRecording Expired (start, []) events)
    (hrun : Transition.exec fireRecording (start, []) events = some (self, log)) : log.Nodup := by
  have hstart : Recorded (start, []) :=
    ⟨(new_spec hnew).2.1, List.nodup_nil, (fun h => nomatch h), (fun h => nomatch h)⟩
  exact (Transition.invariant (fun _ _ _ => recorded_step) hstart hexpired hrun).nodup

end General

section Symbolic

open Symbolic

attribute [local instance] Symbolic.primitives Symbolic.release

/-- The INIT that node 2 made at second 1000. -/
def oneInit : Bytes := initFor 2 1 ⟨1000, 0⟩ 8

/-- The INIT of node 2 arrives at a second, when the responder draws `rng`. -/
def arrival (seconds : UInt64) (rng : UInt8) : Event :=
  .incoming (quietEnv 5 ⟨seconds, 0⟩ rng) (address 2) oneInit

/-- The transport state of the session. -/
def channelAt (self : TunnelManager) (idx : ℕ) : Option Channel :=
  (self.transportAt idx).map Transport.inner

/-- The session takes the INIT, and its transport afterwards is another one than before. -/
def reinstalls (self self' : TunnelManager) : Bool :=
  decide (self.route (address 2) oneInit = some (0, .init oneInit)) &&
    decide (self'.channelAt 0 ≠ none) && decide (self'.channelAt 0 ≠ self.channelAt 0)

theorem installs_of_reinstalls {self self' : TunnelManager} {seconds : UInt64} {rng : UInt8}
    (h : reinstalls self self' = true) : Installs self (arrival seconds rng) self' 0 oneInit := by
  obtain ⟨h, hne⟩ := Bool.and_eq_true_iff.1 h
  obtain ⟨hroute, hsome⟩ := Bool.and_eq_true_iff.1 h
  refine ⟨⟨.init oneInit, message_incoming.2 (of_decide_eq_true hroute), rfl⟩, fun hnone => ?_,
    fun hsame => ?_⟩
  · exact of_decide_eq_true hsome (by rw [channelAt, hnone]; rfl)
  · exact of_decide_eq_true hne (by rw [channelAt, channelAt, hsame])

/-- One event of a recorded run that installs the INIT. -/
theorem fireRecording_arrival {self self' : TunnelManager} {seconds : UInt64} {rng : UInt8}
    (log : List (ℕ × Bytes)) (hfire : fire self (arrival seconds rng) = some self')
    (h : reinstalls self self' = true) :
    fireRecording (self, log) (arrival seconds rng) = some (self', log ++ [(0, oneInit)]) := by
  rw [fireRecording, hfire, Option.map_some, installs_eq (installs_of_reinstalls h)]

/-- The same INIT arrives a second time within the replay window, and the transport of the ready
session is replaced. -/
theorem replayed_init_installs_twice :
    ∃ (env : Env) (config : ManagerConfig) (peerCfgs : List PeerConfig) (start : TunnelManager)
      (events : List Event) (self : TunnelManager) (log : List (ℕ × Bytes)),
      new env config peerCfgs = .ok start ∧
      Transition.exec fireRecording (start, []) events = some (self, log) ∧ ¬ log.Nodup := by
  have hrun : (new (quietEnv 0 ⟨1000, 0⟩ 7) (nodeConfig 1) [sessionWith 2 false]).toOption.any
      (fun start => (fire start (arrival 1000 7)).any fun first =>
        (fire first (arrival 1001 9)).any fun second =>
          reinstalls start first && reinstalls first second) = true := by
    decide +kernel
  obtain ⟨start, hnew, hrun⟩ := of_new hrun
  obtain ⟨first, hfirst, hrun⟩ := (Option.any_eq_true _ _).1 hrun
  obtain ⟨second, hsecond, hrun⟩ := (Option.any_eq_true _ _).1 hrun
  obtain ⟨honce, htwice⟩ := Bool.and_eq_true_iff.1 hrun
  have hexec := Transition.exec_cons (fireRecording_arrival [] hfirst honce)
    (Transition.exec_cons (fireRecording_arrival _ hsecond htwice) (Transition.exec_nil _))
  refine ⟨_, _, _, start, _, second, _, hnew, hexec, fun hnodup => ?_⟩
  have hdisjoint := (List.nodup_append'.1 hnodup).2.2
  exact hdisjoint (List.mem_append_right _ List.mem_cons_self) List.mem_cons_self

/-- The same INIT arrives a second time after 200 seconds and installs nothing. -/
theorem late_init_installs_once :
    ∃ (start self : TunnelManager) (log : List (ℕ × Bytes)),
      Transition.exec fireRecording (start, []) [arrival 1000 7, arrival 1200 9] =
        some (self, log) ∧ (0, oneInit) ∈ log ∧ log.Nodup := by
  have hrun : (new (quietEnv 0 ⟨1000, 0⟩ 7) (nodeConfig 1) [sessionWith 2 false]).toOption.any
      (fun start => (fire start (arrival 1000 7)).any fun first => reinstalls start first &&
        (fire first (arrival 1200 9)).isSome && first.peers.all fun peer =>
          (sealedStamp first.config.localKeypair peer.config.psk oneInit).all fun stamp =>
            decide (¬ Responder.InWindow ⟨1200, 0⟩ stamp)) = true := by
    decide +kernel
  obtain ⟨start, hnew, hrun⟩ := of_new hrun
  obtain ⟨first, hfirst, hrun⟩ := (Option.any_eq_true _ _).1 hrun
  obtain ⟨hrun, hstamps⟩ := Bool.and_eq_true_iff.1 hrun
  obtain ⟨honce, hsome⟩ := Bool.and_eq_true_iff.1 hrun
  obtain ⟨second, hsecond⟩ := Option.isSome_iff_exists.1 hsome
  have hfire := fireRecording_arrival [] hfirst honce
  have hlate : fireRecording (first, [] ++ [(0, oneInit)]) (arrival 1200 9) = some
      (second, [] ++ [(0, oneInit)] ++ installs first (arrival 1200 9) second) := by
    rw [fireRecording, hsecond, Option.map_some]
  have hexpired : Transition.AllSteps fireRecording Expired (start, [])
      [arrival 1000 7, arrival 1200 9] := by
    refine ⟨fun _ _ _ hmem => (nomatch hmem), fun next hnext => ⟨?_, fun _ _ => trivial⟩⟩
    cases hfire.symm.trans hnext
    intro idx peer pkt _ hpeer hmessage _ stamp hstamp
    obtain ⟨-, hpkt⟩ := initPkt_of_route (by decide +kernel) (message_incoming.1 hmessage) rfl
    rw [hpkt] at hstamp
    have hall := List.all_eq_true.1 hstamps peer (List.mem_of_getElem? hpeer)
    exact of_decide_eq_true ((Option.all_eq_true _ _).1 hall stamp hstamp)
  have hexec := Transition.exec_cons hfire
    (Transition.exec_cons hlate (Transition.exec_nil _))
  exact ⟨start, second, _, hexec,
    List.mem_append_left _ (List.mem_append_right _ List.mem_cons_self),
    installs_once_of_expired hnew hexpired hexec⟩

end Symbolic

end TunnelManager

end Naboscale
