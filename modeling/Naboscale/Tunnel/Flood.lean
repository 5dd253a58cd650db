import Naboscale.Tunnel.Admission
import Naboscale.Tunnel.Parties

/-!
# A flood of INITs

Which INITs a manager hands to `Responder::consume_init`. `Watched` counts, beside the manager,
the INITs of each session since its window or its counter was started anew. The gate holds back
a direct INIT after the fifth, unless it proves a cookie or the 32-bit counter was led around. An
INIT in a RELAY packet never meets the gate.
-/

namespace Naboscale

open Rust Method Transition

section General

variable [Profile] [Primitives]

namespace TunnelManager

/-- An event hands an INIT for a session to `Responder::consume_init`. -/
inductive Consumes (generate : CookieGenerator) (self : TunnelManager) : Event → ℕ → Bytes → Prop
  | direct {env : Env} {source : SocketAddr} {datagram pkt : Bytes} {idx : ℕ}
      {judged : TunnelManager} {peer : PeerSession} {responder : Responder}
      (hroute : self.route source datagram = some (idx, .init pkt))
      (hjudge : judge generate env idx source pkt self = .ok false judged)
      (hsize : initSize ≤ pkt.length) (hpeer : judged.peers[idx]? = some peer)
      (hconsults : peer.Consults judged.config.localKeypair env responder) :
      Consumes generate self (.incoming env source datagram) idx pkt
  | relayed {env : Env} {source : SocketAddr} {datagram pkt : Bytes} {idx : ℕ}
      {peer : PeerSession} {responder : Responder}
      (hroute : self.route source datagram = some (idx, .relayedInit pkt))
      (hsize : initSize ≤ pkt.length) (hpeer : self.peers[idx]? = some peer)
      (hstate : peer.state = .handshakingAsResponder responder) :
      Consumes generate self (.incoming env source datagram) idx pkt

end TunnelManager

/-! ## Counting -/

/-- A manager, and for each session how many INITs its gate counted since the start of the window
or since the counter was last reset. -/
structure Watched where
  manager : TunnelManager
  tally : ℕ → ℕ

namespace Watched

open TunnelManager

/-- The place that one more INIT for a session takes among those that are counted together. -/
def place (w : Watched) (idx : ℕ) (gate : CookieGate) (now : Instant) : ℕ :=
  (if gate.WindowOver now then 0 else w.tally idx) + 1

/-- The tally after an event: a direct INIT is counted, and one that proves a cookie resets it. -/
def tallyAfter (w : Watched) : Event → ℕ → ℕ
  | .incoming env source datagram =>
      match w.manager.route source datagram with
      | some (idx, .init pkt) =>
          match w.manager.gates[idx]? with
          | some gate => Function.update w.tally idx
              (if gate.cookieRequired = true ∧ gate.Proves pkt then 0
              else w.place idx gate env.now)
          | none => w.tally
      | _ => w.tally
  | _ => w.tally

/-- An event of the manager, with the INITs counted. -/
def fire (cookie : Key → SocketAddr → Arr 16) (w : Watched) (event : Event) : Option Watched :=
  (fireWith (.returning cookie) w.manager event).map fun manager => ⟨manager, w.tallyAfter event⟩

/-- The counters of the gates are the tallies, as far as 32 bits go. -/
structure Tallies (tally : ℕ → ℕ) (gates : List CookieGate) : Prop where
  counts {idx : ℕ} {gate : CookieGate} :
    gates[idx]? = some gate → gate.initRxCount.toNat = tally idx % 2 ^ 32
  unborn {idx : ℕ} : gates.length ≤ idx → tally idx = 0

/-- The invariant of every run. -/
structure Sound (w : Watched) : Prop where
  guarded : w.manager.Guarded
  tallies : Tallies w.tally w.manager.gates

variable {cookie : Key → SocketAddr → Arr 16} {w w' : Watched} {event : Event} {idx : ℕ}
  {gate gate' : CookieGate} {env : Env} {source : SocketAddr} {datagram pkt : Bytes} {now : Instant}

theorem fire_eq_some (h : w.fire cookie event = some w') :
    fireWith (.returning cookie) w.manager event = some w'.manager ∧
      w'.tally = w.tallyAfter event := by
  obtain ⟨manager, hmanager, rfl⟩ := Option.map_eq_some_iff.1 h
  exact ⟨hmanager, rfl⟩

omit [Profile] in
/-- Only a direct INIT is counted. -/
theorem tallyAfter_kept (h : ∀ idx pkt, event.message w.manager idx ≠ some (.init pkt)) :
    w.tallyAfter event = w.tally := by
  cases event with
  | incoming env source datagram =>
      rw [tallyAfter]
      split
      · exact absurd (message_incoming.2 ‹_›) (h _ _)
      · rfl
  | _ => rfl

omit [Profile] in
theorem tallyAfter_judged (hroute : w.manager.route source datagram = some (idx, .init pkt))
    (hgate : w.manager.gates[idx]? = some gate) :
    w.tallyAfter (.incoming env source datagram) = Function.update w.tally idx
      (if gate.cookieRequired = true ∧ gate.Proves pkt then 0 else w.place idx gate env.now) := by
  simp only [tallyAfter, hroute, hgate]

omit [Profile] in
/-- The counter of the gate after one more INIT is the place of the INIT. -/
theorem counted_place (hcount : gate.initRxCount.toNat = w.tally idx % 2 ^ 32) :
    (gate.counted now).initRxCount.toNat = w.place idx gate now % 2 ^ 32 := by
  have hrestarted : (gate.restarted now).initRxCount.toNat =
      (if gate.WindowOver now then 0 else w.tally idx) % 2 ^ 32 := by
    rw [CookieGate.restarted]
    by_cases hover : gate.WindowOver now
    · rw [if_pos hover, if_pos hover]
      rfl
    · rw [if_neg hover, if_neg hover, hcount]
  show ((gate.restarted now).initRxCount + 1).toNat = _
  rw [UInt32.toNat_add, hrestarted, show (1 : UInt32).toNat = 1 from rfl, Nat.mod_add_mod]
  rfl

omit [Profile] in
/-- The counter of the gate after it decided is the new tally. -/
theorem judged_count (hcount : gate.initRxCount.toNat = w.tally idx % 2 ^ 32) {made : Arr 16}
    {verdict : Option Bool} (h : gate.Judges env.now made pkt verdict gate') :
    gate'.initRxCount.toNat =
      (if gate.cookieRequired = true ∧ gate.Proves pkt then 0
      else w.place idx gate env.now) % 2 ^ 32 := by
  have hplace : (gate.counted env.now).initRxCount.toNat = w.place idx gate env.now % 2 ^ 32 :=
    counted_place hcount
  cases h with
  | proven hrequired hproves =>
      rw [if_pos ⟨hrequired, hproves⟩]
      rfl
  | refused hrequired hproves => rwa [if_neg fun h => hproves h.2]
  | admitted hrequired hlimit => rwa [if_neg fun h => Bool.eq_false_iff.1 hrequired h.1]
  | challenged hrequired hlimit => rwa [if_neg fun h => Bool.eq_false_iff.1 hrequired h.1]
  | failed hrequired hlimit => rwa [if_neg fun h => Bool.eq_false_iff.1 hrequired h.1]

omit [Profile] [Primitives] in
theorem Tallies.append {tally : ℕ → ℕ} {gates : List CookieGate} (h : Tallies tally gates)
    (now : Instant) : Tallies tally (gates ++ [.fresh now]) := by
  refine ⟨fun {i g} hi => ?_, fun {i} hi => h.unborn ?_⟩
  · rcases Nat.lt_or_ge i gates.length with hlt | hge
    · rw [List.getElem?_append_left hlt] at hi
      exact h.counts hi
    · obtain rfl : g = .fresh now := by
        rw [List.getElem?_append_right hge] at hi
        exact List.mem_singleton.1 (List.mem_of_getElem? hi)
      rw [h.unborn hge]
      rfl
  · rw [List.length_append] at hi
    omega

omit [Profile] [Primitives] in
theorem Tallies.set {tally : ℕ → ℕ} {gates : List CookieGate} (h : Tallies tally gates)
    (hgate : gates[idx]? = some gate) {count : ℕ}
    (hcount : gate'.initRxCount.toNat = count % 2 ^ 32) :
    Tallies (Function.update tally idx count) (gates.set idx gate') := by
  have hidx : idx < gates.length := (List.getElem?_eq_some_iff.1 hgate).1
  refine ⟨fun {i g} hi => ?_, fun {i} hi => ?_⟩
  · by_cases hsame : i = idx
    · subst hsame
      rw [List.getElem?_set_self hidx] at hi
      cases hi
      rw [Function.update_self, hcount]
    · rw [List.getElem?_set_ne (Ne.symm hsame)] at hi
      rw [Function.update_of_ne hsame, h.counts hi]
  · rw [List.length_set] at hi
    rw [Function.update_of_ne (by omega)]
    exact h.unborn hi

omit [Profile] in
/-- A move of the gates keeps the counters and the tallies together. -/
theorem Tallies.move (h : Tallies w.tally w.manager.gates) {gates : List CookieGate}
    (hmove : GatesMove w.manager event gates) : Tallies (w.tallyAfter event) gates := by
  cases hmove with
  | kept hmessage =>
      rw [tallyAfter_kept hmessage]
      exact h
  | added env config => exact h.append env.now
  | judged hroute hgate hjudges =>
      rw [tallyAfter_judged hroute hgate]
      exact h.set hgate (judged_count (h.counts hgate) hjudges)

/-- One event keeps the invariant. -/
theorem Sound.fire (hsound : w.Sound) (h : w.fire cookie event = some w') : w'.Sound := by
  obtain ⟨hfire, htally⟩ := fire_eq_some h
  have hmove := (fireWith_gates hsound.guarded hfire).2
  refine ⟨hsound.guarded.fireWith hfire, ?_⟩
  rw [htally]
  exact hsound.tallies.move hmove

/-- A new manager, before any INIT was counted. -/
def start (manager : TunnelManager) : Watched := ⟨manager, fun _ => 0⟩

omit [Profile] in
theorem sound_start {config : ManagerConfig} {peerCfgs : List PeerConfig} {manager : TunnelManager}
    (hnew : new env config peerCfgs = .ok manager) : (start manager).Sound := by
  refine ⟨guarded_new hnew, fun {i g} hi => ?_, fun _ => rfl⟩
  rw [gates_new hnew g (List.mem_of_getElem? hi)]
  rfl

/-! ## Which INITs are consumed -/

/-- The event is a direct INIT, and one of the first that the gate counted. -/
def AmongFirst (w : Watched) (event : Event) (idx : ℕ) : Prop :=
  ∃ env source datagram pkt gate, event = .incoming env source datagram ∧
    w.manager.route source datagram = some (idx, .init pkt) ∧
    w.manager.gates[idx]? = some gate ∧ w.place idx gate env.now ≤ cookieInitRateLimit

/-- The INIT carries a mac2 that is valid for the cookie outstanding for the session. -/
def Proves (w : Watched) (idx : ℕ) (pkt : Bytes) : Prop :=
  ∃ gate, w.manager.gates[idx]? = some gate ∧ gate.Proves pkt

/-- Whatever INIT the event hands to `Responder::consume_init` is one of the first that were
counted, or proves the cookie. -/
def Bounded (cookie : Key → SocketAddr → Arr 16) (w : Watched) (event : Event) : Prop :=
  ∀ idx pkt, Consumes (.returning cookie) w.manager event idx pkt →
    w.AmongFirst event idx ∨ w.Proves idx pkt

/-- One more INIT leads the counter of a gate that asks for no cookie around to a small number. -/
def Wraps (w : Watched) (idx : ℕ) (gate : CookieGate) (now : Instant) : Prop :=
  ¬ gate.Overflows now ∧ gate.cookieRequired = false ∧ 2 ^ 32 ≤ w.place idx gate now ∧
    w.place idx gate now % 2 ^ 32 ≤ cookieInitRateLimit

/-- The event does not get around the gate: an INIT in a RELAY packet for a session that waits for
one proves the cookie, and no direct INIT leads the counter around. -/
def Gated (w : Watched) (event : Event) : Prop :=
  ∀ env source datagram idx peer, event = .incoming env source datagram →
    w.manager.peers[idx]? = some peer →
    (∀ pkt responder, w.manager.route source datagram = some (idx, .relayedInit pkt) →
      initSize ≤ pkt.length → peer.state = .handshakingAsResponder responder →
        peer.gate.Proves pkt) ∧
    ∀ pkt responder, w.manager.route source datagram = some (idx, .init pkt) →
      initSize ≤ pkt.length → peer.Consults w.manager.config.localKeypair env responder →
        ¬ w.Wraps idx peer.gate env.now

omit [Profile] in
theorem proves_iff {peer : PeerSession} (hpeer : w.manager.peers[idx]? = some peer) :
    w.Proves idx pkt ↔ peer.gate.Proves pkt := by
  rw [Proves, getElem?_gates hpeer]
  simp

/-- An INIT that is admitted without a cookie is one of the first, or it led the counter around. -/
theorem admitted_cases (hcount : gate.initRxCount.toNat = w.tally idx % 2 ^ 32)
    (hadmits : gate.Admits now pkt) (hrequired : gate.cookieRequired = false) :
    w.place idx gate now ≤ cookieInitRateLimit ∨ w.Wraps idx gate now := by
  have hlimit : cookieInitRateLimit = 5 := rfl
  have hadmitted := hadmits.2
  rw [if_neg (Bool.eq_false_iff.1 hrequired), counted_place hcount] at hadmitted
  by_cases hfirst : w.place idx gate now ≤ cookieInitRateLimit
  · exact Or.inl hfirst
  · exact Or.inr ⟨hadmits.1, hrequired, by omega, hadmitted⟩

/-- One event stays within the bound exactly if it does not get around the gate. -/
theorem bounded_iff_gated (hsound : w.Sound) : w.Bounded cookie event ↔ w.Gated event := by
  constructor
  · intro hbounded env source datagram idx peer hevent hpeer
    subst hevent
    have hgate := getElem?_gates hpeer
    refine ⟨fun pkt responder hroute hsize hstate => ?_,
      fun pkt responder hroute hsize hconsults hwraps => ?_⟩
    · rcases hbounded idx pkt (.relayed hroute hsize hpeer hstate) with hfirst | hproves
      · obtain ⟨_, _, _, _, _, hevent, hdirect, _⟩ := hfirst
        cases hevent
        cases hroute.symm.trans hdirect
      · exact (proves_iff hpeer).1 hproves
    -- A counter that has wrapped lets the INIT pass without being one of the first.
    · obtain ⟨hover, hrequired, hround, hsmall⟩ := hwraps
      have hadmits : peer.gate.Admits env.now pkt := by
        refine ⟨hover, ?_⟩
        rw [if_neg (Bool.eq_false_iff.1 hrequired),
          counted_place (hsound.tallies.counts hgate)]
        exact hsmall
      obtain ⟨judged, hjudge⟩ := (judge_passes_iff hsound.guarded hpeer).2 hadmits
      obtain ⟨peer', hpeer', hconsults'⟩ := (judge_consults_iff hpeer hjudge).2 hconsults
      rcases hbounded idx pkt (.direct hroute hjudge hsize hpeer' hconsults') with hfirst | hproves
      · obtain ⟨_, _, _, _, g, hevent, _, hg, hplace⟩ := hfirst
        cases hevent
        cases hgate.symm.trans hg
        have hlimit : cookieInitRateLimit = 5 := rfl
        omega
      · exact (hsound.guarded.paired _ (List.mem_of_getElem? hgate)).not_proves hrequired pkt
          ((proves_iff hpeer).1 hproves)
  · intro hgated idx pkt hconsumes
    cases hconsumes with
    | @direct env source datagram _ _ judged peer' responder hroute hjudge hsize hpeer' hconsults' =>
        obtain ⟨peer, _, hpeer, _, _⟩ := handleIncomingWith_routed (.returning cookie) env
          hsound.guarded.wellFormed hroute
        have hconsults := (judge_consults_iff hpeer hjudge).1 ⟨peer', hpeer', hconsults'⟩
        have hadmits := (judge_passes_iff hsound.guarded hpeer).1 ⟨judged, hjudge⟩
        have hgate := getElem?_gates hpeer
        cases hrequired : peer.gate.cookieRequired with
        | true =>
            have hproves := hadmits.2
            rw [if_pos hrequired] at hproves
            exact Or.inr ((proves_iff hpeer).2 hproves)
        | false =>
            rcases admitted_cases (hsound.tallies.counts hgate) hadmits hrequired with hfirst | hwraps
            · exact Or.inl ⟨env, source, datagram, pkt, peer.gate, rfl, hroute, hgate, hfirst⟩
            · exact absurd hwraps ((hgated env source datagram idx peer rfl hpeer).2 pkt responder
                hroute hsize hconsults)
    | relayed hroute hsize hpeer hstate =>
        exact Or.inr ((proves_iff hpeer).2
          ((hgated _ _ _ idx _ rfl hpeer).1 pkt _ hroute hsize hstate))

/-- In every run of a manager, every INIT that is handed to `Responder::consume_init` is among the
first five that were counted or proves the outstanding cookie exactly if no event gets around
the gate. -/
theorem consumed_bounded_iff {config : ManagerConfig} {peerCfgs : List PeerConfig}
    {manager : TunnelManager} (hnew : new env config peerCfgs = .ok manager)
    (cookie : Key → SocketAddr → Arr 16) (events : List Event) :
    AllSteps (fire cookie) (Bounded cookie) (start manager) events ↔
      AllSteps (fire cookie) Gated (start manager) events :=
  allSteps_congr (I := Sound) (fun _ _ _ hsound _ hfire => hsound.fire hfire)
    (fun _ _ hsound _ => bounded_iff_gated hsound) (sound_start hnew)
    (allSteps_of_forall (fun _ _ => trivial) _ _)

/-- The event is no INIT in a RELAY packet, and no counter is anywhere near its end. -/
def calm (w : Watched) : Event → Bool
  | .incoming env source datagram =>
      match w.manager.route source datagram with
      | some (idx, .init _) => w.manager.gates[idx]?.all fun gate =>
          decide (w.place idx gate env.now < 2 ^ 32)
      | some (_, .relayedInit _) => false
      | _ => true
  | _ => true

omit [Profile] in
theorem gated_of_calm [Profile] (h : w.calm event = true) : w.Gated event := by
  rintro env source datagram idx peer rfl hpeer
  rw [calm] at h
  refine ⟨fun pkt responder hroute => ?_, fun pkt responder hroute _ _ hwraps => ?_⟩
  · rw [hroute] at h
    cases h
  · rw [hroute] at h
    simp only [getElem?_gates hpeer, Option.all_some, decide_eq_true_eq] at h
    exact absurd hwraps.2.2.1 (not_le.2 h)

end Watched

end General

section Symbolic

open Symbolic TunnelManager

attribute [local instance] Symbolic.primitives Symbolic.release

/-- Six times the type byte of an INIT and 147 more, directly and at one instant. -/
def directFlood : List Event :=
  List.replicate 6 (.incoming (quietEnv 5 ⟨1000, 0⟩ 7) (address 2)
    (messageTypeInit :: List.replicate 147 0))

namespace Watched

/-- A flood of direct INITs that no event helps around the gate stays within the bound. -/
theorem direct_flood_bounded :
    ∃ manager, new (quietEnv 0 ⟨1000, 0⟩ 7) (nodeConfig 1) [sessionWith 2 false] = .ok manager ∧
      AllSteps (fire plainCookie) (Bounded plainCookie) (start manager) directFlood := by
  have hrun : (new (quietEnv 0 ⟨1000, 0⟩ 7) (nodeConfig 1) [sessionWith 2 false]).toOption.any
      (fun manager => decide (AllSteps (fire plainCookie) (fun w event => w.calm event = true)
        (start manager) directFlood)) = true := by
    decide +kernel
  obtain ⟨manager, hnew, hcheck⟩ := of_new hrun
  have hcalm := of_decide_eq_true hcheck
  exact ⟨manager, hnew, (consumed_bounded_iff hnew plainCookie directFlood).2
    (hcalm.mono fun w event h => gated_of_calm h)⟩

end Watched

/-- The same INIT from the same node in a RELAY packet. -/
def relayedInit : Bytes := messageTypeInit :: List.replicate 147 0

/-- Six RELAY packets with that INIT at one instant. -/
def relayedFlood : List Event :=
  List.replicate 6 (.incoming (quietEnv 5 ⟨1000, 0⟩ 7) (address 3)
    (Session.relayFrame (publicKey (key 2)) ⟨100, 100, 0, 1⟩ relayedInit))

namespace Watched

/-- The session with node 2 waits for an INIT, and the event brings one in a RELAY packet. -/
def exposed (w : Watched) : Event → Bool
  | .incoming _ source datagram =>
      decide (w.manager.route source datagram = some (0, .relayedInit relayedInit)) &&
        w.manager.peers[0]?.any fun peer =>
          decide (¬ peer.gate.Proves relayedInit) &&
            match peer.state with
            | .handshakingAsResponder _ => true
            | _ => false
  | _ => false

/-- The INIT of an exposed session is consumed without a cookie and without being counted. -/
theorem consumes_of_exposed {w : Watched} {event : Event} (h : w.exposed event = true) :
    Consumes (.returning plainCookie) w.manager event 0 relayedInit ∧
      ¬ w.AmongFirst event 0 ∧ ¬ w.Proves 0 relayedInit := by
  have hsize : relayedInit.length = initSize := by
    rw [relayedInit, List.length_cons, List.length_replicate]
    rfl
  cases event with
  | incoming env source datagram =>
      obtain ⟨hroute, hsession⟩ := Bool.and_eq_true_iff.1 h
      have hroute := of_decide_eq_true hroute
      obtain ⟨peer, hpeer, hcheck⟩ := (Option.any_eq_true _ _).1 hsession
      obtain ⟨hproves, hwaits⟩ := Bool.and_eq_true_iff.1 hcheck
      have hproves := of_decide_eq_true hproves
      refine ⟨?_, ?_, fun h => hproves ((proves_iff hpeer).1 h)⟩
      · cases hstate : peer.state with
        | handshakingAsResponder responder =>
            exact .relayed hroute hsize.ge hpeer hstate
        | init =>
            rw [hstate] at hwaits
            cases hwaits
        | handshakingAsInitiator initiator =>
            rw [hstate] at hwaits
            cases hwaits
        | ready transport sid rehandshake =>
            rw [hstate] at hwaits
            cases hwaits
      · rintro ⟨_, _, _, _, _, hevent, hdirect, _⟩
        cases hevent
        cases hroute.symm.trans hdirect
  | addPeer env config => cases h
  | retryInit env idx => cases h
  | dispatchTunPacket env pkt => cases h
  | maintenance env => cases h

/-- Six INITs in RELAY packets at one instant are all consumed, without a cookie. -/
theorem relayed_flood_consumed :
    ∃ manager, new (quietEnv 0 ⟨1000, 0⟩ 7) (nodeConfig 1) [sessionWith 2 false] = .ok manager ∧
      (exec (fire plainCookie) (start manager) relayedFlood).isSome = true ∧
      AllSteps (fire plainCookie) (fun w event =>
        Consumes (.returning plainCookie) w.manager event 0 relayedInit) (start manager)
        relayedFlood ∧
      ¬ AllSteps (fire plainCookie) (Bounded plainCookie) (start manager) relayedFlood := by
  have hrun : (new (quietEnv 0 ⟨1000, 0⟩ 7) (nodeConfig 1) [sessionWith 2 false]).toOption.any
      (fun manager => (exec (fire plainCookie) (start manager) relayedFlood).isSome &&
        decide (AllSteps (fire plainCookie) (fun w event => w.exposed event = true)
          (start manager) relayedFlood)) = true := by
    decide +kernel
  obtain ⟨manager, hnew, hcheck⟩ := of_new hrun
  obtain ⟨hends, hexposed⟩ := Bool.and_eq_true_iff.1 hcheck
  have hexposed := of_decide_eq_true hexposed
  refine ⟨manager, hnew, hends, hexposed.mono fun w event h => (consumes_of_exposed h).1,
    fun hbounded => ?_⟩
  obtain ⟨hconsumes, hfirst, hproves⟩ := consumes_of_exposed hexposed.1
  exact (hbounded.1 0 relayedInit hconsumes).elim hfirst hproves

end Watched

end Symbolic

end Naboscale
