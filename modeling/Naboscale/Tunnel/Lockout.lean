import Naboscale.Tunnel.Admission
import Naboscale.Tunnel.Parties

/-!
# A peer that is locked out

What becomes of an INIT that comes a second or more after the last one of its peer. By then the
window of the counter is over, so the gate lets it pass as long as it asks for no cookie. Once the
gate asked for one it asks for this cookie only, and an INIT that does not prove it is dropped
without an answer, however long ago the cookie was sent or lost.
-/

namespace Naboscale

open Rust Method Transition

section General

variable [Profile] [Primitives]

namespace CookieGate

variable {gate : CookieGate} {now : Instant} {pkt : Bytes}

omit [Primitives] in
/-- A counter that starts anew does not trap. -/
theorem not_overflows (hcount : (gate.restarted now).initRxCount = 0) : ¬ gate.Overflows now := by
  rintro ⟨_, h⟩
  rw [hcount] at h
  exact absurd h (by decide)

/-- With a counter that starts anew, the gate holds back only those INITs that do not prove the
cookie it asks for. -/
theorem admits_iff (hcount : (gate.restarted now).initRxCount = 0) :
    gate.Admits now pkt ↔ gate.cookieRequired = false ∨ gate.Proves pkt := by
  have hfirst : (gate.counted now).initRxCount.toNat ≤ cookieInitRateLimit := by
    show ((gate.restarted now).initRxCount + 1).toNat ≤ cookieInitRateLimit
    rw [hcount]
    decide
  rw [Admits, and_iff_right (not_overflows hcount)]
  cases gate.cookieRequired with
  | true => simp
  | false => simp [hfirst]

omit [Profile] [Primitives] in
theorem restarted_of_windowOver (h : gate.WindowOver now) :
    (gate.restarted now).initRxCount = 0 := by
  rw [restarted, if_pos h]

omit [Profile] [Primitives] in
theorem restarted_of_zero (h : gate.initRxCount = 0) : (gate.restarted now).initRxCount = 0 := by
  rw [restarted]
  split
  · rfl
  · exact h

end CookieGate

/-! ## The last INIT of a peer -/

/-- A manager, when each session last received an INIT, and the clock. -/
structure Timed where
  manager : TunnelManager
  lastInit : ℕ → Option Instant
  clock : Instant

namespace Timed

open TunnelManager

/-- When each session last received an INIT, direct or in a RELAY packet, after an event. -/
def lastInitAfter (w : Timed) : Event → ℕ → Option Instant
  | .incoming env source datagram =>
      match w.manager.route source datagram with
      | some (idx, message) =>
          if message.initPkt?.isSome then Function.update w.lastInit idx (some env.now)
          else w.lastInit
      | none => w.lastInit
  | _ => w.lastInit

/-- An event of the manager, with the time of the last INITs. -/
def fire (cookie : Key → SocketAddr → Arr 16) (w : Timed) (event : Event) : Option Timed :=
  (fireWith (.returning cookie) w.manager event).map fun manager =>
    ⟨manager, w.lastInitAfter event, event.inputs.now⟩

/-- The clock does not go back. -/
def InOrder (w : Timed) (event : Event) : Prop := w.clock ≤ event.inputs.now

/-- A new manager. -/
def start (clock : Instant) (manager : TunnelManager) : Timed := ⟨manager, fun _ => none, clock⟩

/-- The window of a gate was started no later than the last INIT came. -/
structure Windows (lastInit : ℕ → Option Instant) (clock : Instant) (gates : List CookieGate) :
    Prop where
  past {idx : ℕ} {gate : CookieGate} : gates[idx]? = some gate → gate.initRxWindowStart ≤ clock
  last {idx : ℕ} {gate : CookieGate} {time : Instant} : gates[idx]? = some gate →
    lastInit idx = some time → gate.initRxWindowStart ≤ time
  first {idx : ℕ} {gate : CookieGate} : gates[idx]? = some gate → lastInit idx = none →
    gate.initRxCount = 0
  unborn {idx : ℕ} : gates.length ≤ idx → lastInit idx = none

/-- The invariant of every run whose clock does not go back. -/
structure Sound (w : Timed) : Prop where
  guarded : w.manager.Guarded
  windows : Windows w.lastInit w.clock w.manager.gates

variable {cookie : Key → SocketAddr → Arr 16} {w w' : Timed} {event : Event} {idx : ℕ}
  {gate gate' : CookieGate} {env : Env} {source : SocketAddr} {datagram pkt : Bytes}
  {now clock : Instant} {lastInit : ℕ → Option Instant} {gates : List CookieGate}

omit [Profile] [Primitives] in
theorem windowStart_restarted (h : gate.initRxWindowStart ≤ now) :
    (gate.restarted now).initRxWindowStart ≤ now := by
  rw [CookieGate.restarted]
  split
  · exact le_rfl
  · exact h

omit [Profile] in
/-- Whatever the gate decides, its window was not started later than the INIT came. -/
theorem judged_windowStart (h : gate.initRxWindowStart ≤ now) {made : Arr 16}
    {verdict : Option Bool} (hjudges : gate.Judges now made pkt verdict gate') :
    gate'.initRxWindowStart ≤ now := by
  have hstart := windowStart_restarted h
  cases hjudges with
  | proven => exact hstart
  | refused => exact hstart
  | admitted => exact hstart
  | challenged => exact hstart
  | failed => exact hstart

omit [Profile] [Primitives] in
/-- Time passes. -/
theorem Windows.later (h : Windows lastInit clock gates) (hclock : clock ≤ now) :
    Windows lastInit now gates :=
  ⟨fun hi => (h.past hi).trans hclock, h.last, h.first, h.unborn⟩

omit [Profile] [Primitives] in
/-- An INIT came that the gate did not see. -/
theorem Windows.seen (h : Windows lastInit now gates) (hidx : idx < gates.length) :
    Windows (Function.update lastInit idx (some now)) now gates := by
  refine ⟨h.past, fun {i g time} hi htime => ?_, fun {i g} hi hnone => ?_, fun {i} hi => ?_⟩
  · by_cases hsame : i = idx
    · subst hsame
      rw [Function.update_self] at htime
      cases htime
      exact h.past hi
    · rw [Function.update_of_ne hsame] at htime
      exact h.last hi htime
  · by_cases hsame : i = idx
    · subst hsame
      rw [Function.update_self] at hnone
      cases hnone
    · rw [Function.update_of_ne hsame] at hnone
      exact h.first hi hnone
  · rw [Function.update_of_ne (by omega)]
    exact h.unborn hi

omit [Profile] [Primitives] in
/-- The gate of a session that has just received an INIT changed. -/
theorem Windows.set (h : Windows lastInit now gates) (hseen : lastInit idx = some now)
    (hstart : gate'.initRxWindowStart ≤ now) : Windows lastInit now (gates.set idx gate') := by
  have hcases : ∀ {i g}, (gates.set idx gate')[i]? = some g →
      i = idx ∧ g = gate' ∨ gates[i]? = some g := by
    intro i g hi
    by_cases hsame : i = idx
    · subst hsame
      obtain ⟨hlt, hget⟩ := List.getElem?_eq_some_iff.1 hi
      rw [List.getElem_set_self] at hget
      exact Or.inl ⟨rfl, hget.symm⟩
    · rw [List.getElem?_set_ne (Ne.symm hsame)] at hi
      exact Or.inr hi
  refine ⟨fun {i g} hi => ?_, fun {i g time} hi htime => ?_, fun {i g} hi hnone => ?_,
    fun {i} hi => h.unborn (by rwa [List.length_set] at hi)⟩
  · rcases hcases hi with ⟨_, rfl⟩ | hold
    · exact hstart
    · exact h.past hold
  · rcases hcases hi with ⟨rfl, rfl⟩ | hold
    · cases hseen.symm.trans htime
      exact hstart
    · exact h.last hold htime
  · rcases hcases hi with ⟨rfl, rfl⟩ | hold
    · cases hseen.symm.trans hnone
    · exact h.first hold hnone

omit [Profile] [Primitives] in
theorem Windows.append (h : Windows lastInit now gates) :
    Windows lastInit now (gates ++ [.fresh now]) := by
  have hcases : ∀ {i g}, (gates ++ [CookieGate.fresh now])[i]? = some g →
      gates[i]? = some g ∨ gates.length ≤ i ∧ g = .fresh now := by
    intro i g hi
    rcases Nat.lt_or_ge i gates.length with hlt | hge
    · rw [List.getElem?_append_left hlt] at hi
      exact Or.inl hi
    · rw [List.getElem?_append_right hge] at hi
      exact Or.inr ⟨hge, List.mem_singleton.1 (List.mem_of_getElem? hi)⟩
  refine ⟨fun {i g} hi => ?_, fun {i g time} hi htime => ?_, fun {i g} hi hnone => ?_,
    fun {i} hi => h.unborn (by rw [List.length_append] at hi; omega)⟩
  · rcases hcases hi with hold | ⟨_, rfl⟩
    · exact h.past hold
    · exact le_rfl
  · rcases hcases hi with hold | ⟨hge, rfl⟩
    · exact h.last hold htime
    · rw [h.unborn hge] at htime
      cases htime
  · rcases hcases hi with hold | ⟨_, rfl⟩
    · exact h.first hold hnone
    · rfl

/-- Noting the last INITs. -/
theorem Windows.noted (hwf : w.manager.WellFormed)
    (h : Windows w.lastInit event.inputs.now w.manager.gates) :
    Windows (w.lastInitAfter event) event.inputs.now w.manager.gates := by
  cases event with
  | incoming env source datagram =>
      cases hroute : w.manager.route source datagram with
      | none =>
          simp only [lastInitAfter, hroute]
          exact h
      | some target =>
          obtain ⟨idx, message⟩ := target
          obtain ⟨peer, _, hpeer, _, _⟩ := handleIncomingWith_routed Session.generateCookie env hwf
            hroute
          have hidx : idx < w.manager.gates.length :=
            (List.getElem?_eq_some_iff.1 (getElem?_gates hpeer)).1
          simp only [lastInitAfter, hroute]
          split
          · exact h.seen hidx
          · exact h
  | _ => exact h

/-- One event keeps the invariant, if the clock does not go back. -/
theorem Sound.fire (hsound : w.Sound) (horder : w.InOrder event)
    (h : w.fire cookie event = some w') : w'.Sound := by
  obtain ⟨manager, hfire, rfl⟩ := Option.map_eq_some_iff.1 h
  have hmove := (fireWith_gates hsound.guarded hfire).2
  have hnoted := (hsound.windows.later horder).noted hsound.guarded.wellFormed
  refine ⟨hsound.guarded.fireWith hfire, ?_⟩
  show Windows (w.lastInitAfter event) event.inputs.now manager.gates
  generalize manager.gates = gates at hmove
  cases hmove with
  | kept hmessage => exact hnoted
  | added env config => exact hnoted.append
  | @judged env source datagram pkt idx _ _ gate _ hroute hgate hjudges =>
      have hseen : w.lastInitAfter (.incoming env source datagram) idx = some env.now := by
        simp [lastInitAfter, hroute, Message.initPkt?]
      exact hnoted.set hseen (judged_windowStart (hnoted.past hgate) hjudges)

omit [Profile] in
theorem sound_start {config : ManagerConfig} {peerCfgs : List PeerConfig} {manager : TunnelManager}
    (hnew : new env config peerCfgs = .ok manager) : (start env.now manager).Sound := by
  have hfresh : ∀ {i g}, manager.gates[i]? = some g → g = CookieGate.fresh env.now :=
    fun hi => gates_new hnew _ (List.mem_of_getElem? hi)
  refine ⟨guarded_new hnew, fun {i g} hi => ?_, (fun _ htime => nomatch htime),
    fun {i g} hi _ => ?_, fun {i} _ => rfl⟩
  · rw [hfresh hi]
    exact le_rfl
  · rw [hfresh hi]
    rfl

/-! ## Which INITs are answered -/

/-- The event is an INIT of full size that comes directly from the endpoint of a peer, a second or
more after the last INIT of that peer. -/
structure Comes (w : Timed) (event : Event) (env : Env) (source : SocketAddr) (pkt : Bytes)
    (idx : ℕ) : Prop where
  event : event = .incoming env source pkt
  known : w.manager.endpointToPeer source = some idx
  type : pkt[0]? = some messageTypeInit
  size : initSize ≤ pkt.length
  apart : ∀ last, w.lastInit idx = some last → second ≤ env.now.durationSince last

/-- The gate passes the INIT on to `handle_init`. -/
def PassedOn (cookie : Key → SocketAddr → Arr 16) (w : Timed) (env : Env) (source : SocketAddr)
    (pkt : Bytes) (idx : ℕ) : Prop :=
  ∃ judged, judge (.returning cookie) env idx source pkt w.manager = .ok false judged

/-- The gate answers the INIT with a COOKIE that carries a cookie made for it. -/
def Challenged (cookie : Key → SocketAddr → Arr 16) (w : Timed) (env : Env) (source : SocketAddr)
    (pkt : Bytes) (idx : ℕ) : Prop :=
  ∃ judged reply, judge (.returning cookie) env idx source pkt w.manager = .ok true judged ∧
    judged.transport.sent = w.manager.transport.sent ++ [(source, reply)] ∧
    reply[0]? = some messageTypeCookie ∧
    sub reply 8 24 = (cookie w.manager.cookieSecret source).val

/-- No such INIT is dropped. -/
def Answered (cookie : Key → SocketAddr → Arr 16) (w : Timed) (event : Event) : Prop :=
  ∀ env source pkt idx, w.Comes event env source pkt idx →
    w.PassedOn cookie env source pkt idx ∨ w.Challenged cookie env source pkt idx

/-- Whenever such an INIT comes, the gate asks for no cookie or the INIT proves the one that it
asks for. -/
def Unlocked (w : Timed) (event : Event) : Prop :=
  ∀ env source pkt idx gate, w.Comes event env source pkt idx →
    w.manager.gates[idx]? = some gate → gate.cookieRequired = false ∨ gate.Proves pkt

omit [Profile] in
/-- When such an INIT comes, the counter starts anew. -/
theorem Comes.restarted (hsound : w.Sound) (h : w.Comes event env source pkt idx)
    (hgate : w.manager.gates[idx]? = some gate) : (gate.restarted env.now).initRxCount = 0 := by
  cases hlast : w.lastInit idx with
  | none => exact CookieGate.restarted_of_zero (hsound.windows.first hgate hlast)
  | some last =>
      have hapart : second ≤ env.now - last := h.apart last hlast
      have hstart := hsound.windows.last hgate hlast
      refine CookieGate.restarted_of_windowOver ?_
      show second ≤ env.now - gate.initRxWindowStart
      exact hapart.trans (Nat.sub_le_sub_left hstart env.now)

/-- An INIT that the gate does not admit is not answered. -/
theorem not_challenged (hsound : w.Sound) {peer : PeerSession}
    (hpeer : w.manager.peers[idx]? = some peer) (hrequired : peer.gate.cookieRequired = true)
    (hproves : ¬ peer.gate.Proves pkt) : ¬ w.Challenged cookie env source pkt idx := by
  rintro ⟨judged, reply, hjudge, hsent, _⟩
  obtain ⟨noted, endpoint, _, htransport, hheard, heq⟩ := judge_eq cookie env source pkt hpeer
  have hpaired : peer.gate.Paired :=
    hsound.guarded.paired _ (List.mem_of_getElem? (getElem?_gates hpeer))
  let session : Session := ⟨peer.heard env endpoint, noted.transport, noted.device⟩
  have hcheck : Session.checkInitCookieWith (pure (cookie w.manager.cookieSecret source)) env source
      pkt session = if peer.gate.Overflows env.now then .panic
        else .ok true { session with peer := session.peer.counted env.now } :=
    Session.checkInitCookieWith_refused hpaired hrequired hproves
  rw [heq, atPeer_eq hheard, hcheck] at hjudge
  by_cases hover : peer.gate.Overflows env.now
  · rw [if_pos hover] at hjudge
    cases hjudge
  · rw [if_neg hover] at hjudge
    cases hjudge
    have hsame : noted.transport.sent = w.manager.transport.sent := by rw [htransport]
    rw [hsame] at hsent
    exact absurd hsent (by simp)

/-- One event leaves no such INIT unanswered exactly if none finds the gate locked. -/
theorem answered_iff_unlocked (hsound : w.Sound) : w.Answered cookie event ↔ w.Unlocked event := by
  have hpeer : ∀ {env source pkt idx}, w.Comes event env source pkt idx →
      ∃ peer, w.manager.peers[idx]? = some peer :=
    fun h => ⟨_, List.getElem?_eq_getElem (hsound.guarded.wellFormed.endpoints h.known)⟩
  constructor
  · intro hanswered env source pkt idx gate hcomes hgate
    obtain ⟨peer, hpeer⟩ := hpeer hcomes
    cases (getElem?_gates hpeer).symm.trans hgate
    rcases hanswered env source pkt idx hcomes with hpassed | hchallenged
    · exact (CookieGate.admits_iff (hcomes.restarted hsound hgate)).1
        ((judge_passes_iff hsound.guarded hpeer).1 hpassed)
    · cases hrequired : peer.gate.cookieRequired with
      | false => exact Or.inl rfl
      | true =>
          refine Or.inr (by_contra fun hproves => ?_)
          exact not_challenged hsound hpeer hrequired hproves hchallenged
  · intro hunlocked env source pkt idx hcomes
    obtain ⟨peer, hpeer⟩ := hpeer hcomes
    have hgate := getElem?_gates hpeer
    refine Or.inl ((judge_passes_iff hsound.guarded hpeer).2 ?_)
    exact (CookieGate.admits_iff (hcomes.restarted hsound hgate)).2
      (hunlocked env source pkt idx peer.gate hcomes hgate)

/-- In every run whose clock does not go back, every INIT that comes a second or more after the
last one of its peer is passed on or answered with a cookie, exactly if none of them comes to a
gate that asks for a cookie it does not prove. -/
theorem no_init_dropped_iff {config : ManagerConfig} {peerCfgs : List PeerConfig}
    {manager : TunnelManager} (hnew : new env config peerCfgs = .ok manager)
    (cookie : Key → SocketAddr → Arr 16) {events : List Event}
    (horder : AllSteps (fire cookie) InOrder (start env.now manager) events) :
    AllSteps (fire cookie) (Answered cookie) (start env.now manager) events ↔
      AllSteps (fire cookie) Unlocked (start env.now manager) events :=
  allSteps_congr (I := Sound) (fun _ _ _ hsound horder hfire => hsound.fire horder hfire)
    (fun _ _ hsound _ => answered_iff_unlocked hsound) (sound_start hnew) horder

omit [Profile] in
/-- A manager whose gates ask for no cookie is not locked. -/
theorem unlocked_of_open (h : ∀ gate ∈ w.manager.gates, gate.cookieRequired = false) :
    w.Unlocked event :=
  fun _ _ _ _ gate _ hgate => Or.inl (h gate (List.mem_of_getElem? hgate))

end Timed

end General

section Symbolic

open Symbolic TunnelManager

attribute [local instance] Symbolic.primitives Symbolic.release

/-- The INIT of node 2 arrives at an instant. -/
def initAt (now : Instant) : Event :=
  .incoming (quietEnv now ⟨1000, 0⟩ 7) (address 2) (initFor 2 1 ⟨1000, 0⟩ 8)

namespace Timed

instance (w : Timed) (event : Event) : Decidable (w.InOrder event) :=
  inferInstanceAs (Decidable (_ ≤ _))

/-- Three INITs, one every two seconds, are all passed on or answered. -/
theorem patient_initiator_answered :
    ∃ manager, new (quietEnv 0 ⟨1000, 0⟩ 7) (nodeConfig 1) [sessionWith 2 false] = .ok manager ∧
      AllSteps (fire plainCookie) (Answered plainCookie) (start 0 manager)
        [initAt second, initAt (3 * second), initAt (5 * second)] := by
  have hrun : (new (quietEnv 0 ⟨1000, 0⟩ 7) (nodeConfig 1) [sessionWith 2 false]).toOption.any
      (fun manager => decide (AllSteps (fire plainCookie) InOrder (start 0 manager)
          [initAt second, initAt (3 * second), initAt (5 * second)]) &&
        decide (AllSteps (fire plainCookie)
          (fun w _ => ∀ gate ∈ w.manager.gates, gate.cookieRequired = false) (start 0 manager)
          [initAt second, initAt (3 * second), initAt (5 * second)])) = true := by
    decide +kernel
  obtain ⟨manager, hnew, hcheck⟩ := of_new hrun
  simp only [Bool.and_eq_true, decide_eq_true_eq] at hcheck
  obtain ⟨horder, hopen⟩ := hcheck
  exact ⟨manager, hnew, (no_init_dropped_iff hnew plainCookie horder).2
    (hopen.mono fun w event h => unlocked_of_open h)⟩

/-- The gate of the session with node 2 takes the INIT of node 2 two seconds after the last one,
and neither passes it on nor sends anything. -/
def dropsNext (w : Timed) : Bool :=
  decide (w.manager.endpointToPeer (address 2) = some 0) &&
  decide (w.lastInit 0 = some second) &&
  match judge (.returning plainCookie) (quietEnv (3 * second) ⟨1000, 0⟩ 7) 0 (address 2)
    (initFor 2 1 ⟨1000, 0⟩ 8) w.manager with
  | .ok true judged =>
      decide (judged.transport.sent.length = w.manager.transport.sent.length)
  | _ => false

/-- Six INITs in a burst make the gate ask for a cookie. If the COOKIE is lost, the next INIT of the
peer is dropped without an answer, two seconds later. -/
theorem init_after_lost_cookie_dropped :
    ∃ manager, new (quietEnv 0 ⟨1000, 0⟩ 7) (nodeConfig 1) [sessionWith 2 false] = .ok manager ∧
      AllSteps (fire plainCookie) InOrder (start 0 manager)
        (List.replicate 6 (initAt second) ++ [initAt (3 * second)]) ∧
      ¬ AllSteps (fire plainCookie) (Answered plainCookie) (start 0 manager)
        (List.replicate 6 (initAt second) ++ [initAt (3 * second)]) := by
  have hrun : (new (quietEnv 0 ⟨1000, 0⟩ 7) (nodeConfig 1) [sessionWith 2 false]).toOption.any
      (fun manager => decide (AllSteps (fire plainCookie) InOrder (start 0 manager)
          (List.replicate 6 (initAt second) ++ [initAt (3 * second)])) &&
        (exec (fire plainCookie) (start 0 manager) (List.replicate 6 (initAt second))).any
          dropsNext) = true := by
    decide +kernel
  obtain ⟨manager, hnew, hcheck⟩ := of_new hrun
  simp only [Bool.and_eq_true, decide_eq_true_eq] at hcheck
  obtain ⟨horder, hdrops⟩ := hcheck
  obtain ⟨w, hexec, hdrops⟩ := (Option.any_eq_true _ _).1 hdrops
  simp only [dropsNext, Bool.and_eq_true, decide_eq_true_eq] at hdrops
  obtain ⟨⟨hknown, hlast⟩, hjudge⟩ := hdrops
  refine ⟨manager, hnew, horder, fun hanswered => ?_⟩
  have hcomes : w.Comes (initAt (3 * second)) (quietEnv (3 * second) ⟨1000, 0⟩ 7) (address 2)
      (initFor 2 1 ⟨1000, 0⟩ 8) 0 := by
    refine ⟨rfl, hknown, by decide +kernel, by decide +kernel, fun last h => ?_⟩
    cases hlast.symm.trans h
    decide
  rcases hanswered.last hexec _ _ _ _ hcomes with ⟨judged, h⟩ | ⟨judged, reply, h, hsent, _⟩
  · rw [h] at hjudge
    cases hjudge
  · rw [h] at hjudge
    have hlength := of_decide_eq_true hjudge
    rw [hsent, List.length_append, List.length_singleton] at hlength
    omega

end Timed

end Symbolic

end Naboscale
