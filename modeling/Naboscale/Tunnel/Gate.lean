import Naboscale.Tunnel.Changes

/-!
# The cookie gate

`check_init_cookie` counts INITs and is meant to answer the sixth within a second with a cookie.
Making the cookie always panics, so in every state that is reached no cookie was ever sent and
at most five INITs were counted.
-/

namespace Naboscale

open Rust

variable [Profile] [Primitives]

namespace PeerSession

/-- One more INIT now is over the rate limit: five were counted in a window that is still
running. -/
def OverLimit (peer : PeerSession) (now : Instant) : Prop :=
  now.durationSince peer.initRxWindowStart < second ∧
    cookieInitRateLimit ≤ peer.initRxCount.toNat

instance (peer : PeerSession) (now : Instant) : Decidable (peer.OverLimit now) :=
  inferInstanceAs (Decidable (_ ∧ _))

/-- The session after the gate lets an INIT pass. -/
def counted (peer : PeerSession) (now : Instant) : PeerSession :=
  { Session.restartWindow now peer with
    initRxCount := (Session.restartWindow now peer).initRxCount + 1 }

end PeerSession

namespace Session

variable {self : Session} {env : Env} {cookieSecret : Key} {source : SocketAddr} {pkt : Bytes}

omit [Profile] in
/-- `generate_cookie` never returns: it copies an address of 4 bytes into 6, and it reads 6
bytes of an IPv6 address as 4. -/
theorem generateCookie_panic {σ ε : Type} (cookieSecret : Key) (source : SocketAddr) :
    (generateCookie cookieSecret source : Method σ ε (Arr 16)) = Method.panic := by
  have hsecret : 0 ≤ 32 ∧ 32 ≤ 32 + 6 ∧ cookieSecret.val.length = 32 - 0 :=
    ⟨by decide, by decide, Arr.length_eq cookieSecret⟩
  rw [generateCookie, Arr.copyFromSlice_eq _ hsecret, pure_bind]
  cases source.ip with
  | v4 ip =>
      have hip : min 6 ip.octets.val.length = 4 := by rw [Arr.length_eq]; rfl
      have hsub : (sub ip.octets.val 0 4).length = 4 := sub_length (Arr.length_eq _).ge
      have hunequal : ¬ (32 ≤ 32 + 6 ∧ 32 + 6 ≤ 32 + 6 ∧
          (sub ip.octets.val 0 4).length = 32 + 6 - 32) := by
        rw [hsub]
        decide
      simp only [pure_bind, hip]
      rw [slice_eq (by decide) (Arr.length_eq _).ge, pure_bind, Arr.copyFromSlice,
        dif_neg hunequal]
      rfl
  | v6 octets =>
      have hhead : (sub octets.val 0 6).length = 6 :=
        sub_length (le_trans (by decide) (Arr.length_eq octets).ge)
      have hunequal : (sub octets.val 0 6).length ≠ 4 := by
        rw [hhead]
        decide
      simp only
      rw [slice_eq (by decide) (le_trans (by decide) (Arr.length_eq octets).ge), pure_bind,
        expectArr, dif_neg hunequal]
      rfl

omit [Profile] in
/-- Restarting the window leaves the rest of the session alone. -/
theorem restartWindow_fields (now : Instant) (peer : PeerSession) :
    (restartWindow now peer).config = peer.config ∧
      (restartWindow now peer).state = peer.state ∧
      (restartWindow now peer).cookieRequired = peer.cookieRequired := by
  unfold restartWindow
  split <;> exact ⟨rfl, rfl, rfl⟩

omit [Profile] in
/-- The count that the gate starts from is below the limit, unless one more INIT is over it. -/
theorem restartWindow_count (now : Instant) {peer : PeerSession} (hgate : peer.GateOpen) :
    (restartWindow now peer).initRxCount.toNat ≤ cookieInitRateLimit ∧
      ((restartWindow now peer).initRxCount.toNat = cookieInitRateLimit ↔
        peer.OverLimit now) := by
  have hcount := hgate.2
  unfold restartWindow PeerSession.OverLimit
  by_cases hwindow : second ≤ now.durationSince peer.initRxWindowStart
  · rw [if_pos hwindow]
    have hzero : (0 : UInt32).toNat ≠ cookieInitRateLimit := by decide
    exact ⟨Nat.zero_le _, iff_of_false hzero fun h => absurd h.1 (not_lt.2 hwindow)⟩
  · rw [if_neg hwindow]
    exact ⟨hcount, fun h => ⟨not_le.1 hwindow, h.ge⟩, fun h => le_antisymm hcount h.2⟩

omit [Primitives] in
/-- A count that has not passed the limit can be raised. -/
theorem nextCount_eq {σ ε : Type} {count : UInt32} (h : count.toNat ≤ cookieInitRateLimit) :
    (nextCount count : Method σ ε UInt32) = pure (count + 1) := by
  have hlimit : cookieInitRateLimit = 5 := rfl
  rw [nextCount, if_pos (by omega)]

omit [Profile] [Primitives] in
theorem toNat_count_succ {count : UInt32} (h : count.toNat ≤ cookieInitRateLimit) :
    (count + 1).toNat = count.toNat + 1 := by
  have hlimit : cookieInitRateLimit = 5 := rfl
  rw [UInt32.toNat_add, show (1 : UInt32).toNat = 1 from rfl]
  omega

/-- An INIT over the rate limit makes `check_init_cookie` panic; any other passes. -/
theorem checkInitCookie_eq (hgate : self.peer.GateOpen) :
    checkInitCookie cookieSecret env source pkt self =
      if self.peer.OverLimit env.now then .panic
      else .ok false { self with peer := self.peer.counted env.now } := by
  obtain ⟨hle, hover⟩ := restartWindow_count env.now hgate
  have hrequired : (restartWindow env.now self.peer).cookieRequired = false :=
    (restartWindow_fields env.now self.peer).2.2.trans hgate.1
  have hlimit : cookieInitRateLimit = 5 := rfl
  unfold checkInitCookie
  rw [Method.bind_ok (show modifyPeer _ self = .ok () _ from rfl),
    Method.bind_ok (Method.get_apply _), nextCount_eq hle, pure_bind,
    Method.bind_ok (show modifyPeer _ _ = .ok () _ from rfl), hrequired, if_neg (by decide),
    toNat_count_succ hle]
  by_cases h : self.peer.OverLimit env.now
  · have hcount := hover.2 h
    rw [if_pos h, if_pos (by omega), generateCookie_panic]
    rfl
  · have hcount := mt hover.1 h
    rw [if_neg h, if_neg (by omega)]
    rfl

omit [Profile] in
theorem counted_gateOpen {peer : PeerSession} {now : Instant} (hgate : peer.GateOpen)
    (h : ¬ peer.OverLimit now) : (peer.counted now).GateOpen := by
  obtain ⟨hle, hover⟩ := restartWindow_count now hgate
  have hcount := mt hover.1 h
  refine ⟨(restartWindow_fields now peer).2.2.trans hgate.1, ?_⟩
  show ((restartWindow now peer).initRxCount + 1).toNat ≤ cookieInitRateLimit
  rw [toNat_count_succ hle]
  omega

omit [Profile] in
/-- The session that passed the gate is the same but for its counter. -/
theorem counted_keeps {peer : PeerSession} {now : Instant} (h : ¬ peer.OverLimit now) :
    peer.Keeps (peer.counted now) := by
  obtain ⟨hconfig, hstate, _⟩ := restartWindow_fields now peer
  refine ⟨?_, hstate, fun hgate => counted_gateOpen hgate h⟩
  show peer.config.Same (restartWindow now peer).config
  rw [hconfig]
  exact .refl _

end Session

end Naboscale
