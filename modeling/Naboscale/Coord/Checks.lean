import Naboscale.Coord.Granted
import Naboscale.Coord.Parties
import Naboscale.Rust.Distance

/-!
# The numbers in a request and its answer

Every handler compares the time that a signed request states with its clock before it looks at the
signature, in `i64` arithmetic. A request that the rate limiter refuses is answered with a number of
whole seconds to wait.
-/

namespace Naboscale.Coord

open Rust Concurrent

/-! ## The window of a timestamp -/

/-- The times are at most the window apart. -/
def WithinWindow (timestamp now : ℤ) : Prop := |now - timestamp| ≤ timestampWindowSeconds

instance (timestamp now : ℤ) : Decidable (WithinWindow timestamp now) :=
  inferInstanceAs (Decidable (_ ≤ _))

section Timestamps

variable [Profile] [CoordCrates]

/-- Where the arithmetic is exact, a timestamp is accepted exactly inside the window. -/
theorem validate_timestamp_exact {timestamp now : ℤ} (h : I64.Exact now timestamp) :
    validateTimestamp timestamp now = some (.ok ()) ↔ WithinWindow timestamp now := by
  have hresult : validateTimestamp timestamp now =
      some (if timestampWindowSeconds < |now - timestamp| then
        .error (.invalidTimestamp timestampWindowSeconds) else .ok ()) := by
    simp only [validateTimestamp, Option.bind_eq_bind, I64.value_eq h.1, I64.value_eq h.2,
      Option.bind_some, Option.pure_def]
  rw [hresult, WithinWindow, Option.some.injEq]
  split
  · rename_i hlt
    exact iff_of_false nofun (not_le.2 hlt)
  · rename_i hle
    exact iff_of_true rfl (not_lt.1 hle)

/-- For every timestamp of a request and every clock, the arithmetic is exact and the timestamp is
accepted exactly inside the window if and only if the timestamp is less than `2 ^ 63` seconds before
the clock. -/
theorem validate_timestamp_iff (timestamp : I64) {now : ℤ} (hnow : 0 ≤ now) :
    (I64.Exact now timestamp ∧
      (validateTimestamp timestamp now = some (.ok ()) ↔ WithinWindow timestamp now)) ↔
      now - timestamp < 2 ^ 63 := by
  rw [← I64.exact_iff_of_nonneg hnow timestamp.property.2]
  exact ⟨fun h => h.1, fun h => ⟨h, validate_timestamp_exact h⟩⟩

end Timestamps

/-! ## The seconds to wait -/

/-- The header `Retry-After` of an error. -/
def Error.retryAfter [CoordCrates] : Error → Option ℕ
  | rateLimited secs => some secs
  | _ => none

namespace RateLimiter

/-- The instants that are counted against a call. -/
def recent (self : RateLimiter) (call : Call) : List Instant :=
  (self call.peer call.bucket).dropWhile fun t =>
    !decide (SlidingWindow.Fresh call.bucket.limit.window call.now t)

/-- No counter has more instants than its limit. -/
def Bounded (self : RateLimiter) : Prop :=
  ∀ peer bucket, (self peer bucket).length ≤ bucket.limit.maxRequests

variable {self : RateLimiter} {call other : Call} {calls : List Call} {times : List Instant}

theorem check_fst (self : RateLimiter) (call : Call) :
    (self.check call.now call.peer call.bucket).1 =
      if call.bucket.limit.maxRequests ≤ (self.recent call).length then
        .error (call.bucket.limit.window -
          call.now.durationSince ((self.recent call).headD call.now) + grace)
      else .ok () := by
  rw [check, recent_eq, recent]
  split <;> rfl

theorem admits_iff (self : RateLimiter) (call : Call) :
    self.admits call = true ↔ (self.recent call).length < call.bucket.limit.maxRequests := by
  rw [admits, check_fst]
  split
  · exact iff_of_false Bool.false_ne_true (not_lt.2 ‹_›)
  · exact iff_of_true rfl (not_le.1 ‹_›)

/-- The wait of a call that is refused. -/
theorem check_error (self : RateLimiter) (call : Call) {retry : ℕ}
    (h : (self.check call.now call.peer call.bucket).1 = .error retry) :
    self.admits call = false ∧ retry = call.bucket.limit.window -
      call.now.durationSince ((self.recent call).headD call.now) + grace := by
  refine ⟨by rw [admits, h]; rfl, ?_⟩
  rw [check_fst] at h
  split at h
  · exact (Except.error.inj h).symm
  · cases h

/-- Dropping from the head makes a list shorter exactly if its head is dropped. -/
theorem length_dropWhile_lt {p : Instant → Bool} {a : Instant} {rest : List Instant} :
    ((a :: rest).dropWhile p).length < (a :: rest).length ↔ p a = true := by
  cases ha : p a with
  | false =>
      rw [List.dropWhile_cons_of_neg (by rw [ha]; exact Bool.false_ne_true)]
      exact iff_of_false (lt_irrefl _) Bool.false_ne_true
  | true =>
      rw [List.dropWhile_cons_of_pos ha]
      exact iff_of_true (Nat.lt_succ_of_le (List.dropWhile_sublist p).length_le) rfl

/-- The oldest instant that is counted is in the window. -/
theorem fresh_head {front : Instant} {rest : List Instant}
    (h : self.recent call = front :: rest) :
    SlidingWindow.Fresh call.bucket.limit.window call.now front := by
  have hhead := List.head?_dropWhile_not
    (fun t => !decide (SlidingWindow.Fresh call.bucket.limit.window call.now t))
    (self call.peer call.bucket)
  rw [← recent, h] at hhead
  rw [List.head?_cons] at hhead
  exact of_decide_eq_true (Bool.not_eq_eq_eq_not.1 hhead)

theorem length_recent_le (self : RateLimiter) (call : Call) :
    (self.recent call).length ≤ (self call.peer call.bucket).length :=
  (List.dropWhile_sublist _).length_le

/-- An instant is only noted below the limit. -/
theorem Bounded.next (h : self.Bounded) (call : Call) : (self.next call).Bounded := by
  intro peer bucket
  rw [next_eq]
  split
  · rename_i hsame
    obtain ⟨rfl, rfl⟩ := hsame
    rw [List.length_append]
    split
    · exact (admits_iff self call).1 ‹_›
    · exact (length_recent_le self call).trans (h _ _)
  · exact h peer bucket

theorem bounded_new : new.Bounded := fun _ _ => Nat.zero_le _

theorem Bounded.after (h : self.Bounded) (calls : List Call) : (self.after calls).Bounded := by
  induction calls generalizing self with
  | nil => exact h
  | cons call calls ih => exact ih (h.next call)

/-- A call that is refused finds its counter full, and leaves what is counted. -/
theorem refused_full (h : self.Bounded) (hrefused : self.admits call = false) :
    self call.peer call.bucket = self.recent call ∧
      self.next call call.peer call.bucket = self.recent call ∧
      (self.recent call).length = call.bucket.limit.maxRequests := by
  have hfull : call.bucket.limit.maxRequests ≤ (self.recent call).length :=
    not_lt.1 fun hlt => by
      rw [(admits_iff self call).2 hlt] at hrefused
      cases hrefused
  have hbound := h call.peer call.bucket
  have hsame : self.recent call = self call.peer call.bucket :=
    (List.dropWhile_sublist _).eq_of_length_le (hbound.trans hfull)
  refine ⟨hsame.symm, ?_, (length_recent_le self call).trans hbound |>.antisymm hfull⟩
  rw [next_eq, if_pos ⟨rfl, rfl⟩, hrefused, if_neg Bool.false_ne_true, List.append_nil]
  rfl

/-- While no call with the same counter is admitted, a full counter stays as it is. -/
theorem full_kept (h : self.Bounded) (htimes : self call.peer call.bucket = times)
    (hnone : ∀ a ∈ self.admitted calls, ¬ a.Alike call) :
    self.after calls call.peer call.bucket = times := by
  induction calls generalizing self with
  | nil => exact htimes
  | cons other calls ih =>
      have hrest : ∀ a ∈ (self.next other).admitted calls, ¬ a.Alike call := by
        intro a ha
        refine hnone a ?_
        rw [admitted]
        split
        · exact List.mem_cons_of_mem _ ha
        · exact ha
      refine ih (h.next other) ?_ hrest
      by_cases hsame : other.Alike call
      · -- A call with this counter was refused, so that there was nothing to forget.
        have hrefused : self.admits other = false := by
          rw [Bool.eq_false_iff]
          intro hadmits
          refine hnone other ?_ hsame
          rw [admitted, if_pos hadmits]
          exact List.mem_cons_self ..
        obtain ⟨hcounted, hnext, -⟩ := refused_full h hrefused
        rw [← hsame.1, ← hsame.2, hnext, ← hcounted, hsame.1, hsame.2, htimes]
      · exact ((next_eq self other call.peer call.bucket).trans (if_neg hsame)).trans htimes

/-- The whole seconds that the client is told to wait are enough for an instant to leave the window:
the instant has passed, and it has at most a second left, or a whole number of seconds and no more
than what the grace makes up for. -/
def WaitedOut (call : Call) (front : Instant) : Prop :=
  front ≤ call.now ∧
    (front + call.bucket.limit.window - call.now ≤ second ∨
      (front + call.bucket.limit.window - call.now) % second = 0 ∨
      second - grace ≤ (front + call.bucket.limit.window - call.now) % second)

instance (call : Call) (front : Instant) : Decidable (WaitedOut call front) :=
  inferInstanceAs (Decidable (_ ∧ _))

/-- The nanoseconds behind `fresh_after_wait`, with a window of a minute. -/
theorem minute_waited {now front : ℕ} (hfresh : now < front + 60 * 1000000000) :
    ¬ now + max ((60 * 1000000000 - (now - front) + 50 * 1000000) / 1000000000) 1 * 1000000000 <
        front + 60 * 1000000000 ↔
      front ≤ now ∧
        (front + 60 * 1000000000 - now ≤ 1000000000 ∨
          (front + 60 * 1000000000 - now) % 1000000000 = 0 ∨
          1000000000 - 50 * 1000000 ≤ (front + 60 * 1000000000 - now) % 1000000000) := by
  omega

/-- A counted instant has left the window after the seconds that it gives rise to if and only if
these are enough. -/
theorem fresh_after_wait {front : Instant}
    (hfresh : SlidingWindow.Fresh call.bucket.limit.window call.now front) :
    ¬ SlidingWindow.Fresh call.bucket.limit.window
        (call.now + max ((call.bucket.limit.window - call.now.durationSince front + grace) / second)
          1 * second) front ↔ WaitedOut call front := by
  have hwindow : call.bucket.limit.window = 60 * second := by
    cases call.bucket <;> rfl
  unfold SlidingWindow.Fresh at hfresh ⊢
  unfold WaitedOut Instant.durationSince
  rw [hwindow] at hfresh ⊢
  exact minute_waited hfresh

end RateLimiter

section Waiting

variable [Profile] [CoordCrates]

/-- What the rate limiter refuses is answered with the whole seconds of the wait. -/
theorem checkRateLimit_refused {self : Coordinator} {peer : SocketAddr} {bucket : Bucket}
    {retry : ℕ} (h : (self.rateLimiter.check self.instant peer.ip bucket).1 = .error retry) :
    (checkRateLimit peer bucket).run Coordinator.handle self =
      (.err (.rateLimited (max (retry / second) 1)), self.limited peer bucket) := by
  have hrun : (checkRateLimit peer bucket >>= pure : Handler Unit).run Coordinator.handle self =
    _ := Coordinator.run_checkRateLimit
  rw [bind_pure, h] at hrun
  exact hrun

/-- A request that the rate limiter refuses is told the whole seconds of the wait. -/
theorem checkRateLimit_err {self after : Coordinator} {peer : SocketAddr} {bucket : Bucket}
    {e : Error} (h : (checkRateLimit peer bucket).run Coordinator.handle self = (.err e, after)) :
    ∃ retry, (self.rateLimiter.check self.instant peer.ip bucket).1 = .error retry ∧
      e = .rateLimited (max (retry / second) 1) ∧
      after.rateLimiter = self.rateLimiter.next ⟨self.instant, peer.ip, bucket⟩ := by
  cases hcheck : (self.rateLimiter.check self.instant peer.ip bucket).1 with
  | error retry =>
      cases (checkRateLimit_refused hcheck).symm.trans h
      exact ⟨retry, rfl, rfl, rfl⟩
  | ok =>
      have hrun : (checkRateLimit peer bucket >>= pure : Handler Unit).run Coordinator.handle self =
        _ := Coordinator.run_checkRateLimit
      rw [bind_pure, h, hcheck] at hrun
      cases hrun

/-- After any history, a client that is told to wait and that waits as long, while no request with
its counter is admitted, is admitted if and only if the wait is enough for the oldest instant that
was counted against it. -/
theorem retry_after_iff {self after : Coordinator} {peer : SocketAddr} {bucket : Bucket} {e : Error}
    {secs : ℕ} {before between : List RateLimiter.Call}
    (hbefore : self.rateLimiter = RateLimiter.new.after before)
    (hrefused : (checkRateLimit peer bucket).run Coordinator.handle self = (.err e, after))
    (hsecs : e.retryAfter = some secs)
    (hnone : ∀ a ∈ after.rateLimiter.admitted between, ¬ a.Alike ⟨self.instant, peer.ip, bucket⟩) :
    (after.rateLimiter.after between).admits
        ⟨self.instant + secs * second, peer.ip, bucket⟩ = true ↔
      ∀ front ∈ (self.rateLimiter.recent ⟨self.instant, peer.ip, bucket⟩).head?,
        RateLimiter.WaitedOut ⟨self.instant, peer.ip, bucket⟩ front := by
  set call : RateLimiter.Call := ⟨self.instant, peer.ip, bucket⟩ with hcall
  have hbounded : self.rateLimiter.Bounded := hbefore ▸ RateLimiter.bounded_new.after before
  obtain ⟨retry, hcheck, rfl, hafter⟩ := checkRateLimit_err hrefused
  cases hsecs
  obtain ⟨hadmits, hretry⟩ := RateLimiter.check_error _ call hcheck
  obtain ⟨-, hnext, hlength⟩ := RateLimiter.refused_full hbounded hadmits
  have hkept : after.rateLimiter.after between peer.ip bucket = self.rateLimiter.recent call :=
    RateLimiter.full_kept (hafter ▸ hbounded.next call) (hafter ▸ hnext) hnone
  rw [RateLimiter.admits_iff, RateLimiter.recent, hkept]
  cases htimes : self.rateLimiter.recent call with
  | nil =>
      rw [htimes] at hlength
      cases bucket <;> cases hlength
  | cons front rest =>
      rw [htimes] at hlength hretry
      have hiff := RateLimiter.fresh_after_wait (RateLimiter.fresh_head htimes)
      have hdropped : ((front :: rest).dropWhile fun t =>
          !decide (SlidingWindow.Fresh bucket.limit.window
            (self.instant + max (retry / second) 1 * second) t)).length <
          (front :: rest).length ↔ _ := RateLimiter.length_dropWhile_lt
      rw [hlength] at hdropped
      refine hdropped.trans ?_
      rw [hretry, Bool.not_eq_true', decide_eq_false_iff_not]
      refine hiff.trans ⟨fun h front' hfront => ?_, fun h => h front rfl⟩
      cases hfront
      exact h

end Waiting

/-! ## Requests at the edges -/

namespace Parties

attribute [local instance] crates Symbolic.release

/-- The oldest timestamp that a request can state, at a clock that stands at zero: with overflow
checks the handler panics, and without them the timestamp is accepted. -/
theorem oldest_timestamp_accepted :
    ¬ I64.Exact 0 (-(2 ^ 63)) ∧ ¬ WithinWindow (-(2 ^ 63)) 0 ∧
      validateTimestamp (-(2 ^ 63)) 0 = some (.ok ()) ∧
      @validateTimestamp ⟨true⟩ crates (-(2 ^ 63)) 0 = none := by
  refine ⟨by decide, by decide, rfl, rfl⟩

/-- A timestamp that is five minutes old is accepted. -/
theorem five_minutes_accepted :
    validateTimestamp 1000 1300 = some (.ok ()) ∧ WithinWindow 1000 1300 := by
  have hexact := (validate_timestamp_iff ⟨1000, by decide⟩ (show 0 ≤ 1300 by decide)).2 (by decide)
  exact ⟨hexact.2.2 (by decide), by decide⟩

/-- A client. -/
def impatient : SocketAddr := ⟨.v4 ⟨192, 0, 2, 1⟩, 40000⟩

/-- A coordinator that admitted five registrations of the client when it started, some time
later. -/
def crowded (instant : Instant) : Coordinator :=
  { Coordinator.open .empty ⟨3600, by decide⟩ ⟨0, by decide⟩ instant with
    rateLimiter := RateLimiter.new.after (List.replicate 5 ⟨0, impatient.ip, .register⟩) }

/-- Half a second after five registrations the sixth is told to wait for 59 seconds, and it is
refused again when it has waited so long. -/
theorem told_too_short :
    (checkRateLimit impatient .register).run Coordinator.handle (crowded (second / 2)) =
        (.err (.rateLimited 59), (crowded (second / 2)).limited impatient .register) ∧
      (((crowded (second / 2)).limited impatient .register).rateLimiter.after []).admits
        ⟨second / 2 + 59 * second, impatient.ip, .register⟩ = false :=
  ⟨checkRateLimit_refused (show _ = Except.error 59550000000 by decide +kernel), by decide +kernel⟩

/-- Five seconds after them it is told to wait for 55 seconds, and it is then admitted. -/
theorem told_long_enough :
    (((crowded (5 * second)).limited impatient .register).rateLimiter.after []).admits
      ⟨5 * second + 55 * second, impatient.ip, .register⟩ = true := by
  have hrefused : (checkRateLimit impatient .register).run Coordinator.handle
      (crowded (5 * second)) =
        (.err (.rateLimited 55), (crowded (5 * second)).limited impatient .register) :=
    checkRateLimit_refused (show _ = Except.error 55050000000 by decide +kernel)
  have hnone : ∀ a ∈ ((crowded (5 * second)).limited impatient .register).rateLimiter.admitted [],
      ¬ a.Alike ⟨5 * second, impatient.ip, .register⟩ := nofun
  exact (retry_after_iff rfl hrefused rfl hnone).2 (by decide +kernel)

end Parties

end Naboscale.Coord
