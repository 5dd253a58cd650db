import Naboscale.Rust.Net
import Naboscale.SlidingWindow

/-!
# The rate limiter of the coordinator

`RateLimiter` counts the requests of a peer address in one bucket over a sliding window. It keeps
only the instants that are still in the window; `Tracks` says that these stand for the whole history
of what was admitted.
-/

namespace Naboscale.Coord

open Rust

/-- `Limit`. -/
structure Limit where
  maxRequests : ℕ
  window : ℕ

/-- `Bucket`. -/
inductive Bucket where
  | register
  | heartbeat
  | token
  | default
  deriving DecidableEq

/-- `Bucket::limit`. -/
def Bucket.limit : Bucket → Limit
  | register => ⟨5, 60 * second⟩
  | heartbeat => ⟨30, 60 * second⟩
  | token => ⟨10, 60 * second⟩
  | default => ⟨120, 60 * second⟩

/-- `RateLimiter`: the instants of the counted requests, oldest first. -/
abbrev RateLimiter := IpAddr → Bucket → List Instant

namespace RateLimiter

/-- `RateLimiter::new`. -/
def new : RateLimiter := fun _ _ => []

/-- The grace of 50 ms after the oldest request leaves the window. -/
def grace : ℕ := 50 * 1000000

/-- `RateLimiter::check`: the request is counted, or the error says how long to wait. -/
def check (self : RateLimiter) (now : Instant) (peer : IpAddr) (bucket : Bucket) :
    Except ℕ Unit × RateLimiter :=
  let recent := (self peer bucket).dropWhile fun front =>
    decide (bucket.limit.window ≤ now.durationSince front)
  let keep (timestamps : List Instant) : RateLimiter :=
    Function.update self peer (Function.update (self peer) bucket timestamps)
  if bucket.limit.maxRequests ≤ recent.length then
    (.error (bucket.limit.window - now.durationSince (recent.headD now) + grace), keep recent)
  else (.ok (), keep (recent ++ [now]))

/-! ## Histories -/

/-- A call of `check`. -/
structure Call where
  now : Instant
  peer : IpAddr
  bucket : Bucket

/-- The calls have the same counter. -/
def Call.Alike (a b : Call) : Prop := a.peer = b.peer ∧ a.bucket = b.bucket

instance (a b : Call) : Decidable (a.Alike b) := inferInstanceAs (Decidable (_ ∧ _))

/-- Whether a call is admitted. -/
def admits (self : RateLimiter) (call : Call) : Bool :=
  (self.check call.now call.peer call.bucket).1.isOk

/-- The limiter after a call. -/
def next (self : RateLimiter) (call : Call) : RateLimiter :=
  (self.check call.now call.peer call.bucket).2

/-- The limiter after calls in order. -/
def after : RateLimiter → List Call → RateLimiter
  | self, [] => self
  | self, call :: calls => after (self.next call) calls

/-- The calls that are admitted, in order. -/
def admitted : RateLimiter → List Call → List Call
  | _, [] => []
  | self, call :: calls =>
      if self.admits call then call :: admitted (self.next call) calls
      else admitted (self.next call) calls

variable {self : RateLimiter} {call : Call} {calls log : List Call} {last : Instant}

theorem admitted_append (self : RateLimiter) (calls calls' : List Call) :
    self.admitted (calls ++ calls') = self.admitted calls ++ (self.after calls).admitted calls' := by
  induction calls generalizing self with
  | nil => rfl
  | cons call calls ih =>
      show (if self.admits call then call :: (self.next call).admitted (calls ++ calls')
        else (self.next call).admitted (calls ++ calls')) = _
      rw [ih, admitted, after]
      split <;> rfl

/-- The instants that one counter has admitted. -/
def times (log : List Call) (peer : IpAddr) (bucket : Bucket) : List Instant :=
  (log.filter fun a => decide (a.peer = peer ∧ a.bucket = bucket)).map Call.now

/-- Each counter keeps what it needs of the calls that were admitted so far. -/
def Tracks (self : RateLimiter) (log : List Call) (last : Instant) : Prop :=
  ∀ peer bucket, SlidingWindow.Keeps bucket.limit.window last (self peer bucket)
    (times log peer bucket)

theorem tracks_new (last : Instant) : Tracks new [] last := fun _ _ => SlidingWindow.keeps_nil

theorem times_snoc (log : List Call) (call : Call) (peer : IpAddr) (bucket : Bucket) :
    times (log ++ [call]) peer bucket =
      times log peer bucket ++
        if call.peer = peer ∧ call.bucket = bucket then [call.now] else [] := by
  rw [times, times, List.filter_append, List.map_append]
  congr 1
  by_cases h : call.peer = peer ∧ call.bucket = bucket
  · rw [if_pos h, List.filter_singleton, decide_eq_true h]
    rfl
  · rw [if_neg h, List.filter_singleton, decide_eq_false h]
    rfl

/-- What is counted against a call. -/
def pending (log : List Call) (call : Call) : ℕ :=
  log.countP fun a => decide (a.Alike call ∧ a.now ≤ call.now ∧
    call.now < a.now + call.bucket.limit.window)

theorem count_times (hlog : ∀ a ∈ log, a.now ≤ call.now) :
    SlidingWindow.count call.bucket.limit.window call.now (times log call.peer call.bucket) =
      pending log call := by
  rw [SlidingWindow.count, times, List.countP_map, List.countP_filter]
  refine List.countP_congr fun a ha => ?_
  have hle := hlog a ha
  rw [Function.comp_apply, Bool.and_eq_true, decide_eq_true_eq, decide_eq_true_eq, decide_eq_true_eq]
  exact ⟨fun h => ⟨h.2, hle, h.1⟩, fun h => ⟨h.2.2, h.1⟩⟩

/-- The code drops the head as long as it has left the window. -/
theorem recent_eq (call : Call) (timestamps : List Instant) :
    timestamps.dropWhile (fun front =>
      decide (call.bucket.limit.window ≤ call.now.durationSince front)) =
    timestamps.dropWhile fun t =>
      !decide (SlidingWindow.Fresh call.bucket.limit.window call.now t) := by
  congr 1
  funext front
  have hwindow : 0 < call.bucket.limit.window := by
    cases call.bucket <;> decide
  -- A duration to a later instant is zero, and no window is empty.
  have hiff : call.bucket.limit.window ≤ call.now.durationSince front ↔
      ¬ SlidingWindow.Fresh call.bucket.limit.window call.now front := by
    unfold SlidingWindow.Fresh Instant.durationSince
    omega
  rw [decide_eq_decide.2 hiff, decide_not]

/-- A call is admitted exactly while the calls that are counted against it are below the limit. -/
theorem Tracks.admits_iff (h : Tracks self log last) (hlast : last ≤ call.now)
    (hlog : ∀ a ∈ log, a.now ≤ call.now) :
    self.admits call = true ↔ pending log call < call.bucket.limit.maxRequests := by
  have hlength := (h call.peer call.bucket).length_prune hlast
  rw [count_times hlog] at hlength
  rw [admits, check, recent_eq, ← hlength]
  split
  · exact iff_of_false Bool.false_ne_true (not_lt.2 ‹_›)
  · exact iff_of_true rfl (not_le.1 ‹_›)

theorem next_eq (self : RateLimiter) (call : Call) (peer : IpAddr) (bucket : Bucket) :
    self.next call peer bucket =
      if call.peer = peer ∧ call.bucket = bucket then
        ((self peer bucket).dropWhile fun t =>
          !decide (SlidingWindow.Fresh bucket.limit.window call.now t)) ++
            if self.admits call then [call.now] else []
      else self peer bucket := by
  obtain ⟨timestamps, hnext, htimestamps⟩ : ∃ timestamps,
      self.next call = Function.update self call.peer
        (Function.update (self call.peer) call.bucket timestamps) ∧
      timestamps = ((self call.peer call.bucket).dropWhile fun t =>
        !decide (SlidingWindow.Fresh call.bucket.limit.window call.now t)) ++
          if self.admits call then [call.now] else [] := by
    rw [next, admits, check, recent_eq]
    split
    · exact ⟨_, rfl, (List.append_nil _).symm⟩
    · exact ⟨_, rfl, rfl⟩
  rw [hnext]
  by_cases hpeer : call.peer = peer
  · subst hpeer
    rw [Function.update_self]
    by_cases hbucket : call.bucket = bucket
    · subst hbucket
      rw [Function.update_self, if_pos ⟨rfl, rfl⟩, htimestamps]
    · rw [Function.update_of_ne (Ne.symm hbucket), if_neg fun h => hbucket h.2]
  · rw [Function.update_of_ne (Ne.symm hpeer), if_neg fun h => hpeer h.1]

/-- A call keeps the counters in step with the history. -/
theorem Tracks.next (h : Tracks self log last) (hlast : last ≤ call.now) :
    Tracks (self.next call) (log ++ if self.admits call then [call] else []) call.now := by
  intro peer bucket
  rw [next_eq]
  by_cases hsame : call.peer = peer ∧ call.bucket = bucket
  · rw [if_pos hsame]
    obtain ⟨rfl, rfl⟩ := hsame
    have hpruned := (h call.peer call.bucket).prune hlast
    split
    · rw [times_snoc, if_pos ⟨rfl, rfl⟩]
      exact hpruned.push
    · rw [List.append_nil, List.append_nil]
      exact hpruned
  · rw [if_neg hsame]
    split
    · rw [times_snoc, if_neg hsame, List.append_nil]
      exact (h peer bucket).mono hlast
    · rw [List.append_nil]
      exact (h peer bucket).mono hlast

/-- After calls in order of time, the counters are in step with the history. -/
theorem Tracks.after (h : Tracks self log last) (hsorted : calls.Pairwise fun a b => a.now ≤ b.now)
    (hfirst : ∀ a ∈ calls, last ≤ a.now) {now : Instant} (hlast : last ≤ now)
    (hnow : ∀ a ∈ calls, a.now ≤ now) :
    Tracks (self.after calls) (log ++ self.admitted calls) now := by
  induction calls generalizing self log last with
  | nil =>
      intro peer bucket
      show SlidingWindow.Keeps _ _ (self peer bucket) (times (log ++ []) peer bucket)
      rw [List.append_nil]
      exact (h peer bucket).mono hlast
  | cons call calls ih =>
      obtain ⟨hcall, hcalls⟩ := List.pairwise_cons.1 hsorted
      have hnext := h.next (hfirst call (List.mem_cons_self ..))
      have hrest := ih hnext hcalls hcall (hnow call (List.mem_cons_self ..))
        fun a ha => hnow a (List.mem_cons_of_mem _ ha)
      show Tracks ((self.next call).after calls) (log ++ (if self.admits call
        then call :: (self.next call).admitted calls else (self.next call).admitted calls)) now
      split
      · rw [if_pos ‹_›, List.append_assoc] at hrest
        exact hrest
      · rw [if_neg ‹_›, List.append_nil] at hrest
        exact hrest

theorem admitted_sublist (self : RateLimiter) (calls : List Call) :
    (self.admitted calls).Sublist calls := by
  induction calls generalizing self with
  | nil => exact List.nil_sublist _
  | cons call calls ih =>
      show (if self.admits call then call :: (self.next call).admitted calls
        else (self.next call).admitted calls).Sublist (call :: calls)
      split
      · exact (ih _).cons_cons _
      · exact (ih _).cons _

/-- A limiter that was just made admits a call after others in order of time exactly while fewer
calls than the limit were admitted in the window before it. -/
theorem admits_after_iff (hsorted : (calls ++ [call]).Pairwise fun a b => a.now ≤ b.now) :
    (new.after calls).admits call = true ↔
      pending (new.admitted calls) call < call.bucket.limit.maxRequests := by
  obtain ⟨hcalls, -, hcall⟩ := List.pairwise_append.1 hsorted
  have hnow : ∀ a ∈ calls, a.now ≤ call.now := fun a ha => hcall a ha call (List.mem_singleton_self _)
  have htracks := (tracks_new 0).after hcalls (fun a _ => Nat.zero_le _) (Nat.zero_le _) hnow
  rw [List.nil_append] at htracks
  exact htracks.admits_iff le_rfl fun a ha => hnow a ((admitted_sublist _ _).subset ha)

/-- What one counter admitted was noted below its limit. -/
theorem limited_times (hsorted : calls.Pairwise fun a b => a.now ≤ b.now) (peer : IpAddr)
    (bucket : Bucket) :
    SlidingWindow.Limited bucket.limit.window bucket.limit.maxRequests
      (times (new.admitted calls) peer bucket) := by
  induction calls using List.reverseRecOn with
  | nil => exact .nil
  | append_singleton calls call ih =>
      obtain ⟨hcalls, -, hcall⟩ := List.pairwise_append.1 hsorted
      have hlimited := ih hcalls
      have hadmitted : new.admitted (calls ++ [call]) =
          new.admitted calls ++ if (new.after calls).admits call then [call] else [] := by
        rw [admitted_append]
        rfl
      rw [hadmitted]
      split
      · rename_i hadmits
        rw [times_snoc]
        split
        · rename_i hsame
          obtain ⟨rfl, rfl⟩ := hsame
          have hnow : ∀ a ∈ new.admitted calls, a.now ≤ call.now := fun a ha =>
            hcall a ((admitted_sublist _ _).subset ha) call (List.mem_singleton_self _)
          refine hlimited.push ?_ ?_
          · intro t ht
            obtain ⟨a, ha, rfl⟩ := List.mem_map.1 ht
            exact hnow a (List.mem_of_mem_filter ha)
          · rw [count_times hnow]
            exact (admits_after_iff hsorted).1 hadmits
        · rw [List.append_nil]
          exact hlimited
      · rw [List.append_nil]
        exact hlimited

/-- Calls with other counters do not change an answer. -/
theorem admitted_filter (hsorted : calls.Pairwise fun a b => a.now ≤ b.now) (call : Call) :
    new.admitted (calls.filter fun a => decide (a.Alike call)) =
      (new.admitted calls).filter fun a => decide (a.Alike call) := by
  induction calls using List.reverseRecOn with
  | nil => rfl
  | append_singleton calls other ih =>
      obtain ⟨hcalls, -, -⟩ := List.pairwise_append.1 hsorted
      have hlast : ∀ earlier, new.admitted (earlier ++ [other]) =
          new.admitted earlier ++ if (new.after earlier).admits other then [other] else [] := by
        intro earlier
        rw [admitted_append]
        rfl
      rw [List.filter_append, hlast, List.filter_append, ← ih hcalls]
      by_cases hsame : other.Alike call
      · rw [List.filter_singleton, decide_eq_true hsame, Bool.cond_true, hlast]
        congr 1
        -- The call is answered in the same way after the calls of its own counter.
        have hsub : (calls.filter (fun a => decide (a.Alike call)) ++ [other]).Sublist
            (calls ++ [other]) := List.filter_sublist.append_right _
        have hsame' : ∀ a : Call, a.Alike other → a.Alike call := fun a ha =>
          ⟨ha.1.trans hsame.1, ha.2.trans hsame.2⟩
        have hpending : pending (new.admitted (calls.filter fun a => decide (a.Alike call))) other =
            pending (new.admitted calls) other := by
          rw [ih hcalls, pending, pending, List.countP_filter]
          refine List.countP_congr fun a _ => ?_
          rw [Bool.and_eq_true, decide_eq_true_eq, decide_eq_true_eq]
          exact ⟨fun h => h.1, fun h => ⟨h, hsame' a h.1⟩⟩
        have hiff : (new.after (calls.filter fun a => decide (a.Alike call))).admits other =
            (new.after calls).admits other := by
          rw [Bool.eq_iff_iff, admits_after_iff (hsorted.sublist hsub), admits_after_iff hsorted,
            hpending]
        rw [hiff]
        split
        · rw [List.filter_singleton, decide_eq_true hsame]
          rfl
        · rfl
      · rw [List.filter_singleton, decide_eq_false hsame, Bool.cond_false, List.append_nil]
        split
        · rw [List.filter_singleton, decide_eq_false hsame, Bool.cond_false, List.append_nil]
        · rw [List.filter_nil, List.append_nil]

/-- How many calls of one counter are in a set of instants. -/
def tally (log : List Call) (peer : IpAddr) (bucket : Bucket) (p : Instant → Bool) : ℕ :=
  log.countP fun a => decide (a.peer = peer ∧ a.bucket = bucket) && p a.now

theorem tally_eq (log : List Call) (peer : IpAddr) (bucket : Bucket) (p : Instant → Bool) :
    tally log peer bucket p = (times log peer bucket).countP p := by
  rw [tally, times, List.countP_map, List.countP_filter]
  refine List.countP_congr fun a _ => ?_
  rw [Function.comp_apply, Bool.and_comm]

/-- Over calls in order of time, a limiter that was just made admits a call exactly if fewer calls
than the limit were admitted at the same counter in the window `(t - window, t]`. No half-open
interval of the length of the window has more than the limit of admitted calls, and a call is
answered as if there had been no calls at other counters. -/
theorem window_exact (hsorted : calls.Pairwise fun a b => a.now ≤ b.now) :
    (∀ before call later, calls = before ++ call :: later →
      ((new.after before).admits call = true ↔
        pending (new.admitted before) call < call.bucket.limit.maxRequests)) ∧
    (∀ peer bucket start,
      tally (new.admitted calls) peer bucket
        (fun t => start ≤ t ∧ t < start + bucket.limit.window) ≤ bucket.limit.maxRequests ∧
      tally (new.admitted calls) peer bucket
        (fun t => start < t ∧ t ≤ start + bucket.limit.window) ≤ bucket.limit.maxRequests) ∧
    ∀ before call later, calls = before ++ call :: later →
      (new.after before).admits call =
        (new.after (before.filter fun a => decide (a.Alike call))).admits call := by
  have hbefore : ∀ before call later, calls = before ++ call :: later →
      (before ++ [call]).Pairwise fun a b => a.now ≤ b.now := by
    intro before call later hcalls
    have hsub : (before ++ [call]).Sublist calls := by
      rw [hcalls]
      exact (List.Sublist.refl before).append (List.Sublist.cons_cons call (List.nil_sublist later))
    exact hsorted.sublist hsub
  refine ⟨fun before call later hcalls => admits_after_iff (hbefore before call later hcalls), ?_, ?_⟩
  · intro peer bucket start
    have hlimited := limited_times hsorted peer bucket
    rw [tally_eq, tally_eq]
    constructor
    · refine hlimited.countP_le fun a b ha hb => ?_
      exact lt_of_lt_of_le (of_decide_eq_true hb).2
        (Nat.add_le_add_right (of_decide_eq_true ha).1 _)
    · refine hlimited.countP_le fun a b ha hb => ?_
      exact lt_of_le_of_lt (of_decide_eq_true hb).2
        (Nat.add_lt_add_right (of_decide_eq_true ha).1 _)
  · intro before call later hcalls
    have hpairwise := hbefore before call later hcalls
    obtain ⟨hearlier, -, -⟩ := List.pairwise_append.1 hpairwise
    have hsub : (before.filter (fun a => decide (a.Alike call)) ++ [call]).Sublist
        (before ++ [call]) := List.filter_sublist.append_right _
    rw [Bool.eq_iff_iff, admits_after_iff hpairwise, admits_after_iff (hpairwise.sublist hsub),
      admitted_filter hearlier, pending, pending, List.countP_filter]
    refine Iff.of_eq (congrArg (· < _) (List.countP_congr fun a _ => ?_))
    rw [Bool.and_eq_true, decide_eq_true_eq, decide_eq_true_eq]
    exact ⟨fun h => ⟨h, h.1⟩, fun h => h.1⟩

/-- The sixth registration from an address within a minute is refused, whatever comes between. -/
theorem sixth_registration_refused :
    let client : IpAddr := .v4 ⟨192, 0, 2, 1⟩
    let registrations := (List.range 6).map fun n => Call.mk (n * second) client .register
    (new.after (registrations.take 5)).admits ⟨5 * second, client, .register⟩ = false ∧
      tally (new.admitted registrations) client .register
        (fun t => 0 ≤ t ∧ t < 0 + Bucket.register.limit.window) ≤ 5 := by
  have hsorted : ((List.range 6).map fun n =>
      Call.mk (n * second) (.v4 ⟨192, 0, 2, 1⟩) .register).Pairwise fun a b => a.now ≤ b.now := by
    decide
  exact ⟨by decide, ((window_exact hsorted).2.1 (.v4 ⟨192, 0, 2, 1⟩) .register 0).1⟩

end RateLimiter

end Naboscale.Coord
