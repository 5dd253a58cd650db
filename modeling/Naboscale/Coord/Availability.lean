import Naboscale.Refinement
import Naboscale.Coord.Authority
import Naboscale.Coord.Replays

/-!
# The coordinator stays available

What requests cannot do to the coordinator. A panic under the lock of the database would poison it
and leave every later request without an answer. `create_token` adds the TTL to the time there, but
every other panic of a handler is outside of the lock, and the only one that a request can bring
about is that of `validate_timestamp`.
-/

namespace Naboscale.Coord

open Rust Concurrent

section General

variable [Profile] [CoordCrates]

/-! ## What a handler relies on -/

omit [Profile] [CoordCrates] in
/-- The time at which a token expires is an `i64`, and a node has a key of 32 bytes. -/
def Op.InTime : Op → Prop
  | insertNode node _ ttlSecs =>
      node.identityPubkey.length = 32 ∧ I64.InRange (node.createdAt + ttlSecs)
  | createToken _ _ createdAt ttlSecs => I64.InRange (createdAt + ttlSecs)
  | _ => True

omit [Profile] [CoordCrates] in
/-- The clock shows no time after the latest and leaves room for the TTL, and a node that is found
has a key of 32 bytes. -/
def Op.Meets (latest : ℤ) (ttl : I64) : (op : Op) → op.Result → Prop
  | currentTimestamp, now => now.val ≤ latest ∧ I64.InRange (now.val + ttl.val)
  | getNodeByToken _ _, caller => ∀ n ∈ caller, n.identityPubkey.length = 32
  | _, _ => True

omit [CoordCrates] in
/-- The build checks for overflow, and the request states a timestamp that lies `2 ^ 63` seconds or
more before the latest time. -/
def Request.Overflows (latest : ℤ) (request : Request) : Prop :=
  Profile.overflowChecks = true ∧ ∃ timestamp ∈ request.timestamp, timestamp.val + 2 ^ 63 ≤ latest

/-- A handler that adds the TTL only where the time leaves room for it, and panics only over the
timestamp of its request. -/
abbrev Endures (latest : ℤ) (request : Request) (ttl : I64) (p : Handler Response) : Prop :=
  p.Within Op.InTime (Op.Meets latest ttl) (fun _ => True) (request.Overflows latest)

variable {request : Request} {latest : ℤ} {ttl : I64} {draws : Draws} {peer : SocketAddr}
  {authorization : Option String}

/-- The timestamp of a request is validated unless it overflows. -/
theorem overflows_of_none {timestamp : I64} {now : Clock} (hnow : now.val ≤ latest)
    (hstates : request.timestamp = some timestamp)
    (h : validateTimestamp timestamp.val now.val = none) : request.Overflows latest := by
  obtain ⟨hlow, hhigh⟩ := timestamp.property
  obtain ⟨hpos, -⟩ := now.property
  -- Both operations have a result where they do not overflow, or wrap.
  have hvalidated {diff abs : ℤ} (hdiff : I64.value (now.val - timestamp.val) = some diff)
      (habs : I64.value |diff| = some abs) : False := by
    rw [validateTimestamp, hdiff, Option.bind_eq_bind, Option.bind_some, habs] at h
    cases h
  by_cases hchecks : Profile.overflowChecks = true
  · refine ⟨hchecks, timestamp, hstates, ?_⟩
    by_contra hnear
    have hdiff : I64.InRange (now.val - timestamp.val) := by
      unfold I64.InRange
      omega
    have habs : I64.InRange |now.val - timestamp.val| := by
      rw [I64.InRange, ← Int.natCast_natAbs]
      omega
    exact hvalidated (I64.value_eq hdiff) (I64.value_eq habs)
  · have hsome (x : ℤ) : ∃ y, I64.value x = some y := by
      unfold I64.value
      rw [if_neg hchecks]
      split <;> exact ⟨_, rfl⟩
    obtain ⟨diff, hdiff⟩ := hsome (now.val - timestamp.val)
    obtain ⟨abs, habs⟩ := hsome |diff|
    exact (hvalidated hdiff habs).elim

theorem endures_checkRateLimit {bucket : Bucket} {k : Unit → Handler Response}
    (h : ∀ u, Endures latest request ttl (k u)) :
    Endures latest request ttl (checkRateLimit peer bucket >>= k) := by
  rw [checkRateLimit, bind_assoc]
  exact Program.within_call trivial fun _ _ => Program.within_lift fun u _ => h u

/-- The caller that is found has a key of 32 bytes, and the time leaves room for the TTL. -/
theorem endures_authenticate {k : ℤ × NodeRecord → Handler Response}
    (h : ∀ (now : Clock) caller, now.val ≤ latest → I64.InRange (now.val + ttl.val) →
      caller.identityPubkey.length = 32 → Endures latest request ttl (k (now.val, caller))) :
    Endures latest request ttl (authenticate authorization >>= k) := by
  simp only [authenticate, bind_assoc]
  refine Program.within_lift fun token _ => Program.within_call trivial fun now hnow =>
    Program.within_call trivial fun caller hcaller => ?_
  cases caller with
  | none => trivial
  | some caller => exact h now caller hnow.1 hnow.2 (hcaller caller rfl)

theorem endures_decodeSigned {caller : NodeRecord} {signature : String} {timestamp : I64} {now : Clock}
    {k : Arr 32 × Arr 64 → Handler Response} (hnow : now.val ≤ latest)
    (hstates : request.timestamp = some timestamp) (hkey : caller.identityPubkey.length = 32)
    (h : ∀ x, Endures latest request ttl (k x)) :
    Endures latest request ttl
      (decodeSigned caller signature timestamp.val now.val >>= k) := by
  simp only [decodeSigned, bind_assoc]
  refine Program.within_lift fun sig _ => Program.within_unwrap (overflows_of_none hnow hstates)
    fun valid _ => Program.within_lift fun _ _ => Program.within_unwrap (fun hnone => ?_) fun key _ =>
    h _
  rw [identityKey, dif_pos hkey] at hnone
  cases hnone

/-- No request makes its handler panic but by its timestamp. -/
theorem handler_endures (request : Request) :
    Endures latest request ttl (request.handler ttl draws) := by
  -- The expiry of a token is a number where the time leaves room for the TTL.
  have hexpires {now : Clock} {k : ℤ → Handler Response} (hroom : I64.InRange (now.val + ttl.val))
      (h : ∀ expiresAt, Endures latest request ttl (k expiresAt)) :
      Endures latest request ttl (.unwrap (I64.value (now.val + ttl.val)) >>= k) := by
    rw [I64.value_eq hroom]
    exact h _
  cases request with
  | register peer req =>
      refine endures_checkRateLimit fun _ => Program.within_lift fun identityPubkey _ =>
        Program.within_lift fun wgPubkey _ => Program.within_lift fun sig _ =>
        Program.within_call trivial fun now hnow => Program.within_unwrap
        (overflows_of_none hnow.1 rfl) fun valid _ => Program.within_lift fun _ _ =>
        Program.within_lift fun _ _ => Program.within_call trivial fun allocated _ => ?_
      cases allocated with
      | none => trivial
      | some ip =>
          exact hexpires hnow.2 fun expiresAt => Program.within_call
            ⟨identityPubkey.property, hnow.2⟩ fun inserted _ => Program.within_lift fun _ _ => trivial
  | peers peer authorization =>
      exact endures_checkRateLimit fun _ => endures_authenticate fun now caller _ _ _ =>
        Program.within_call trivial fun _ _ => trivial
  | heartbeat peer authorization req =>
      refine endures_checkRateLimit fun _ => endures_authenticate fun now caller hnow _ hkey =>
        endures_decodeSigned hnow rfl hkey fun x => Program.within_lift fun _ _ => ?_
      split
      · trivial
      · exact Program.within_call trivial fun _ _ => trivial
  | refreshToken peer authorization req =>
      exact endures_checkRateLimit fun _ => endures_authenticate fun now caller hnow hroom hkey =>
        endures_decodeSigned hnow rfl hkey fun x => Program.within_lift fun _ _ =>
        Program.within_call trivial fun _ _ => Program.within_call hroom fun _ _ =>
        Program.within_lift fun _ _ => hexpires hroom fun _ => trivial
  | deleteNode peer authorization req =>
      refine endures_checkRateLimit fun _ => endures_authenticate fun now caller hnow _ hkey =>
        endures_decodeSigned hnow rfl hkey fun x => Program.within_lift fun _ _ =>
        Program.within_call trivial fun ip _ => ?_
      split
      · trivial
      · exact Program.within_call trivial fun _ _ => trivial

/-! ## What the state answers -/

omit [Profile] [CoordCrates] in
/-- The lock of the database is not poisoned, and the keys of the nodes are whole. -/
structure Coordinator.Sound (coordinator : Coordinator) : Prop where
  unpoisoned : coordinator.poisoned = false
  keys : ∀ n ∈ coordinator.db.nodes.rows, n.identityPubkey.length = 32

omit [Profile] [CoordCrates] in
/-- The clock shows no time after the latest, and leaves room for the TTL. -/
def Coordinator.InTime (latest : ℤ) (self : Coordinator) : Prop :=
  self.clock.val ≤ latest ∧ I64.InRange (self.clock.val + self.tokenTtlSecs.val)

omit [CoordCrates] in
theorem Database.insertNode_some (db : Database) {node : NodeRecord} (token : String) {ttlSecs : ℤ}
    (h : I64.InRange (node.createdAt + ttlSecs)) :
    ∃ r, (db.insertNode node token ttlSecs).1 = some r := by
  unfold insertNode
  split
  · exact ⟨_, rfl⟩
  · unfold createToken
    rw [I64.value_eq h]
    dsimp only
    split <;> exact ⟨_, rfl⟩

omit [CoordCrates] in
theorem Database.createToken_some (db : Database) (nodeId token : String) {createdAt ttlSecs : ℤ}
    (h : I64.InRange (createdAt + ttlSecs)) :
    ∃ r, (db.createToken nodeId token createdAt ttlSecs).1 = some r := by
  unfold createToken
  rw [I64.value_eq h]
  dsimp only
  split <;> exact ⟨_, rfl⟩

omit [CoordCrates] in
/-- Every operation of a handler that adds the TTL only where there is room for it has a result. -/
theorem Coordinator.Sound.result {self : Coordinator} {op : Op} (h : self.Sound)
    (htime : self.InTime latest) (hop : op.InTime) :
    ∃ r, (handle op self).1 = some r ∧ op.Meets latest self.tokenTtlSecs r := by
  have hlocked {α : Type} {f : Database → Option α × Database} {r : α} (hf : (f self.db).1 = some r) :
      (self.locked f).1 = some r := by
    rw [locked_eq h.unpoisoned]
    exact hf
  cases op with
  | checkRateLimit | allocate | release => exact ⟨_, rfl, trivial⟩
  | currentTimestamp => exact ⟨_, rfl, htime⟩
  | getNodeByToken token now =>
      refine ⟨_, hlocked rfl, fun n hn => h.keys n ?_⟩
      exact Database.mem_of_getNodeByToken hn
  | listPeers | updateHeartbeat | revokeAllTokensForNode | deleteNode =>
      exact ⟨_, hlocked rfl, trivial⟩
  | insertNode node token ttlSecs =>
      obtain ⟨r, hr⟩ := self.db.insertNode_some token hop.2
      exact ⟨r, hlocked hr, trivial⟩
  | createToken nodeId token createdAt ttlSecs =>
      obtain ⟨r, hr⟩ := self.db.createToken_some nodeId token hop
      exact ⟨r, hlocked hr, trivial⟩

omit [CoordCrates] in
/-- It leaves the coordinator sound. -/
theorem Coordinator.Sound.handle {self : Coordinator} {op : Op} (h : self.Sound)
    (htime : self.InTime latest) (hop : op.InTime) : (handle op self).2.Sound := by
  obtain ⟨r, hr, -⟩ := h.result htime hop
  refine ⟨?_, fun n hn => ?_⟩
  · have hlocked {α : Type} {f : Database → Option α × Database} {r : α}
        (hf : (self.locked f).1 = some r) : (self.locked f).2.poisoned = false := by
      obtain ⟨-, -, hafter⟩ := locked_inv (Prod.ext hf rfl : self.locked f = (some r, _))
      exact congrArg Coordinator.poisoned hafter
    cases op with
    | checkRateLimit | allocate | release | currentTimestamp => exact h.unpoisoned
    | _ => exact hlocked hr
  · rw [handle_rows, h.unpoisoned, if_neg Bool.false_ne_true] at hn
    obtain ⟨before, hbefore, -, hkey⟩ | ⟨node, token, ttlSecs, rfl, rfl⟩ := Op.mem_rows hn
    · rw [hkey]
      exact h.keys before hbefore
    · exact hop.1

/-! ## In a run -/

namespace Journal

variable {j k : Journal} {event : Event} {i : ℕ}

omit [Profile] in
/-- The clock of the coordinator shows no time after the latest, and leaves room for the TTL. -/
def InTime (latest : ℤ) (j : Journal) : Prop := j.server.coord.InTime latest

omit [Profile] in
instance (latest : ℤ) (j : Journal) : Decidable (j.InTime latest) :=
  inferInstanceAs (Decidable (_ ∧ _))

/-- The coordinator is sound, and each handler in flight panics only over the timestamp of its
request. -/
structure Lasts (latest : ℤ) (j : Journal) : Prop where
  sound : j.server.coord.Sound
  endures {i : ℕ} : (j.server.task i).isRunning = true → ∃ arrival, j.arrivals i = some arrival ∧
    Endures latest arrival.request j.server.coord.tokenTtlSecs (j.server.task i)

theorem start_lasts {ttl : I64} {clock : Clock} {instant : Instant} :
    (start ttl clock instant).Lasts latest where
  sound := ⟨rfl, fun _ hn => absurd hn List.not_mem_nil⟩
  endures h := absurd h Bool.false_ne_true

/-- A handler makes a step: it goes on, or panics over its timestamp. -/
theorem Lasts.goes {op : Op} {next : op.Result → Handler Response} (h : j.Lasts latest)
    (htime : j.InTime latest) (htask : j.server.task i = .call op next) :
    ∃ arrival, j.arrivals i = some arrival ∧ op.InTime ∧
      Endures latest arrival.request j.server.coord.tokenTtlSecs
        ((Coordinator.handle op j.server.coord).1.elim .panic next) := by
  have hrunning : (j.server.task i).isRunning = true := by
    rw [htask]
    rfl
  obtain ⟨arrival, harrival, hendures⟩ := h.endures hrunning
  rw [htask] at hendures
  obtain ⟨r, hr, hmeets⟩ := h.sound.result htime hendures.1
  rw [hr]
  exact ⟨arrival, harrival, hendures.1, hendures.2 r hmeets⟩

theorem Lasts.step (h : j.Lasts latest) (htime : j.InTime latest) (hstep : j.step event = some k) :
    k.Lasts latest := by
  cases event with
  | spawn m request draws =>
      obtain ⟨hcoord, -, htask, clock, seen, harrival⟩ := spawn_self hstep
      refine ⟨hcoord ▸ h.sound, fun {i} hrunning => ?_⟩
      rw [hcoord]
      by_cases hi : i = m
      · subst hi
        rw [htask]
        exact ⟨_, harrival, handler_endures request⟩
      · obtain ⟨hother, -, hsame⟩ := spawn_other hstep hi
        rw [hother] at hrunning ⊢
        rw [hsame]
        exact h.endures hrunning
  | advance m =>
      cases htask : j.server.task m with
      | call op next =>
          obtain ⟨hcoord, -, harrivals, hnext, hother⟩ := advance_pool htask hstep
          obtain ⟨arrival, harrival, hop, hgoes⟩ := h.goes htime htask
          have hconfig := (Coordinator.handle_config op j.server.coord).1
          refine ⟨hcoord ▸ h.sound.handle htime hop, fun {i} hrunning => ?_⟩
          rw [hcoord, hconfig, harrivals]
          by_cases hi : i = m
          · subst hi
            rw [hnext]
            exact ⟨arrival, harrival, hgoes⟩
          · rw [hother i hi] at hrunning ⊢
            exact h.endures hrunning
      | _ =>
          have hidle : (j.server.task m).isRunning = false := congrArg Program.isRunning htask
          obtain ⟨server, hserver, rfl⟩ := Option.map_eq_some_iff.1 hstep
          cases hserver
          have hpool : j.server.pool.advance Coordinator.handle m = j.server.pool :=
            Pool.advance_idle hidle
          simp only [hpool]
          exact ⟨h.sound, h.endures⟩
  | tick clock instant =>
      cases hstep
      exact ⟨⟨h.sound.unpoisoned, h.sound.keys⟩, h.endures⟩
  | restart ttl =>
      cases hstep
      exact ⟨⟨rfl, h.sound.keys⟩, fun hrunning => absurd hrunning Bool.false_ne_true⟩

/-- Requests cannot make the coordinator unavailable. In any run in which its clock always leaves
room for the TTL, with any requests in flight at once, restarts and any clock, the lock of the
database is never poisoned, every operation that a handler calls has a result, and a handler panics
only in a build with overflow checks, over a timestamp that its request states and that lies `2 ^ 63`
seconds or more before the latest time of the clock. -/
theorem stays_available {ttl : I64} {clock : Clock} {instant : Instant} {events : List Event}
    (htimes : Transition.AllSteps Journal.step (fun j _ => j.InTime latest) (start ttl clock instant)
      events)
    (hrun : Transition.exec Journal.step (start ttl clock instant) events = some j)
    (htime : j.InTime latest) :
    j.server.coord.poisoned = false ∧ ∀ i op next, j.server.task i = .call op next →
      (Coordinator.handle op j.server.coord).1.isSome = true ∧
        ∀ k, j.step (.advance i) = some k → k.server.task i = .panic →
          ∃ arrival, j.arrivals i = some arrival ∧ arrival.request.Overflows latest := by
  have hlasts : j.Lasts latest := Transition.invariant
    (fun _ _ _ h hgood hstep => h.step hgood hstep) start_lasts htimes hrun
  refine ⟨hlasts.sound.unpoisoned, fun i op next htask => ?_⟩
  obtain ⟨arrival, harrival, hop, hgoes⟩ := hlasts.goes htime htask
  obtain ⟨r, hr, -⟩ := hlasts.sound.result htime hop
  refine ⟨by rw [hr]; rfl, fun k hstep hpanic => ⟨arrival, harrival, ?_⟩⟩
  obtain ⟨-, -, -, hnext, -⟩ := advance_pool htask hstep
  rw [← hnext, hpanic] at hgoes
  exact hgoes

end Journal

end General

namespace Parties

/-- A build with overflow checks. -/
@[reducible] def debug : Profile := ⟨true⟩

attribute [local instance] crates debug

/-- The first node registers and sends a heartbeat with the oldest timestamp, up to the lookup of its
token. -/
def oldestHeartbeat : List Event :=
  registration ++
    .spawn 1 (heartbeatBy 1 (key 1) firstToken "198.51.100.1:7" none ⟨-(2 ^ 63), by decide⟩)
      (draws "" 8) :: advances 1 2

/-- The handler has panicked. -/
def panicked : Handler Response → Bool
  | .panic => true
  | _ => false

theorem eq_panic_of_panicked {p : Handler Response} (h : panicked p = true) : p = .panic := by
  unfold panicked at h
  split at h
  · rfl
  · cases h

/-- The handler of that heartbeat panics, and the coordinator goes on. -/
theorem oldest_heartbeat_unanswered : ∃ j k,
    Transition.exec Journal.step journal oldestHeartbeat = some j ∧ j.step (.advance 1) = some k ∧
    k.server.task 1 = .panic ∧ j.server.coord.poisoned = false ∧
    ∃ arrival, j.arrivals 1 = some arrival ∧ arrival.request.Overflows 1000 := by
  have htimes : Transition.AllSteps Journal.step (fun j _ => j.InTime 1000) journal
      oldestHeartbeat := by
    decide +kernel
  have hcheck : (Transition.exec Journal.step journal oldestHeartbeat).any (fun j =>
      decide (j.InTime 1000) && (j.server.task 1).isRunning &&
        (j.step (.advance 1)).any fun k => panicked (k.server.task 1)) = true := by
    decide +kernel
  simp only [Option.any_eq_true, Bool.and_eq_true, decide_eq_true_eq] at hcheck
  obtain ⟨j, hj, ⟨htime, hrunning⟩, k, hk, hpanic⟩ := hcheck
  have hpanicked := eq_panic_of_panicked hpanic
  cases htask : j.server.task 1 with
  | call op next =>
      obtain ⟨hsound, hanswers⟩ := Journal.stays_available htimes hj htime
      exact ⟨j, k, hj, hk, hpanicked, hsound, (hanswers 1 op next htask).2 k hk hpanicked⟩
  | _ =>
      rw [htask] at hrunning
      cases hrunning

end Parties

end Naboscale.Coord
