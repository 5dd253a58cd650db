import Naboscale.Coord.Handlers
import Naboscale.Transition

/-!
# The running coordinator

The coordinator with its handlers in flight. A handler advances by one operation at a time, the
clocks move, and the process restarts: a restart ends every handler and reads the database again.
-/

namespace Naboscale.Coord

open Rust Concurrent

variable [Profile] [CoordCrates]

/-- The shared state with the handlers in flight, what each of them was given at random, and the
tokens that were drawn so far. -/
structure Server where
  pool : Pool Coordinator (Handler Response)
  drawn : ℕ → Draws
  issued : List String

/-- A step of the server. -/
inductive Event where
  | spawn (i : ℕ) (request : Request) (draws : Draws)
  | advance (i : ℕ)
  | tick (clock : Clock) (instant : Instant)
  | restart (tokenTtlSecs : I64)

namespace Server

/-- The shared state. -/
abbrev coord (s : Server) : Coordinator := s.pool.shared

/-- The handler at an index. A handler that has panicked stands for none. -/
abbrev task (s : Server) (i : ℕ) : Handler Response := s.pool.tasks i

/-- A server on an empty database. -/
def start (tokenTtlSecs : I64) (clock : Clock) (instant : Instant) : Server where
  pool := ⟨.open .empty tokenTtlSecs clock instant, fun _ => .panic⟩
  drawn := fun _ => ⟨"", Arr.zeros 32⟩
  issued := []

/-- Start the handler of a request. -/
def spawn (s : Server) (i : ℕ) (request : Request) (draws : Draws) : Server where
  pool := s.pool.assign i (request.handler s.coord.tokenTtlSecs draws)
  drawn := Function.update s.drawn i draws
  issued := draws.authToken :: s.issued

/-- Make a step; none where a request would take the place of a handler that is in flight. -/
def step (s : Server) : Event → Option Server
  | .spawn i request draws =>
      if (s.task i).isRunning then none else some (s.spawn i request draws)
  | .advance i => some { s with pool := s.pool.advance Coordinator.handle i }
  | .tick clock instant =>
      some { s with pool := { s.pool with shared := { s.coord with clock, instant } } }
  | .restart tokenTtlSecs =>
      some { s with
        pool := ⟨.open s.coord.db tokenTtlSecs s.coord.clock s.coord.instant, fun _ => .panic⟩ }

end Server

/-- A request handled while no other one is in flight. -/
def Coordinator.serve (self : Coordinator) (request : Request) (draws : Draws) :
    Exit Error Response × Coordinator :=
  (request.handler self.tokenTtlSecs draws).run Coordinator.handle self

/-! ## Checks of a request handled alone -/

/-- The rate limiter is all that a request changes before it is admitted. -/
theorem checkRateLimit_ok {self after : Coordinator} {peer : SocketAddr} {bucket : Bucket} {u : Unit}
    (h : (checkRateLimit peer bucket).run Coordinator.handle self = (.ok u, after)) :
    after = { self with rateLimiter := after.rateLimiter } := by
  obtain ⟨admitted, checked, hadmitted, hlift⟩ := Program.run_bind_ok h
  obtain ⟨-, rfl⟩ := Program.run_lift_ok hlift
  have hafter : _ = after := congrArg Prod.snd (Program.run_perform_ok hadmitted)
  rw [← hafter]
  rfl

/-- The caller is the node that the token of the request finds at the time of the clock. -/
theorem authenticate_ok {self after : Coordinator} {authorization : Option String} {now : ℤ}
    {caller : NodeRecord}
    (h : (authenticate authorization).run Coordinator.handle self = (.ok (now, caller), after)) :
    now = self.clock.val ∧ self.poisoned = false ∧ after = self ∧ ∃ token,
      extractBearer authorization = .ok token ∧ self.db.getNodeByToken token now = some caller := by
  obtain ⟨token, s, hlift, hrest⟩ := Program.run_bind_ok h
  obtain ⟨htoken, hs⟩ := Program.run_lift_ok hlift
  subst s
  obtain ⟨clock, s, hclock, hlookup⟩ := Program.run_bind_ok hrest
  cases Program.run_perform_ok hclock
  obtain ⟨found, s, hcall, hcaller⟩ := Program.run_bind_ok hlookup
  have hlocked : self.locked (fun db => (some (db.getNodeByToken token self.clock.val), db)) =
      (some found, s) := Program.run_perform_ok hcall
  obtain ⟨hsound, hfound, hsame⟩ := Coordinator.locked_inv hlocked
  cases found with
  | none => cases hcaller
  | some found =>
      cases hcaller
      refine ⟨rfl, hsound, ?_, token, htoken, Option.some.inj hfound⟩
      rw [hsame, ← hsound]

/-- Decoding a signed request changes nothing. -/
theorem decodeSigned_ok {self after : Coordinator} {caller : NodeRecord} {signature : String}
    {timestamp now : ℤ} {decoded : Arr 32 × Arr 64}
    (h : (decodeSigned caller signature timestamp now).run Coordinator.handle self =
      (.ok decoded, after)) : after = self := by
  obtain ⟨sig, s, hsig, hrest⟩ := Program.run_bind_ok h
  obtain ⟨valid, s', hvalid, hrest⟩ := Program.run_bind_ok hrest
  obtain ⟨_, s'', hchecked, hrest⟩ := Program.run_bind_ok hrest
  obtain ⟨key, s''', hkey, hpure⟩ := Program.run_bind_ok hrest
  cases hpure
  rw [(Program.run_unwrap_ok hkey).2, (Program.run_lift_ok hchecked).2,
    (Program.run_unwrap_ok hvalid).2, (Program.run_lift_ok hsig).2]

namespace Server

variable {s t : Server} {i : ℕ} {request : Request} {draws : Draws}

theorem advance_run (s : Server) (i n : ℕ) :
    Transition.exec step s (List.replicate n (.advance i)) =
      some { s with pool := (fun pool => Pool.advance Coordinator.handle pool i)^[n] s.pool } := by
  induction n generalizing s with
  | zero => rfl
  | succ n ih =>
      rw [List.replicate_succ, Transition.exec, step, Option.bind_some, ih]
      rfl

/-- Every handler in flight is in shape for the TTL of the server and what it drew. -/
def InShape (s : Server) : Prop :=
  ∀ i, (s.task i).Always (Shaped s.coord.tokenTtlSecs (s.drawn i))

omit [Profile] in
theorem start_inShape {ttl : I64} {clock : Clock} {instant : Instant} :
    (start ttl clock instant).InShape := fun _ => trivial

/-- Only a restart changes the TTL. -/
theorem ttl_of_step {event : Event} (hstep : s.step event = some t)
    (hrestart : ∀ ttl, event ≠ .restart ttl) :
    t.coord.tokenTtlSecs = s.coord.tokenTtlSecs := by
  cases event with
  | spawn j request draws =>
      rw [step] at hstep
      split at hstep <;> cases hstep
      rfl
  | advance j =>
      cases hstep
      cases hj : s.pool.tasks j with
      | call op next =>
          rw [coord, Pool.advance_call hj]
          exact (Coordinator.handle_config op _).1
      | _ => rw [coord, Pool.advance_idle (i := j) (congrArg Program.isRunning hj)]
  | tick clock instant =>
      cases hstep
      rfl
  | restart ttl => exact absurd rfl (hrestart ttl)

/-- Every step keeps the handlers in shape. -/
theorem InShape.step {event : Event} (h : s.InShape) (hstep : s.step event = some t) :
    t.InShape := by
  intro i
  cases event with
  | spawn j request draws =>
      rw [Server.step] at hstep
      split at hstep
      · cases hstep
      · cases hstep
        by_cases hi : i = j
        · subst hi
          simpa [task, coord, spawn, Pool.assign] using (handler_tame request).2
        · simpa [task, coord, spawn, Pool.assign, hi] using h i
  | advance j =>
      have hconfig := ttl_of_step hstep fun _ h => Event.noConfusion h
      cases hstep
      have hshape : ((s.pool.advance Coordinator.handle j).tasks i).Always
          (Shaped s.coord.tokenTtlSecs (s.drawn i)) := by
        by_cases hi : i = j
        · subst hi
          have hnext : ((s.task i).step Coordinator.handle s.coord).1.Always _ :=
            (h i).step s.coord
          simpa [Pool.advance] using hnext
        · simpa [Pool.advance, hi] using h i
      rwa [← hconfig] at hshape
  | tick clock instant =>
      cases hstep
      exact h i
  | restart ttl =>
      cases hstep
      trivial

/-- Handling a request alone is a run of the server. -/
theorem serve_run (hidle : (s.task i).isRunning = false) :
    ∃ events t, Transition.exec step s (.spawn i request draws :: events) = some t ∧
      t.coord = (s.coord.serve request draws).2 ∧ (t.task i).isRunning = false := by
  obtain ⟨n, p, hp, hn⟩ : ∃ (n : ℕ) (p : Handler Response), p.isRunning = false ∧
      (fun x => x.1.step Coordinator.handle x.2)^[n]
        (request.handler s.coord.tokenTtlSecs draws, s.coord) = (p, _) :=
    Program.run_eq_iterate _ _
  have hspawn : step s (.spawn i request draws) = some (s.spawn i request draws) :=
    if_neg (hidle ▸ Bool.false_ne_true)
  refine ⟨List.replicate n (.advance i), _, Transition.exec_cons hspawn (advance_run _ i n), ?_, ?_⟩
  · simp only [Pool.advance_iterate, spawn, Pool.assign, Function.update_self]
    exact congrArg Prod.snd hn
  · simp only [task, Pool.advance_iterate, spawn, Pool.assign, Function.update_self]
    exact (congrArg (fun x => x.1.isRunning) hn).trans hp

end Server

end Naboscale.Coord
