import Mathlib.Tactic

/-!
# Programs of atomic steps

A program is a tree of calls to atomic operations on a shared state, with plain computation in
between. Run alone it is a function of the state. Run among others, any other program may act
between two of its calls; `Pool` holds the programs in flight.
-/

namespace Concurrent

/-- A program over atomic operations, with error type `ε` and result type `α`. -/
inductive Program (Op : Type) (Result : Op → Type) (ε α : Type) where
  | done (value : α)
  | fail (error : ε)
  | panic
  | call (op : Op) (next : Result op → Program Op Result ε α)

/-- The end of a program. -/
inductive Exit (ε α : Type) where
  | ok (value : α)
  | err (error : ε)
  | panic

/-- What an operation does to the shared state; it panics where it has no result. -/
abbrev Semantics (Op : Type) (Result : Op → Type) (σ : Type) :=
  (op : Op) → σ → Option (Result op) × σ

namespace Program

variable {Op : Type} {Result : Op → Type} {ε δ α β γ σ : Type}

/-- One program after another. -/
protected def bind : Program Op Result ε α → (α → Program Op Result ε β) →
    Program Op Result ε β
  | done a, f => f a
  | fail e, _ => fail e
  | panic, _ => panic
  | call op next, f => call op fun r => (next r).bind f

instance : Monad (Program Op Result ε) where
  pure := done
  bind := Program.bind

/-- Call one operation. -/
def perform (op : Op) : Program Op Result ε (Result op) := call op done

/-- The `?` operator on a plain `Result`. -/
def lift (f : δ → ε) : Except δ α → Program Op Result ε α
  | .ok a => done a
  | .error e => fail (f e)

/-- A computation that panics where it has no value. -/
def unwrap : Option α → Program Op Result ε α
  | some a => done a
  | none => panic

@[simp] theorem pure_eq (a : α) : (pure a : Program Op Result ε α) = done a := rfl
@[simp] theorem done_bind (a : α) (f : α → Program Op Result ε β) : done a >>= f = f a := rfl
@[simp] theorem fail_bind (e : ε) (f : α → Program Op Result ε β) :
    (fail e : Program Op Result ε α) >>= f = fail e := rfl
@[simp] theorem panic_bind (f : α → Program Op Result ε β) :
    (panic : Program Op Result ε α) >>= f = panic := rfl
@[simp] theorem call_bind (op : Op) (next : Result op → Program Op Result ε α)
    (f : α → Program Op Result ε β) : call op next >>= f = call op fun r => next r >>= f := rfl
@[simp] theorem perform_bind (op : Op) (f : Result op → Program Op Result ε β) :
    (perform op : Program Op Result ε _) >>= f = call op f := rfl
@[simp] theorem lift_ok (f : δ → ε) (a : α) :
    (lift f (.ok a) : Program Op Result ε α) = done a := rfl
@[simp] theorem lift_error (f : δ → ε) (e : δ) :
    (lift f (.error e) : Program Op Result ε α) = fail (f e) := rfl
@[simp] theorem unwrap_some (a : α) : (unwrap (some a) : Program Op Result ε α) = done a := rfl
@[simp] theorem unwrap_none : (unwrap none : Program Op Result ε α) = panic := rfl

instance : LawfulMonad (Program Op Result ε) := by
  refine LawfulMonad.mk' _ ?_ (fun _ _ => rfl) ?_
  · intro α p
    show Program.bind p done = p
    induction p with
    | call op next ih => exact congrArg (call op) (funext ih)
    | _ => rfl
  · intro α β γ p f g
    show Program.bind (Program.bind p f) g = Program.bind p fun a => Program.bind (f a) g
    induction p with
    | call op next ih => exact congrArg (call op) (funext ih)
    | _ => rfl

/-! ## Execution -/

/-- Whether the program has an operation left to call. -/
def isRunning : Program Op Result ε α → Bool
  | call _ _ => true
  | _ => false

variable (handle : Semantics Op Result σ)

/-- The next atomic step of a program. A finished program does nothing. -/
def step : Program Op Result ε α → σ → Program Op Result ε α × σ
  | call op next, s =>
      match handle op s with
      | (some r, s') => (next r, s')
      | (none, s') => (panic, s')
  | p, s => (p, s)

/-- Run a program alone. -/
def run : Program Op Result ε α → σ → Exit ε α × σ
  | done a, s => (.ok a, s)
  | fail e, s => (.err e, s)
  | panic, s => (.panic, s)
  | call op next, s =>
      match handle op s with
      | (some r, s') => (next r).run s'
      | (none, s') => (.panic, s')

variable {handle}

theorem step_of_not_running {p : Program Op Result ε α} (h : p.isRunning = false) (s : σ) :
    p.step handle s = (p, s) := by
  cases p with
  | call => cases h
  | _ => rfl

theorem step_call {op : Op} {next : Result op → Program Op Result ε α} {s s' : σ} {r : Result op}
    (h : handle op s = (some r, s')) : (call op next).step handle s = (next r, s') := by
  rw [step, h]

theorem run_call {op : Op} {next : Result op → Program Op Result ε α} {s s' : σ} {r : Result op}
    (h : handle op s = (some r, s')) : (call op next).run handle s = (next r).run handle s' := by
  rw [run, h]

theorem run_call_panic {op : Op} {next : Result op → Program Op Result ε α} {s s' : σ}
    (h : handle op s = (none, s')) : (call op next).run handle s = (.panic, s') := by
  rw [run, h]

@[simp] theorem run_fail (e : ε) (s : σ) :
    (fail e : Program Op Result ε α).run handle s = (.err e, s) := rfl
@[simp] theorem run_panic (s : σ) :
    (panic : Program Op Result ε α).run handle s = (.panic, s) := rfl

/-- One program after another runs as the first and, with its value, the second. -/
theorem run_bind (p : Program Op Result ε α) (f : α → Program Op Result ε β) (s : σ) :
    (p >>= f).run handle s =
      match p.run handle s with
      | (.ok a, s') => (f a).run handle s'
      | (.err e, s') => (.err e, s')
      | (.panic, s') => (.panic, s') := by
  induction p generalizing s with
  | call op next ih =>
      rw [call_bind]
      rcases hop : handle op s with ⟨_ | r, s'⟩
      · rw [run_call_panic hop, run_call_panic hop]
      · rw [run_call hop, run_call hop, ih r s']
  | _ => rfl

/-- A program that returns has passed through its first part. -/
theorem run_bind_ok {p : Program Op Result ε α} {f : α → Program Op Result ε β} {s t : σ} {b : β}
    (h : (p >>= f).run handle s = (.ok b, t)) :
    ∃ a s', p.run handle s = (.ok a, s') ∧ (f a).run handle s' = (.ok b, t) := by
  rw [run_bind] at h
  split at h
  · exact ⟨_, _, ‹_›, h⟩
  · cases h
  · cases h

theorem run_perform_ok {op : Op} {s t : σ} {r : Result op}
    (h : (perform op : Program Op Result ε _).run handle s = (.ok r, t)) :
    handle op s = (some r, t) := by
  rw [perform, run] at h
  split at h
  · rename_i hop
    cases h
    exact hop
  · cases h

theorem run_lift_ok {f : δ → ε} {x : Except δ α} {a : α} {s t : σ}
    (h : (lift f x : Program Op Result ε α).run handle s = (.ok a, t)) : x = .ok a ∧ t = s := by
  cases x with
  | ok =>
      cases h
      exact ⟨rfl, rfl⟩
  | error => cases h

theorem run_unwrap_ok {x : Option α} {a : α} {s t : σ}
    (h : (unwrap x : Program Op Result ε α).run handle s = (.ok a, t)) : x = some a ∧ t = s := by
  cases x with
  | some =>
      cases h
      exact ⟨rfl, rfl⟩
  | none => cases h

/-- A run is a number of steps, to a program that has finished. -/
theorem run_eq_iterate (p : Program Op Result ε α) (s : σ) :
    ∃ (n : ℕ) (q : Program Op Result ε α), q.isRunning = false ∧
      (fun x => x.1.step handle x.2)^[n] (p, s) = (q, (p.run handle s).2) := by
  induction p generalizing s with
  | call op next ih =>
      rcases hop : handle op s with ⟨_ | r, s'⟩
      · refine ⟨1, panic, rfl, ?_⟩
        rw [run_call_panic hop, Function.iterate_one, step, hop]
      · obtain ⟨n, q, hq, hn⟩ := ih r s'
        refine ⟨n + 1, q, hq, ?_⟩
        rw [Function.iterate_succ_apply, step_call hop, run_call hop, hn]
  | done a => exact ⟨0, done a, rfl, rfl⟩
  | fail e => exact ⟨0, fail e, rfl, rfl⟩
  | panic => exact ⟨0, panic, rfl, rfl⟩

/-! ## What a program may come to -/

/-- Every call that the program can come to satisfies a condition on the operation and on what
follows it. -/
def Always (C : (op : Op) → (Result op → Program Op Result ε α) → Prop) :
    Program Op Result ε α → Prop
  | call op next => C op next ∧ ∀ r, (next r).Always C
  | _ => True

theorem Always.step {C : (op : Op) → (Result op → Program Op Result ε α) → Prop}
    {p : Program Op Result ε α} (h : p.Always C) (s : σ) : (p.step handle s).1.Always C := by
  cases p with
  | call op next =>
      rw [Program.step]
      rcases handle op s with ⟨_ | r, s'⟩
      · trivial
      · exact h.2 r
  | _ => trivial

end Program

/-! ## Pools -/

/-- A shared state and the programs in flight on it. -/
structure Pool (σ P : Type) where
  shared : σ
  tasks : ℕ → P

namespace Pool

variable {Op : Type} {Result : Op → Type} {ε α σ : Type}

/-- The pool with another program at an index. -/
def assign {P : Type} (pool : Pool σ P) (i : ℕ) (p : P) : Pool σ P :=
  { pool with tasks := Function.update pool.tasks i p }

/-- One atomic step of the program at an index. -/
def advance (handle : Semantics Op Result σ) (pool : Pool σ (Program Op Result ε α)) (i : ℕ) :
    Pool σ (Program Op Result ε α) :=
  let (p, s) := (pool.tasks i).step handle pool.shared
  { shared := s, tasks := Function.update pool.tasks i p }

variable {handle : Semantics Op Result σ} {pool : Pool σ (Program Op Result ε α)} {i : ℕ}

theorem advance_idle (h : (pool.tasks i).isRunning = false) : pool.advance handle i = pool := by
  simp [advance, Program.step_of_not_running h]

/-- A program in flight goes on with the result of its operation, or panics without one. -/
theorem advance_call {op : Op} {next : Result op → Program Op Result ε α}
    (h : pool.tasks i = .call op next) :
    pool.advance handle i = {
      shared := (handle op pool.shared).2
      tasks := Function.update pool.tasks i ((handle op pool.shared).1.elim .panic next) } := by
  rw [advance, h, Program.step]
  rcases handle op pool.shared with ⟨_ | r, s⟩ <;> rfl

/-- Running a program alone is a schedule of the pool. -/
theorem advance_iterate (handle : Semantics Op Result σ) (pool : Pool σ (Program Op Result ε α))
    (i n : ℕ) :
    (fun q => advance handle q i)^[n] pool =
      let (p, s) := (fun x => x.1.step handle x.2)^[n] (pool.tasks i, pool.shared)
      { shared := s, tasks := Function.update pool.tasks i p } := by
  induction n generalizing pool with
  | zero => simp
  | succ n ih =>
      rw [Function.iterate_succ_apply, ih, Function.iterate_succ_apply]
      simp [advance]

end Pool

end Concurrent
