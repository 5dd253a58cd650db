import Mathlib.Tactic

/-!
# Methods that return, fail, or panic

A shallow embedding of Rust methods taking `&mut self`. A call ends in one of three
outcomes: a value, an error value, or a panic. An error keeps the state reached when it
was raised, because `?` does not roll anything back; a panic unwinds the thread and keeps
nothing. `Method.wp` is the weakest precondition of a call, and its lemmas turn a program
into its proof obligations one construct at a time.
-/

namespace Rust

/-- The end of a call: a value, an error, or a panic. -/
inductive Outcome (σ ε α : Type) where
  | ok (value : α) (state : σ)
  | err (error : ε) (state : σ)
  | panic

/-- A method on `&mut self` with error type `ε` and result type `α`. -/
def Method (σ ε α : Type) := σ → Outcome σ ε α

namespace Outcome

variable {σ ε α : Type}

/-- The state a call leaves behind, unless it panics. -/
def state? : Outcome σ ε α → Option σ
  | ok _ s => some s
  | err _ s => some s
  | panic => none

/-- Whether a call panics. -/
def isPanic : Outcome σ ε α → Bool
  | panic => true
  | _ => false

/-- Whether a call fails. -/
def isErr : Outcome σ ε α → Bool
  | err _ _ => true
  | _ => false

theorem isErr_iff {o : Outcome σ ε α} : o.isErr = true ↔ ∃ e s, o = err e s := by
  cases o <;> simp [isErr]

/-- The call returned a value, and the check passes on the value and the state. -/
def okAnd (p : α → σ → Bool) : Outcome σ ε α → Bool
  | ok a s => p a s
  | _ => false

theorem okAnd_iff {p : α → σ → Bool} {o : Outcome σ ε α} :
    o.okAnd p = true ↔ ∃ a s, o = ok a s ∧ p a s = true := by
  cases o <;> simp [okAnd]

@[simp] theorem state?_ok (a : α) (s : σ) : (ok a s : Outcome σ ε α).state? = some s := rfl
@[simp] theorem state?_err (e : ε) (s : σ) : (err e s : Outcome σ ε α).state? = some s := rfl
@[simp] theorem state?_panic : (panic : Outcome σ ε α).state? = none := rfl
@[simp] theorem isPanic_ok (a : α) (s : σ) : (ok a s : Outcome σ ε α).isPanic = false := rfl
@[simp] theorem isPanic_err (e : ε) (s : σ) : (err e s : Outcome σ ε α).isPanic = false := rfl
@[simp] theorem isPanic_panic : (panic : Outcome σ ε α).isPanic = true := rfl

end Outcome

/-- The rule for `?`: where a block succeeds, each of its parts has. -/
theorem ok_of_bind {ε α β : Type} {x : Except ε α} {f : α → Except ε β} {b : β}
    (h : x >>= f = .ok b) : ∃ a, x = .ok a ∧ f a = .ok b := by
  cases x with
  | error e => cases h
  | ok a => exact ⟨a, rfl, h⟩

theorem ok_of_toOption {ε α : Type} {x : Except ε α} {a : α} (h : x.toOption = some a) :
    x = .ok a := by
  cases x with
  | error e => cases h
  | ok b =>
      cases h
      rfl

namespace Method

variable {σ τ ε δ α β : Type}

/-- Return a value and leave the state alone. -/
protected def pure (a : α) : Method σ ε α := fun s => .ok a s

/-- Run one call and then the next; an error or a panic of the first ends the sequence. -/
protected def bind (p : Method σ ε α) (f : α → Method σ ε β) : Method σ ε β := fun s =>
  match p s with
  | .ok a s' => f a s'
  | .err e s' => .err e s'
  | .panic => .panic

instance : Monad (Method σ ε) where
  pure := Method.pure
  bind := Method.bind

instance : LawfulMonad (Method σ ε) := by
  refine LawfulMonad.mk' _ ?_ ?_ ?_
  · intro α p
    funext s
    show Method.bind p Method.pure s = p s
    unfold Method.bind
    cases p s <;> rfl
  · intro α β a f
    rfl
  · intro α β γ p f g
    funext s
    show Method.bind (Method.bind p f) g s = Method.bind p (fun a => Method.bind (f a) g) s
    unfold Method.bind
    cases p s <;> rfl

/-- Return an error. -/
def fail (e : ε) : Method σ ε α := fun s => .err e s

/-- Unwind: an index out of range, a failed `unwrap`, an unequal `copy_from_slice`. -/
def panic : Method σ ε α := fun _ => .panic

/-- Read `self`. -/
def get : Method σ ε σ := fun s => .ok s s

/-- Assign `self`. -/
def set (s : σ) : Method σ ε Unit := fun _ => .ok () s

/-- Update `self` in place. -/
def modify (f : σ → σ) : Method σ ε Unit := fun s => .ok () (f s)

/-- The `?` operator on a plain `Result`, with the conversion of the error type. -/
def lift (f : δ → ε) : Except δ α → Method σ ε α
  | .ok a => pure a
  | .error e => fail (f e)

/-- `unwrap` and indexing: a missing value is a panic. -/
def unwrap : Option α → Method σ ε α
  | some a => pure a
  | none => panic

/-- Call a method of another object, and hand back its result together with the object. -/
def on (t : τ) (p : Method τ δ α) : Method σ ε (Except δ α × τ) := fun s =>
  match p t with
  | .ok a t' => .ok (.ok a, t') s
  | .err e t' => .ok (.error e, t') s
  | .panic => .panic

/-- Run a method on a part of `self`. The part is read by `read` and written back by `write`. -/
def zoom (read : σ → τ) (write : τ → σ → σ) (p : Method τ ε α) : Method σ ε α := fun s =>
  match p (read s) with
  | .ok a t => .ok a (write t s)
  | .err e t => .err e (write t s)
  | .panic => .panic

/-! ## Evaluation -/

theorem bind_eq (p : Method σ ε α) (f : α → Method σ ε β) (s : σ) :
    (p >>= f) s = match p s with
      | .ok a s' => f a s'
      | .err e s' => .err e s'
      | .panic => .panic := rfl

theorem bind_ok {p : Method σ ε α} {f : α → Method σ ε β} {s s' : σ} {a : α}
    (h : p s = .ok a s') : (p >>= f) s = f a s' := by
  simp [bind_eq, h]

theorem bind_err {p : Method σ ε α} {f : α → Method σ ε β} {s s' : σ} {e : ε}
    (h : p s = .err e s') : (p >>= f) s = .err e s' := by
  simp [bind_eq, h]

theorem bind_panic {p : Method σ ε α} {f : α → Method σ ε β} {s : σ}
    (h : p s = .panic) : (p >>= f) s = .panic := by
  simp [bind_eq, h]

@[simp] theorem pure_apply (a : α) (s : σ) : (pure a : Method σ ε α) s = .ok a s := rfl
@[simp] theorem fail_apply (e : ε) (s : σ) : (fail e : Method σ ε α) s = .err e s := rfl
@[simp] theorem panic_apply (s : σ) : (panic : Method σ ε α) s = .panic := rfl
@[simp] theorem get_apply (s : σ) : (get : Method σ ε σ) s = .ok s s := rfl
@[simp] theorem set_apply (s t : σ) : (set t : Method σ ε Unit) s = .ok () t := rfl
@[simp] theorem modify_apply (f : σ → σ) (s : σ) :
    (modify f : Method σ ε Unit) s = .ok () (f s) := rfl
@[simp] theorem lift_ok (f : δ → ε) (a : α) : (lift f (.ok a) : Method σ ε α) = pure a := rfl
@[simp] theorem lift_error (f : δ → ε) (e : δ) :
    (lift f (.error e) : Method σ ε α) = fail (f e) := rfl
@[simp] theorem unwrap_some (a : α) : (unwrap (some a) : Method σ ε α) = pure a := rfl
@[simp] theorem unwrap_none : (unwrap none : Method σ ε α) = panic := rfl

/-! ## Weakest preconditions -/

/-- What may be assumed after a call: of the value and state, of the error and state, and
whether a panic is allowed at all. -/
structure Post (σ ε α : Type) where
  ok : α → σ → Prop
  err : ε → σ → Prop
  panic : Prop

/-- The outcome satisfies the postcondition. -/
def Post.Holds (Q : Post σ ε α) : Outcome σ ε α → Prop
  | .ok a s => Q.ok a s
  | .err e s => Q.err e s
  | .panic => Q.panic

/-- The weakest precondition of a call for a postcondition. -/
def wp (p : Method σ ε α) (Q : Post σ ε α) (s : σ) : Prop := Q.Holds (p s)

variable {Q R : Post σ ε α} {s : σ}

theorem wp_def (p : Method σ ε α) : p.wp Q s ↔ Q.Holds (p s) := Iff.rfl

@[simp] theorem wp_pure (a : α) : (pure a : Method σ ε α).wp Q s ↔ Q.ok a s := Iff.rfl
@[simp] theorem wp_fail (e : ε) : (fail e : Method σ ε α).wp Q s ↔ Q.err e s := Iff.rfl
@[simp] theorem wp_panic : (panic : Method σ ε α).wp Q s ↔ Q.panic := Iff.rfl
@[simp] theorem wp_get {Q : Post σ ε σ} : (get : Method σ ε σ).wp Q s ↔ Q.ok s s := Iff.rfl
@[simp] theorem wp_set {Q : Post σ ε Unit} (t : σ) :
    (set t : Method σ ε Unit).wp Q s ↔ Q.ok () t := Iff.rfl
@[simp] theorem wp_modify {Q : Post σ ε Unit} (f : σ → σ) :
    (modify f : Method σ ε Unit).wp Q s ↔ Q.ok () (f s) := Iff.rfl

@[simp] theorem wp_bind {Q : Post σ ε β} (p : Method σ ε α) (f : α → Method σ ε β) :
    (p >>= f).wp Q s ↔ p.wp ⟨fun a s' => (f a).wp Q s', Q.err, Q.panic⟩ s := by
  simp only [wp, bind_eq]
  cases p s <;> rfl

@[simp] theorem wp_ite (c : Prop) [Decidable c] (p q : Method σ ε α) :
    (if c then p else q).wp Q s ↔ (c → p.wp Q s) ∧ (¬ c → q.wp Q s) := by
  by_cases h : c <;> simp [h]

theorem wp_lift (f : δ → ε) (r : Except δ α) :
    (lift f r : Method σ ε α).wp Q s ↔
      (∀ a, r = .ok a → Q.ok a s) ∧ (∀ e, r = .error e → Q.err (f e) s) := by
  cases r <;> simp [wp_def, Post.Holds, lift]

theorem wp_unwrap (r : Option α) :
    (unwrap r : Method σ ε α).wp Q s ↔
      (∀ a, r = some a → Q.ok a s) ∧ (r = none → Q.panic) := by
  cases r <;> simp [wp_def, Post.Holds, unwrap]

@[simp] theorem wp_on {Q : Post σ ε (Except δ α × τ)} (t : τ) (p : Method τ δ α) :
    (on t p : Method σ ε _).wp Q s ↔
      p.wp ⟨fun a t' => Q.ok (.ok a, t') s, fun e t' => Q.ok (.error e, t') s, Q.panic⟩ t := by
  simp only [wp, on]
  cases p t <;> rfl

@[simp] theorem wp_zoom (read : σ → τ) (write : τ → σ → σ) (p : Method τ ε α) :
    (zoom read write p).wp Q s ↔
      p.wp ⟨fun a t => Q.ok a (write t s), fun e t => Q.err e (write t s), Q.panic⟩
        (read s) := by
  simp only [wp, zoom]
  cases p (read s) <;> rfl

theorem wp_get_bind {Q : Post σ ε β} (f : σ → Method σ ε β) :
    (get >>= f).wp Q s ↔ (f s).wp Q s := Iff.rfl

theorem wp_modify_bind {Q : Post σ ε β} (g : σ → σ) (f : Unit → Method σ ε β) :
    (modify g >>= f).wp Q s ↔ (f ()).wp Q (g s) := Iff.rfl

theorem wp_on_bind {Q : Post σ ε β} (t : τ) (p : Method τ δ α)
    (f : Except δ α × τ → Method σ ε β) :
    (on t p >>= f).wp Q s ↔
      p.wp ⟨fun a t' => (f (.ok a, t')).wp Q s, fun e t' => (f (.error e, t')).wp Q s, Q.panic⟩
        t := by
  rw [wp_bind, wp_on]

/-- A weaker postcondition follows from a stronger one. -/
theorem wp_mono {p : Method σ ε α} (h : p.wp Q s) (hok : ∀ a s', Q.ok a s' → R.ok a s')
    (herr : ∀ e s', Q.err e s' → R.err e s') (hpanic : Q.panic → R.panic) : p.wp R s := by
  revert h
  simp only [wp]
  cases p s with
  | ok a s' => exact hok a s'
  | err e s' => exact herr e s'
  | panic => exact hpanic

/-- Nothing is said of what the call does. -/
theorem wp_trivial (p : Method σ ε α) (s : σ) :
    p.wp ⟨fun _ _ => True, fun _ _ => True, True⟩ s := by
  rw [wp_def]
  cases p s <;> trivial

/-- Two postconditions established separately hold together. -/
theorem wp_and {p : Method σ ε α} (hQ : p.wp Q s) (hR : p.wp R s) :
    p.wp ⟨fun a s' => Q.ok a s' ∧ R.ok a s', fun e s' => Q.err e s' ∧ R.err e s',
      Q.panic ∧ R.panic⟩ s := by
  revert hQ hR
  simp only [wp]
  cases p s <;> exact And.intro

/-- A call whose postcondition forbids errors and panics succeeds. -/
theorem ok_of_wp {p : Method σ ε α} {P : α → σ → Prop}
    (h : p.wp ⟨P, fun _ _ => False, False⟩ s) : ∃ a s', p s = .ok a s' ∧ P a s' := by
  simp only [wp] at h
  cases hp : p s with
  | ok a s' =>
      rw [hp] at h
      exact ⟨a, s', rfl, h⟩
  | err e s' =>
      rw [hp] at h
      exact h.elim
  | panic =>
      rw [hp] at h
      exact h.elim

/-- The postcondition of a call applies to the state it leaves behind. -/
theorem wp_state {p : Method σ ε α} {P : σ → Prop} {s' : σ}
    (h : p.wp ⟨fun _ => P, fun _ => P, True⟩ s) (hs : (p s).state? = some s') : P s' := by
  simp only [wp] at h
  cases hp : p s with
  | ok a t =>
      simp only [hp, Outcome.state?_ok, Option.some.injEq] at hs h
      exact hs ▸ h
  | err e t =>
      simp only [hp, Outcome.state?_err, Option.some.injEq] at hs h
      exact hs ▸ h
  | panic => simp [hp] at hs

end Method

end Rust
