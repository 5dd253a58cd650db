import Naboscale.Rust.Bytes

/-!
# Methods in lockstep

A second method, on the image of the state under a map, ends as the first one does: with the same
value or error, in the image of the state that the first one leaves.
-/

namespace Rust

variable {σ τ ε δ α β : Type}

/-- The end of a call, with its state mapped. -/
def Outcome.mapState (f : σ → τ) : Outcome σ ε α → Outcome τ ε α
  | ok a s => ok a (f s)
  | err e s => err e (f s)
  | panic => panic

namespace Method

/-- From the state on, the second method does on the image what the first one does. -/
def Lockstep (f : σ → τ) (p : Method σ ε α) (q : Method τ ε α) (s : σ) : Prop :=
  q (f s) = (p s).mapState f

variable {f : σ → τ} {s : σ}

theorem Lockstep.bind {p : Method σ ε α} {q : Method τ ε α} {k : α → Method σ ε β}
    {l : α → Method τ ε β} (h : Lockstep f p q s)
    (hnext : ∀ a s', p s = .ok a s' → Lockstep f (k a) (l a) s') :
    Lockstep f (p >>= k) (q >>= l) s := by
  rw [Lockstep, bind_eq, bind_eq, h]
  cases hp : p s with
  | ok a s' => exact hnext a s' hp
  | err e s' => rfl
  | panic => rfl

theorem Lockstep.ite {c : Prop} [Decidable c] {p p' : Method σ ε α} {q q' : Method τ ε α}
    (h : c → Lockstep f p q s) (h' : ¬ c → Lockstep f p' q' s) :
    Lockstep f (if c then p else p') (if c then q else q') s := by
  split
  · exact h ‹_›
  · exact h' ‹_›

/-- Methods that succeed in lockstep with what is left of them. -/
theorem Lockstep.ok {p : Method σ ε α} {q : Method τ ε α} {s' : σ} {a : α}
    (h : Lockstep f p q s) (hp : p s = .ok a s') : q (f s) = .ok a (f s') := by
  rw [h, hp]
  rfl

/-- A part of the first method that the second one skips. -/
theorem Lockstep.skip {p : Method σ ε Unit} {k : Method σ ε β} {q : Method τ ε β} {s' : σ}
    (hp : p s = .ok () s') (hsame : f s' = f s) (h : Lockstep f k q s') :
    Lockstep f (p >>= fun _ => k) q s := by
  rw [Lockstep, bind_eq, hp, ← hsame]
  exact h

end Method

section Checked

open Method

variable {f : σ → τ} {s : σ}

end Checked

end Rust
