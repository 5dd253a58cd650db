import Naboscale.Rust.Bytes

/-!
# What a call leaves alone

A call keeps a view of `self` if the view is the same before and after it, whether it returns or
fails. There is one rule for each construct, so that a method keeps a view if each of its parts
does.
-/

namespace Rust

namespace Method

variable {σ τ υ ε δ α β : Type} {view : σ → υ}

/-- The call does not change the view of `self`. -/
def Keeps (view : σ → υ) (p : Method σ ε α) : Prop :=
  ∀ s, p.wp ⟨fun _ s' => view s' = view s, fun _ s' => view s' = view s, True⟩ s

theorem keeps_pure (a : α) : Keeps view (pure a : Method σ ε α) := fun _ => rfl

theorem keeps_fail (e : ε) : Keeps view (fail e : Method σ ε α) := fun _ => rfl

theorem keeps_panic : Keeps view (panic : Method σ ε α) := fun _ => trivial

theorem Keeps.bind {p : Method σ ε α} {f : α → Method σ ε β} (hp : Keeps view p)
    (hf : ∀ a, Keeps view (f a)) : Keeps view (p >>= f) := by
  intro s
  rw [wp_bind]
  refine wp_mono (hp s) (fun a s' hview => ?_) (fun _ _ hview => hview) id
  exact wp_mono (hf a s') (fun _ _ h => h.trans hview) (fun _ _ h => h.trans hview) id

theorem keeps_get_bind {f : σ → Method σ ε β} (h : ∀ s, Keeps view (f s)) :
    Keeps view (get >>= f) :=
  Keeps.bind (fun _ => rfl) h

theorem Keeps.ite {c : Prop} [Decidable c] {p q : Method σ ε α} (hp : c → Keeps view p)
    (hq : ¬ c → Keeps view q) : Keeps view (if c then p else q) := by
  split
  · exact hp ‹_›
  · exact hq ‹_›

theorem keeps_lift (f : δ → ε) (r : Except δ α) : Keeps view (lift f r : Method σ ε α) := by
  cases r with
  | ok a => exact keeps_pure a
  | error e => exact keeps_fail (f e)

theorem keeps_unwrap (r : Option α) : Keeps view (unwrap r : Method σ ε α) := by
  cases r with
  | some a => exact keeps_pure a
  | none => exact keeps_panic

/-- A call on another object does not touch `self`. -/
theorem keeps_on (t : τ) (p : Method τ δ α) : Keeps view (on t p : Method σ ε _) := by
  intro s
  rw [wp_on, wp_def]
  cases p t <;> trivial

theorem keeps_modify {f : σ → σ} (h : ∀ s, view (f s) = view s) :
    Keeps view (modify f : Method σ ε Unit) := h

/-- A call on a part of `self` keeps every view that the part is no part of. -/
theorem keeps_zoom {read : σ → τ} {write : τ → σ → σ} (p : Method τ ε α)
    (h : ∀ t s, view (write t s) = view s) : Keeps view (zoom read write p) := by
  intro s
  rw [wp_zoom, wp_def]
  cases p (read s) with
  | ok a t => exact h t s
  | err e t => exact h t s
  | panic => trivial

/-- A call keeps what a view determines. -/
theorem Keeps.comp {ρ : Type} {p : Method σ ε α} (f : υ → ρ) (h : Keeps view p) :
    Keeps (fun s => f (view s)) p := fun s =>
  wp_mono (h s) (fun _ _ hview => congrArg f hview) (fun _ _ hview => congrArg f hview) id

/-- The state that a call leaves behind has the view that it started from. -/
theorem Keeps.state {p : Method σ ε α} (h : Keeps view p) {s s' : σ}
    (hs : (p s).state? = some s') : view s' = view s :=
  wp_state (P := fun t => view t = view s) (h s) hs

end Method

section Checked

variable {σ υ ε : Type} {view : σ → υ}

theorem keeps_slice (l : Bytes) (a b : ℕ) :
    Method.Keeps view (slice l a b : Method σ ε Bytes) :=
  Method.Keeps.ite (fun _ => Method.keeps_pure _) fun _ => Method.keeps_panic

theorem keeps_index (l : Bytes) (i : ℕ) : Method.Keeps view (index l i : Method σ ε UInt8) :=
  Method.keeps_unwrap _

theorem keeps_expectArr (n : ℕ) (l : Bytes) :
    Method.Keeps view (expectArr n l : Method σ ε (Arr n)) := by
  unfold expectArr
  split
  · exact Method.keeps_pure _
  · exact Method.keeps_panic

theorem Arr.keeps_store {n : ℕ} (buf : Arr n) (i : ℕ) (byte : UInt8) :
    Method.Keeps view (buf.store i byte : Method σ ε (Arr n)) :=
  Method.Keeps.ite (fun _ => Method.keeps_pure _) fun _ => Method.keeps_panic

theorem Arr.keeps_copyFromSlice {n : ℕ} (buf : Arr n) (a b : ℕ) (src : Bytes) :
    Method.Keeps view (buf.copyFromSlice a b src : Method σ ε (Arr n)) := by
  unfold Arr.copyFromSlice
  split
  · exact Method.keeps_pure _
  · exact Method.keeps_panic

end Checked

end Rust
