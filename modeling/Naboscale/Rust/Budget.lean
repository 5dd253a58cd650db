import Naboscale.Rust.Log

/-!
# How much a call adds to a log

A call spends at most `n` entries of a log if it appends no more than that, on every way out of it.
Budgets add up along a sequence of calls, and a call that keeps the log spends nothing.
-/

namespace Rust

section Lists

variable {β : Type} {P R : β → Prop} {m n : ℕ} {first second third : List β}

/-- The second list is the first with at most `n` further entries, which all have the property. -/
def Adds (n : ℕ) (P : β → Prop) (first second : List β) : Prop :=
  ∃ added, second = first ++ added ∧ added.length ≤ n ∧ ∀ entry ∈ added, P entry

theorem Adds.of_eq (h : second = first) : Adds n P first second := by
  refine ⟨[], ?_, Nat.zero_le n, fun entry hentry => absurd hentry List.not_mem_nil⟩
  rw [h, List.append_nil]

theorem Adds.refl (n : ℕ) (first : List β) : Adds n P first first := Adds.of_eq rfl

theorem Adds.snoc {entry : β} (h : P entry) : Adds 1 P first (first ++ [entry]) := by
  refine ⟨[entry], rfl, le_rfl, fun other hother => ?_⟩
  rw [List.mem_singleton.1 hother]
  exact h

theorem Adds.trans (h : Adds m P first second) (hnext : Adds n P second third) :
    Adds (m + n) P first third := by
  obtain ⟨added, rfl, hlen, hadded⟩ := h
  obtain ⟨further, rfl, hlen', hfurther⟩ := hnext
  refine ⟨added ++ further, List.append_assoc first added further, ?_, fun entry hentry => ?_⟩
  · rw [List.length_append]
    omega
  · rcases List.mem_append.1 hentry with hmem | hmem
    · exact hadded entry hmem
    · exact hfurther entry hmem

theorem Adds.mono (h : Adds m P first second) (hle : m ≤ n) (himp : ∀ entry, P entry → R entry) :
    Adds n R first second := by
  obtain ⟨added, hadded, hlen, hall⟩ := h
  exact ⟨added, hadded, hlen.trans hle, fun entry hentry => himp entry (hall entry hentry)⟩

/-- What is added weighs at most the budget times the most that one entry weighs. -/
theorem Adds.weight {weight : β → ℕ} {most : ℕ} (h : Adds n P first second)
    (hmost : ∀ entry, P entry → weight entry ≤ most) :
    (second.map weight).sum ≤ (first.map weight).sum + n * most := by
  obtain ⟨added, rfl, hlen, hall⟩ := h
  rw [List.map_append, List.sum_append]
  have hadded : (added.map weight).sum ≤ (added.map weight).length • most := by
    refine List.sum_le_card_nsmul _ _ fun w hw => ?_
    obtain ⟨entry, hentry, rfl⟩ := List.mem_map.1 hw
    exact hmost entry (hall entry hentry)
  rw [List.length_map, smul_eq_mul] at hadded
  exact Nat.add_le_add_left (hadded.trans (Nat.mul_le_mul_right most hlen)) _

/-- Replacing an element exchanges its weight. -/
theorem sum_map_set {weight : β → ℕ} {l : List β} {i : ℕ} {old new : β} (h : l[i]? = some old) :
    ((l.set i new).map weight).sum + weight old = (l.map weight).sum + weight new := by
  induction l generalizing i with
  | nil => cases h
  | cons head tail ih =>
      cases i with
      | zero =>
          cases h
          simp only [List.set_cons_zero, List.map_cons, List.sum_cons]
          omega
      | succ i =>
          have hrest := ih h
          simp only [List.set_cons_succ, List.map_cons, List.sum_cons]
          omega

end Lists

namespace Method

variable {σ τ ε δ α β γ : Type} {log : σ → List γ} {P R : γ → Prop} {m n : ℕ}

/-- The postcondition that the log has grown by at most `n` entries with the property. -/
def Within (log : σ → List γ) (n : ℕ) (P : γ → Prop) (first : List γ) : Post σ ε α where
  ok _ s := Adds n P first (log s)
  err _ s := Adds n P first (log s)
  panic := True

/-- The call appends to the log at most `n` entries, all with the property. -/
def Spends (log : σ → List γ) (n : ℕ) (P : γ → Prop) (p : Method σ ε α) : Prop :=
  ∀ s, p.wp (Within log n P (log s)) s

theorem Keeps.spends {p : Method σ ε α} (h : Keeps log p) (n : ℕ) : Spends log n P p := fun s =>
  wp_mono (h s) (fun _ _ hlog => .of_eq hlog) (fun _ _ hlog => .of_eq hlog) id

theorem spends_pure (a : α) (n : ℕ) : Spends log n P (pure a : Method σ ε α) :=
  (keeps_pure a).spends n

theorem spends_fail (e : ε) (n : ℕ) : Spends log n P (fail e : Method σ ε α) :=
  (keeps_fail e).spends n

theorem Spends.mono {p : Method σ ε α} (h : Spends log m P p) (hle : m ≤ n)
    (himp : ∀ entry, P entry → R entry) : Spends log n R p := fun s =>
  wp_mono (h s) (fun _ _ hadds => hadds.mono hle himp) (fun _ _ hadds => hadds.mono hle himp) id

/-- A call after one that has let the log grow. -/
theorem Spends.after {p : Method σ ε α} (h : Spends log n P p) {first : List γ} {s : σ}
    (hadds : Adds m P first (log s)) : p.wp (Within log (m + n) P first) s :=
  wp_mono (h s) (fun _ _ hnext => hadds.trans hnext) (fun _ _ hnext => hadds.trans hnext) id

theorem Spends.bind {p : Method σ ε α} {f : α → Method σ ε β} (hp : Spends log m P p)
    (hf : ∀ a, Spends log n P (f a)) : Spends log (m + n) P (p >>= f) := by
  intro s
  rw [wp_bind]
  exact wp_mono (hp s) (fun a s' hadds => (hf a).after hadds)
    (fun _ _ hadds => hadds.mono (Nat.le_add_right m n) fun _ h => h) id

/-- A call that keeps the log, before one that has a budget. -/
theorem Keeps.bind_spends {p : Method σ ε α} {f : α → Method σ ε β} (hp : Keeps log p)
    (hf : ∀ a, Spends log n P (f a)) : Spends log n P (p >>= f) := by
  have h := (hp.spends 0).bind hf
  rwa [Nat.zero_add] at h

/-- A call that keeps the log, after one that has a budget. -/
theorem Spends.bind_keeps {p : Method σ ε α} {f : α → Method σ ε β} (hp : Spends log n P p)
    (hf : ∀ a, Keeps log (f a)) : Spends log n P (p >>= f) :=
  hp.bind fun a => (hf a).spends 0

theorem spends_get_bind {f : σ → Method σ ε β} (h : ∀ s, Spends log n P (f s)) :
    Spends log n P (get >>= f) := fun s => h s s

theorem Spends.ite {c : Prop} [Decidable c] {p q : Method σ ε α} (hp : c → Spends log n P p)
    (hq : ¬ c → Spends log n P q) : Spends log n P (if c then p else q) := by
  split
  · exact hp ‹_›
  · exact hq ‹_›

/-- What is known of the result of a call on another object may be used after it. -/
theorem spends_on_bind {t : τ} {p : Method τ δ α} {f : Except δ α × τ → Method σ ε β}
    (h : p.wp ⟨fun a t' => Spends log n P (f (.ok a, t')),
      fun e t' => Spends log n P (f (.error e, t')), True⟩ t) : Spends log n P (on t p >>= f) := by
  intro s
  rw [wp_on_bind]
  exact wp_mono h (fun _ _ hspends => hspends s) (fun _ _ hspends => hspends s) id

/-- The state that a call leaves behind is within its budget. -/
theorem Spends.state {p : Method σ ε α} (h : Spends log n P p) {s s' : σ}
    (hs : (p s).state? = some s') : Adds n P (log s) (log s') :=
  wp_state (P := fun t => Adds n P (log s) (log t)) (h s) hs

end Method

end Rust
