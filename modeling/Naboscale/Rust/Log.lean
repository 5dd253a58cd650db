import Naboscale.Rust.Frame

/-!
# What a call adds to a log

A log is a list that calls only append to. A call logs entries with a property if every entry
that it appends has it. As for what a call leaves alone, there is one rule for each construct.
-/

namespace Rust

section Lists

variable {β : Type} {P R : β → Prop} {first second third : List β}

/-- The second list is the first with further entries, which all have the property. -/
def Extends (P : β → Prop) (first second : List β) : Prop :=
  ∃ added, second = first ++ added ∧ ∀ entry ∈ added, P entry

theorem Extends.refl (first : List β) : Extends P first first :=
  ⟨[], (List.append_nil first).symm, fun _ hentry => nomatch hentry⟩

theorem Extends.of_eq (h : second = first) : Extends P first second := by
  rw [h]
  exact Extends.refl first

theorem Extends.snoc {entry : β} (h : P entry) : Extends P first (first ++ [entry]) := by
  refine ⟨[entry], rfl, fun other hother => ?_⟩
  rw [List.mem_singleton.1 hother]
  exact h

theorem Extends.trans (h : Extends P first second) (hnext : Extends P second third) :
    Extends P first third := by
  obtain ⟨added, rfl, hadded⟩ := h
  obtain ⟨further, rfl, hfurther⟩ := hnext
  refine ⟨added ++ further, List.append_assoc first added further, fun entry hentry => ?_⟩
  rcases List.mem_append.1 hentry with hmem | hmem
  · exact hadded entry hmem
  · exact hfurther entry hmem

theorem Extends.mono (h : Extends P first second) (himp : ∀ entry, P entry → R entry) :
    Extends R first second := by
  obtain ⟨added, hadded, hall⟩ := h
  exact ⟨added, hadded, fun entry hentry => himp entry (hall entry hentry)⟩

/-- The entries past the first list are the added ones. -/
theorem Extends.of_mem_drop (h : Extends P first second) {entry : β}
    (hentry : entry ∈ second.drop first.length) : P entry := by
  obtain ⟨added, rfl, hadded⟩ := h
  rw [List.drop_left] at hentry
  exact hadded entry hentry

end Lists

namespace Method

variable {σ τ ε δ α β γ : Type} {log : σ → List γ} {P R : γ → Prop}

/-- The postcondition that the log has grown by entries with the property. -/
def Grows (log : σ → List γ) (P : γ → Prop) (first : List γ) : Post σ ε α where
  ok _ s := Extends P first (log s)
  err _ s := Extends P first (log s)
  panic := True

/-- The call appends to the log only entries with the property. -/
def Logs (log : σ → List γ) (P : γ → Prop) (p : Method σ ε α) : Prop :=
  ∀ s, p.wp (Grows log P (log s)) s

theorem Keeps.logs {p : Method σ ε α} (h : Keeps log p) : Logs log P p := fun s =>
  wp_mono (h s) (fun _ _ hlog => .of_eq hlog) (fun _ _ hlog => .of_eq hlog) id

theorem logs_pure (a : α) : Logs log P (pure a : Method σ ε α) := (keeps_pure a).logs

theorem logs_fail (e : ε) : Logs log P (fail e : Method σ ε α) := (keeps_fail e).logs

theorem Logs.mono {p : Method σ ε α} (h : Logs log P p) (himp : ∀ entry, P entry → R entry) :
    Logs log R p := fun s =>
  wp_mono (h s) (fun _ _ hgrows => hgrows.mono himp) (fun _ _ hgrows => hgrows.mono himp) id

/-- A call after one that has let the log grow. -/
theorem Logs.after {p : Method σ ε α} (h : Logs log P p) {first : List γ} {s : σ}
    (hgrows : Extends P first (log s)) : p.wp (Grows log P first) s :=
  wp_mono (h s) (fun _ _ hnext => hgrows.trans hnext) (fun _ _ hnext => hgrows.trans hnext) id

theorem Logs.bind {p : Method σ ε α} {f : α → Method σ ε β} (hp : Logs log P p)
    (hf : ∀ a, Logs log P (f a)) : Logs log P (p >>= f) := by
  intro s
  rw [wp_bind]
  exact wp_mono (hp s) (fun a s' hgrows => (hf a).after hgrows) (fun _ _ hgrows => hgrows) id

theorem logs_get_bind {f : σ → Method σ ε β} (h : ∀ s, Logs log P (f s)) :
    Logs log P (get >>= f) := fun s => h s s

theorem Logs.ite {c : Prop} [Decidable c] {p q : Method σ ε α} (hp : c → Logs log P p)
    (hq : ¬ c → Logs log P q) : Logs log P (if c then p else q) := by
  split
  · exact hp ‹_›
  · exact hq ‹_›

/-- What is known of the result of a call on another object may be used after it. -/
theorem logs_on_bind {t : τ} {p : Method τ δ α} {f : Except δ α × τ → Method σ ε β}
    (h : p.wp ⟨fun a t' => Logs log P (f (.ok a, t')), fun e t' => Logs log P (f (.error e, t')),
      True⟩ t) : Logs log P (on t p >>= f) := by
  intro s
  rw [wp_on_bind]
  exact wp_mono h (fun _ _ hlogs => hlogs s) (fun _ _ hlogs => hlogs s) id

/-- Every entry past the log from before the call has the property. -/
theorem Logs.of_mem_drop {p : Method σ ε α} (h : Logs log P p) {s s' : σ}
    (hs : (p s).state? = some s') {entry : γ}
    (hentry : entry ∈ (log s').drop (log s).length) : P entry :=
  (wp_state (P := fun t => Extends P (log s) (log t)) (h s) hs).of_mem_drop hentry

end Method

end Rust
