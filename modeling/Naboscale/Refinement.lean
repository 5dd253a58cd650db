import Naboscale.Concurrent

/-!
# Programs and the results of their operations

What a program does depends on the results of its operations. `Within` says what it calls and how
it ends as long as these satisfy a condition. A program then gets the same results over a state and
over another one that it stands for, if both answer every operation alike: programs that run on the
first state, alone or with others in between, can be verified on the second.
-/

namespace Concurrent

variable {Op : Type} {Result : Op → Type} {ε α β δ σ τ : Type}
  {C : Op → Prop} {P : (op : Op) → Result op → Prop} {Q : α → Prop} {X : Prop}

namespace Program

/-- As long as the results of its operations satisfy `P`, the program calls only operations that `C`
allows, its value satisfies `Q`, and it panics only if `X` holds. -/
def Within (C : Op → Prop) (P : (op : Op) → Result op → Prop) (Q : α → Prop) (X : Prop) :
    Program Op Result ε α → Prop
  | call op next => C op ∧ ∀ r, P op r → (next r).Within C P Q X
  | done a => Q a
  | fail _ => True
  | panic => X

/-- One program after another. -/
theorem within_bind {p : Program Op Result ε α} {f : α → Program Op Result ε β} {Q : β → Prop}
    (h : p.Within C P (fun a => (f a).Within C P Q X) X) : (p >>= f).Within C P Q X := by
  induction p with
  | call op next ih => exact ⟨h.1, fun r hr => ih r (h.2 r hr)⟩
  | done a => exact h
  | fail e => trivial
  | panic => exact h

/-- An operation, and what follows it. -/
theorem within_call {op : Op} {f : Result op → Program Op Result ε β} {Q : β → Prop} (hop : C op)
    (h : ∀ r, P op r → (f r).Within C P Q X) : (perform op >>= f).Within C P Q X := ⟨hop, h⟩

/-- A plain result that has been obtained. -/
theorem within_lift {f : δ → ε} {x : Except δ α} {k : α → Program Op Result ε β} {Q : β → Prop}
    (h : ∀ a, x = .ok a → (k a).Within C P Q X) : (lift f x >>= k).Within C P Q X := by
  cases x with
  | ok a => exact h a rfl
  | error e => trivial

/-- A value that is there, unless the program may panic. -/
theorem within_unwrap {x : Option α} {k : α → Program Op Result ε β} {Q : β → Prop}
    (hnone : x = none → X) (h : ∀ a, x = some a → (k a).Within C P Q X) :
    (unwrap x >>= k).Within C P Q X := by
  cases x with
  | some a => exact h a rfl
  | none => exact hnone rfl

/-- A step over a state whose operations have results that satisfy the condition. -/
theorem Within.step {p : Program Op Result ε α} {handle : Semantics Op Result σ} {s : σ}
    (h : p.Within C P Q X) (hresult : ∀ op, C op → ∃ r, (handle op s).1 = some r ∧ P op r) :
    (p.step handle s).1.Within C P Q X := by
  cases p with
  | call op next =>
      obtain ⟨r, hr, hP⟩ := hresult op h.1
      rcases hop : handle op s with ⟨r', s'⟩
      rw [hop] at hr
      subst hr
      rw [step_call hop]
      exact h.2 r hP
  | done a => exact h
  | fail e => trivial
  | panic => exact h

end Program

/-- Under a relation between the states the allowed operations have the same results on both, which
satisfy the condition, and keep the relation. -/
structure Represents (R : σ → τ → Prop) (C : Op → Prop) (P : (op : Op) → Result op → Prop)
    (concrete : Semantics Op Result σ) (abstract : Semantics Op Result τ) : Prop where
  result : ∀ {op s t}, C op → R s t → (concrete op s).1 = (abstract op t).1
  state : ∀ {op s t}, C op → R s t → R (concrete op s).2 (abstract op t).2
  meets : ∀ {op s t}, C op → R s t → ∀ r ∈ (abstract op t).1, P op r

/-- A step of a program on either state leaves the same program. -/
theorem Represents.step {R : σ → τ → Prop} {concrete : Semantics Op Result σ}
    {abstract : Semantics Op Result τ} (h : Represents R C P concrete abstract)
    {p : Program Op Result ε α} {s : σ} {t : τ} (hp : p.Within C P Q True) (hstates : R s t) :
    (p.step concrete s).1 = (p.step abstract t).1 ∧
      R (p.step concrete s).2 (p.step abstract t).2 ∧
      (p.step abstract t).1.Within C P Q True := by
  cases p with
  | call op next =>
      have hresult := h.result hp.1 hstates
      have hstate := h.state hp.1 hstates
      have hmeets := h.meets hp.1 hstates
      rcases hconcrete : concrete op s with ⟨r, s'⟩
      rcases habstract : abstract op t with ⟨r', t'⟩
      rw [hconcrete, habstract] at hresult hstate
      rw [habstract] at hmeets
      subst hresult
      cases r with
      | none =>
          simp only [Program.step, hconcrete, habstract]
          exact ⟨trivial, hstate, trivial⟩
      | some r =>
          simp only [Program.step, hconcrete, habstract]
          exact ⟨trivial, hstate, hp.2 r (hmeets r rfl)⟩
  | done a => exact ⟨rfl, hstates, hp⟩
  | fail e => exact ⟨rfl, hstates, trivial⟩
  | panic => exact ⟨rfl, hstates, trivial⟩

end Concurrent
