import Mathlib.Tactic

/-!
# Runs of guarded transition systems

A system is a step function `step s e` that gives the next state when event `e` is enabled
in `s`, and `none` otherwise. All nondeterminism is in the choice of events, so a run is a
state and a list of events. `AllSteps good s es` says that every step of a run meets a
condition, and `AllStates P s es` that every state it passes satisfies a predicate; the
rules relate the two.
-/

namespace Transition

variable {S E : Type*} (step : S → E → Option S)

/-- Run the events in order; `none` if one of them is not enabled. -/
def exec : S → List E → Option S
  | s, [] => some s
  | s, e :: es => (step s e).bind fun t => exec t es

/-- Every step of the run meets the condition on its state and event. -/
def AllSteps (good : S → E → Prop) : S → List E → Prop
  | _, [] => True
  | s, e :: es => good s e ∧ ∀ t, step s e = some t → AllSteps good t es

/-- Every state the run passes, the first and the last included, satisfies the predicate. -/
def AllStates (P : S → Prop) : S → List E → Prop
  | s, [] => P s
  | s, e :: es => P s ∧ ∀ t, step s e = some t → AllStates P t es

/-- Some run leads from the first state to the second. -/
def Reaches (s t : S) : Prop := ∃ es, exec step s es = some t

variable {step}

@[simp] theorem exec_nil (s : S) : exec step s [] = some s := rfl

theorem exec_cons {s t u : S} {e : E} {es : List E} (h : step s e = some t)
    (hrest : exec step t es = some u) : exec step s (e :: es) = some u := by
  simp [exec, h, hrest]

theorem exec_cons_inv {s u : S} {e : E} {es : List E} (h : exec step s (e :: es) = some u) :
    ∃ t, step s e = some t ∧ exec step t es = some u := by
  simpa only [exec, Option.bind_eq_some_iff] using h

/-- A run of a concatenation is a run followed by a run. -/
theorem exec_append (s : S) (es fs : List E) :
    exec step s (es ++ fs) = (exec step s es).bind fun t => exec step t fs := by
  induction es generalizing s with
  | nil => rfl
  | cons e es ih =>
      simp only [List.cons_append, exec]
      cases step s e with
      | none => rfl
      | some t => exact ih t

theorem Reaches.refl (s : S) : Reaches step s s := ⟨[], rfl⟩

theorem Reaches.snoc {s t u : S} {e : E} (h : Reaches step s t) (hstep : step t e = some u) :
    Reaches step s u := by
  obtain ⟨es, hes⟩ := h
  exact ⟨es ++ [e], by simp [exec_append, hes, exec, hstep]⟩

theorem Reaches.trans {s t u : S} (h : Reaches step s t) (hrest : Reaches step t u) :
    Reaches step s u := by
  obtain ⟨es, hes⟩ := h
  obtain ⟨fs, hfs⟩ := hrest
  exact ⟨es ++ fs, by simp [exec_append, hes, hfs]⟩

/-- Every step meets a condition that holds of every state and event. -/
theorem allSteps_of_forall {good : S → E → Prop} (h : ∀ s e, good s e) (s : S) (es : List E) :
    AllSteps step good s es := by
  induction es generalizing s with
  | nil => trivial
  | cons e es ih => exact ⟨h s e, fun t _ => ih t⟩

instance AllSteps.decidable {good : S → E → Prop} [∀ s e, Decidable (good s e)] :
    (s : S) → (es : List E) → Decidable (AllSteps step good s es)
  | _, [] => .isTrue trivial
  | s, e :: es =>
      match h : step s e with
      | none =>
          decidable_of_iff (good s e)
            ⟨fun hgood => ⟨hgood, fun _ ht => nomatch h.symm.trans ht⟩, And.left⟩
      | some t =>
          have : Decidable (AllSteps step good t es) := AllSteps.decidable t es
          decidable_of_iff (good s e ∧ AllSteps step good t es)
            (and_congr_right' ⟨fun hall _ hu => Option.some.inj (h.symm.trans hu) ▸ hall,
              fun hall => hall t h⟩)

theorem AllSteps.mono {good fine : S → E → Prop} (h : ∀ s e, good s e → fine s e) {s : S}
    {es : List E} (hall : AllSteps step good s es) : AllSteps step fine s es := by
  induction es generalizing s with
  | nil => trivial
  | cons e es ih => exact ⟨h s e hall.1, fun t ht => ih (hall.2 t ht)⟩

/-- The last step of a run meets the condition that all its steps meet. -/
theorem AllSteps.last {good : S → E → Prop} {s t : S} {es : List E} {e : E}
    (hall : AllSteps step good s (es ++ [e])) (hrun : exec step s es = some t) : good t e := by
  induction es generalizing s with
  | nil =>
      cases hrun
      exact hall.1
  | cons e' es ih =>
      obtain ⟨u, hu, hrest⟩ := exec_cons_inv hrun
      exact ih (hall.2 u hu) hrest

/-- The invariant rule: what holds at the start and is preserved by every step that meets
the condition holds at the end of every run whose steps all meet it. -/
theorem invariant {I : S → Prop} {good : S → E → Prop}
    (hstep : ∀ s e t, I s → good s e → step s e = some t → I t) {s t : S} {es : List E}
    (hs : I s) (hgood : AllSteps step good s es) (hrun : exec step s es = some t) : I t := by
  induction es generalizing s with
  | nil => exact Option.some.inj hrun ▸ hs
  | cons e es ih =>
      obtain ⟨u, hu, hrest⟩ := exec_cons_inv hrun
      exact ih (hstep s e u hs hgood.1 hu) (hgood.2 u hu) hrest

/-- Two conditions that are equivalent wherever the invariant holds are met by the same runs,
among those whose steps all meet a third one. -/
theorem allSteps_congr {I : S → Prop} {given good fine : S → E → Prop}
    (hinvariant : ∀ s e t, I s → given s e → step s e = some t → I t)
    (hiff : ∀ s e, I s → given s e → (good s e ↔ fine s e)) {s : S} {es : List E} (hI : I s)
    (hgiven : AllSteps step given s es) : AllSteps step good s es ↔ AllSteps step fine s es := by
  induction es generalizing s with
  | nil => exact Iff.rfl
  | cons e es ih =>
      refine and_congr (hiff s e hI hgiven.1) (forall_congr' fun t => forall_congr' fun ht => ?_)
      exact ih (hinvariant s e t hI hgiven.1 ht) (hgiven.2 t ht)

/-- The invariant rule for an unconditional step. -/
theorem Reaches.invariant {I : S → Prop} (hstep : ∀ s e t, I s → step s e = some t → I t)
    {s t : S} (hs : I s) (hrun : Reaches step s t) : I t := by
  obtain ⟨es, hes⟩ := hrun
  have hall : AllSteps step (fun _ _ => True) s es :=
    allSteps_of_forall (fun _ _ => trivial) s es
  exact Transition.invariant (fun s e t hI _ => hstep s e t hI) hs hall hes

theorem AllStates.first {P : S → Prop} {s : S} {es : List E} (h : AllStates step P s es) : P s := by
  cases es with
  | nil => exact h
  | cons e es => exact h.1

theorem AllStates.last {P : S → Prop} {s t : S} {es : List E} (h : AllStates step P s es)
    (hrun : exec step s es = some t) : P t := by
  induction es generalizing s with
  | nil =>
      cases hrun
      exact h
  | cons e es ih =>
      obtain ⟨u, hu, hrest⟩ := exec_cons_inv hrun
      exact ih (h.2 u hu) hrest

/-- A predicate that a step preserves exactly when it meets the condition holds in every
state of a run exactly when every step of the run meets the condition. The invariant `I` helps
to say what a step does. -/
theorem allStates_iff_allSteps {I P : S → Prop} {good : S → E → Prop}
    (hinvariant : ∀ s e t, I s → step s e = some t → I t)
    (hstep : ∀ s e t, I s → P s → step s e = some t → (P t ↔ good s e)) {s t : S} {es : List E}
    (hI : I s) (hs : P s) (hrun : exec step s es = some t) :
    AllStates step P s es ↔ AllSteps step good s es := by
  induction es generalizing s with
  | nil => exact iff_of_true hs trivial
  | cons e es ih =>
      obtain ⟨u, hu, hrest⟩ := exec_cons_inv hrun
      have hfirst : ∀ {Q : S → Prop}, (∀ v, step s e = some v → Q v) ↔ Q u :=
        fun {Q} => ⟨fun h => h u hu, fun h v hv => Option.some.inj (hu.symm.trans hv) ▸ h⟩
      have hIu := hinvariant s e u hI hu
      simp only [AllStates, AllSteps, hfirst]
      constructor
      · rintro ⟨_, hall⟩
        have hPu := hall.first
        exact ⟨(hstep s e u hI hs hu).1 hPu, (ih hIu hPu hrest).1 hall⟩
      · rintro ⟨hgood, hall⟩
        have hPu := (hstep s e u hI hs hu).2 hgood
        exact ⟨hs, (ih hIu hPu hrest).2 hall⟩

end Transition
