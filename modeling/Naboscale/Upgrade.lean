import Mathlib.Tactic

/-!
# Upgrades that may be interrupted

An upgrade is a list of steps that are done in order. It can be started again after any of its steps
if a step that is done stays done: doing it once more changes nothing, neither at once nor after the
steps that follow it.
-/

namespace Upgrade

variable {σ : Type*}

/-- Do the steps in order. -/
def run (steps : List (σ → σ)) (s : σ) : σ := steps.foldl (fun s step => step s) s

/-- A step that is done stays done. -/
structure Restartable (steps : List (σ → σ)) : Prop where
  idempotent : ∀ step ∈ steps, ∀ s, step (step s) = step s
  kept : steps.Pairwise fun step later => ∀ s, step s = s → step (later s) = later s

variable {step : σ → σ} {steps : List (σ → σ)} {s : σ}

@[simp] theorem run_nil : run [] s = s := rfl

@[simp] theorem run_cons : run (step :: steps) s = run steps (step s) := rfl

/-- A step that is done stays done through the steps after it. -/
theorem run_kept (hkept : ∀ later ∈ steps, ∀ s, step s = s → step (later s) = later s)
    (hdone : step s = s) : step (run steps s) = run steps s := by
  induction steps generalizing s with
  | nil => exact hdone
  | cons later steps ih =>
      obtain ⟨hlater, hsteps⟩ := List.forall_mem_cons.1 hkept
      exact ih hsteps (hlater s hdone)

/-- After the steps all of them are done. -/
theorem Restartable.done (h : Restartable steps) :
    ∀ step ∈ steps, step (run steps s) = run steps s := by
  induction steps generalizing s with
  | nil => exact fun _ hmem => absurd hmem List.not_mem_nil
  | cons step steps ih =>
      obtain ⟨hlater, hsteps⟩ := List.pairwise_cons.1 h.kept
      refine List.forall_mem_cons.2 ⟨?_, ?_⟩
      · rw [run_cons]
        exact run_kept hlater (h.idempotent step List.mem_cons_self s)
      · exact ih ⟨fun later hmem => h.idempotent later (List.mem_cons_of_mem _ hmem), hsteps⟩

variable {ι : Type*} [DecidableEq ι] {α : Type*} {i : ι} {f g : α → α} {state : ι → α}

end Upgrade
