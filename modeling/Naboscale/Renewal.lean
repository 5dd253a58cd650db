import Mathlib.Tactic

/-!
# Renewal of credentials

Holders have credentials. A party renews the credential of a holder in two steps: it withdraws
all that the holder has, and then issues a new one. Parties act in any order, holders are admitted
and removed meanwhile, and a party whose holder is gone gives up. As long as no party withdraws
from a holder between the two steps of another party, a holder never has two credentials.
-/

/-- The valid credentials of each holder, the holders that are known, the holder that each party
has withdrawn from and not yet issued to, and the credential last issued to each holder. -/
structure Renewal (N K I : Type*) where
  valid : N → List K
  known : Set N
  renewing : I → Option N
  last : N → Option K

namespace Renewal

variable {N K I : Type*} [DecidableEq N] [DecidableEq I]

/-- The parties without the one that has come to its end. -/
def close (r : Renewal N K I) (i : I) : Renewal N K I :=
  { r with renewing := Function.update r.renewing i none }

/-- One move of a party, or the admission or removal of a holder. No party withdraws from a holder
that another one is about to issue to, and no such holder is admitted. -/
inductive Move (r : Renewal N K I) : Renewal N K I → Prop
  | stay : Move r r
  | withdraw (i : I) (n : N) (hidle : r.renewing i = none) (hfree : ∀ j, r.renewing j ≠ some n) :
      Move r { r with
        valid := Function.update r.valid n []
        renewing := Function.update r.renewing i (some n) }
  | issue (i : I) (n : N) (k : K) (hrenewing : r.renewing i = some n) (hknown : n ∈ r.known) :
      Move r { r.close i with
        valid := Function.update r.valid n (r.valid n ++ [k])
        last := Function.update r.last n (some k) }
  | giveUp (i : I) (n : N) (hrenewing : r.renewing i = some n) (hknown : n ∉ r.known) :
      Move r (r.close i)
  | enter (n : N) (ks : List K) (hnew : n ∉ r.known) (hfree : ∀ j, r.renewing j ≠ some n)
      (hks : ks.length ≤ 1) :
      Move r { r with valid := Function.update r.valid n ks, known := insert n r.known }
  | remove (n : N) :
      Move r { r with
        valid := Function.update r.valid n []
        known := r.known \ {n}
        last := Function.update r.last n none }

/-- No holder has two credentials. One that a party is about to issue to has none, and otherwise
the last one issued to a holder is the one that it has. -/
structure Exclusive (r : Renewal N K I) : Prop where
  one : ∀ n, (r.valid n).length ≤ 1
  alone : ∀ i j n, r.renewing i = some n → r.renewing j = some n → i = j
  withdrawn : ∀ i n, r.renewing i = some n → r.valid n = []
  known : ∀ n k, r.last n = some k → n ∈ r.known
  current : ∀ n k, r.last n = some k → (∀ i, r.renewing i ≠ some n) → r.valid n = [k]

variable {r r' : Renewal N K I} {i j : I} {n m : N} {k : K}

omit [DecidableEq N] in
theorem renewing_close (h : (r.close i).renewing j = some n) : j ≠ i ∧ r.renewing j = some n := by
  by_cases hj : j = i
  · subst hj
    simp [close] at h
  · exact ⟨hj, by simpa [close, hj] using h⟩

/-- The first step of a renewal: the holder has no credential any more. -/
theorem Exclusive.withdraw (h : r.Exclusive) (hidle : r.renewing i = none)
    (hfree : ∀ j, r.renewing j ≠ some n) :
    Exclusive { r with
      valid := Function.update r.valid n []
      renewing := Function.update r.renewing i (some n) } where
  one m := by
    by_cases hm : m = n
    · subst hm
      simp
    · simpa [hm] using h.one m
  alone j l m hj hl := by
    simp only [Function.update_apply] at hj hl
    -- A party that was renewing before was doing so for another holder.
    split at hj <;> split at hl
    · simp_all
    · cases hj
      exact absurd hl (hfree l)
    · cases hl
      exact absurd hj (hfree j)
    · exact h.alone j l m hj hl
  withdrawn j m hj := by
    by_cases hm : m = n
    · subst hm
      simp
    · simp only [Function.update_apply] at hj
      split at hj
      · exact absurd (Option.some.inj hj).symm hm
      · simpa [hm] using h.withdrawn j m hj
  known := h.known
  current m k hlast hrenewing := by
    have hm : m ≠ n := by
      rintro rfl
      exact hrenewing i (by simp)
    have hbefore : ∀ j, r.renewing j ≠ some m := by
      intro j hj
      have hji : j ≠ i := by
        rintro rfl
        simp [hidle] at hj
      exact hrenewing j (by simpa [hji] using hj)
    simpa [hm] using h.current m k hlast hbefore

/-- The second step of a renewal: the new credential is the only one. -/
theorem Exclusive.issue (h : r.Exclusive) (hrenewing : r.renewing i = some n) (hknown : n ∈ r.known) :
    Exclusive { r.close i with
      valid := Function.update r.valid n (r.valid n ++ [k])
      last := Function.update r.last n (some k) } where
  one m := by
    by_cases hm : m = n
    · subst hm
      simp [h.withdrawn i m hrenewing]
    · simpa [hm] using h.one m
  alone j l m hj hl := h.alone j l m (renewing_close hj).2 (renewing_close hl).2
  withdrawn j m hj := by
    obtain ⟨hji, hbefore⟩ := renewing_close hj
    have hm : m ≠ n := by
      rintro rfl
      exact hji (h.alone j i m hbefore hrenewing)
    simpa [hm] using h.withdrawn j m hbefore
  known m k' hlast := by
    by_cases hm : m = n
    · exact hm ▸ hknown
    · exact h.known m k' (by simpa [hm] using hlast)
  current m k' hlast hnone := by
    by_cases hm : m = n
    · subst hm
      have hk : k = k' := by simpa using hlast
      simp [h.withdrawn i m hrenewing, hk]
    · have hbefore : ∀ j, r.renewing j ≠ some m := by
        intro j hj
        have hji : j ≠ i := by
          rintro rfl
          exact hm (Option.some.inj (hj.symm.trans hrenewing))
        exact hnone j (by simpa [close, hji] using hj)
      simpa [hm] using h.current m k' (by simpa [hm] using hlast) hbefore

omit [DecidableEq N] in
/-- A party whose holder is gone leaves nothing behind. -/
theorem Exclusive.giveUp (h : r.Exclusive) (hrenewing : r.renewing i = some n)
    (hknown : n ∉ r.known) : (r.close i).Exclusive where
  one := h.one
  alone j l m hj hl := h.alone j l m (renewing_close hj).2 (renewing_close hl).2
  withdrawn j m hj := h.withdrawn j m (renewing_close hj).2
  known := h.known
  current m k hlast hnone := by
    refine h.current m k hlast fun j hj => ?_
    have hji : j ≠ i := by
      rintro rfl
      have hm : m = n := Option.some.inj (hj.symm.trans hrenewing)
      exact hknown (hm ▸ h.known m k hlast)
    exact hnone j (by simpa [close, hji] using hj)

omit [DecidableEq I] in
/-- A holder that is admitted starts with one credential at most. -/
theorem Exclusive.enter {ks : List K} (h : r.Exclusive) (hnew : n ∉ r.known)
    (hfree : ∀ j, r.renewing j ≠ some n) (hks : ks.length ≤ 1) :
    Exclusive { r with
      valid := Function.update r.valid n ks
      known := insert n r.known } where
  one m := by
    by_cases hm : m = n
    · subst hm
      simpa using hks
    · simpa [hm] using h.one m
  alone := h.alone
  withdrawn j m hj := by
    have hm : m ≠ n := by
      rintro rfl
      exact hfree j hj
    simpa [hm] using h.withdrawn j m hj
  known m k hlast := .inr (h.known m k hlast)
  current m k hlast hnone := by
    have hm : m ≠ n := by
      rintro rfl
      exact hnew (h.known m k hlast)
    simpa [hm] using h.current m k hlast hnone

omit [DecidableEq I] in
theorem Exclusive.remove (h : r.Exclusive) (n : N) :
    Exclusive { r with
      valid := Function.update r.valid n []
      known := r.known \ {n}
      last := Function.update r.last n none } where
  one m := by
    by_cases hm : m = n
    · subst hm
      simp
    · simpa [hm] using h.one m
  alone := h.alone
  withdrawn j m hj := by
    by_cases hm : m = n
    · subst hm
      simp
    · simpa [hm] using h.withdrawn j m hj
  known m k hlast := by
    have hm : m ≠ n := by
      rintro rfl
      simp at hlast
    exact ⟨h.known m k (by simpa [hm] using hlast), hm⟩
  current m k hlast hnone := by
    have hm : m ≠ n := by
      rintro rfl
      simp at hlast
    simpa [hm] using h.current m k (by simpa [hm] using hlast) hnone

/-- Every move keeps credentials exclusive. -/
theorem Exclusive.move (h : r.Exclusive) (hmove : r.Move r') : r'.Exclusive := by
  cases hmove with
  | stay => exact h
  | withdraw i n hidle hfree => exact h.withdraw hidle hfree
  | issue i n k hrenewing hknown => exact h.issue hrenewing hknown
  | giveUp i n hrenewing hknown => exact h.giveUp hrenewing hknown
  | enter n ks hnew hfree hks => exact h.enter hnew hfree hks
  | remove n => exact h.remove n

end Renewal
