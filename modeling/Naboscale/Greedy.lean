import Mathlib.Data.List.Forall2
import Mathlib.Order.Bounds.Basic

/-!
# Greedy subsequence matching

A reader has a list of expected items and passes once over another list, where it takes the first
element that suits the item it expects next and skips every other. It takes as much of the
expected list as any choice of elements could.
-/

namespace Naboscale.Greedy

variable {α β : Type} (suits : α → β → Prop) [∀ a b, Decidable (suits a b)]

/-- The number of expected items that the reader takes. -/
def taken : List α → List β → ℕ
  | a :: as, b :: bs => if suits a b then taken as bs + 1 else taken (a :: as) bs
  | _, _ => 0

/-- The first `n` expected items occur in the list, in order. -/
def Occurs (expected : List α) (list : List β) (n : ℕ) : Prop :=
  n ≤ expected.length ∧ List.SublistForall₂ suits (expected.take n) list

variable {suits}

theorem taken_nil_left (list : List β) : taken suits [] list = 0 := by
  cases list <;> rfl

theorem taken_nil_right (expected : List α) : taken suits expected [] = 0 := by
  cases expected <;> rfl

theorem taken_pos {a : α} {b : β} (h : suits a b) (expected : List α) (list : List β) :
    taken suits (a :: expected) (b :: list) = taken suits expected list + 1 := by
  show (if suits a b then taken suits expected list + 1 else _) = _
  rw [if_pos h]

theorem taken_neg {a : α} {b : β} (h : ¬ suits a b) (expected : List α) (list : List β) :
    taken suits (a :: expected) (b :: list) = taken suits (a :: expected) list := by
  show (if suits a b then _ else taken suits (a :: expected) list) = _
  rw [if_neg h]

omit [∀ a b, Decidable (suits a b)] in
theorem occurs_zero (expected : List α) (list : List β) : Occurs suits expected list 0 :=
  ⟨Nat.zero_le _, List.SublistForall₂.nil⟩

omit [∀ a b, Decidable (suits a b)] in
theorem Occurs.skip {expected : List α} {list : List β} {n : ℕ} (b : β)
    (h : Occurs suits expected list n) : Occurs suits expected (b :: list) n :=
  ⟨h.1, List.SublistForall₂.cons_right h.2⟩

omit [∀ a b, Decidable (suits a b)] in
theorem Occurs.take {a : α} {b : β} {expected : List α} {list : List β} {n : ℕ} (hab : suits a b)
    (h : Occurs suits expected list n) : Occurs suits (a :: expected) (b :: list) (n + 1) :=
  ⟨Nat.succ_le_succ h.1, List.SublistForall₂.cons hab h.2⟩

omit [∀ a b, Decidable (suits a b)] in
/-- A match of a list with a new first element uses it for the first item, or does not use it. -/
theorem Occurs.cases_cons {a : α} {b : β} {expected : List α} {list : List β} {n : ℕ}
    (h : Occurs suits (a :: expected) (b :: list) (n + 1)) :
    suits a b ∧ Occurs suits expected list n ∨ Occurs suits (a :: expected) list (n + 1) := by
  obtain ⟨hle, hsub⟩ := h
  rw [List.take_succ_cons] at hsub
  cases hsub with
  | cons hab hrest => exact Or.inl ⟨hab, Nat.le_of_succ_le_succ hle, hrest⟩
  | cons_right hrest => exact Or.inr ⟨hle, by rwa [List.take_succ_cons]⟩

omit [∀ a b, Decidable (suits a b)] in
/-- Without the first item, and without the element that was read, one item less occurs. -/
theorem Occurs.tail {a : α} {expected : List α} {list : List β} {n : ℕ}
    (h : Occurs suits (a :: expected) list (n + 1)) : Occurs suits expected list n := by
  induction list with
  | nil =>
      obtain ⟨_, hsub⟩ := h
      rw [List.take_succ_cons] at hsub
      cases hsub
  | cons b list ih =>
      rcases h.cases_cons with ⟨_, hrest⟩ | hrest
      · exact hrest.skip b
      · exact (ih hrest).skip b

/-- The greedy reader takes as many items as occur. -/
theorem isGreatest_taken (expected : List α) (list : List β) :
    IsGreatest {n | Occurs suits expected list n} (taken suits expected list) := by
  induction list generalizing expected with
  | nil =>
      rw [taken_nil_right]
      refine ⟨occurs_zero expected [], fun n hn => ?_⟩
      cases n with
      | zero => exact le_rfl
      | succ n =>
          obtain ⟨hle, hsub⟩ := hn
          cases expected with
          | nil => exact absurd hle (Nat.not_succ_le_zero n)
          | cons a expected =>
              rw [List.take_succ_cons] at hsub
              cases hsub
  | cons b list ih =>
      cases expected with
      | nil =>
          rw [taken_nil_left]
          exact ⟨occurs_zero [] _, fun n hn => hn.1⟩
      | cons a expected =>
          by_cases hab : suits a b
          · rw [taken_pos hab]
            refine ⟨(ih expected).1.take hab, fun n hn => ?_⟩
            cases n with
            | zero => exact Nat.zero_le _
            | succ n =>
                have hrest : Occurs suits expected list n := by
                  rcases Occurs.cases_cons hn with ⟨_, hrest⟩ | hrest
                  · exact hrest
                  · exact hrest.tail
                exact Nat.succ_le_succ ((ih expected).2 hrest)
          · rw [taken_neg hab]
            refine ⟨(ih (a :: expected)).1.skip b, fun n hn => ?_⟩
            cases n with
            | zero => exact Nat.zero_le _
            | succ n =>
                rcases Occurs.cases_cons hn with ⟨hsuits, _⟩ | hrest
                · exact absurd hsuits hab
                · exact (ih (a :: expected)).2 hrest

end Naboscale.Greedy
