import Mathlib.Tactic

/-!
# Ledgers of exclusive resources

Clients are granted resources of a pool and store them; a stored resource is withdrawn, and then
freed. A resource that a client holds has been granted and not yet stored, or withdrawn and not
yet freed. Clients act in any order, a client may let go of what it holds without freeing it, and
a recovery keeps only what is stored.
-/

/-- The resources in use, those that are stored, and the one that each client holds. -/
structure Ledger (A I : Type*) where
  used : Set A
  stored : Set A
  held : I → Option A

namespace Ledger

variable {A I : Type*} [DecidableEq I]

/-- The ledger with what a client holds replaced. -/
def hold (l : Ledger A I) (i : I) (x : Option A) : Ledger A I :=
  { l with held := Function.update l.held i x }

/-- One move of a client or of a recovery, where resources are granted from the pool. -/
inductive Move (pool : Set A) (l : Ledger A I) : Ledger A I → Prop
  | stay : Move pool l l
  | drop (i : I) : Move pool l (l.hold i none)
  | grant (i : I) (a : A) (x : Option A) (hpool : a ∈ pool) (hfree : a ∉ l.used)
      (hx : ∀ b ∈ x, b = a) :
      Move pool l { l.hold i x with used := insert a l.used }
  | store (i : I) (a : A) (hheld : l.held i = some a) :
      Move pool l { l.hold i none with stored := insert a l.stored }
  | withdraw (i : I) (a : A) (x : Option A) (hstored : a ∈ l.stored) (hx : ∀ b ∈ x, b = a) :
      Move pool l { l.hold i x with stored := l.stored \ {a} }
  | free (i : I) (a : A) (hheld : l.held i = some a) :
      Move pool l { l.hold i none with used := l.used \ {a} }
  | recover : Move pool l ⟨l.stored, l.stored, fun _ => none⟩

/-- No resource has two owners: what is stored and what is held is in use and apart. -/
structure Sound (pool : Set A) (l : Ledger A I) : Prop where
  used_pool : ∀ a ∈ l.used, a ∈ pool
  stored_used : ∀ a ∈ l.stored, a ∈ l.used
  held_used : ∀ i a, l.held i = some a → a ∈ l.used
  held_not_stored : ∀ i a, l.held i = some a → a ∉ l.stored
  held_once : ∀ i j a, l.held i = some a → l.held j = some a → i = j

variable {pool : Set A} {l l' : Ledger A I} {i j : I} {a b : A} {x : Option A}

theorem held_hold (h : (l.hold i x).held j = some a) : j = i ∧ x = some a ∨
    j ≠ i ∧ l.held j = some a := by
  by_cases hj : j = i
  · subst hj
    exact .inl ⟨rfl, by simpa [hold] using h⟩
  · exact .inr ⟨hj, by simpa [hold, hj] using h⟩

/-- Letting go keeps a ledger sound. -/
theorem Sound.drop (h : l.Sound pool) (i : I) : (l.hold i none).Sound pool where
  used_pool := h.used_pool
  stored_used := h.stored_used
  held_used j a hj := by
    obtain ⟨-, hnone⟩ | ⟨-, hj'⟩ := held_hold hj
    · cases hnone
    · exact h.held_used j a hj'
  held_not_stored j a hj := by
    obtain ⟨-, hnone⟩ | ⟨-, hj'⟩ := held_hold hj
    · cases hnone
    · exact h.held_not_stored j a hj'
  held_once j k a hj hk := by
    obtain ⟨-, hnone⟩ | ⟨-, hj'⟩ := held_hold hj
    · cases hnone
    · obtain ⟨-, hnone⟩ | ⟨-, hk'⟩ := held_hold hk
      · cases hnone
      · exact h.held_once j k a hj' hk'

theorem Sound.grant (h : l.Sound pool) (hpool : a ∈ pool) (hfree : a ∉ l.used)
    (hx : ∀ b ∈ x, b = a) :
    Sound pool { l.hold i x with used := insert a l.used } where
  used_pool b hb := by
    rcases hb with rfl | hb
    · exact hpool
    · exact h.used_pool b hb
  stored_used b hb := .inr (h.stored_used b hb)
  held_used j b hj := by
    obtain ⟨-, hb⟩ | ⟨-, hj'⟩ := held_hold hj
    · exact .inl (hx b hb)
    · exact .inr (h.held_used j b hj')
  held_not_stored j b hj := by
    obtain ⟨-, hb⟩ | ⟨-, hj'⟩ := held_hold hj
    · exact fun hstored => hfree (hx b hb ▸ h.stored_used b hstored)
    · exact h.held_not_stored j b hj'
  held_once j k b hj hk := by
    obtain ⟨rfl, hb⟩ | ⟨-, hj'⟩ := held_hold hj
    · obtain ⟨rfl, -⟩ | ⟨-, hk'⟩ := held_hold hk
      · rfl
      · exact absurd (hx b hb ▸ h.held_used k b hk') hfree
    · obtain ⟨rfl, hb⟩ | ⟨-, hk'⟩ := held_hold hk
      · exact absurd (hx b hb ▸ h.held_used j b hj') hfree
      · exact h.held_once j k b hj' hk'

theorem Sound.store (h : l.Sound pool) (hheld : l.held i = some a) :
    Sound pool { l.hold i none with stored := insert a l.stored } where
  used_pool := h.used_pool
  stored_used b hb := by
    rcases hb with rfl | hb
    · exact h.held_used i b hheld
    · exact h.stored_used b hb
  held_used := (h.drop i).held_used
  held_not_stored j b hj := by
    obtain ⟨-, hnone⟩ | ⟨hne, hj'⟩ := held_hold hj
    · cases hnone
    · rintro (rfl | hb)
      · exact hne (h.held_once j i b hj' hheld)
      · exact h.held_not_stored j b hj' hb
  held_once := (h.drop i).held_once

theorem Sound.withdraw (h : l.Sound pool) (hstored : a ∈ l.stored) (hx : ∀ b ∈ x, b = a) :
    Sound pool { l.hold i x with stored := l.stored \ {a} } where
  used_pool := h.used_pool
  stored_used b hb := h.stored_used b hb.1
  held_used j b hj := by
    obtain ⟨-, hb⟩ | ⟨-, hj'⟩ := held_hold hj
    · exact hx b hb ▸ h.stored_used a hstored
    · exact h.held_used j b hj'
  held_not_stored j b hj := by
    obtain ⟨-, hb⟩ | ⟨-, hj'⟩ := held_hold hj
    · exact fun hmem => hmem.2 (hx b hb)
    · exact fun hmem => h.held_not_stored j b hj' hmem.1
  held_once j k b hj hk := by
    obtain ⟨rfl, hb⟩ | ⟨-, hj'⟩ := held_hold hj
    · obtain ⟨rfl, -⟩ | ⟨-, hk'⟩ := held_hold hk
      · rfl
      · exact absurd (hx b hb ▸ hstored) (h.held_not_stored k b hk')
    · obtain ⟨rfl, hb⟩ | ⟨-, hk'⟩ := held_hold hk
      · exact absurd (hx b hb ▸ hstored) (h.held_not_stored j b hj')
      · exact h.held_once j k b hj' hk'

theorem Sound.free (h : l.Sound pool) (hheld : l.held i = some a) :
    Sound pool { l.hold i none with used := l.used \ {a} } where
  used_pool b hb := h.used_pool b hb.1
  stored_used b hb := ⟨h.stored_used b hb, fun heq => h.held_not_stored i a hheld (heq ▸ hb)⟩
  held_used j b hj := by
    obtain ⟨-, hnone⟩ | ⟨hne, hj'⟩ := held_hold hj
    · cases hnone
    · exact ⟨h.held_used j b hj', fun heq => hne (h.held_once j i a (heq ▸ hj') hheld)⟩
  held_not_stored := (h.drop i).held_not_stored
  held_once := (h.drop i).held_once

omit [DecidableEq I] in
theorem Sound.recover (h : l.Sound pool) :
    Sound pool (⟨l.stored, l.stored, fun _ => none⟩ : Ledger A I) where
  used_pool a ha := h.used_pool a (h.stored_used a ha)
  stored_used _ ha := ha
  held_used _ _ hnone := nomatch hnone
  held_not_stored _ _ hnone := nomatch hnone
  held_once _ _ _ hnone := nomatch hnone

/-- Every move keeps a ledger sound. -/
theorem Move.sound (hmove : l.Move pool l') (h : l.Sound pool) : l'.Sound pool := by
  cases hmove with
  | stay => exact h
  | drop i => exact h.drop i
  | grant i a x hpool hfree hx => exact h.grant hpool hfree hx
  | store i a hheld => exact h.store hheld
  | withdraw i a x hstored hx => exact h.withdraw hstored hx
  | free i a hheld => exact h.free hheld
  | recover => exact h.recover

end Ledger
