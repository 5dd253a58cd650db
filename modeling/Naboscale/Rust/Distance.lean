import Naboscale.Rust.Bytes

/-!
# The distance of two `i64` numbers

`(a - b).abs()` is two operations, and each of them may overflow. Where neither does, comparing the
result with a bound compares the mathematical distance with it; the second never overflows alone
unless the difference is `i64::MIN`.
-/

namespace Rust.I64

/-- Neither operation of `(a - b).abs()` overflows. -/
def Exact (a b : ℤ) : Prop := InRange (a - b) ∧ InRange |a - b|

instance (a b : ℤ) : Decidable (Exact a b) := inferInstanceAs (Decidable (_ ∧ _))

/-- Both operations are exact where the distance is representable. -/
theorem exact_iff (a b : ℤ) : Exact a b ↔ |a - b| < 2 ^ 63 := by
  unfold Exact InRange
  rw [abs_lt]
  have hnonneg := abs_nonneg (a - b)
  constructor
  · rintro ⟨-, -, habs⟩
    exact habs
  · intro h
    omega

/-- From a number that is not negative, only a number that is far below zero is too far away. -/
theorem exact_iff_of_nonneg {a b : ℤ} (ha : 0 ≤ a) (hb : b < 2 ^ 63) :
    Exact a b ↔ a - b < 2 ^ 63 := by
  rw [exact_iff, abs_lt]
  omega

/-- Two numbers that are not negative are never too far apart. -/
theorem exact_of_nonneg {a b : ℤ} (ha : 0 ≤ a) (ha' : a < 2 ^ 63) (hb : 0 ≤ b)
    (hb' : b < 2 ^ 63) : Exact a b :=
  (exact_iff_of_nonneg ha hb').2 (by omega)

/-- A `u64` read as an `i64` is itself exactly if it is representable. -/
theorem wrap_natCast_eq_iff {n : ℕ} (hn : n < 2 ^ 64) : wrap n = n ↔ n < 2 ^ 63 := by
  refine ⟨fun h => ?_, fun h => wrap_eq ⟨by omega, by omega⟩⟩
  have hrange := inRange_wrap (n : ℤ)
  rw [h] at hrange
  exact Int.ofNat_lt.1 hrange.2

variable [Profile]

end Rust.I64
