import Naboscale.Rust.Method

/-!
# Byte strings, fixed-size arrays, and machine integers

`Arr n` is `[u8; n]`, and also a `Vec<u8>` whose length never changes after it is made.
Slicing, `try_into` and `copy_from_slice` panic exactly where Rust's do. Signed 64-bit
arithmetic traps or wraps on overflow according to the build profile.
-/

namespace Rust

/-- `&[u8]` and `Vec<u8>`. -/
abbrev Bytes := List UInt8

/-- `[u8; n]`. -/
abbrev Arr (n : ℕ) := {bytes : Bytes // bytes.length = n}

theorem Arr.length_eq {n : ℕ} (buf : Arr n) : buf.val.length = n := buf.property

/-! ## Slices -/

/-- The bytes of `l` from `a` up to `b`, without a range check. -/
def sub (l : Bytes) (a b : ℕ) : Bytes := (l.drop a).take (b - a)

/-- `l` with the bytes from `a` up to `b` replaced by `src`. -/
def splice (l : Bytes) (a b : ℕ) (src : Bytes) : Bytes := l.take a ++ src ++ l.drop b

theorem sub_length {l : Bytes} {a b : ℕ} (h : b ≤ l.length) : (sub l a b).length = b - a := by
  simp only [sub, List.length_take, List.length_drop]
  omega

theorem splice_length {l src : Bytes} {a b : ℕ} (hab : a ≤ b) (hb : b ≤ l.length)
    (hsrc : src.length = b - a) : (splice l a b src).length = l.length := by
  simp only [splice, List.length_append, List.length_take, List.length_drop]
  omega

theorem getElem?_sub (l : Bytes) (a b i : ℕ) :
    (sub l a b)[i]? = if i < b - a then l[a + i]? else none := by
  simp only [sub, List.getElem?_take, List.getElem?_drop]

theorem getElem?_splice {l src : Bytes} {a b : ℕ} (hab : a ≤ b) (hb : b ≤ l.length)
    (hsrc : src.length = b - a) (i : ℕ) :
    (splice l a b src)[i]? =
      if i < a then l[i]? else if i < b then src[i - a]? else l[i]? := by
  have ha : (l.take a).length = a := by simp only [List.length_take]; omega
  simp only [splice, List.append_assoc, List.getElem?_append, ha, hsrc, List.getElem?_take,
    List.getElem?_drop]
  by_cases h1 : i < a
  · simp [h1]
  · by_cases h2 : i < b
    · have h3 : i - a < b - a := by omega
      simp [h1, h2, h3]
    · have h3 : ¬ i - a < b - a := by omega
      have h4 : b + (i - a - (b - a)) = i := by omega
      simp [h1, h2, h3, h4]

/-- Writing over the middle of a concatenation replaces it. -/
theorem splice_append {p q r src : Bytes} {a b : ℕ} (hp : p.length = a) (hq : q.length = b - a)
    (hab : a ≤ b) : splice (p ++ q ++ r) a b src = p ++ src ++ r := by
  have hpq : (p ++ q).length = b := by
    rw [List.length_append]
    omega
  rw [splice, List.append_assoc p q r, List.take_left' hp, ← List.append_assoc,
    List.drop_left' hpq]

/-- Reading the middle of a concatenation. -/
theorem sub_append {p q r : Bytes} {a b : ℕ} (hp : p.length = a) (hq : q.length = b - a) :
    sub (p ++ q ++ r) a b = q := by
  rw [sub, List.append_assoc, List.drop_left' hp, List.take_left' hq]

/-- Reading back the range just written. -/
theorem sub_splice_same {l src : Bytes} {a b : ℕ} (hab : a ≤ b) (hb : b ≤ l.length)
    (hsrc : src.length = b - a) : sub (splice l a b src) a b = src := by
  apply List.ext_getElem?
  intro i
  rw [getElem?_sub, getElem?_splice hab hb hsrc]
  by_cases h : i < b - a
  · have h1 : ¬ a + i < a := by omega
    have h2 : a + i < b := by omega
    simp [h, h1, h2]
  · have h1 : src[i]? = none := List.getElem?_eq_none (by omega)
    simp [h, h1]

/-- A write leaves a disjoint range alone. -/
theorem sub_splice_of_disjoint {l src : Bytes} {a b c d : ℕ} (hab : a ≤ b) (hb : b ≤ l.length)
    (hsrc : src.length = b - a) (h : d ≤ a ∨ b ≤ c) :
    sub (splice l a b src) c d = sub l c d := by
  apply List.ext_getElem?
  intro i
  rw [getElem?_sub, getElem?_sub, getElem?_splice hab hb hsrc]
  by_cases hi : i < d - c
  · rcases h with h | h
    · have h1 : c + i < a := by omega
      simp [hi, h1]
    · have h1 : ¬ c + i < a := by omega
      have h2 : ¬ c + i < b := by omega
      simp [hi, h1, h2]
  · simp [hi]

section Checked

variable {σ ε : Type}

/-- `&l[a..b]`. -/
def slice (l : Bytes) (a b : ℕ) : Method σ ε Bytes :=
  if a ≤ b ∧ b ≤ l.length then pure (sub l a b) else Method.panic

/-- `l[i]`. -/
def index (l : Bytes) (i : ℕ) : Method σ ε UInt8 := Method.unwrap l[i]?

/-- `l.try_into().expect(..)` at the array type `[u8; n]`. -/
def expectArr (n : ℕ) (l : Bytes) : Method σ ε (Arr n) :=
  if h : l.length = n then pure ⟨l, h⟩ else Method.panic

/-- `buf[i] = byte`. -/
def Arr.store {n : ℕ} (buf : Arr n) (i : ℕ) (byte : UInt8) : Method σ ε (Arr n) :=
  if i < n then pure ⟨buf.val.set i byte, by simp [buf.property]⟩ else Method.panic

/-- The array with a range replaced by a source of the right length. -/
def Arr.splice {n : ℕ} (buf : Arr n) (a b : ℕ) (src : Bytes)
    (h : a ≤ b ∧ b ≤ n ∧ src.length = b - a) : Arr n :=
  ⟨Rust.splice buf.val a b src,
    (splice_length h.1 (h.2.1.trans_eq buf.property.symm) h.2.2).trans buf.property⟩

/-- `buf[a..b].copy_from_slice(src)`: the range must exist and the lengths must be equal. -/
def Arr.copyFromSlice {n : ℕ} (buf : Arr n) (a b : ℕ) (src : Bytes) : Method σ ε (Arr n) :=
  if h : a ≤ b ∧ b ≤ n ∧ src.length = b - a then pure (buf.splice a b src h)
  else Method.panic

/-- `[0u8; n]`. -/
def Arr.zeros (n : ℕ) : Arr n := ⟨List.replicate n 0, List.length_replicate⟩

theorem slice_eq {l : Bytes} {a b : ℕ} (hab : a ≤ b) (hb : b ≤ l.length) :
    (slice l a b : Method σ ε Bytes) = pure (sub l a b) := by
  simp [slice, hab, hb]

theorem index_eq {l : Bytes} {i : ℕ} {byte : UInt8} (h : l[i]? = some byte) :
    (index l i : Method σ ε UInt8) = pure byte := by
  simp [index, h]

theorem expectArr_eq {n : ℕ} {l : Bytes} (h : l.length = n) :
    (expectArr n l : Method σ ε (Arr n)) = pure ⟨l, h⟩ := by
  simp [expectArr, h]

theorem Arr.store_eq {n : ℕ} (buf : Arr n) {i : ℕ} (byte : UInt8) (h : i < n) :
    (buf.store i byte : Method σ ε (Arr n)) =
      pure ⟨buf.val.set i byte, by simp [buf.property]⟩ := by
  simp [Arr.store, h]

theorem Arr.copyFromSlice_eq {n : ℕ} (buf : Arr n) {a b : ℕ} {src : Bytes}
    (h : a ≤ b ∧ b ≤ n ∧ src.length = b - a) :
    (buf.copyFromSlice a b src : Method σ ε (Arr n)) = pure (buf.splice a b src h) := by
  simp [Arr.copyFromSlice, h]

@[simp] theorem wp_slice {Q : Method.Post σ ε Bytes} {s : σ} (l : Bytes) (a b : ℕ) :
    (slice l a b : Method σ ε Bytes).wp Q s ↔
      (a ≤ b ∧ b ≤ l.length → Q.ok (sub l a b) s) ∧ (¬ (a ≤ b ∧ b ≤ l.length) → Q.panic) := by
  simp only [slice, Method.wp_ite, Method.wp_pure, Method.wp_panic]

@[simp] theorem wp_index {Q : Method.Post σ ε UInt8} {s : σ} (l : Bytes) (i : ℕ) :
    (index l i : Method σ ε UInt8).wp Q s ↔
      (∀ byte, l[i]? = some byte → Q.ok byte s) ∧ (l.length ≤ i → Q.panic) := by
  simp only [index, Method.wp_unwrap, List.getElem?_eq_none_iff]

@[simp] theorem wp_expectArr {n : ℕ} {Q : Method.Post σ ε (Arr n)} {s : σ} (l : Bytes) :
    (expectArr n l : Method σ ε (Arr n)).wp Q s ↔
      (∀ h : l.length = n, Q.ok ⟨l, h⟩ s) ∧ (l.length ≠ n → Q.panic) := by
  by_cases h : l.length = n <;> simp [expectArr, h]

@[simp] theorem Arr.wp_store {n : ℕ} {Q : Method.Post σ ε (Arr n)} {s : σ} (buf : Arr n) (i : ℕ)
    (byte : UInt8) :
    (buf.store i byte : Method σ ε (Arr n)).wp Q s ↔
      (i < n → Q.ok ⟨buf.val.set i byte, by simp [buf.property]⟩ s) ∧ (n ≤ i → Q.panic) := by
  by_cases h : i < n
  · simp [Arr.store, h, Nat.not_le.2 h]
  · simp [Arr.store, h, Nat.not_lt.1 h]

@[simp] theorem Arr.wp_copyFromSlice {n : ℕ} {Q : Method.Post σ ε (Arr n)} {s : σ} (buf : Arr n)
    (a b : ℕ) (src : Bytes) :
    (buf.copyFromSlice a b src : Method σ ε (Arr n)).wp Q s ↔
      (∀ h : a ≤ b ∧ b ≤ n ∧ src.length = b - a, Q.ok (buf.splice a b src h) s) ∧
        (¬ (a ≤ b ∧ b ≤ n ∧ src.length = b - a) → Q.panic) := by
  by_cases h : a ≤ b ∧ b ≤ n ∧ src.length = b - a <;> simp [Arr.copyFromSlice, h]

end Checked

/-! ## Integers as bytes -/

/-- The `k` low bytes of `n`, least significant first. -/
def leBytes : ℕ → ℕ → Bytes
  | 0, _ => []
  | k + 1, n => UInt8.ofNat n :: leBytes k (n / 256)

/-- The number with these bytes, least significant first. -/
def ofLeBytes : Bytes → ℕ
  | [] => 0
  | byte :: rest => byte.toNat + 256 * ofLeBytes rest

@[simp] theorem leBytes_length (k n : ℕ) : (leBytes k n).length = k := by
  induction k generalizing n with
  | zero => rfl
  | succ k ih => simp [leBytes, ih]

theorem ofLeBytes_leBytes (k n : ℕ) : ofLeBytes (leBytes k n) = n % 256 ^ k := by
  induction k generalizing n with
  | zero => simp [leBytes, ofLeBytes, Nat.mod_one]
  | succ k ih =>
      have hbyte : (UInt8.ofNat n).toNat = n % 256 := UInt8.toNat_ofNat'
      simp only [leBytes, ofLeBytes, ih, hbyte]
      rw [pow_succ', Nat.mod_mul]

/-- `to_le_bytes` of a number with `k` bytes. -/
def toLe (k n : ℕ) : Arr k := ⟨leBytes k n, leBytes_length k n⟩

/-- `to_be_bytes` of a number with `k` bytes. -/
def toBe (k n : ℕ) : Arr k := ⟨(leBytes k n).reverse, by simp⟩

/-- `from_le_bytes`. -/
def fromLe (l : Bytes) : ℕ := ofLeBytes l

/-- `from_be_bytes`. -/
def fromBe (l : Bytes) : ℕ := ofLeBytes l.reverse

theorem fromLe_toLe {k n : ℕ} (h : n < 256 ^ k) : fromLe (toLe k n).val = n := by
  simp only [fromLe, toLe, ofLeBytes_leBytes, Nat.mod_eq_of_lt h]

theorem fromBe_toBe {k n : ℕ} (h : n < 256 ^ k) : fromBe (toBe k n).val = n := by
  simp only [fromBe, toBe, List.reverse_reverse, ofLeBytes_leBytes, Nat.mod_eq_of_lt h]

/-! ## Signed 64-bit arithmetic -/

/-- What the build decides: whether integer overflow panics or wraps. -/
class Profile where
  overflowChecks : Bool

namespace I64

/-- The number is representable as an `i64`. -/
def InRange (x : ℤ) : Prop := -(2 ^ 63) ≤ x ∧ x < 2 ^ 63

instance (x : ℤ) : Decidable (InRange x) := inferInstanceAs (Decidable (_ ∧ _))

/-- The two's-complement reading of the low 64 bits, as `as i64` and wrapping operations
compute it. -/
def wrap (x : ℤ) : ℤ := x.bmod (2 ^ 64)

theorem wrap_eq {x : ℤ} (h : InRange x) : wrap x = x := by
  unfold InRange at h
  unfold wrap
  rw [Int.bmod_def]
  split <;> omega

theorem inRange_wrap (x : ℤ) : InRange (wrap x) := by
  unfold InRange wrap
  rw [Int.bmod_def]
  split <;> omega

end I64

/-- `i64`. -/
abbrev I64 := {x : ℤ // I64.InRange x}

namespace I64

/-- `to_be_bytes`. -/
def toBe (x : I64) : Arr 8 := Rust.toBe 8 (x.val % 2 ^ 64).toNat

variable [Profile] {σ ε : Type}

/-- The result of an `i64` operation whose exact value is `x`; none where it panics. -/
def value (x : ℤ) : Option ℤ :=
  if InRange x then some x
  else if Profile.overflowChecks then none
  else some (wrap x)

/-- `value` in a method. -/
def checked (x : ℤ) : Method σ ε ℤ := Method.unwrap (value x)

/-- `a - b`. -/
def sub (a b : ℤ) : Method σ ε ℤ := checked (a - b)

/-- `a + b`. -/
def add (a b : ℤ) : Method σ ε ℤ := checked (a + b)

/-- `a.abs()`. -/
def abs (a : ℤ) : Method σ ε ℤ := checked |a|

theorem value_eq {x : ℤ} (h : InRange x) : value x = some x := if_pos h

theorem checked_eq {x : ℤ} (h : InRange x) : (checked x : Method σ ε ℤ) = pure x := by
  rw [checked, value_eq h, Method.unwrap_some]

/-- With overflow checks an operation that overflows panics. -/
theorem checked_panic {x : ℤ} (hchecks : Profile.overflowChecks = true) (h : ¬ InRange x) :
    (checked x : Method σ ε ℤ) = Method.panic := by
  rw [checked, value, if_neg h, if_pos hchecks, Method.unwrap_none]

/-- Without overflow checks every operation wraps. -/
theorem checked_wrap (hchecks : ¬ Profile.overflowChecks = true) (x : ℤ) :
    (checked x : Method σ ε ℤ) = pure (wrap x) := by
  by_cases h : InRange x
  · rw [checked_eq h, wrap_eq h]
  · rw [checked, value, if_neg h, if_neg hchecks, Method.unwrap_some]

end I64

end Rust
