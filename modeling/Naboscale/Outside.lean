import Mathlib.Data.List.Basic
import Mathlib.Data.Nat.Count

/-!
# Lists without some of their entries

`outside F l` are the entries of `l` at the indices outside of `F`, in their order, and `rank F i`
is where the entry at the index `i` goes.
-/

namespace Outside

variable {α β : Type*} {F : ℕ → Bool}

/-- How many indices below are outside of the set. -/
def rank (F : ℕ → Bool) (i : ℕ) : ℕ := Nat.count (fun j => F j = false) i

/-- The entries from an index on that are outside of the set. -/
def outsideFrom (F : ℕ → Bool) : ℕ → List α → List α
  | _, [] => []
  | i, a :: l => if F i then outsideFrom F (i + 1) l else a :: outsideFrom F (i + 1) l

/-- The entries that are outside of the set. -/
def outside (F : ℕ → Bool) (l : List α) : List α := outsideFrom F 0 l

/-- The index that goes to a place. -/
def source (F : ℕ → Bool) (n k : ℕ) : ℕ := (outside F (List.range n)).getD k 0

end Outside
