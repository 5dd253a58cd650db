import Mathlib.Tactic

/-!
# Tables with unique columns

A table is a list of rows any two of which are apart, where two rows are apart if they agree in
no column that is unique. The rows of a table cannot violate its constraints: an insertion needs
a proof that the new row is apart from the others, and an update one that it keeps rows apart.
-/

/-- Rows any two of which are apart. -/
structure Table {Row : Type} (Apart : Row → Row → Prop) where
  rows : List Row
  apart : rows.Pairwise Apart

namespace Table

variable {Row : Type} {Apart : Row → Row → Prop}

/-- The table without rows. -/
def empty : Table Apart := ⟨[], .nil⟩

/-- Append a row that is apart from the others. -/
def insert (table : Table Apart) (row : Row) (h : ∀ r ∈ table.rows, Apart r row) : Table Apart :=
  ⟨table.rows ++ [row], List.pairwise_append.2 ⟨table.apart, List.pairwise_singleton _ _,
    fun r hr _ hs => List.mem_singleton.1 hs ▸ h r hr⟩⟩

/-- Change the rows by a function that keeps them apart. -/
def update (table : Table Apart) (f : Row → Row) (h : ∀ r s, Apart r s → Apart (f r) (f s)) :
    Table Apart :=
  ⟨table.rows.map f, List.pairwise_map.2 (table.apart.imp fun {r s} => h r s)⟩

/-- Delete the rows that satisfy a condition. -/
def delete (table : Table Apart) (p : Row → Bool) : Table Apart :=
  ⟨table.rows.filter fun row => !p row, table.apart.filter _⟩

variable {table : Table Apart} {row r : Row}

@[simp] theorem rows_empty : (empty : Table Apart).rows = [] := rfl

@[simp] theorem rows_insert (h : ∀ r ∈ table.rows, Apart r row) :
    (table.insert row h).rows = table.rows ++ [row] := rfl

@[simp] theorem rows_update {f : Row → Row} (h : ∀ r s, Apart r s → Apart (f r) (f s)) :
    (table.update f h).rows = table.rows.map f := rfl

theorem mem_insert (h : ∀ r ∈ table.rows, Apart r row) :
    r ∈ (table.insert row h).rows ↔ r ∈ table.rows ∨ r = row := by
  rw [rows_insert, List.mem_append, List.mem_singleton]

theorem mem_delete {p : Row → Bool} :
    r ∈ (table.delete p).rows ↔ r ∈ table.rows ∧ p r = false := by
  rw [delete, List.mem_filter, Bool.not_eq_true']

/-- Two rows that are not apart are the same row. -/
theorem eq_of_not_apart [Std.Symm Apart] (table : Table Apart) {r s : Row} (hr : r ∈ table.rows)
    (hs : s ∈ table.rows) (h : ¬ Apart r s) : r = s := by
  by_contra hne
  exact h (table.apart.forall hr hs hne)

end Table
