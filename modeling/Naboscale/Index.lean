import Mathlib.Tactic

/-!
# An index of a list

A list is only appended to and changed in place, and beside it stands a partial function that is
to give the position of an entry. Appending an entry maps it to its position, and changing an
entry takes the old one out of the function and puts the new one in. The function always points at
the entries it is asked for. It finds all of them as long as nothing is entered twice.
-/

namespace Index

variable {α : Type*} {entries : List α} {position : α → Option ℕ} {a b : α} {i : ℕ}

/-- What the function gives is a position of the entry that was asked for. -/
def Sound (entries : List α) (position : α → Option ℕ) : Prop :=
  ∀ a i, position a = some i → entries[i]? = some a

/-- Every entry is found where it stands. -/
def Complete (entries : List α) (position : α → Option ℕ) : Prop :=
  ∀ i a, entries[i]? = some a → position a = some i

theorem sound_nil : Sound ([] : List α) fun _ => none := fun _ _ h => nomatch h

theorem complete_nil (position : α → Option ℕ) : Complete [] position := fun _ _ h => nomatch h

/-- An entry that is not found does not stand in the list. -/
theorem Complete.not_mem (h : Complete entries position) (ha : position a = none) :
    a ∉ entries := by
  intro hmem
  obtain ⟨i, hi⟩ := List.mem_iff_getElem?.1 hmem
  cases ha.symm.trans (h i a hi)

/-- Nothing is entered twice in a list whose entries are all found. -/
theorem Complete.nodup (h : Complete entries position) : entries.Nodup := by
  rw [List.nodup_iff_getElem?_ne_getElem?]
  intro i j hij hj hsame
  have hentry := List.getElem?_eq_getElem hj
  have hfirst := h i _ (hsame.trans hentry)
  have hsecond := h j _ hentry
  rw [hfirst, Option.some.injEq] at hsecond
  omega

/-! ## The first match -/

/-- Every entry that is asked for passes the test, and no entry before it does. -/
def Leads (asked test : α → Prop) (entries : List α) : Prop :=
  (∀ a ∈ entries, asked a → test a) ∧ entries.Pairwise fun a b => asked b → ¬ test a

instance (asked test : α → Prop) [DecidablePred asked] [DecidablePred test] (entries : List α) :
    Decidable (Leads asked test entries) := inferInstanceAs (Decidable (_ ∧ _))

/-- A search for the first entry that passes the test ends at each entry that is asked for. -/
theorem leads_iff {asked : α → Prop} {test : α → Bool} :
    Leads asked (fun a => test a = true) entries ↔
      ∀ i a, entries[i]? = some a → asked a → entries.findIdx? test = some i := by
  constructor
  · rintro ⟨hall, hbefore⟩ i a hi hasked
    obtain ⟨hlt, hget⟩ := List.getElem?_eq_some_iff.1 hi
    refine List.findIdx?_eq_some_iff_getElem.2 ⟨hlt, ?_, fun j hj => ?_⟩
    · rw [hget]
      exact hall a (List.mem_of_getElem? hi) hasked
    · exact List.pairwise_iff_getElem.1 hbefore j i (by omega) hlt hj (hget ▸ hasked)
  · intro h
    have hfound : ∀ i (hi : i < entries.length), asked entries[i] →
        test entries[i] = true ∧ ∀ j (hj : j < i), ¬ test entries[j] = true := by
      intro i hi hasked
      have hfind := h i _ (List.getElem?_eq_getElem hi) hasked
      obtain ⟨_, htest, hbefore⟩ := List.findIdx?_eq_some_iff_getElem.1 hfind
      exact ⟨htest, hbefore⟩
    refine ⟨fun a ha hasked => ?_, ?_⟩
    · obtain ⟨i, hi, rfl⟩ := List.mem_iff_getElem.1 ha
      exact (hfound i hi hasked).1
    · refine List.pairwise_iff_getElem.2 fun j i _ hi hji hasked => ?_
      exact (hfound i hi hasked).2 j hji

/-- Appending an entry that is asked for asks more only of that entry. -/
theorem leads_concat {asked test : α → Prop} :
    Leads asked test (entries ++ [b]) ↔
      Leads asked test entries ∧ (asked b → test b ∧ ∀ a ∈ entries, ¬ test a) := by
  simp only [Leads, List.mem_append, List.mem_singleton, List.pairwise_append,
    List.pairwise_singleton, true_and]
  constructor
  · rintro ⟨hall, hbefore, hlast⟩
    refine ⟨⟨fun a ha => hall a (.inl ha), hbefore⟩, fun hasked => ?_⟩
    exact ⟨hall b (.inr rfl) hasked, fun a ha => hlast a ha b rfl hasked⟩
  · rintro ⟨⟨hall, hbefore⟩, hlast⟩
    refine ⟨?_, hbefore, ?_⟩
    · rintro a (ha | rfl) hasked
      · exact hall a ha hasked
      · exact (hlast hasked).1
    · rintro a ha _ rfl hasked
      exact (hlast hasked).2 a ha

/-- Where at most one entry passes the test, each one that is asked for is the first. -/
theorem leads_of_apart {asked test : α → Prop}
    (h : entries.Pairwise fun a b => ¬ (test a ∧ test b)) :
    Leads asked test entries ↔ ∀ a ∈ entries, asked a → test a := by
  refine and_iff_left_of_imp fun hall => ?_
  refine h.imp_of_mem fun {a b} _ hb hapart hasked htest => ?_
  exact hapart ⟨htest, hall b hb hasked⟩

variable [DecidableEq α]

/-- The function after an entry was appended at position `n`. -/
def push (position : α → Option ℕ) (a : α) (n : ℕ) : α → Option ℕ :=
  Function.update position a (some n)

/-- The function after the entry `a` at position `i` was changed to `b`. -/
def move (position : α → Option ℕ) (a b : α) (i : ℕ) : α → Option ℕ :=
  Function.update (Function.update position a none) b (some i)

theorem Sound.push (h : Sound entries position) (a : α) :
    Sound (entries ++ [a]) (push position a entries.length) := by
  intro x i hi
  rw [Index.push, Function.update_apply] at hi
  split at hi
  case isTrue heq =>
    cases hi
    rw [heq, List.getElem?_concat_length]
  case isFalse =>
    have hold := h x i hi
    rwa [List.getElem?_append_left (List.getElem?_eq_some_iff.1 hold).1]

/-- Appending keeps the index complete exactly if the entry is new. -/
theorem complete_push_iff :
    Complete (entries ++ [a]) (push position a entries.length) ↔
      Complete entries position ∧ a ∉ entries := by
  constructor
  · intro h
    have hold : ∀ i x, entries[i]? = some x → x ≠ a ∧ position x = some i := by
      intro i x hx
      have hlt := (List.getElem?_eq_some_iff.1 hx).1
      have hfound := h i x (by rwa [List.getElem?_append_left hlt])
      rw [push, Function.update_apply] at hfound
      split at hfound
      · -- The old entry equals the new one, and is looked for at the end.
        cases hfound
        omega
      · exact ⟨‹_›, hfound⟩
    refine ⟨fun i x hx => (hold i x hx).2, fun hmem => ?_⟩
    obtain ⟨i, hi⟩ := List.mem_iff_getElem?.1 hmem
    exact (hold i a hi).1 rfl
  · rintro ⟨h, hnew⟩ i x hx
    rw [push, Function.update_apply]
    rcases Nat.lt_or_ge i entries.length with hlt | hge
    · rw [List.getElem?_append_left hlt] at hx
      have hne : x ≠ a := fun heq => hnew (heq ▸ List.mem_of_getElem? hx)
      rw [if_neg hne]
      exact h i x hx
    · rw [List.getElem?_append_right hge, List.getElem?_singleton] at hx
      split at hx
      case isTrue hzero =>
        cases hx
        rw [if_pos rfl]
        congr
        omega
      case isFalse => cases hx

theorem Sound.move (h : Sound entries position) (hi : entries[i]? = some a) (b : α) :
    Sound (entries.set i b) (move position a b i) := by
  have hlt := (List.getElem?_eq_some_iff.1 hi).1
  intro x j hj
  rw [Index.move, Function.update_apply, Function.update_apply] at hj
  split at hj
  case isTrue heq =>
    cases hj
    rw [heq, List.getElem?_set_self hlt]
  case isFalse =>
    split at hj
    case isTrue => cases hj
    case isFalse hne =>
      have hold := h x j hj
      -- Position `i` holds `a`, and `x` is another entry.
      have hij : i ≠ j := by
        rintro rfl
        exact hne (Option.some.inj (hold.symm.trans hi))
      rwa [List.getElem?_set_ne hij]

/-- Changing an entry to one that is not found keeps the index complete. -/
theorem Complete.move (h : Complete entries position) (hi : entries[i]? = some a)
    (hb : position b = none) : Complete (entries.set i b) (move position a b i) := by
  have hlt := (List.getElem?_eq_some_iff.1 hi).1
  intro j x hx
  rw [Index.move, Function.update_apply, Function.update_apply]
  by_cases hij : i = j
  · subst hij
    rw [List.getElem?_set_self hlt] at hx
    cases hx
    rw [if_pos rfl]
  · rw [List.getElem?_set_ne hij] at hx
    have hxb : x ≠ b := by
      rintro rfl
      exact h.not_mem hb (List.mem_of_getElem? hx)
    have hxa : x ≠ a := by
      rintro rfl
      exact hij (Option.some.inj ((h i x hi).symm.trans (h j x hx)))
    rw [if_neg hxb, if_neg hxa]
    exact h j x hx

end Index
