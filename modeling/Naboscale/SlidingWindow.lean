import Mathlib.Algebra.Order.Monoid.Unbundled.Basic
import Mathlib.Data.List.Basic

/-!
# Sliding windows

Instants are counted while they are in a window that ends at the present. A log may forget an
instant once it has left the window: what is counted at any later time is the same. Where an
instant is noted only while fewer than `limit` are counted, no interval that is as long as the
window has more than `limit` of them.
-/

namespace Naboscale.SlidingWindow

variable {T : Type} [LinearOrder T] [Add T]

/-- The instant is in the window that ends at `now`. -/
def Fresh (window now t : T) : Prop := now < t + window

instance (window now t : T) : Decidable (Fresh window now t) := inferInstanceAs (Decidable (_ < _))

/-- What is counted at `now`. -/
def count (window now : T) (times : List T) : ℕ := times.countP fun t => decide (Fresh window now t)

variable {window now last t : T} {kept all : List T} {limit : ℕ}

omit [Add T] in
/-- In a list on which a property stays true once it is, dropping the head while it is false leaves
the elements that have the property. -/
theorem dropWhile_eq_filter {p : T → Bool} (hsorted : kept.Pairwise (· ≤ ·))
    (hp : ∀ a b, a ≤ b → p a = true → p b = true) :
    kept.dropWhile (fun a => !p a) = kept.filter p := by
  induction kept with
  | nil => rfl
  | cons a rest ih =>
      obtain ⟨hle, hrest⟩ := List.pairwise_cons.1 hsorted
      cases ha : p a with
      | false =>
          rw [List.dropWhile_cons_of_pos (by rw [ha]; rfl),
            List.filter_cons_of_neg (by rw [ha]; exact Bool.false_ne_true)]
          exact ih hrest
      | true =>
          have hall : ∀ b ∈ rest, p b = true := fun b hb => hp a b (hle b hb) ha
          rw [List.dropWhile_cons_of_neg (by rw [ha]; exact Bool.false_ne_true),
            List.filter_cons_of_pos ha, List.filter_eq_self.2 hall]

theorem Fresh.earlier {now' : T} (h : Fresh window now' t) (hle : now ≤ now') :
    Fresh window now t :=
  lt_of_le_of_lt hle h

variable [AddRightMono T]

theorem Fresh.later {t' : T} (h : Fresh window now t) (hle : t ≤ t') : Fresh window now t' :=
  lt_of_lt_of_le h (by gcongr)

/-- The instants `kept` are sorted, and from the time `last` on they stand for all instants. -/
structure Keeps (window last : T) (kept all : List T) : Prop where
  sorted : kept.Pairwise (· ≤ ·)
  bounded : ∀ t ∈ kept, t ≤ last
  counted : ∀ now, last ≤ now → kept.filter (fun t => decide (Fresh window now t)) =
    all.filter fun t => decide (Fresh window now t)

omit [AddRightMono T] in
theorem keeps_nil : Keeps window last [] [] := ⟨.nil, nofun, fun _ _ => rfl⟩

omit [AddRightMono T] in
theorem Keeps.mono (h : Keeps window last kept all) (hle : last ≤ now) :
    Keeps window now kept all :=
  ⟨h.sorted, fun t ht => (h.bounded t ht).trans hle,
    fun now' hnow => h.counted now' (hle.trans hnow)⟩

/-- Dropping what has left the window leaves exactly what is in it. -/
theorem Keeps.prune_eq (h : Keeps window last kept all) (hle : last ≤ now) :
    kept.dropWhile (fun t => !decide (Fresh window now t)) =
      all.filter fun t => decide (Fresh window now t) := by
  rw [← h.counted now hle]
  refine dropWhile_eq_filter h.sorted fun a b hab ha => ?_
  exact decide_eq_true (Fresh.later (of_decide_eq_true ha) hab)

theorem Keeps.length_prune (h : Keeps window last kept all) (hle : last ≤ now) :
    (kept.dropWhile fun t => !decide (Fresh window now t)).length = count window now all := by
  rw [h.prune_eq hle, count, List.countP_eq_length_filter]

/-- What has left the window may be forgotten. -/
theorem Keeps.prune (h : Keeps window last kept all) (hle : last ≤ now) :
    Keeps window now (kept.dropWhile fun t => !decide (Fresh window now t)) all := by
  have hsub := List.dropWhile_sublist (l := kept) fun t => !decide (Fresh window now t)
  refine ⟨h.sorted.sublist hsub, fun t ht => (h.bounded t (hsub.subset ht)).trans hle, ?_⟩
  intro now' hnow
  rw [h.prune_eq hle, List.filter_filter]
  refine List.filter_congr fun t _ => ?_
  -- What is in the window later is in it now.
  cases hfresh : decide (Fresh window now' t) with
  | false => exact Bool.false_and _
  | true =>
      rw [Bool.true_and]
      exact decide_eq_true ((of_decide_eq_true hfresh).earlier hnow)

omit [AddRightMono T] in
/-- A new instant is noted on both sides. -/
theorem Keeps.push (h : Keeps window now kept all) :
    Keeps window now (kept ++ [now]) (all ++ [now]) := by
  refine ⟨?_, ?_, ?_⟩
  · rw [List.pairwise_append]
    refine ⟨h.sorted, List.pairwise_singleton _ _, ?_⟩
    intro t ht t' ht'
    rw [List.mem_singleton.1 ht']
    exact h.bounded t ht
  · intro t ht
    rcases List.mem_append.1 ht with ht | ht
    · exact h.bounded t ht
    · exact (List.mem_singleton.1 ht).le
  · intro now' hnow
    rw [List.filter_append, List.filter_append, h.counted now' hnow]

/-! ## What is noted only below a limit -/

/-- Each instant was noted no earlier than those before it, while fewer than `limit` of them were
in the window. -/
inductive Limited (window : T) (limit : ℕ) : List T → Prop
  | nil : Limited window limit []
  | push {times : List T} {t : T} (h : Limited window limit times) (hlast : ∀ a ∈ times, a ≤ t)
      (hcount : count window t times < limit) : Limited window limit (times ++ [t])

omit [AddRightMono T] in
/-- An interval whose ends are less than a window apart, so that its first instant is still counted
at its last one, holds at most `limit` instants. -/
theorem Limited.countP_le (h : Limited window limit all) {p : T → Bool}
    (hp : ∀ a b, p a = true → p b = true → Fresh window b a) : all.countP p ≤ limit := by
  induction h with
  | nil => exact Nat.zero_le _
  | @push times t _ _ hcount ih =>
      rw [List.countP_append]
      cases ht : p t with
      | false =>
          rw [List.countP_singleton, if_neg (by rw [ht]; exact Bool.false_ne_true)]
          exact ih
      | true =>
          rw [List.countP_singleton, if_pos ht]
          -- Those of the interval are all counted when its last instant is noted.
          have hle : times.countP p ≤ count window t times := by
            refine List.countP_mono_left fun a _ ha => ?_
            exact decide_eq_true (hp a t ha ht)
          omega

end Naboscale.SlidingWindow
