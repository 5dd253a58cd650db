import Naboscale.Transition
import Mathlib.Data.List.Chain

/-!
# The marks of a run

Some steps of a run leave a mark: a message that goes out, the time at which something is done. An
invariant that remembers the last mark relates each mark of a run to the one before it.
-/

namespace Transition

variable {S E M : Type*} {step : S → E → Option S} {mark : S → E → S → Option M}

/-- The marks that the steps of a run leave, in order. -/
def marks (step : S → E → Option S) (mark : S → E → S → Option M) : S → List E → List M
  | _, [] => []
  | s, e :: es =>
      match step s e with
      | none => []
      | some t => (mark s e t).toList ++ marks step mark t es

theorem marks_cons {s t : S} {e : E} {es : List E} (h : step s e = some t) :
    marks step mark s (e :: es) = (mark s e t).toList ++ marks step mark t es := by
  rw [marks, h]

/-- The rule for what relates a mark to the next one. `I` says what holds of a state after the last
mark, if there is one: a step without a mark keeps it, and a step with a mark starts it again. -/
theorem isChain_marks {R : M → M → Prop} {I : Option M → S → Prop}
    (hquiet : ∀ last s e t, I last s → step s e = some t → mark s e t = none → I last t)
    (hmark : ∀ last s e t m, I last s → step s e = some t → mark s e t = some m →
      (∀ m₀ ∈ last, R m₀ m) ∧ I (some m) t) (last : Option M) {s : S} {es : List E}
    (hI : I last s) : (last.toList ++ marks step mark s es).IsChain R := by
  induction es generalizing last s with
  | nil =>
      cases last with
      | none => exact .nil
      | some m₀ => exact .singleton m₀
  | cons e es ih =>
      cases hstep : step s e with
      | none =>
          rw [marks, hstep]
          cases last with
          | none => exact .nil
          | some m₀ => exact .singleton m₀
      | some t =>
          rw [marks_cons hstep]
          cases hm : mark s e t with
          | none => exact ih last (hquiet last s e t hI hstep hm)
          | some m =>
              obtain ⟨hR, hI'⟩ := hmark last s e t m hI hstep hm
              cases last with
              | none => exact ih (some m) hI'
              | some m₀ => exact List.isChain_cons_cons.2 ⟨hR m₀ rfl, ih (some m) hI'⟩

end Transition
