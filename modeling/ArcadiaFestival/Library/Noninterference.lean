import ArcadiaFestival.Library.Trace

/-! Noninterference by unwinding. What an observer sees of a run depends on the inputs that
concern it alone, if every other input leaves its view as it is and if those that do concern
it act on the view alone. -/
namespace Library.Noninterference

variable {σ ε ν : Type*} {step : σ → ε → σ} {view : σ → ν} {concerns : ε → Bool}
  {inv : σ → List ε → Prop}

/-- The conditions on single steps. They may rely on an invariant of the state
and of the inputs still to come. -/
structure Unwinding (step : σ → ε → σ) (view : σ → ν) (concerns : ε → Bool)
    (inv : σ → List ε → Prop) : Prop where
  kept : ∀ s e es, inv s (e :: es) → inv (step s e) es
  skipped : ∀ s e es, inv s (e :: es) → inv s es
  local_ : ∀ s e, concerns e = false → view (step s e) = view s
  consistent : ∀ s t e es, inv s (e :: es) → inv t (e :: es) → concerns e = true →
    view s = view t → view (step s e) = view (step t e)

namespace Unwinding

/-- Leaving out the inputs that do not concern the observer makes no difference
to it. -/
theorem run_purged (h : Unwinding step view concerns inv) {s t : σ} {es : List ε} (hs : inv s es)
    (ht : inv t es) (hView : view s = view t) :
    view (Trace.run step s es) = view (Trace.run step t (es.filter concerns)) := by
  induction es generalizing s t with
  | nil => exact hView
  | cons e es ih =>
      rw [Trace.run_cons]
      cases hConcerns : concerns e with
      | true =>
          rw [List.filter_cons_of_pos hConcerns, Trace.run_cons]
          exact ih (h.kept s e es hs) (h.kept t e es ht) (h.consistent s t e es hs ht hConcerns hView)
      | false =>
          rw [List.filter_cons_of_neg (by simp [hConcerns])]
          exact ih (h.kept s e es hs) (h.skipped t e es ht) ((h.local_ s e hConcerns).trans hView)

/-- Two runs with the same inputs that concern the observer look the same to
it. -/
theorem run_view_eq (h : Unwinding step view concerns inv) {s : σ} {es es' : List ε} (hs : inv s es)
    (hs' : inv s es') (hSame : es.filter concerns = es'.filter concerns) :
    view (Trace.run step s es) = view (Trace.run step s es') := by
  rw [h.run_purged hs hs rfl, h.run_purged hs' hs' rfl, hSame]

end Unwinding
end Library.Noninterference
