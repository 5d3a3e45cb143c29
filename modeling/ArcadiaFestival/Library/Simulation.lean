import ArcadiaFestival.Library.Trace
import Mathlib.Data.List.Forall2

/-! Refinement of a labelled transition system by a deterministic step function. An
input of the code is a step that it asks for, or a stutter. -/
namespace Library.Simulation

variable {τ α : Type*}

/-- A path of the abstract system, with the labels of its steps in order. A run
of the concrete system is matched by one. -/
inductive Path (step : τ → α → τ → Prop) : τ → List α → τ → Prop where
  | nil (s : τ) : Path step s [] s
  | cons {s t u : τ} {label : α} {labels : List α} (first : step s label t)
      (rest : Path step t labels u) : Path step s (label :: labels) u

namespace Path
variable {step : τ → α → τ → Prop}

/-- A relation that is reflexive, transitive and contains every step relates
the ends of every path. -/
theorem rel (law : τ → τ → Prop) (hRefl : ∀ s, law s s)
    (hTrans : ∀ {s t u}, law s t → law t u → law s u) (hStep : ∀ {s label t}, step s label t → law s t)
    {s t : τ} {labels : List α} (h : Path step s labels t) : law s t := by
  induction h with
  | nil s => exact hRefl s
  | cons move _ ih => exact hTrans (hStep move) ih

end Path

variable {σ ε : Type*}

/-- What an input of the code asks of the abstract system happens there, or
nothing does. -/
def Follows (step : τ → α → τ → Prop) (asks : ε → α → Prop) (input : ε) (s t : τ) : Prop :=
  t = s ∨ ∃ label, asks input label ∧ step s label t

/-- Under an invariant that the code keeps, each run of the code is a path
whose labels were asked for by some of the inputs, in their order. -/
theorem run_path {run : σ → ε → σ} {inv : σ → Prop} {abs : σ → τ} {step : τ → α → τ → Prop}
    {asks : ε → α → Prop} (hInv : ∀ s e, inv s → inv (run s e))
    (hFollows : ∀ s e, inv s → Follows step asks e (abs s) (abs (run s e)))
    {start : σ} (hStart : inv start) (inputs : List ε) :
    ∃ labels, List.SublistForall₂ (fun label input => asks input label) labels inputs ∧
      Path step (abs start) labels (abs (Trace.run run start inputs)) := by
  induction inputs generalizing start with
  | nil => exact ⟨[], .nil, .nil _⟩
  | cons e es ih =>
      obtain ⟨labels, hAsked, hPath⟩ := ih (hInv start e hStart)
      rcases hFollows start e hStart with hSame | ⟨label, hAsks, hStep⟩
      · rw [hSame] at hPath
        exact ⟨labels, .cons_right hAsked, hPath⟩
      · exact ⟨label :: labels, .cons hAsks hAsked, .cons hStep hPath⟩

end Library.Simulation
