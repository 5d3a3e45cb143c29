import Mathlib.Data.List.Induction

/-! Runs of a deterministic step function over a list of inputs. An invariant that
one step keeps holds after any run, and one that only the steps meeting a condition
keep holds throughout the runs of such steps. -/
namespace Library.Trace

variable {σ ε : Type*}

/-- The state after the given inputs, in order. -/
def run (step : σ → ε → σ) (start : σ) (inputs : List ε) : σ := inputs.foldl step start

variable (step : σ → ε → σ)

@[simp] theorem run_nil (s : σ) : run step s [] = s := rfl

/-- A run makes the step of its first event, and goes on from there. -/
@[simp] theorem run_cons (s : σ) (e : ε) (es : List ε) :
    run step s (e :: es) = run step (step s e) es := rfl

/-- A run in two parts is the second part from where the first has ended. -/
theorem run_append (s : σ) (first second : List ε) :
    run step s (first ++ second) = run step (run step s first) second :=
  List.foldl_append

/-- One more event is one more step at the end. Most run lemmas are proved by
this equation. -/
theorem run_concat (s : σ) (es : List ε) (e : ε) :
    run step s (es ++ [e]) = step (run step s es) e := by
  rw [run_append]
  rfl

/-- Inputs that stand for one input of another machine, or for none. A run of
the one is a run of the other. -/
theorem run_filterMap {ι : Type*} {f : ι → Option ε} {outer : σ → ι → σ}
    (h : ∀ s i, outer s i = (f i).elim s (step s)) (s : σ) (inputs : List ι) :
    run outer s inputs = run step s (inputs.filterMap f) := by
  induction inputs generalizing s with
  | nil => rfl
  | cons i inputs ih =>
      rw [run_cons, h, ih]
      cases hInput : f i with
      | none => rw [List.filterMap_cons_none hInput, Option.elim_none]
      | some e => rw [List.filterMap_cons_some hInput, Option.elim_some, run_cons]

/-- A relation that is reflexive, transitive and contains every step relates
the ends of every run. -/
theorem run_rel (rel : σ → σ → Prop) (hRefl : ∀ s, rel s s)
    (hTrans : ∀ {s t u}, rel s t → rel t u → rel s u) (hStep : ∀ s e, rel s (step s e))
    (s : σ) (es : List ε) : rel s (run step s es) := by
  induction es generalizing s with
  | nil => exact hRefl s
  | cons e es ih => exact hTrans (hStep s e) (ih (step s e))

/-- An invariant kept by one step holds after any run. Most of the safety
results end with this rule. -/
theorem run_invariant {inv : σ → Prop} (hStep : ∀ s e, inv s → inv (step s e))
    {s : σ} (h : inv s) (es : List ε) : inv (run step s es) := by
  induction es generalizing s with
  | nil => exact h
  | cons e es ih => exact ih (hStep s e h)

/-- An invariant that also speaks of the inputs taken so far. It is kept when a
step keeps it for one more input. -/
theorem run_history {inv : List ε → σ → Prop} {s : σ} (hStart : inv [] s)
    (hStep : ∀ es e, inv es (run step s es) → inv (es ++ [e]) (step (run step s es) e))
    (es : List ε) : inv es (run step s es) := by
  induction es using List.reverseRecOn with
  | nil => exact hStart
  | append_singleton es e ih =>
      rw [run_concat]
      exact hStep es e ih

/-- Every state passed through by a run, the first and the last included. A
safety property is about all of them. -/
def Always (law : σ → Prop) (start : σ) (inputs : List ε) : Prop :=
  ∀ before after, inputs = before ++ after → law (run step start before)

/-- The condition holds of each input at the state in which it is taken. This
is how a condition on single steps is said of a run. -/
def EachStep (condition : σ → ε → Prop) : σ → List ε → Prop
  | _, [] => True
  | s, e :: es => condition s e ∧ EachStep condition (step s e) es

instance EachStep.decidable {condition : σ → ε → Prop}
    [inst : (s : σ) → (e : ε) → Decidable (condition s e)] :
    (s : σ) → (es : List ε) → Decidable (EachStep step condition s es)
  | _, [] => .isTrue trivial
  | s, e :: es =>
      @instDecidableAnd _ _ (inst s e) (EachStep.decidable (step s e) es)

/-- A condition on each step holds of a run if it holds of both of its parts. -/
theorem eachStep_append {condition : σ → ε → Prop} {s : σ} {first second : List ε} :
    EachStep step condition s (first ++ second) ↔
      EachStep step condition s first ∧ EachStep step condition (run step s first) second := by
  induction first generalizing s with
  | nil => simp [EachStep]
  | cons e es ih => simp [EachStep, ih, and_assoc]

theorem EachStep.imp {weak strong : σ → ε → Prop} (h : ∀ s e, strong s e → weak s e)
    {s : σ} {es : List ε} (hs : EachStep step strong s es) : EachStep step weak s es := by
  induction es generalizing s with
  | nil => exact hs
  | cons e es ih => exact ⟨h s e hs.1, ih hs.2⟩

/-- A run whose steps all meet the condition meets it at each place, for the
state that the inputs before it have led to. -/
theorem eachStep_iff {condition : σ → ε → Prop} {s : σ} {es : List ε} :
    EachStep step condition s es ↔
      ∀ before e after, es = before ++ e :: after → condition (run step s before) e := by
  constructor
  · rintro h before e after rfl
    exact ((eachStep_append step).mp h).2.1
  · intro h
    induction es generalizing s with
    | nil => trivial
    | cons e es ih =>
        refine ⟨h [] e es rfl, ih ?_⟩
        rintro before e' after rfl
        exact h (e :: before) e' after rfl

/-- A condition that does not look at the state is met along a run if each
input meets it. -/
theorem EachStep.of_forall {condition : ε → Prop} {es : List ε} (h : ∀ e ∈ es, condition e) (s : σ) :
    EachStep step (fun _ e => condition e) s es := by
  induction es generalizing s with
  | nil => trivial
  | cons e es ih =>
      exact ⟨h e (List.mem_cons_self ..), ih (fun e' he => h e' (List.mem_cons_of_mem e he)) _⟩

/-- An invariant kept by every step that meets the condition holds after a run
of such steps. -/
theorem run_invariant_of_eachStep {inv : σ → Prop} {condition : σ → ε → Prop}
    (hStep : ∀ s e, inv s → condition s e → inv (step s e))
    {s : σ} (h : inv s) {es : List ε} (hEach : EachStep step condition s es) :
    inv (run step s es) := by
  induction es generalizing s with
  | nil => exact h
  | cons e es ih => exact ih (hStep s e h hEach.1) hEach.2

/-- What the invariant gives holds in every state of a run whose steps meet the
condition. -/
theorem always_of_eachStep {inv law : σ → Prop} {condition : σ → ε → Prop}
    (hStep : ∀ s e, inv s → condition s e → inv (step s e)) (hLaw : ∀ s, inv s → law s)
    {s : σ} (h : inv s) {es : List ε} (hEach : EachStep step condition s es) :
    Always step law s es := by
  rintro before after rfl
  exact hLaw _ (run_invariant_of_eachStep step hStep h ((eachStep_append step).mp hEach).1)

/-- A law that does not hold at the beginning of a run but at its end has come
to hold with one of the inputs, and has held ever since. -/
theorem exists_since {law : σ → Prop} {start : σ} {inputs : List ε} (hStart : ¬law start)
    (hEnd : law (run step start inputs)) :
    ∃ before e after, inputs = before ++ e :: after ∧ ¬law (run step start before) ∧
      ∀ mid rest, after = mid ++ rest → law (run step start (before ++ e :: mid)) := by
  induction inputs using List.reverseRecOn with
  | nil => exact absurd hEnd hStart
  | append_singleton es last ih =>
      by_cases hBefore : law (run step start es)
      · obtain ⟨before, e, after, rfl, hNot, hSince⟩ := ih hBefore
        refine ⟨before, e, after ++ [last], by simp, hNot, fun mid rest h => ?_⟩
        rcases List.eq_nil_or_concat rest with rfl | ⟨rest, x, rfl⟩
        · rw [List.append_nil] at h
          rw [← h]
          simpa using hEnd
        · have hAssoc : after ++ [last] = (mid ++ rest) ++ [x] := by simpa using h
          exact hSince mid rest (List.append_inj' hAssoc rfl).1
      · refine ⟨es, last, [], rfl, hBefore, fun mid rest h => ?_⟩
        obtain ⟨rfl, rfl⟩ := List.append_eq_nil_iff.mp h.symm
        exact hEnd

/-- A list that is empty at first and that no step extends by more than one
item has been each of its beginnings. -/
theorem exists_prefix {ι : Type*} {view : σ → List ι}
    (hStep : ∀ s e, view (step s e) = view s ∨ ∃ x, view (step s e) = view s ++ [x]) {start : σ}
    (hStart : view start = []) {inputs : List ε} {xs : List ι}
    (h : xs <+: view (run step start inputs)) :
    ∃ before after, inputs = before ++ after ∧ view (run step start before) = xs := by
  induction inputs using List.reverseRecOn with
  | nil =>
      refine ⟨[], [], rfl, ?_⟩
      rw [run_nil, hStart] at h ⊢
      exact (List.prefix_nil.mp h).symm
  | append_singleton es e ih =>
      rw [run_concat] at h
      have hEarlier (h : xs <+: view (run step start es)) :
          ∃ before after, es ++ [e] = before ++ after ∧ view (run step start before) = xs := by
        obtain ⟨before, after, rfl, hView⟩ := ih h
        exact ⟨before, after ++ [e], by simp, hView⟩
      rcases hStep (run step start es) e with hSame | ⟨x, hMore⟩
      · rw [hSame] at h
        exact hEarlier h
      · rw [hMore, List.prefix_concat_iff] at h
        rcases h with rfl | h
        · refine ⟨es ++ [e], [], by simp, ?_⟩
          rw [run_concat]
          exact hMore
        · exact hEarlier h

end Library.Trace
