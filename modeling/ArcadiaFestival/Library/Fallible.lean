import Mathlib.Data.List.Forall2

/-! Inversion of computations that may fail: what is known when they return. -/
namespace Library.Fallible

universe u v w

variable {ε : Type v} {κ : Type w} {α β : Type u}

/-- A sequence of two computations has returned exactly if both have, the
second on the value of the first. Every inversion of a larger computation
begins with this rule. -/
theorem bind_ok {x : Except ε α} {f : α → Except ε β} {b : β} :
    (x >>= f) = .ok b ↔ ∃ a, x = .ok a ∧ f a = .ok b := by
  cases x with
  | error e => simp [bind, Except.bind]
  | ok a => simp [bind, Except.bind]

/-- A function applied to the value changes neither whether there is one nor
the error. -/
theorem map_ok {x : Except ε α} {f : α → β} {b : β} :
    (f <$> x) = .ok b ↔ ∃ a, x = .ok a ∧ f a = b := by
  cases x with
  | error e => simp [Functor.map, Except.map]
  | ok a => simp [Functor.map, Except.map]

/-- The computation that returns at once returns this value and no other. -/
theorem pure_ok {a b : α} : (pure a : Except ε α) = .ok b ↔ a = b := by
  simp [pure, Except.pure]

/-- The results of a list of computations come from its elements, in order. -/
theorem mapM_cons_ok {f : α → Except ε β} {x : α} {xs : List α} {ys : List β} :
    (x :: xs).mapM f = .ok ys ↔ ∃ y zs, f x = .ok y ∧ xs.mapM f = .ok zs ∧ ys = y :: zs := by
  rw [List.mapM_cons, bind_ok]
  constructor
  · rintro ⟨y, hy, h⟩
    obtain ⟨zs, hzs, h⟩ := bind_ok.mp h
    exact ⟨y, zs, hy, hzs, (pure_ok.mp h).symm⟩
  · rintro ⟨y, zs, hy, hzs, rfl⟩
    exact ⟨y, hy, bind_ok.mpr ⟨zs, hzs, rfl⟩⟩

theorem exists_of_mapM_ok {f : α → Except ε β} {xs : List α} {ys : List β}
    (h : xs.mapM f = .ok ys) {x : α} (hx : x ∈ xs) : ∃ y, f x = .ok y := by
  induction xs generalizing ys with
  | nil => cases hx
  | cons x' xs ih =>
      obtain ⟨z, zs, hz, hzs, rfl⟩ := mapM_cons_ok.mp h
      rcases List.mem_cons.mp hx with rfl | hx
      · exact ⟨z, hz⟩
      · exact ih hzs hx

/-- A list of computations returns a list of results exactly if each of them
returns the result in its place. -/
theorem mapM_ok_iff {f : α → Except ε β} {xs : List α} {ys : List β} :
    xs.mapM f = .ok ys ↔ List.Forall₂ (fun x y => f x = .ok y) xs ys := by
  induction xs generalizing ys with
  | nil =>
      rw [List.mapM_nil, pure_ok, List.forall₂_nil_left_iff]
      exact eq_comm
  | cons x xs ih =>
      rw [mapM_cons_ok, List.forall₂_cons_left_iff]
      constructor
      · rintro ⟨y, zs, hy, hzs, rfl⟩
        exact ⟨y, zs, hy, ih.mp hzs, rfl⟩
      · rintro ⟨y, zs, hy, hzs, rfl⟩
        exact ⟨y, zs, hy, ih.mpr hzs, rfl⟩

/-- A list of computations returns if each of them does. -/
theorem mapM_ok_of_forall {f : α → Except ε β} {xs : List α} (h : ∀ x ∈ xs, ∃ y, f x = .ok y) :
    ∃ ys, xs.mapM f = .ok ys := by
  induction xs with
  | nil => exact ⟨[], rfl⟩
  | cons x xs ih =>
      obtain ⟨y, hy⟩ := h x (List.mem_cons_self ..)
      obtain ⟨ys, hys⟩ := ih fun x' hx' => h x' (List.mem_cons_of_mem x hx')
      exact ⟨y :: ys, mapM_cons_ok.mpr ⟨y, ys, hy, hys, rfl⟩⟩

/-- The results are those of the elements, so that a fact about each result is
a fact about what an element gives. -/
theorem mem_mapM_ok {f : α → Except ε β} {xs : List α} {ys : List β} (h : xs.mapM f = .ok ys)
    (y : β) : y ∈ ys ↔ ∃ x ∈ xs, f x = .ok y := by
  induction xs generalizing ys with
  | nil =>
      obtain rfl := pure_ok.mp h
      simp
  | cons x xs ih =>
      obtain ⟨z, zs, hz, hzs, rfl⟩ := mapM_cons_ok.mp h
      rw [List.mem_cons, ih hzs]
      constructor
      · rintro (rfl | ⟨x', hx', hy⟩)
        · exact ⟨x, List.mem_cons_self .., hz⟩
        · exact ⟨x', List.mem_cons_of_mem _ hx', hy⟩
      · rintro ⟨x', hx', hy⟩
        rcases List.mem_cons.mp hx' with rfl | hx'
        · exact Or.inl (Except.ok.inj (hy.symm.trans hz))
        · exact Or.inr ⟨x', hx', hy⟩

/-- What the results show of themselves is what the elements show. -/
theorem map_mapM_ok {f : α → Except ε β} {g : β → κ} {k : α → κ} {xs : List α} {ys : List β}
    (h : xs.mapM f = .ok ys) (hKey : ∀ x y, x ∈ xs → f x = .ok y → g y = k x) :
    ys.map g = xs.map k := by
  induction xs generalizing ys with
  | nil =>
      obtain rfl := pure_ok.mp h
      rfl
  | cons x xs ih =>
      obtain ⟨z, zs, hz, hzs, rfl⟩ := mapM_cons_ok.mp h
      rw [List.map_cons, List.map_cons, hKey x z (List.mem_cons_self ..) hz,
        ih hzs fun x y hx => hKey x y (List.mem_cons_of_mem _ hx)]

/-- Whatever the computation fails with, it satisfies `p`. -/
def Raises (p : ε → Prop) (x : Except ε α) : Prop := ∀ e, x = .error e → p e

section Raises
variable {p : ε → Prop}

theorem raises_ok (a : α) : Raises p (.ok a : Except ε α) := by
  intro e h
  cases h

theorem raises_error {e : ε} (h : p e) : Raises p (.error e : Except ε α) := by
  intro e' he
  obtain rfl := Except.error.inj he
  exact h

/-- A weaker property of the errors follows from a stronger one. -/
theorem Raises.imp {q : ε → Prop} {x : Except ε α} (hx : Raises p x) (h : ∀ e, p e → q e) :
    Raises q x := fun e he => h e (hx e he)

theorem Raises.bind {x : Except ε α} {f : α → Except ε β} (hx : Raises p x)
    (hf : ∀ a, Raises p (f a)) : Raises p (x >>= f) := by
  cases x with
  | error e => exact raises_error (hx e rfl)
  | ok a => exact hf a

theorem Raises.map {x : Except ε α} (hx : Raises p x) (f : α → β) : Raises p (x.map f) := by
  cases x with
  | error e => exact raises_error (hx e rfl)
  | ok a => exact raises_ok (f a)

/-- A loop that collects results fails as one of its steps does. -/
theorem Raises.mapM {f : α → Except ε β} (hf : ∀ a, Raises p (f a)) (xs : List α) :
    Raises p (xs.mapM f) := by
  induction xs with
  | nil => exact raises_ok []
  | cons x xs ih =>
      rw [List.mapM_cons]
      exact (hf x).bind fun y => ih.bind fun ys => raises_ok (y :: ys)

/-- A loop with an accumulator fails as one of its steps does, whatever it has
accumulated so far. -/
theorem Raises.foldlM {f : β → α → Except ε β} (hf : ∀ b a, Raises p (f b a)) (xs : List α) (b : β) :
    Raises p (xs.foldlM f b) := by
  induction xs generalizing b with
  | nil => exact raises_ok b
  | cons x xs ih => exact (hf b x).bind fun next => ih next

end Raises
end Library.Fallible
