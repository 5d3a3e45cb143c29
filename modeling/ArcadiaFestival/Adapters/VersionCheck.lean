import ArcadiaFestival.Adapters.RowErrors

/-! Who raises `CONCURRENT_MODIFICATION`: the version check of `save` and nothing
else that a use case calls once it has begun to load the festival. -/
namespace Arcadia
open Library Fallible

/-- The error is not the one that asks to retry after a concurrent
modification. -/
def Exn.Other (e : Exn) : Prop := e.reason ≠ "CONCURRENT_MODIFICATION"

instance (e : Exn) : Decidable e.Other := inferInstanceAs (Decidable (_ ≠ _))

/-- A built-in exception carries no reason, so that it is none that asks for a
retry. -/
theorem Exn.Builtin.other {e : Exn} (h : e.Builtin) : e.Other := by
  obtain ⟨cls, message, rfl⟩ := h
  show "" ≠ "CONCURRENT_MODIFICATION"
  decide

/-- Two times of which only one has an offset cannot be compared. -/
theorem DateTime.le_raises (a b : DateTime) : Raises Exn.Other (a.le b) := by
  unfold DateTime.le
  split
  · exact raises_ok _
  · exact raises_ok _
  · exact raises_error (by decide)

/-- The window of a festival is compared with itself and with the present. It
can fail as comparisons do, or be refused. -/
theorem checkWindow_raises (startsAt endsAt now : DateTime) :
    Raises Exn.Other (checkWindow startsAt endsAt now) := by
  refine (DateTime.le_raises _ _).bind fun early => ?_
  cases early with
  | true => exact raises_error (by decide)
  | false =>
      refine (DateTime.le_raises _ _).bind fun late => ?_
      cases late with
      | true => exact raises_error (by decide)
      | false => exact raises_ok ()

/-- Whatever the method raises, it satisfies `p`. The rules below take a method
apart by the shape of its code. -/
def Method.Raises {σ α : Type} (p : Exn → Prop) (m : Method σ α) : Prop :=
  ∀ s, Fallible.Raises p (m.run s).1

namespace Method
variable {σ α β : Type} {p : Exn → Prop}

/-- A method that has come to its end has not failed. -/
theorem raises_pure (a : α) : Raises p (pure a : Method σ α) := fun _ => raises_ok a

/-- A method fails with what it throws. -/
theorem raises_throw {e : Exn} (h : p e) : Raises p (throw e : Method σ α) :=
  fun _ => raises_error h

/-- Setting a field of the festival does not fail. -/
theorem raises_modify (f : σ → σ) : Raises p (modify f : Method σ PUnit) := fun _ => raises_ok _

/-- A computation on values fails in a method as it does alone. -/
theorem raises_lift {result : Except Exn α} (h : Fallible.Raises p result) :
    Raises p (lift result : Method σ α) := fun _ => h

/-- A method that goes on fails as its first part or as its second, as in a
transaction. -/
theorem Raises.bind {m : Method σ α} {g : α → Method σ β} (hm : Raises p m)
    (hg : ∀ a, Raises p (g a)) : Raises p (m >>= g) := by
  intro s
  rw [run_bind]
  have hs := hm s
  rcases h : m.run s with ⟨_ | a, s'⟩
  · rw [h] at hs
    exact raises_error (hs _ rfl)
  · exact hg a s'

/-- Both branches of a test count, since the test depends on the festival. -/
theorem raises_ite {c : Prop} [Decidable c] {m n : Method σ α} (hm : Raises p m)
    (hn : Raises p n) : Raises p (if c then m else n) := by
  split
  · exact hm
  · exact hn

/-- A method that checks a condition first fails with the error of the check,
or with what the rest of it fails with. -/
theorem raises_unless {c : Prop} [Decidable c] {e : Exn} {m : Method σ Unit} (he : p e)
    (hm : Raises p m) : Raises p (if c then (throw e : Method σ Unit) >>= fun _ => m else m) :=
  raises_ite ((raises_throw he).bind fun _ => hm) hm

/-- Reading the festival first lets the rest depend on it, and adds no failure. -/
theorem raises_get_bind {g : σ → Method σ β} (hg : ∀ s, Raises p (g s)) :
    Raises p ((get : Method σ σ) >>= g) := fun s => hg s s

end Method

/-- No method of a festival reports a conflict of versions, so that only the
check of `save` can. -/
theorem method_raises (operation : Festival.Operation) :
    Method.Raises Exn.Other operation.method := by
  have hWrong (action : String) (state : FestivalState) :
      (Festival.wrongState action state).Other := by
    show reasonWrongState ≠ _
    decide
  have hEditable (action : String) : Method.Raises Exn.Other (Festival.requireEditable action) := by
    apply Method.raises_get_bind
    intro self
    exact Method.raises_ite (Method.raises_throw (hWrong _ _)) (Method.raises_pure ())
  have hAssign (f g : Festival → Festival) :
      Method.Raises Exn.Other (do modify f; modify g : Method Festival Unit) :=
    (Method.raises_modify f).bind fun _ => Method.raises_modify g
  cases operation with
  | reschedule startsAt endsAt now =>
      apply Method.raises_get_bind
      intro self
      have hRest := (Method.raises_lift (σ := Festival) (checkWindow_raises startsAt endsAt now)).bind
        fun _ => hAssign (fun self => { self with startsAt := startsAt })
          fun self => { self with endsAt := endsAt }
      exact Method.raises_unless (hWrong _ _) hRest
  | addGame gameId title developerId addedBy now =>
      apply (hEditable _).bind
      intro _
      apply Method.raises_get_bind
      intro self
      refine Method.raises_unless ?_ (Method.raises_modify _)
      show reasonGameAlreadySelected ≠ _
      decide
  | removeGame gameId =>
      apply (hEditable _).bind
      intro _
      apply Method.raises_get_bind
      intro self
      refine Method.raises_unless ?_ (Method.raises_modify _)
      show reasonGameNotSelected ≠ _
      decide
  | start now =>
      apply Method.raises_get_bind
      intro self
      have hRest := hAssign (fun self => { self with state := .active })
        fun self => { self with startedAt := some now }
      have hGames : Method.Raises Exn.Other (do
          if self.games.rows.isEmpty then
            throw (failedPrecondition
              "a festival needs at least one selected game before it can start" reasonNoGames)
          modify fun self => { self with state := .active }
          modify fun self => { self with startedAt := some now } : Method Festival Unit) := by
        exact Method.raises_unless (by decide) hRest
      exact Method.raises_unless (hWrong _ _) hGames
  | end_ now =>
      apply Method.raises_get_bind
      intro self
      have hRest := hAssign (fun self => { self with state := .ended })
        fun self => { self with endedAt := some now }
      exact Method.raises_unless (hWrong _ _) hRest
  | cancel now =>
      apply Method.raises_get_bind
      intro self
      have hRest := hAssign (fun self => { self with state := .cancelled })
        fun self => { self with endedAt := some now }
      exact Method.raises_unless (hWrong _ _) hRest

end Arcadia
