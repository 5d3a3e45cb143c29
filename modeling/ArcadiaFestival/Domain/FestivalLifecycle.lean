import ArcadiaFestival.Domain.Festival
import ArcadiaFestival.Library.Trace

/-! What holds of a festival at every moment of its life, whatever is asked of it
in whatever order. -/
namespace Arcadia.Festival
open Library

/-- The fields after one call, whether it returned or raised. A run of calls is
a list of operations folded with this. -/
def after (f : Festival) (op : Operation) : Festival := (op.method.run f).2

/-- An operation is refused and leaves the festival, or has its effect. -/
theorem after_cases (f : Festival) (op : Operation) : f.after op = f ∨ Effect f op (f.after op) := by
  rcases op.run_cases f with ⟨e, h⟩ | ⟨f', h, hEffect⟩
  · exact Or.inl (by rw [after, h])
  · exact Or.inr (by rwa [after, h])

/-- The invariant of the aggregate: its texts are in their bounds, its window
is proper, and its times are those that its state asks for. -/
structure Lifecycle (f : Festival) : Prop where
  name_nonempty : f.name ≠ ""
  name_stripped : Text.strip f.name = f.name
  name_length : Text.length f.name ≤ 200
  description_length : Text.length f.description ≤ 4000
  window : DateTime.Before f.startsAt f.endsAt
  draft_iff : f.state = .draft ↔ f.startedAt = none ∧ f.endedAt = none
  active_iff : f.state = .active ↔ f.startedAt.isSome = true ∧ f.endedAt = none
  ended : f.state = .ended → f.startedAt.isSome = true ∧ f.endedAt.isSome = true
  cancelled : f.state = .cancelled → f.endedAt.isSome = true
  games_keyed : ∀ gameId game, f.games.get? gameId = some game → game.gameId = gameId

/-- The allowed steps between states. A draft can be started or cancelled, a
running sale can be ended or cancelled, and nothing comes after. -/
inductive Edge : FestivalState → FestivalState → Prop where
  | start : Edge .draft .active
  | end_ : Edge .active .ended
  | cancelDraft : Edge .draft .cancelled
  | cancelActive : Edge .active .cancelled

/-- What can never be taken back: a recorded time, the window once the draft is
over, and everything about a festival that is over. -/
structure Settled (f f' : Festival) : Prop where
  startedAt : ∀ t, f.startedAt = some t → f'.startedAt = some t
  endedAt : ∀ t, f.endedAt = some t → f'.endedAt = some t
  left_draft : f.state ≠ .draft → f'.state ≠ .draft
  window : f.state ≠ .draft → f'.startsAt = f.startsAt ∧ f'.endsAt = f.endsAt
  terminal : f.state = .ended ∨ f.state = .cancelled → f' = f

theorem Settled.refl (f : Festival) : Settled f f :=
  ⟨fun _ h => h, fun _ h => h, fun h => h, fun _ => ⟨rfl, rfl⟩, fun _ => rfl⟩

theorem Settled.trans {f g h : Festival} (hfg : Settled f g) (hgh : Settled g h) : Settled f h where
  startedAt t ht := hgh.startedAt t (hfg.startedAt t ht)
  endedAt t ht := hgh.endedAt t (hfg.endedAt t ht)
  left_draft hs := hgh.left_draft (hfg.left_draft hs)
  window hs := by
    obtain ⟨hStart, hEnd⟩ := hfg.window hs
    obtain ⟨hStart', hEnd'⟩ := hgh.window (hfg.left_draft hs)
    exact ⟨hStart'.trans hStart, hEnd'.trans hEnd⟩
  terminal hs := by
    obtain rfl := hfg.terminal hs
    exact hgh.terminal hs

/-- Everything `create` accepts satisfies the invariant, so that a run of
operations can begin with it. -/
theorem create_lifecycle {festivalId name description createdBy : String}
    {startsAt endsAt now : DateTime} {f : Festival}
    (h : create festivalId name description startsAt endsAt createdBy now = .ok f) :
    Lifecycle f := by
  simp only [create, bind, Except.bind, throw, throwThe, MonadExceptOf.throw, pure, Except.pure] at h
  split_ifs at h with hEmpty hLong
  split at h
  · cases h
  · rename_i hWindow
    obtain rfl := Except.ok.inj h
    exact {
      name_nonempty := hEmpty
      name_stripped := Text.strip_idem name
      name_length := Nat.not_lt.mp hLong
      description_length := Text.length_truncate_le 4000 _
      window := (checkWindow_ok hWindow).1
      draft_iff := by simp
      active_iff := by simp
      ended := by simp
      cancelled := by simp
      games_keyed := by simp [Dict.get?_empty] }

/-- A festival that was just built is a draft of the id and the time that it
was built with. -/
theorem create_new {festivalId name description createdBy : String}
    {startsAt endsAt now : DateTime} {f : Festival}
    (h : create festivalId name description startsAt endsAt createdBy now = .ok f) :
    f.id = festivalId ∧ f.createdAt = now ∧ f.state = .draft := by
  simp only [create, bind, Except.bind, throw, throwThe, MonadExceptOf.throw, pure, Except.pure] at h
  split_ifs at h
  split at h
  · cases h
  · obtain rfl := Except.ok.inj h
    exact ⟨rfl, rfl, rfl⟩

/-- Every effect keeps the invariants of a festival, one case for each
operation. -/
theorem Effect.lifecycle {f f' : Festival} {op : Operation} (h : Effect f op f')
    (hf : Lifecycle f) : Lifecycle f' := by
  cases h with
  | reschedule draft window => exact { hf with window := window }
  | @addGame gameId title developerId addedBy now editable absent =>
      refine { hf with games_keyed := ?_ }
      intro k game hGame
      rw [Dict.get?_set] at hGame
      split_ifs at hGame with hk
      · obtain rfl := Option.some.inj hGame
        exact hk
      · exact hf.games_keyed k game hGame
  | removeGame editable selected =>
      refine { hf with games_keyed := ?_ }
      intro k game hGame
      rw [Dict.get?_erase] at hGame
      split_ifs at hGame with hk
      exact hf.games_keyed k game hGame
  | start draft games =>
      have hNone := hf.draft_iff.mp draft
      exact { hf with
        draft_iff := by simp
        active_iff := by simp [hNone.2]
        ended := by simp
        cancelled := by simp }
  | end_ active =>
      have hSome := (hf.active_iff.mp active).1
      exact { hf with
        draft_iff := by simp
        active_iff := by simp
        ended := by simp [hSome]
        cancelled := by simp }
  | cancel running =>
      exact { hf with
        draft_iff := by simp
        active_iff := by simp
        ended := by simp
        cancelled := by simp }

/-- An effect leaves the state, or moves along an edge of the lifecycle. -/
theorem Effect.edge {f f' : Festival} {op : Operation} (h : Effect f op f') :
    f'.state = f.state ∨ Edge f.state f'.state := by
  cases h with
  | reschedule draft window => exact Or.inl rfl
  | addGame editable absent => exact Or.inl rfl
  | removeGame editable selected => exact Or.inl rfl
  | start draft games => exact Or.inr (by rw [draft]; exact Edge.start)
  | end_ active => exact Or.inr (by rw [active]; exact Edge.end_)
  | cancel running =>
      rcases running with h | h
      · exact Or.inr (by rw [h]; exact Edge.cancelDraft)
      · exact Or.inr (by rw [h]; exact Edge.cancelActive)

/-- What a festival has gone through is never taken back. The times of its
start and of its end stay, and it does not become a draft again. -/
theorem Effect.settled {f f' : Festival} {op : Operation} (h : Effect f op f')
    (hf : Lifecycle f) : Settled f f' := by
  have hTerminal (s : FestivalState) (he : s = .draft ∨ s = .active)
      (ht : s = .ended ∨ s = .cancelled) : False := by
    rcases he with rfl | rfl
    · simp at ht
    · simp at ht
  cases h with
  | reschedule draft window =>
      exact {
        startedAt := fun _ ht => ht
        endedAt := fun _ ht => ht
        left_draft := fun hs => hs
        window := fun hs => absurd draft hs
        terminal := fun ht => (hTerminal _ (Or.inl draft) ht).elim }
  | addGame editable absent =>
      exact {
        startedAt := fun _ ht => ht
        endedAt := fun _ ht => ht
        left_draft := fun hs => hs
        window := fun _ => ⟨rfl, rfl⟩
        terminal := fun ht => (hTerminal _ editable ht).elim }
  | removeGame editable selected =>
      exact {
        startedAt := fun _ ht => ht
        endedAt := fun _ ht => ht
        left_draft := fun hs => hs
        window := fun _ => ⟨rfl, rfl⟩
        terminal := fun ht => (hTerminal _ editable ht).elim }
  | start draft games =>
      have hNone := (hf.draft_iff.mp draft).1
      exact {
        startedAt := fun t ht => by simp [hNone] at ht
        endedAt := fun _ ht => ht
        left_draft := fun _ => by simp
        window := fun hs => absurd draft hs
        terminal := fun ht => (hTerminal _ (Or.inl draft) ht).elim }
  | end_ active =>
      have hNone := (hf.active_iff.mp active).2
      exact {
        startedAt := fun _ ht => ht
        endedAt := fun t ht => by simp [hNone] at ht
        left_draft := fun _ => by simp
        window := fun _ => ⟨rfl, rfl⟩
        terminal := fun ht => (hTerminal _ (Or.inr active) ht).elim }
  | cancel running =>
      have hNone : f.endedAt = none := by
        rcases running with h | h
        · exact (hf.draft_iff.mp h).2
        · exact (hf.active_iff.mp h).2
      exact {
        startedAt := fun _ ht => ht
        endedAt := fun t ht => by simp [hNone] at ht
        left_draft := fun _ => by simp
        window := fun _ => ⟨rfl, rfl⟩
        terminal := fun ht => (hTerminal _ running ht).elim }

theorem Effect.left_draft {f f' : Festival} {op : Operation} (h : Effect f op f')
    (hState : f.state ≠ .draft) : f'.state ≠ .draft := by
  cases h with
  | reschedule draft window => exact absurd draft hState
  | addGame editable absent => exact hState
  | removeGame editable selected => exact hState
  | start draft games => exact absurd draft hState
  | end_ active => simp
  | cancel running => simp

/-- A game entry stays as it is under every operation but its own removal.
Adding a game that is there is refused. -/
theorem Effect.game {f f' : Festival} {op : Operation} (h : Effect f op f') {gameId : String}
    {game : FestivalGame} (hGame : f.games.get? gameId = some game)
    (hOp : op ≠ .removeGame gameId) : f'.games.get? gameId = some game := by
  cases h with
  | @addGame g title developerId addedBy now editable absent =>
      have hne : g ≠ gameId := by
        rintro rfl
        simp [hGame] at absent
      simpa [Dict.get?_set_ne _ _ hne] using hGame
  | @removeGame g editable selected =>
      have hne : g ≠ gameId := fun he => hOp (by rw [he])
      simpa [Dict.get?_erase, hne] using hGame
  | reschedule draft window => exact hGame
  | start draft games => exact hGame
  | end_ active => exact hGame
  | cancel running => exact hGame

/-- No operation changes an entry in place. -/
theorem Effect.game_or_none {f f' : Festival} {op : Operation} (h : Effect f op f')
    {gameId : String} {game : FestivalGame} (hGame : f.games.get? gameId = some game) :
    f'.games.get? gameId = some game ∨ f'.games.get? gameId = none := by
  by_cases hOp : op = .removeGame gameId
  · subst hOp
    cases h with
    | removeGame editable selected => exact Or.inr (by simp [Dict.get?_erase])
  · exact Or.inl (h.game hGame hOp)

/-- What an operation does to the entry of a game. It goes only when it is
removed, and comes only when it is added. -/
theorem Effect.game_cases {f f' : Festival} {op : Operation} (h : Effect f op f') (gameId : String) :
    f'.games.get? gameId = f.games.get? gameId ∨
    (op = .removeGame gameId ∧ f'.games.get? gameId = none) ∨
    ∃ title developerId addedBy now, op = .addGame gameId title developerId addedBy now ∧
      (f.state = .draft ∨ f.state = .active) ∧ f.games.get? gameId = none ∧
      f'.games.get? gameId = some ⟨gameId, title, developerId, addedBy, now⟩ := by
  cases h with
  | @addGame added title developerId addedBy now editable absent =>
      by_cases hHere : added = gameId
      · subst hHere
        exact Or.inr (Or.inr ⟨title, developerId, addedBy, now, rfl, editable, absent,
          Dict.get?_set_self ..⟩)
      · exact Or.inl (Dict.get?_set_ne _ _ hHere)
  | @removeGame removed editable selected =>
      by_cases hHere : removed = gameId
      · subst hHere
        exact Or.inr (Or.inl ⟨rfl, by rw [Dict.get?_erase, if_pos rfl]⟩)
      · exact Or.inl (by rw [Dict.get?_erase, if_neg hHere])
  | reschedule draft window => exact Or.inl rfl
  | start draft games => exact Or.inl rfl
  | end_ active => exact Or.inl rfl
  | cancel running => exact Or.inl rfl

theorem Effect.id {f f' : Festival} {op : Operation} (h : Effect f op f') : f'.id = f.id := by
  cases h <;> rfl

theorem Effect.version {f f' : Festival} {op : Operation} (h : Effect f op f') :
    f'.version = f.version := by
  cases h <;> rfl

theorem Effect.keyed {f f' : Festival} {op : Operation} (h : Effect f op f')
    (hf : ∀ entry ∈ f.games.rows, entry.2.gameId = entry.1) :
    ∀ entry ∈ f'.games.rows, entry.2.gameId = entry.1 := by
  cases h with
  | addGame editable absent =>
      intro entry hEntry
      rcases KeyedTable.mem_put.mp hEntry with rfl | ⟨hOld, _⟩
      · rfl
      · exact hf entry hOld
  | removeGame editable selected =>
      intro entry hEntry
      exact hf entry (KeyedTable.mem_erase.mp hEntry).1
  | reschedule draft window => exact hf
  | start draft games => exact hf
  | end_ active => exact hf
  | cancel running => exact hf

theorem after_lifecycle (f : Festival) (op : Operation) (hf : Lifecycle f) :
    Lifecycle (f.after op) := by
  rcases f.after_cases op with h | h
  · rwa [h]
  · exact h.lifecycle hf

theorem after_settled (f : Festival) (op : Operation) (hf : Lifecycle f) :
    Settled f (f.after op) := by
  rcases f.after_cases op with h | h
  · rw [h]
    exact Settled.refl f
  · exact h.settled hf

/-- From any festival that satisfies the invariant, nothing settled changes
during the rest of its life. -/
theorem run_settled {f : Festival} (hf : Lifecycle f) (ops : List Operation) :
    Settled f (Trace.run after f ops) := by
  induction ops generalizing f with
  | nil => exact Settled.refl f
  | cons op ops ih => exact (after_settled f op hf).trans (ih (after_lifecycle f op hf))

/-- What one call does to a festival: at most one step of the state, nothing at
all when it raises, and no change to any game entry but the one it removes. -/
structure Move (f : Festival) (op : Operation) : Prop where
  edge : (f.after op).state = f.state ∨ Edge f.state (f.after op).state
  raised : ∀ e, (op.method.run f).1 = .error e → f.after op = f
  game : ∀ gameId game, f.games.get? gameId = some game → op ≠ .removeGame gameId →
    (f.after op).games.get? gameId = some game

/-- Each call makes at most one step, changes nothing if it raises, and touches
no game but the one it removes. -/
theorem move (f : Festival) (op : Operation) : Move f op := by
  rcases op.run_cases f with ⟨e, h⟩ | ⟨f', h, hEffect⟩
  · have hSame : f.after op = f := by rw [after, h]
    exact {
      edge := Or.inl (by rw [hSame])
      raised := fun _ _ => hSame
      game := fun _ _ hGame _ => by rwa [hSame] }
  · have hAfter : f.after op = f' := by rw [after, h]
    exact {
      edge := by rw [hAfter]; exact hEffect.edge
      raised := fun e he => by rw [h] at he; cases he
      game := fun _ _ hGame hOp => by rw [hAfter]; exact hEffect.game hGame hOp }

/-- The life of a festival: the invariant at its end, which is any moment of a
longer life; what each call does; and what stays settled from any moment on. -/
theorem run_lifecycle {festivalId name description createdBy : String}
    {startsAt endsAt now : DateTime} {f₀ : Festival}
    (h : create festivalId name description startsAt endsAt createdBy now = .ok f₀)
    (ops : List Operation) :
    Lifecycle (Trace.run after f₀ ops) ∧
    (∀ before op rest, ops = before ++ op :: rest → Move (Trace.run after f₀ before) op) ∧
    (∀ before rest, ops = before ++ rest →
      Settled (Trace.run after f₀ before) (Trace.run after f₀ ops)) := by
  have hLife (ops : List Operation) : Lifecycle (Trace.run after f₀ ops) :=
    Trace.run_invariant after after_lifecycle (create_lifecycle h) ops
  refine ⟨hLife ops, fun _ _ _ _ => move _ _, ?_⟩
  rintro before rest rfl
  rw [Trace.run_append]
  exact run_settled (hLife before) rest

/-- A sale that is started with one game, ended, and asked to start again. -/
theorem run_lifecycle_summer_sale :
    ∃ f₀, create "fest-1" " Summer Sale" "" ⟨100, some 0⟩ ⟨200, some 0⟩ "admin-1" ⟨0, some 0⟩ = .ok f₀ ∧
      Lifecycle (Trace.run after f₀
        [.addGame "game-1" "Star Fox" "dev-1" "admin-1" ⟨1, some 0⟩, .start ⟨2, some 0⟩,
          .end_ ⟨3, some 0⟩, .start ⟨4, some 0⟩]) := by
  have h : create "fest-1" " Summer Sale" "" ⟨100, some 0⟩ ⟨200, some 0⟩ "admin-1" ⟨0, some 0⟩ =
    .ok _ := rfl
  exact ⟨_, h, (run_lifecycle h _).1⟩

end Arcadia.Festival
