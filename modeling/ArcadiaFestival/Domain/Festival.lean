import ArcadiaFestival.Library.KeyedTable
import ArcadiaFestival.Platform.Datetime
import ArcadiaFestival.Platform.Text

/-! The `Festival` aggregate. A method runs on the aggregate's fields and keeps the
assignments it made before it raised, so that an assignment ahead of a check would
be visible. -/
namespace Arcadia
open Library

def nameMax : Nat := 200
def descriptionMax : Nat := 4000

def reasonWrongState : String := "FESTIVAL_WRONG_STATE"
def reasonBadWindow : String := "FESTIVAL_WINDOW_INVALID"
def reasonNameRequired : String := "FESTIVAL_NAME_REQUIRED"
def reasonGameAlreadySelected : String := "GAME_ALREADY_IN_FESTIVAL"
def reasonGameNotSelected : String := "GAME_NOT_IN_FESTIVAL"
def reasonNoGames : String := "FESTIVAL_HAS_NO_GAMES"

inductive FestivalState where
  | draft
  | active
  | ended
  | cancelled
  deriving DecidableEq, Repr

/-- `str(state)` -/
def FestivalState.text : FestivalState → String
  | .draft => "DRAFT"
  | .active => "ACTIVE"
  | .ended => "ENDED"
  | .cancelled => "CANCELLED"

/-- `state in _EDITABLE` -/
def FestivalState.editable : FestivalState → Bool
  | .draft => true
  | .active => true
  | _ => false

/-- No operation is defined on a festival in one of these states. -/
def FestivalState.terminal (s : FestivalState) : Bool := !s.editable

/-- One game selected into a festival, with the title and developer it had
then. -/
structure FestivalGame where
  gameId : String
  title : String
  developerId : String
  addedBy : String
  addedAt : DateTime
  deriving DecidableEq, Repr

/-- A themed sale the platform runs over a fixed window. The fields are those
of the aggregate, and the games are kept in the order of their selection. -/
structure Festival where
  id : String
  name : String
  description : String
  startsAt : DateTime
  endsAt : DateTime
  state : FestivalState
  createdBy : String
  createdAt : DateTime
  startedAt : Option DateTime
  endedAt : Option DateTime
  games : Dict String FestivalGame
  version : Nat

/-- A method that may raise, on an object whose fields it assigns. What it has
assigned before it raises stays assigned. -/
abbrev Method (σ α : Type) := ExceptT Exn (StateM σ) α

namespace Method
variable {σ α β : Type}

/-- Call the method on an object: its result, and the object as it left it. -/
def run (m : Method σ α) (self : σ) : Except Exn α × σ := m self

/-- A function that touches no field, called from a method. -/
def lift (result : Except Exn α) : Method σ α := fun self => (result, self)

theorem run_bind (m : Method σ α) (g : α → Method σ β) (s : σ) :
    (m >>= g).run s = match m.run s with
      | (.ok a, s') => (g a).run s'
      | (.error e, s') => (.error e, s') := by
  change (match m s with | (a, s') => (ExceptT.bindCont g a) s') = _
  unfold run
  rcases m s with ⟨_ | a, s'⟩
  · rfl
  · rfl

@[simp] theorem run_get_bind (g : σ → Method σ β) (s : σ) :
    ((get : Method σ σ) >>= g).run s = (g s).run s := rfl

@[simp] theorem run_modify (f : σ → σ) (s : σ) :
    (modify f : Method σ PUnit).run s = (.ok ⟨⟩, f s) := rfl

@[simp] theorem run_modify_bind (f : σ → σ) (g : PUnit → Method σ β) (s : σ) :
    ((modify f : Method σ PUnit) >>= g).run s = (g ⟨⟩).run (f s) := rfl

@[simp] theorem run_throw (e : Exn) (s : σ) : (throw e : Method σ α).run s = (.error e, s) := rfl

@[simp] theorem run_pure (a : α) (s : σ) : (pure a : Method σ α).run s = (.ok a, s) := rfl

@[simp] theorem run_lift_bind (result : Except Exn α) (g : α → Method σ β) (s : σ) :
    (lift result >>= g).run s = match result with
      | .ok a => (g a).run s
      | .error e => (.error e, s) := by
  rw [run_bind]
  cases result with
  | error e => rfl
  | ok a => rfl

end Method

/-- `if b <= a: raise`, spelled for the comparisons of `_check_window`. -/
def checkWindow (startsAt endsAt now : DateTime) : Except Exn Unit := do
  if (← endsAt.le startsAt) then
    throw (invalidArgument "a festival must end after it starts" reasonBadWindow)
  if (← endsAt.le now) then
    throw (invalidArgument "a festival cannot end in the past" reasonBadWindow)

namespace Festival

def create (festivalId name description : String) (startsAt endsAt : DateTime)
    (createdBy : String) (now : DateTime) : Except Exn Festival := do
  let name := Text.strip name
  if name = "" then
    throw (invalidArgument "a festival needs a name" reasonNameRequired)
  if Text.length name > nameMax then
    throw (invalidArgument
      ("a festival name is at most " ++ toString nameMax ++ " characters") reasonNameRequired)
  checkWindow startsAt endsAt now
  pure {
    id := festivalId
    name := name
    description := Text.truncate descriptionMax (Text.strip description)
    startsAt := startsAt
    endsAt := endsAt
    state := .draft
    createdBy := createdBy
    createdAt := now
    startedAt := none
    endedAt := none
    games := .empty
    version := 0 }

def wrongState (action : String) (state : FestivalState) : Exn :=
  conflict ("cannot " ++ action ++ " a festival that is " ++ state.text) reasonWrongState
    [("state", state.text)]

/-- `_require_editable(action)` -/
def requireEditable (action : String) : Method Festival Unit := do
  let self ← get
  if ¬self.state.editable then throw (wrongState action self.state)

/-- Change the window. Only while nothing has actually started. -/
def reschedule (startsAt endsAt now : DateTime) : Method Festival Unit := do
  let self ← get
  if self.state ≠ .draft then throw (wrongState "reschedule" self.state)
  Method.lift (checkWindow startsAt endsAt now)
  modify fun self => { self with startsAt := startsAt }
  modify fun self => { self with endsAt := endsAt }

def addGame (gameId title developerId addedBy : String) (now : DateTime) :
    Method Festival Unit := do
  requireEditable "add a game to"
  let self ← get
  if (self.games.get? gameId).isSome then
    throw (alreadyExists ("game " ++ gameId ++ " is already in this festival")
      reasonGameAlreadySelected)
  modify fun self =>
    { self with games := self.games.set gameId ⟨gameId, title, developerId, addedBy, now⟩ }

def removeGame (gameId : String) : Method Festival Unit := do
  requireEditable "remove a game from"
  let self ← get
  if (self.games.get? gameId).isNone then
    throw (notFound ("game " ++ gameId ++ " is not in this festival") reasonGameNotSelected)
  modify fun self => { self with games := self.games.erase gameId }

def start (now : DateTime) : Method Festival Unit := do
  let self ← get
  if self.state ≠ .draft then throw (wrongState "start" self.state)
  if self.games.rows.isEmpty then
    throw (failedPrecondition "a festival needs at least one selected game before it can start"
      reasonNoGames)
  modify fun self => { self with state := .active }
  modify fun self => { self with startedAt := some now }

/-- Close the festival, whether the window ran out or an operator cut it short. -/
def end_ (now : DateTime) : Method Festival Unit := do
  let self ← get
  if self.state ≠ .active then throw (wrongState "end" self.state)
  modify fun self => { self with state := .ended }
  modify fun self => { self with endedAt := some now }

/-- Call the whole thing off before or during the run, never after. -/
def cancel (now : DateTime) : Method Festival Unit := do
  let self ← get
  if self.state ≠ .draft ∧ self.state ≠ .active then throw (wrongState "cancel" self.state)
  modify fun self => { self with state := .cancelled }
  modify fun self => { self with endedAt := some now }

/-- One call of one of the aggregate's six methods, with its arguments. -/
inductive Operation where
  | reschedule (startsAt endsAt now : DateTime)
  | addGame (gameId title developerId addedBy : String) (now : DateTime)
  | removeGame (gameId : String)
  | start (now : DateTime)
  | end_ (now : DateTime)
  | cancel (now : DateTime)
  deriving DecidableEq, Repr

def Operation.method : Operation → Method Festival Unit
  | .reschedule startsAt endsAt now => Festival.reschedule startsAt endsAt now
  | .addGame gameId title developerId addedBy now =>
      Festival.addGame gameId title developerId addedBy now
  | .removeGame gameId => Festival.removeGame gameId
  | .start now => Festival.start now
  | .end_ now => Festival.end_ now
  | .cancel now => Festival.cancel now

end Festival

theorem FestivalState.editable_iff {s : FestivalState} :
    s.editable = true ↔ s = .draft ∨ s = .active := by
  cases s <;> simp [FestivalState.editable]

theorem FestivalState.terminal_iff {s : FestivalState} :
    s.terminal = true ↔ s = .ended ∨ s = .cancelled := by
  cases s <;> simp [FestivalState.terminal, FestivalState.editable]

/-- The window check passes only when the window is not empty and not over.
Times that cannot be compared do not pass it either. -/
theorem checkWindow_ok {startsAt endsAt now : DateTime} {u : Unit}
    (h : checkWindow startsAt endsAt now = .ok u) :
    DateTime.Before startsAt endsAt ∧ DateTime.Before now endsAt := by
  simp only [checkWindow, bind, Except.bind, throw, throwThe, MonadExceptOf.throw] at h
  rcases hStart : endsAt.le startsAt with _ | ⟨_ | _⟩
  · simp [hStart] at h
  · rcases hNow : endsAt.le now with _ | ⟨_ | _⟩
    · simp [hStart, hNow] at h
    · exact ⟨hStart, hNow⟩
    · simp [hStart, hNow] at h
  · simp [hStart] at h

namespace Festival

@[simp] theorem run_requireEditable_bind {α : Type} (action : String)
    (g : Unit → Method Festival α) (f : Festival) :
    (requireEditable action >>= g).run f =
      if f.state.editable then (g ()).run f else (.error (wrongState action f.state), f) := by
  rw [Method.run_bind]
  by_cases h : f.state.editable = true
  · simp [requireEditable, h]
  · simp [requireEditable, h]

/-- What an operation that returns has done, with the guards it passed.
Everything about the lifecycle is proved by cases on this. -/
inductive Effect (f : Festival) : Operation → Festival → Prop where
  | reschedule {startsAt endsAt now : DateTime} (draft : f.state = .draft)
      (window : DateTime.Before startsAt endsAt) :
      Effect f (.reschedule startsAt endsAt now) { f with startsAt := startsAt, endsAt := endsAt }
  | addGame {gameId title developerId addedBy : String} {now : DateTime}
      (editable : f.state = .draft ∨ f.state = .active) (absent : f.games.get? gameId = none) :
      Effect f (.addGame gameId title developerId addedBy now)
        { f with games := f.games.set gameId ⟨gameId, title, developerId, addedBy, now⟩ }
  | removeGame {gameId : String} (editable : f.state = .draft ∨ f.state = .active)
      (selected : (f.games.get? gameId).isSome = true) :
      Effect f (.removeGame gameId) { f with games := f.games.erase gameId }
  | start {now : DateTime} (draft : f.state = .draft) (games : f.games.rows ≠ []) :
      Effect f (.start now) { f with state := .active, startedAt := some now }
  | end_ {now : DateTime} (active : f.state = .active) :
      Effect f (.end_ now) { f with state := .ended, endedAt := some now }
  | cancel {now : DateTime} (running : f.state = .draft ∨ f.state = .active) :
      Effect f (.cancel now) { f with state := .cancelled, endedAt := some now }

/-- Every method either raises, and then has assigned nothing, or returns with
exactly its effect. -/
theorem Operation.run_cases (op : Operation) (f : Festival) :
    (∃ e, op.method.run f = (.error e, f)) ∨
      ∃ f', op.method.run f = (.ok (), f') ∧ Effect f op f' := by
  cases op with
  | reschedule startsAt endsAt now =>
      by_cases hDraft : f.state = .draft
      · cases hw : checkWindow startsAt endsAt now with
        | error e =>
            left
            simp [method, Festival.reschedule, hDraft, hw]
        | ok u =>
            refine Or.inr ⟨_, ?_, .reschedule hDraft (checkWindow_ok hw).1⟩
            simp [method, Festival.reschedule, hDraft, hw]
      · left
        simp [method, Festival.reschedule, hDraft]
  | addGame gameId title developerId addedBy now =>
      by_cases hEditable : f.state.editable = true
      · cases hGame : f.games.get? gameId with
        | some game =>
            left
            simp [method, Festival.addGame, hEditable, hGame]
        | none =>
            refine Or.inr ⟨_, ?_, .addGame (FestivalState.editable_iff.mp hEditable) hGame⟩
            simp [method, Festival.addGame, hEditable, hGame]
      · left
        simp [method, Festival.addGame, hEditable]
  | removeGame gameId =>
      by_cases hEditable : f.state.editable = true
      · cases hGame : f.games.get? gameId with
        | none =>
            left
            simp [method, Festival.removeGame, hEditable, hGame]
        | some game =>
            refine Or.inr ⟨_, ?_, .removeGame (FestivalState.editable_iff.mp hEditable) (by simp [hGame])⟩
            simp [method, Festival.removeGame, hEditable, hGame]
      · left
        simp [method, Festival.removeGame, hEditable]
  | start now =>
      by_cases hDraft : f.state = .draft
      · by_cases hGames : f.games.rows = []
        · left
          simp [method, Festival.start, hDraft, hGames]
        · refine Or.inr ⟨_, ?_, .start hDraft hGames⟩
          simp [method, Festival.start, hDraft, hGames]
      · left
        simp [method, Festival.start, hDraft]
  | end_ now =>
      by_cases hActive : f.state = .active
      · refine Or.inr ⟨_, ?_, .end_ hActive⟩
        simp [method, Festival.end_, hActive]
      · left
        simp [method, Festival.end_, hActive]
  | cancel now =>
      by_cases hRunning : f.state = .draft ∨ f.state = .active
      · refine Or.inr ⟨_, ?_, .cancel hRunning⟩
        rcases hRunning with h | h
        · simp [method, Festival.cancel, h]
        · simp [method, Festival.cancel, h]
      · left
        rw [not_or] at hRunning
        simp [method, Festival.cancel, hRunning.1, hRunning.2]

end Festival
end Arcadia
