import ArcadiaFestival.Application.System

/-! The outbox as the history of the festivals. Every committed row about a festival
is one entry of its history, and replaying the entries in order gives back the
festival as it is stored, after any run and whatever failed on the way. -/
namespace Arcadia
open Library Fallible

/-- A field of the envelope as it was written to the outbox. -/
def OutboxMessage.field (row : OutboxMessage) (name : String) : Json :=
  match row.envelope with
  | .obj fields => Json.get fields name
  | _ => .null

def OutboxMessage.aggregateId (row : OutboxMessage) : Option String :=
  (row.field "aggregate_id").text?

def OutboxMessage.payload (row : OutboxMessage) : Fields :=
  match row.field "payload" with
  | .obj fields => fields
  | _ => []

/-- The row belongs to the history of the festival. Discounts are left aside,
as Catalog's events bring them and no admin does. -/
def OutboxMessage.tells (row : OutboxMessage) (festivalId : String) : Bool :=
  row.aggregateId = some festivalId && row.eventType != Ev.discountApplied

/-- The type and the payload of the event. -/
def OutboxMessage.event (row : OutboxMessage) : String × Fields := (row.eventType, row.payload)

/-- The history of one festival, in id order. It is what a reader gets who
reads every row of the outbox. -/
def OutboxLog.history (log : OutboxLog) (festivalId : String) : List (String × Fields) :=
  (log.rows.filter fun row => row.tells festivalId).map OutboxMessage.event

def isStarted (eventType : String) : Bool := eventType = Ev.festivalStarted

def isClosing (eventType : String) : Bool :=
  eventType = Ev.festivalEnded ∨ eventType = Ev.festivalCancelled

/-- What a festival's history says about a game, as its row has it. -/
def FestivalGameRow.told (row : FestivalGameRow) : String × String := (row.title, row.developerId)

def FestivalGame.told (game : FestivalGame) : String × String := (game.title, game.developerId)

/-- What a reader of the events knows about a festival: its state, and the
title and the developer of each selected game. -/
structure Replica where
  state : FestivalState
  games : Dict String (String × String)

namespace Replica

def initial : Replica := ⟨.draft, .empty⟩

def text (payload : Fields) (name : String) : String := (Json.get payload name).text?.getD ""

def apply (replica : Replica) (event : String × Fields) : Replica :=
  if event.1 = Ev.festivalGameAdded then
    { replica with
      games := replica.games.set (text event.2 "game_id")
        (text event.2 "title", text event.2 "developer_id") }
  else if event.1 = Ev.festivalGameRemoved then
    { replica with games := replica.games.erase (text event.2 "game_id") }
  else if event.1 = Ev.festivalStarted then { replica with state := .active }
  else if event.1 = Ev.festivalEnded then { replica with state := .ended }
  else if event.1 = Ev.festivalCancelled then { replica with state := .cancelled }
  else replica

/-- A history begins with the creation of its festival. From there on each
event is applied to what the reader has. -/
def replay : List (String × Fields) → Option Replica
  | [] => none
  | event :: rest =>
      if event.1 = Ev.festivalCreated then some (rest.foldl apply initial) else none

/-- The replica agrees with the festival in the state, and in the title and the
developer of each selected game. -/
def Shows (replica : Replica) (f : Festival) : Prop :=
  replica.state = f.state ∧ ∀ gameId, replica.games.get? gameId =
    (f.games.get? gameId).map FestivalGame.told

variable {replica : Replica} {f : Festival} {payload : Fields}

/-- The event of a game that was added gives the replica the same game. -/
theorem Shows.added (h : replica.Shows f) {gameId title developerId addedBy : String} {now : DateTime}
    (hId : text payload "game_id" = gameId) (hTitle : text payload "title" = title)
    (hDeveloper : text payload "developer_id" = developerId) :
    (replica.apply (Ev.festivalGameAdded, payload)).Shows
      { f with games := f.games.set gameId ⟨gameId, title, developerId, addedBy, now⟩ } := by
  refine ⟨h.1, fun k => ?_⟩
  change (replica.games.set (text payload "game_id")
    (text payload "title", text payload "developer_id")).get? k = _
  rw [hId, hTitle, hDeveloper, Dict.get?_set, Dict.get?_set, h.2]
  split_ifs
  · rfl
  · rfl

/-- The event of a game that was removed takes the same game from the replica. -/
theorem Shows.removed (h : replica.Shows f) {gameId : String}
    (hId : text payload "game_id" = gameId) :
    (replica.apply (Ev.festivalGameRemoved, payload)).Shows
      { f with games := f.games.erase gameId } := by
  refine ⟨h.1, fun k => ?_⟩
  change Dict.get? (replica.games.erase (text payload "game_id")) k = _
  rw [hId, Dict.get?_erase, Dict.get?_erase, h.2]
  split_ifs
  · rfl
  · rfl

end Replica

/-- The payload announces this window. -/
def Announces (payload : Fields) (startsAt endsAt : DateTime) : Prop :=
  Json.get payload "starts_at" = .str startsAt.isoformat ∧
    Json.get payload "ends_at" = .str endsAt.isoformat

/-- The history tells the life of the festival up to now. This is what one
event extends, and so the invariant of the runs. -/
structure Chronicle (history : List (String × Fields)) (f : Festival) : Prop where
  replayed : ∃ payload rest, history = (Ev.festivalCreated, payload) :: rest ∧
    (∀ event ∈ rest, event.1 ≠ Ev.festivalCreated) ∧
    (rest.foldl Replica.apply .initial).Shows f
  started : history.countP (fun event => isStarted event.1) ≤ 1
  draft : f.state = .draft → history.countP (fun event => isStarted event.1) = 0
  closed : history.countP (fun event => isClosing event.1) ≤ 1
  editable : f.state.editable = true → history.countP (fun event => isClosing event.1) = 0
  window : ∀ event ∈ history, isStarted event.1 = true → Announces event.2 f.startsAt f.endsAt

namespace Chronicle
variable {history : List (String × Fields)} {f f' : Festival}

theorem draft_silent (h : Chronicle history f) (hDraft : f.state = .draft)
    {event : String × Fields} (hEvent : event ∈ history) : isStarted event.1 = false := by
  simpa using List.countP_eq_zero.mp (h.draft hDraft) event hEvent

theorem of_created {payload : Fields} (hDraft : f.state = .draft)
    (hGames : ∀ gameId, f.games.get? gameId = none) :
    Chronicle [(Ev.festivalCreated, payload)] f where
  replayed := by
    refine ⟨payload, [], rfl, by simp, hDraft.symm, ?_⟩
    intro gameId
    rw [hGames]
    rfl
  started := by simp [isStarted, Ev.festivalCreated, Ev.festivalStarted]
  draft := by simp [isStarted, Ev.festivalCreated, Ev.festivalStarted]
  closed := by simp [isClosing, Ev.festivalCreated, Ev.festivalEnded, Ev.festivalCancelled]
  editable := by simp [isClosing, Ev.festivalCreated, Ev.festivalEnded, Ev.festivalCancelled]
  window := by simp [isStarted, Ev.festivalCreated, Ev.festivalStarted]

/-- Another copy of the festival that agrees with it where the history does. A
draft may have another window. -/
theorem congr (h : Chronicle history f) (hState : f'.state = f.state)
    (hGames : ∀ gameId, (f'.games.get? gameId).map FestivalGame.told =
      (f.games.get? gameId).map FestivalGame.told)
    (hWindow : f.state = .draft ∨ f'.startsAt = f.startsAt ∧ f'.endsAt = f.endsAt) :
    Chronicle history f' where
  replayed := by
    obtain ⟨payload, rest, hHistory, hOnce, hStateEq, hGamesEq⟩ := h.replayed
    refine ⟨payload, rest, hHistory, hOnce, hStateEq.trans hState.symm, ?_⟩
    intro gameId
    rw [hGamesEq, hGames]
  started := h.started
  draft := by
    intro hDraft
    exact h.draft (hState ▸ hDraft)
  closed := h.closed
  editable := by
    intro hEditable
    exact h.editable (hState ▸ hEditable)
  window := by
    intro event hEvent hStarted
    rcases hWindow with hDraft | ⟨hStart, hEnd⟩
    · rw [h.draft_silent hDraft hEvent] at hStarted
      cases hStarted
    · rw [hStart, hEnd]
      exact h.window event hEvent hStarted

/-- One more event, announced with the change it is about. The conditions say
which events may come in which state. -/
theorem extend (h : Chronicle history f) {eventType : String} {payload : Fields}
    (hNew : eventType ≠ Ev.festivalCreated)
    (hShows : ∀ replica : Replica, replica.Shows f → (replica.apply (eventType, payload)).Shows f')
    (hStarted : isStarted eventType = true →
      f.state = .draft ∧ Announces payload f'.startsAt f'.endsAt)
    (hDraft : f'.state = .draft → f.state = .draft ∧ isStarted eventType = false)
    (hClosing : isClosing eventType = true → f.state.editable = true)
    (hEditable : f'.state.editable = true → f.state.editable = true ∧ isClosing eventType = false)
    (hWindow : f'.startsAt = f.startsAt ∧ f'.endsAt = f.endsAt) :
    Chronicle (history ++ [(eventType, payload)]) f' where
  replayed := by
    obtain ⟨first, rest, rfl, hOnce, hShown⟩ := h.replayed
    refine ⟨first, rest ++ [(eventType, payload)], rfl, ?_, ?_⟩
    · intro e he
      rcases List.mem_append.mp he with he | he
      · exact hOnce e he
      · rwa [List.mem_singleton.mp he]
    · rw [List.foldl_append]
      exact hShows _ hShown
  started := by
    rw [List.countP_append, List.countP_singleton]
    split_ifs with hEvent
    · rw [h.draft (hStarted hEvent).1]
    · exact h.started
  draft := by
    intro hState
    obtain ⟨hBefore, hEvent⟩ := hDraft hState
    rw [List.countP_append, List.countP_singleton, h.draft hBefore, hEvent]
    rfl
  closed := by
    rw [List.countP_append, List.countP_singleton]
    split_ifs with hEvent
    · rw [h.editable (hClosing hEvent)]
    · exact h.closed
  editable := by
    intro hState
    obtain ⟨hBefore, hEvent⟩ := hEditable hState
    rw [List.countP_append, List.countP_singleton, h.editable hBefore, hEvent]
    rfl
  window := by
    intro e he hEvent
    rcases List.mem_append.mp he with he | he
    · rw [hWindow.1, hWindow.2]
      exact h.window e he hEvent
    · obtain rfl := List.mem_singleton.mp he
      exact (hStarted hEvent).2

/-- An event about the game list leaves the rest of the festival alone. -/
theorem extend_games (h : Chronicle history f) {eventType : String} {payload : Fields}
    (hNew : eventType ≠ Ev.festivalCreated) (hStarted : isStarted eventType = false)
    (hClosing : isClosing eventType = false)
    (hShows : ∀ replica : Replica, replica.Shows f → (replica.apply (eventType, payload)).Shows f')
    (hState : f'.state = f.state) (hWindow : f'.startsAt = f.startsAt ∧ f'.endsAt = f.endsAt) :
    Chronicle (history ++ [(eventType, payload)]) f' := by
  apply h.extend hNew hShows
  · intro hTrue
    rw [hStarted] at hTrue
    cases hTrue
  · intro hDraft
    exact ⟨hState ▸ hDraft, hStarted⟩
  · intro hTrue
    rw [hClosing] at hTrue
    cases hTrue
  · intro hEditable
    exact ⟨hState ▸ hEditable, hClosing⟩
  · exact hWindow

/-- The history of a festival is continued by the event that ends or cancels
it, and no event comes after that. -/
theorem extend_closing (h : Chronicle history f) {eventType : String} {payload : Fields}
    (hNew : eventType ≠ Ev.festivalCreated) (hStarted : isStarted eventType = false)
    (hEditable : f.state.editable = true) (hOver : f'.state.editable = false)
    (hShows : ∀ replica : Replica, replica.Shows f → (replica.apply (eventType, payload)).Shows f')
    (hWindow : f'.startsAt = f.startsAt ∧ f'.endsAt = f.endsAt) :
    Chronicle (history ++ [(eventType, payload)]) f' := by
  apply h.extend hNew hShows
  · intro hTrue
    rw [hStarted] at hTrue
    cases hTrue
  · intro hDraft
    rw [hDraft] at hOver
    cases hOver
  · intro _
    exact hEditable
  · intro hTrue
    rw [hOver] at hTrue
    cases hTrue
  · exact hWindow

/-- The event that starts the festival. It carries the window that the festival
keeps from now on. -/
theorem extend_started (h : Chronicle history f) {payload : Fields} (hDraft : f.state = .draft)
    (hActive : f'.state = .active) (hAnnounces : Announces payload f'.startsAt f'.endsAt)
    (hShows : ∀ replica : Replica, replica.Shows f →
      (replica.apply (Ev.festivalStarted, payload)).Shows f')
    (hWindow : f'.startsAt = f.startsAt ∧ f'.endsAt = f.endsAt) :
    Chronicle (history ++ [(Ev.festivalStarted, payload)]) f' := by
  apply h.extend (by decide) hShows
  · intro _
    exact ⟨hDraft, hAnnounces⟩
  · intro hStill
    rw [hActive] at hStill
    cases hStill
  · intro hClosing
    exact absurd hClosing (by decide)
  · intro _
    exact ⟨by rw [hDraft]; rfl, by decide⟩
  · exact hWindow

/-- Every operation pairs its change with the event that tells it, and the one
that has no event changes nothing the history tells. -/
theorem effect (h : Chronicle history f) {command : FestivalService.Command}
    (hEffect : Festival.Effect f command.operation f') :
    Chronicle (history ++ (command.event f').toList) f' := by
  obtain ⟨festivalId, adminId, operation, audience⟩ := command
  cases hEffect with
  | reschedule draft window =>
      rw [FestivalService.Command.event, Option.toList_none, List.append_nil]
      exact h.congr rfl (fun _ => rfl) (Or.inl draft)
  | @addGame gameId title developerId addedBy now editable absent =>
      apply h.extend_games (by decide) (by decide) (by decide)
      · exact fun replica hReplica => hReplica.added rfl rfl rfl
      · rfl
      · exact ⟨rfl, rfl⟩
  | @removeGame gameId editable selected =>
      apply h.extend_games (by decide) (by decide) (by decide)
      · exact fun replica hReplica => hReplica.removed rfl
      · rfl
      · exact ⟨rfl, rfl⟩
  | start draft games =>
      apply h.extend_started draft rfl ⟨rfl, rfl⟩
      · exact fun replica hReplica => ⟨rfl, hReplica.2⟩
      · exact ⟨rfl, rfl⟩
  | end_ active =>
      apply h.extend_closing (by decide) (by decide) (by rw [active]; rfl) rfl
      · exact fun replica hReplica => ⟨rfl, hReplica.2⟩
      · exact ⟨rfl, rfl⟩
  | cancel running =>
      apply h.extend_closing (by decide) (by decide) (FestivalState.editable_iff.mpr running) rfl
      · exact fun replica hReplica => ⟨rfl, hReplica.2⟩
      · exact ⟨rfl, rfl⟩

end Chronicle

/-- The id that a row gets in the outbox is no part of what it tells. -/
theorem OutboxLog.history_append (log : OutboxLog) (skipped : Nat) (row : OutboxMessage)
    (id : String) :
    (log.append skipped row).history id =
      log.history id ++ if row.tells id then [row.event] else [] := by
  have hTells : OutboxMessage.tells { row with id := log.next + skipped } id = row.tells id := rfl
  have hEvent : OutboxMessage.event { row with id := log.next + skipped } = row.event := rfl
  rw [history, append, List.filter_append, List.map_append, List.filter_singleton, hTells]
  cases row.tells id with
  | true => rw [cond_true, if_pos rfl, List.map_singleton, hEvent]; rfl
  | false => rfl

theorem festivalMessage_event (cfg : Config) (rt : Runtime) (env : Env) (festivalId : String)
    (event : String × Fields) : (festivalMessage cfg rt env festivalId event).event = event := rfl

/-- The row of a message is about the festival that it was written for, and
discounts are left aside. -/
theorem festivalMessage_tells (cfg : Config) (rt : Runtime) (env : Env) (festivalId id : String)
    (event : String × Fields) :
    (festivalMessage cfg rt env festivalId event).tells id =
      (festivalId = id && event.1 != Ev.discountApplied) := by
  have hAggregate : (festivalMessage cfg rt env festivalId event).aggregateId = some festivalId := rfl
  have hType : (festivalMessage cfg rt env festivalId event).eventType = event.1 := rfl
  simp [OutboxMessage.tells, hAggregate, hType]

/-- The flush of a transaction adds its event to the history of its festival. -/
theorem OutboxLog.history_insertAll {log log' : OutboxLog} {cfg : Config} {rt : Runtime} {env : Env}
    {skipped : Nat} {festivalId : String} {event : Option (String × Fields)}
    (h : log.insertAll skipped (event.map (festivalMessage cfg rt env festivalId)).toList =
      .ok log') (id : String) :
    log'.history id = log.history id ++
      (event.filter fun event => festivalId = id && event.1 != Ev.discountApplied).toList := by
  rcases insertAll_cases h with ⟨rfl, rfl⟩ | ⟨event, rfl, rfl⟩
  · exact (List.append_nil _).symm
  · rw [history_append, festivalMessage_tells, festivalMessage_event, Option.filter_some]
    split_ifs
    · rfl
    · rfl

theorem FestivalService.Command.event_type {command : FestivalService.Command} {f : Festival}
    {event : String × Fields} (h : command.event f = some event) :
    event.1 ≠ Ev.discountApplied ∧ event.1 ≠ Ev.festivalCreated := by
  unfold FestivalService.Command.event at h
  split at h
  · cases h
  all_goals
    obtain rfl := Option.some.inj h
    dsimp only
    decide

/-- After a save the rows name the games that the festival has in memory, with
the titles and the developers they had at their selection. -/
theorem Planned.told {rt : Runtime} {db : Database} {row : FestivalRow} {f f' : Festival}
    {op : Festival.Operation} {write : FestivalWrite} (hPlanned : Planned rt db f' write)
    (hLoaded : Loaded db row f) (hEffect : Festival.Effect f op f') (gameId : String) :
    ((write.apply db).festivalGames.find? (f'.id, gameId)).map FestivalGameRow.told =
      (f'.games.get? gameId).map FestivalGame.told := by
  have hKeyed := hEffect.keyed hLoaded.keyed
  cases hGame : f'.games.get? gameId with
  | none => rw [hPlanned.find?_unwanted hKeyed hGame, Option.map_none, Option.map_none]
  | some game =>
      cases hRow : db.festivalGames.find? (f'.id, gameId) with
      | none =>
          obtain ⟨new, hNew, hFind⟩ := hPlanned.find?_added hKeyed hGame hRow
          obtain ⟨_, hTitle, hDeveloper⟩ := newFestivalGameRow_ok hNew
          rw [hFind, Option.map_some, Option.map_some, FestivalGameRow.told, hTitle, hDeveloper]
          rfl
      | some old =>
          have hOld : f.games.get? gameId = some old.toGame := by
            rw [hLoaded.games, ← hLoaded.id, ← hEffect.id, hRow]
            rfl
          rcases hEffect.game_or_none hOld with hSame | hNone
          · obtain rfl := Option.some.inj (hGame.symm.trans hSame)
            rw [hPlanned.find?_kept hKeyed hGame hRow]
            rfl
          · rw [hNone] at hGame
            cases hGame

/-- Two loads of the same rows agree in all that a history tells. -/
theorem Chronicle.of_loaded {history : List (String × Fields)} {db : Database} {row : FestivalRow}
    {f f' : Festival} (h : Chronicle history f) (hf : Loaded db row f) (hf' : Loaded db row f') :
    Chronicle history f' := by
  apply h.congr (hf'.state_eq hf.state)
  · intro gameId
    rw [hf.games, hf'.games]
  · exact Or.inr ⟨hf'.startsAt.trans hf.startsAt.symm, hf'.endsAt.trans hf.endsAt.symm⟩

/-- Only a draft is written back with another window than it was read with.
Every other write gives the columns what they have. -/
theorem Saved.window_cases {rt : Runtime} {db : Database} {row saved : FestivalRow}
    {f f' : Festival} {op : Festival.Operation} (hSaved : Saved rt row f' saved)
    (hLoaded : Loaded db row f) (hEffect : Festival.Effect f op f') :
    (f.state = .draft ∧ f'.state = .draft) ∨
      (f'.startsAt = f.startsAt ∧ f'.endsAt = f.endsAt ∧
        saved.startsAt = row.startsAt ∧ saved.endsAt = row.endsAt) := by
  have hSame (hStarts : f'.startsAt = f.startsAt) (hEnds : f'.endsAt = f.endsAt) :
      f'.startsAt = f.startsAt ∧ f'.endsAt = f.endsAt ∧
        saved.startsAt = row.startsAt ∧ saved.endsAt = row.endsAt := by
    have hStart := hSaved.startsAt
    have hEnd := hSaved.endsAt
    rw [hStarts, hLoaded.startsAt] at hStart
    rw [hEnds, hLoaded.endsAt] at hEnd
    exact ⟨hStarts, hEnds, timestamptz_ofTimestamptz hStart, timestamptz_ofTimestamptz hEnd⟩
  cases hEffect with
  | reschedule draft window => exact Or.inl ⟨draft, draft⟩
  | addGame editable absent => exact Or.inr (hSame rfl rfl)
  | removeGame editable selected => exact Or.inr (hSame rfl rfl)
  | start draft games => exact Or.inr (hSame rfl rfl)
  | end_ active => exact Or.inr (hSame rfl rfl)
  | cancel running => exact Or.inr (hSame rfl rfl)

/-- A command has found the festival under `row`, has made `festival'` of it in
memory, and `write` is what the save of it does to the tables. -/
structure Executed (rt : Runtime) (db : Database) (command : FestivalService.Command)
    (row : FestivalRow) (festival festival' : Festival) (write : FestivalWrite) : Prop where
  found : db.festivals.find? command.festivalId = some row
  loaded : Loaded db row festival
  effect : Festival.Effect festival command.operation festival'
  planned : Planned rt db festival' write

namespace Executed
variable {cfg : Config} {rt : Runtime} {env : Env} {db : Database}
  {command : FestivalService.Command} {row : FestivalRow} {festival festival' : Festival}
  {write : FestivalWrite} {log : OutboxLog}

theorem row_id (h : Executed rt db command row festival festival' write) :
    row.id = command.festivalId := KeyedTable.key_of_find? h.found

theorem id (h : Executed rt db command row festival festival' write) :
    festival'.id = command.festivalId := by
  rw [h.effect.id, h.loaded.id, h.row_id]

theorem keyed (h : Executed rt db command row festival festival' write) :
    ∀ entry ∈ festival'.games.rows, entry.2.gameId = entry.1 := h.effect.keyed h.loaded.keyed

/-- The save writes over the row that was read. -/
theorem saved (h : Executed rt db command row festival festival' write) :
    Saved rt row festival' write.row := by
  obtain ⟨old, hOld, _, hSaved⟩ := h.planned.row
  rw [h.id, h.found] at hOld
  obtain rfl := Option.some.inj hOld
  exact hSaved

theorem find?_written (h : Executed rt db command row festival festival' write) :
    (write.apply db).festivals.find? command.festivalId = some write.row := by
  change (db.festivals.put write.row).find? _ = _
  rw [KeyedTable.find?_put, if_pos (h.planned.row_id.trans h.id)]

/-- The rows of every other festival stay as they are. -/
theorem find?_other (h : Executed rt db command row festival festival' write) {festivalId : String}
    (hOther : festivalId ≠ command.festivalId) :
    (write.apply db).festivals.find? festivalId = db.festivals.find? festivalId ∧
      ∀ gameId, (write.apply db).festivalGames.find? (festivalId, gameId) =
        db.festivalGames.find? (festivalId, gameId) := by
  constructor
  · apply KeyedTable.find?_put_ne
    rw [h.planned.row_id, h.id]
    exact hOther.symm
  · exact h.planned.find?_other h.keyed (by rw [h.id]; exact hOther)

/-- The history of the festival goes on with the event of the command, the
other histories stay as they are. -/
theorem history (h : Executed rt db command row festival festival' write) {skipped : Nat}
    (hLog : db.outboxMessages.insertAll skipped
      ((command.event festival').map (festivalMessage cfg rt env festival'.id)).toList = .ok log)
    (festivalId : String) :
    log.history festivalId = db.outboxMessages.history festivalId ++
      if festivalId = command.festivalId then (command.event festival').toList else [] := by
  rw [OutboxLog.history_insertAll hLog, h.id]
  split_ifs with hHere
  · have hTold : ((command.event festival').filter fun event =>
        command.festivalId = festivalId && event.1 != Ev.discountApplied) =
        command.event festival' := by
      apply Option.ext
      intro event
      rw [Option.filter_eq_some_iff]
      refine and_iff_left_of_imp fun hEvent => ?_
      simpa [hHere] using (FestivalService.Command.event_type hEvent).1
    rw [hTold]
  · have hOther : command.festivalId ≠ festivalId := fun h => hHere h.symm
    rw [Option.filter_eq_none_iff.mpr (by simp [hOther]), Option.toList_none]

/-- The event of the command tells what was made of the festival, as it is
stored now. -/
theorem chronicle (h : Executed rt db command row festival festival' write)
    {history : List (String × Fields)} (hHistory : Chronicle history festival) {stored : Festival}
    (hStored : Loaded { write.apply db with outboxMessages := log } write.row stored) :
    Chronicle (history ++ (command.event festival').toList) stored := by
  apply (hHistory.effect h.effect).congr (hStored.state_eq h.saved.state)
  · intro gameId
    rw [hStored.games, ← h.planned.told h.loaded h.effect, h.planned.row_id, Option.map_map]
    rfl
  · rcases h.saved.window_cases h.loaded h.effect with hDraft | ⟨hStarts, hEnds, hStart, hEnd⟩
    · exact Or.inl hDraft.2
    · right
      rw [hStored.startsAt, hStored.endsAt, hStart, hEnd, hStarts, hEnds, h.loaded.startsAt,
        h.loaded.endsAt]
      exact ⟨rfl, rfl⟩

end Executed

/-- Every festival has its history, and only festivals have one. An id without
a row has no game rows either. -/
structure Database.Chronicled (db : Database) : Prop where
  known : ∀ festivalId row, db.festivals.find? festivalId = some row →
    ∃ f, Loaded db row f ∧ Chronicle (db.outboxMessages.history festivalId) f
  unknown : ∀ festivalId, db.festivals.find? festivalId = none →
    db.outboxMessages.history festivalId = [] ∧
      ∀ gameId, db.festivalGames.find? (festivalId, gameId) = none

namespace Database.Chronicled
variable {cfg : Config} {rt : Runtime} {db : Database} {request : Request}

theorem created (hdb : db.Chronicled) {festival : Festival} {row : FestivalRow} {payload : Fields}
    {log : OutboxLog} (hDraft : festival.state = .draft)
    (hRow : newFestivalRow rt festival = .ok row) (hAbsent : db.festivals.find? row.id = none)
    (hLog : db.outboxMessages.insert request.env.skipped
      (festivalMessage cfg rt request.env festival.id (Ev.festivalCreated, payload)) = .ok log) :
    Database.Chronicled
      { db with festivals := db.festivals.put row, outboxMessages := log } := by
  obtain ⟨hId, hState⟩ := newFestivalRow_ok hRow
  obtain rfl := (OutboxLog.insert_ok.mp hLog).2
  have hHistory (id : String) : (db.outboxMessages.append request.env.skipped
      (festivalMessage cfg rt request.env festival.id (Ev.festivalCreated, payload))).history id =
      db.outboxMessages.history id ++
        if row.id = id then [(Ev.festivalCreated, payload)] else [] := by
    rw [OutboxLog.history_append, festivalMessage_tells, festivalMessage_event, hId]
    by_cases h : festival.id = id
    · simp [h, Ev.festivalCreated, Ev.discountApplied]
    · simp [h]
  obtain ⟨hEmpty, hGames⟩ := hdb.unknown row.id hAbsent
  constructor
  · intro id r hFind
    rw [hHistory]
    rw [KeyedTable.find?_put] at hFind
    split_ifs at hFind ⊢ with h
    · obtain rfl := Option.some.inj hFind
      subst h
      obtain ⟨f, hLoaded⟩ := exists_loaded
        { db with festivals := db.festivals.put row, outboxMessages := _ } hState
      refine ⟨f, hLoaded, ?_⟩
      rw [hEmpty]
      apply Chronicle.of_created
      · rw [hLoaded.state_eq hState, hDraft]
      · intro gameId
        rw [hLoaded.games, hGames]
        rfl
    · obtain ⟨f, hLoaded, hChronicle⟩ := hdb.known id r hFind
      rw [List.append_nil]
      exact ⟨f, hLoaded.frame fun _ => rfl, hChronicle⟩
  · intro id hNone
    rw [hHistory]
    rw [KeyedTable.find?_put] at hNone
    split_ifs at hNone ⊢ with h
    rw [List.append_nil]
    exact hdb.unknown id hNone

/-- A committed command extends the history of its festival, as it is stored
afterwards, and no other. -/
theorem changed (hdb : db.Chronicled) {command : FestivalService.Command} {row : FestivalRow}
    {festival festival' : Festival} {write : FestivalWrite} {log : OutboxLog}
    (hExecuted : Executed rt db command row festival festival' write)
    (hLog : db.outboxMessages.insertAll request.env.skipped
      ((command.event festival').map (festivalMessage cfg rt request.env festival'.id)).toList =
        .ok log) :
    Database.Chronicled { write.apply db with outboxMessages := log } := by
  have hHistory := hExecuted.history hLog
  constructor
  · intro id r hFind
    rw [hHistory]
    by_cases hHere : id = command.festivalId
    · subst hHere
      obtain rfl := Option.some.inj (hExecuted.find?_written.symm.trans hFind)
      obtain ⟨before, hBefore, hChronicle⟩ := hdb.known _ _ hExecuted.found
      obtain ⟨stored, hStored⟩ := exists_loaded
        { write.apply db with outboxMessages := log } hExecuted.saved.state
      rw [if_pos rfl]
      exact ⟨stored, hStored, hExecuted.chronicle (hChronicle.of_loaded hBefore hExecuted.loaded) hStored⟩
    · obtain ⟨hRow, hGames⟩ := hExecuted.find?_other hHere
      obtain ⟨f, hf, hChronicle⟩ := hdb.known id r (hRow.symm.trans hFind)
      obtain rfl := KeyedTable.key_of_find? (hRow.symm.trans hFind)
      rw [if_neg hHere, List.append_nil]
      exact ⟨f, hf.frame hGames, hChronicle⟩
  · intro id hNone
    have hHere : id ≠ command.festivalId := by
      rintro rfl
      exact absurd (hExecuted.find?_written.symm.trans hNone) (by simp)
    obtain ⟨hRow, hGames⟩ := hExecuted.find?_other hHere
    obtain ⟨hEmpty, hNoGames⟩ := hdb.unknown id (hRow.symm.trans hNone)
    rw [hHistory, if_neg hHere, List.append_nil]
    exact ⟨hEmpty, fun gameId => (hGames gameId).trans (hNoGames gameId)⟩

/-- Promotions tell nothing about a festival but discounts. -/
theorem recorded (hdb : db.Chronicled) {festivalId : String} {event : Option (String × Fields)}
    {log : OutboxLog} (promotions : KeyedTable PromotionSnapshotRow.promotionId)
    (hEvent : ∀ e, event = some e → e.1 = Ev.discountApplied)
    (hLog : db.outboxMessages.insertAll request.env.skipped
      (event.map (festivalMessage cfg rt request.env festivalId)).toList = .ok log) :
    Database.Chronicled { db with promotionSnapshots := promotions, outboxMessages := log } := by
  have hHistory (id : String) : log.history id = db.outboxMessages.history id := by
    rw [OutboxLog.history_insertAll hLog, Option.filter_eq_none_iff.mpr, Option.toList_none,
      List.append_nil]
    intro e he
    simp [hEvent e he]
  constructor
  · intro id row hFind
    obtain ⟨f, hf, hChronicle⟩ := hdb.known id row hFind
    exact ⟨f, hf.frame fun _ => rfl, (hHistory id).symm ▸ hChronicle⟩
  · intro id hNone
    obtain ⟨hEmpty, hGames⟩ := hdb.unknown id hNone
    exact ⟨(hHistory id).trans hEmpty, hGames⟩

/-- Every request keeps the histories true, whatever it does. -/
theorem change (hdb : db.Chronicled) {db' : Database} (h : Change cfg rt db request db') :
    db'.Chronicled := by
  cases h with
  | idle => exact hdb
  | created draft encoded absent enqueued => exact hdb.created draft encoded absent enqueued
  | changed found loaded effect planned enqueued =>
      exact hdb.changed ⟨found, loaded, effect, planned⟩ enqueued
  | catalog =>
      constructor
      · intro id row hFind
        obtain ⟨f, hf, hChronicle⟩ := hdb.known id row hFind
        exact ⟨f, hf.frame fun _ => rfl, hChronicle⟩
      · exact hdb.unknown
  | recorded consumed promotionField festivalField gameField found loaded read upserted enqueued =>
      apply hdb.recorded _ _ enqueued
      intro event hEvent
      obtain ⟨_, _, game, _, rfl⟩ := CatalogSyncService.announcement_some hEvent
      rfl

end Database.Chronicled
/-- The history of a festival agrees with what is stored about it. Each part of
this holds along runs. -/
structure Faithful (db : Database) (festivalId : String) : Prop where
  /-- A row exists if and only if there is one creation and it comes first. -/
  created : (db.festivals.find? festivalId).isSome = true ↔
    ∃ payload rest,
      db.outboxMessages.history festivalId = (Ev.festivalCreated, payload) :: rest ∧
        ∀ event ∈ rest, event.1 ≠ Ev.festivalCreated
  unknown : db.festivals.find? festivalId = none →
    db.outboxMessages.history festivalId = [] ∧
      ∀ gameId, db.festivalGames.find? (festivalId, gameId) = none
  replayed : ∀ row, db.festivals.find? festivalId = some row →
    ∃ replica, Replica.replay (db.outboxMessages.history festivalId) = some replica ∧
      row.state = replica.state.text ∧
      ∀ gameId, replica.games.get? gameId =
        (db.festivalGames.find? (festivalId, gameId)).map FestivalGameRow.told
  started : (db.outboxMessages.history festivalId).countP (fun event => isStarted event.1) ≤ 1
  closed : (db.outboxMessages.history festivalId).countP (fun event => isClosing event.1) ≤ 1
  window : ∀ row, db.festivals.find? festivalId = some row →
    ∀ event ∈ db.outboxMessages.history festivalId, isStarted event.1 = true →
      Announces event.2 (.ofTimestamptz row.startsAt) (.ofTimestamptz row.endsAt)

/-- The invariant of the runs has everything that is claimed about a festival
at one moment. -/
theorem Database.Chronicled.faithful {db : Database} (h : db.Chronicled) (festivalId : String) :
    Faithful db festivalId := by
  cases hRow : db.festivals.find? festivalId with
  | none =>
      obtain ⟨hEmpty, hGames⟩ := h.unknown festivalId hRow
      exact {
        created := by simp [hRow, hEmpty]
        unknown := fun _ => ⟨hEmpty, hGames⟩
        replayed := by simp [hRow]
        started := by simp [hEmpty]
        closed := by simp [hEmpty]
        window := by simp [hRow] }
  | some row =>
      obtain ⟨f, hLoaded, hChronicle⟩ := h.known festivalId row hRow
      obtain rfl := KeyedTable.key_of_find? hRow
      obtain ⟨payload, rest, hHistory, hOnce, hState, hGames⟩ := hChronicle.replayed
      exact {
        created := by
          rw [hRow]
          exact ⟨fun _ => ⟨payload, rest, hHistory, hOnce⟩, fun _ => rfl⟩
        unknown := by simp [hRow]
        replayed := by
          intro r hr
          obtain rfl := Option.some.inj (hRow.symm.trans hr)
          refine ⟨_, by rw [hHistory]; rfl, hLoaded.state.trans (by rw [hState]), ?_⟩
          intro gameId
          rw [hGames, hLoaded.games, Option.map_map]
          rfl
        started := hChronicle.started
        closed := hChronicle.closed
        window := by
          intro r hr event hEvent hStarted
          obtain rfl := Option.some.inj (hRow.symm.trans hr)
          rw [← hLoaded.startsAt, ← hLoaded.endsAt]
          exact hChronicle.window event hEvent hStarted }

/-- A festival that has left the draft keeps its window, and does not become a
draft again. -/
def WindowSettled (db db' : Database) : Prop :=
  ∀ festivalId row, db.festivals.find? festivalId = some row →
    row.state ≠ FestivalState.draft.text →
      ∃ row', db'.festivals.find? festivalId = some row' ∧
        row'.state ≠ FestivalState.draft.text ∧
        row'.startsAt = row.startsAt ∧ row'.endsAt = row.endsAt

theorem WindowSettled.refl (db : Database) : WindowSettled db db :=
  fun _ row hRow hState => ⟨row, hRow, hState, rfl, rfl⟩

/-- A window that is kept by each part of a run is kept by the whole. -/
theorem WindowSettled.trans {db₁ db₂ db₃ : Database} (h : WindowSettled db₁ db₂)
    (h' : WindowSettled db₂ db₃) : WindowSettled db₁ db₃ := by
  intro festivalId row hRow hState
  obtain ⟨row₂, hRow₂, hState₂, hStart₂, hEnd₂⟩ := h festivalId row hRow hState
  obtain ⟨row₃, hRow₃, hState₃, hStart₃, hEnd₃⟩ := h' festivalId row₂ hRow₂ hState₂
  exact ⟨row₃, hRow₃, hState₃, hStart₃.trans hStart₂, hEnd₃.trans hEnd₂⟩

/-- Only a draft is rescheduled. Every other change writes the window back as
it was read. -/
theorem Change.windowSettled {cfg : Config} {rt : Runtime} {request : Request} {db db' : Database}
    (h : Change cfg rt db request db') : WindowSettled db db' := by
  cases h with
  | idle => exact .refl db
  | catalog => exact .refl db
  | recorded consumed promotionField festivalField gameField found loaded read upserted enqueued =>
      exact .refl db
  | @created festival new payload log draft encoded absent enqueued =>
      intro festivalId row hRow hState
      have hOther : new.id ≠ festivalId := by
        rintro rfl
        rw [absent] at hRow
        cases hRow
      exact ⟨row, (KeyedTable.find?_put_ne _ hOther).trans hRow, hState, rfl, rfl⟩
  | @changed command old f f' write log found loaded effect planned enqueued =>
      intro festivalId row hRow hState
      have hExecuted : Executed rt db command old f f' write := ⟨found, loaded, effect, planned⟩
      by_cases hHere : festivalId = command.festivalId
      · subst hHere
        obtain rfl := Option.some.inj (found.symm.trans hRow)
        have hLeft : f.state ≠ .draft := by
          intro hDraft
          exact hState (loaded.state.trans (by rw [hDraft]))
        refine ⟨write.row, hExecuted.find?_written, ?_⟩
        rcases hExecuted.saved.window_cases loaded effect with hDraft | ⟨_, _, hStart, hEnd⟩
        · exact absurd hDraft.1 hLeft
        · refine ⟨?_, hStart, hEnd⟩
          rw [hExecuted.saved.state]
          intro hDraft
          exact effect.left_draft hLeft (FestivalState.text_injective hDraft)
      · exact ⟨row, (hExecuted.find?_other hHere).1.trans hRow, hState, rfl, rfl⟩

theorem Database.fresh_chronicled (catalogGames : KeyedTable CatalogGameRow.gameId)
    (promotionSnapshots : KeyedTable PromotionSnapshotRow.promotionId) :
    (Database.fresh catalogGames promotionSnapshots).Chronicled := by
  constructor
  · intro festivalId row hRow
    cases hRow
  · intro festivalId _
    exact ⟨rfl, fun _ => rfl⟩

theorem run_chronicled (cfg : Config) (rt : Runtime)
    (catalogGames : KeyedTable CatalogGameRow.gameId)
    (promotionSnapshots : KeyedTable PromotionSnapshotRow.promotionId) (requests : List Request) :
    (Trace.run (serve cfg rt) (.fresh catalogGames promotionSnapshots) requests).Chronicled :=
  Trace.run_invariant (serve cfg rt) (fun db request hdb => hdb.change (serve_change cfg rt db request))
    (Database.fresh_chronicled catalogGames promotionSnapshots) requests

/-- After every run of requests, each of them refused, failed or committed, the
outbox is a faithful history of every festival. And from the moment the history
says that a festival has started, the festival keeps its window. -/
theorem run_faithful (cfg : Config) (rt : Runtime)
    (catalogGames : KeyedTable CatalogGameRow.gameId)
    (promotionSnapshots : KeyedTable PromotionSnapshotRow.promotionId) (requests : List Request)
    (festivalId : String) :
    let start := Database.fresh catalogGames promotionSnapshots
    let db := Trace.run (serve cfg rt) start requests
    Faithful db festivalId ∧
    ∀ before after, requests = before ++ after →
      let earlier := Trace.run (serve cfg rt) start before
      (∃ event ∈ earlier.outboxMessages.history festivalId, isStarted event.1 = true) →
        ∃ row row', earlier.festivals.find? festivalId = some row ∧
          db.festivals.find? festivalId = some row' ∧
          row'.startsAt = row.startsAt ∧ row'.endsAt = row.endsAt := by
  intro start db
  refine ⟨(run_chronicled cfg rt catalogGames promotionSnapshots requests).faithful festivalId, ?_⟩
  rintro before after rfl earlier ⟨event, hEvent, hStarted⟩
  have hEarlier : earlier.Chronicled := run_chronicled cfg rt catalogGames promotionSnapshots before
  have hSettled : WindowSettled earlier db := by
    change WindowSettled earlier (Trace.run (serve cfg rt) start (before ++ after))
    rw [Trace.run_append]
    exact Trace.run_rel (serve cfg rt) WindowSettled .refl .trans
      (fun db request => (serve_change cfg rt db request).windowSettled) earlier after
  cases hRow : earlier.festivals.find? festivalId with
  | none =>
      rw [(hEarlier.unknown festivalId hRow).1] at hEvent
      cases hEvent
  | some row =>
      obtain ⟨f, hLoaded, hChronicle⟩ := hEarlier.known festivalId row hRow
      have hState : row.state ≠ FestivalState.draft.text := by
        intro hDraft
        rw [hChronicle.draft_silent (hLoaded.state_eq hDraft) hEvent] at hStarted
        cases hStarted
      obtain ⟨row', hRow', _, hStart, hEnd⟩ := hSettled festivalId row hRow hState
      exact ⟨row, row', rfl, hRow', hStart, hEnd⟩

end Arcadia
