import ArcadiaFestival.Application.Discounts

/-! The game list of a festival as its events tell it. The latest event about a game
says whether it is selected, and a discount is announced only where it says so: one
request after another, that is kept by every request. -/
namespace Arcadia
open Library Fallible

/-- Whether the event adds the game or removes it, if it is about the game.
This is read from the event alone. -/
def selection (event : String × Fields) (gameId : String) : Option Bool :=
  if (Json.get event.2 "game_id").text? = some gameId then
    if event.1 = Ev.festivalGameAdded then some true
    else if event.1 = Ev.festivalGameRemoved then some false
    else none
  else none

def OutboxMessage.selection (row : OutboxMessage) (festivalId gameId : String) : Option Bool :=
  if row.aggregateId = some festivalId then Arcadia.selection row.event gameId else none

/-- The latest of the rows that adds the game to the festival or removes it
adds it. -/
def selectedBy (rows : List OutboxMessage) (festivalId gameId : String) : Bool :=
  (rows.filterMap fun row => row.selection festivalId gameId).getLast?.getD false

/-- Every discount for a game of the festival stands where the game is
selected. -/
def OutboxLog.DiscountsSelected (log : OutboxLog) (festivalId : String) : Prop :=
  ∀ before row after, log.rows = before ++ row :: after → row.discounts festivalId = true →
    ∀ gameId, (Json.get row.payload "game_id").text? = some gameId →
      selectedBy before festivalId gameId = true

theorem selectedBy_append (rows : List OutboxMessage) (row : OutboxMessage)
    (festivalId gameId : String) :
    selectedBy (rows ++ [row]) festivalId gameId =
      (row.selection festivalId gameId).getD (selectedBy rows festivalId gameId) := by
  unfold selectedBy
  rw [List.filterMap_append]
  cases h : row.selection festivalId gameId with
  | none => simp [h]
  | some added => simp [h]

theorem OutboxLog.selectedBy_append (log : OutboxLog) (skipped : Nat) (row : OutboxMessage)
    (festivalId gameId : String) :
    selectedBy (log.append skipped row).rows festivalId gameId =
      (row.selection festivalId gameId).getD (selectedBy log.rows festivalId gameId) :=
  Arcadia.selectedBy_append log.rows { row with id := log.next + skipped } festivalId gameId

/-- A new row keeps the law if it is no discount, or one of a selected game.
The rows before it are not affected. -/
theorem OutboxLog.DiscountsSelected.append {log : OutboxLog} {festivalId : String}
    (h : log.DiscountsSelected festivalId) {row : OutboxMessage} (skipped : Nat)
    (hRow : row.discounts festivalId = true →
      ∀ gameId, (Json.get row.payload "game_id").text? = some gameId →
        selectedBy log.rows festivalId gameId = true) :
    (log.append skipped row).DiscountsSelected festivalId := by
  intro before new after hRows hDiscount gameId hGame
  change log.rows ++ [{ row with id := log.next + skipped }] = _ at hRows
  rcases List.append_eq_append_iff.mp hRows with ⟨middle, hBefore, hLast⟩ | ⟨middle, hLog, hAfter⟩
  · cases middle with
    | nil =>
        obtain ⟨rfl, _⟩ := List.cons.inj hLast
        rw [hBefore, List.append_nil]
        exact hRow hDiscount gameId hGame
    | cons r rest =>
        obtain ⟨_, hNil⟩ := List.cons.inj hLast
        cases rest with
        | nil => cases hNil
        | cons _ _ => cases hNil
  · cases middle with
    | nil =>
        obtain ⟨rfl, _⟩ := List.cons.inj hAfter
        rw [List.append_nil] at hLog
        rw [← hLog]
        exact hRow hDiscount gameId hGame
    | cons r rest =>
        obtain ⟨rfl, _⟩ := List.cons.inj hAfter
        exact h before new rest hLog hDiscount gameId hGame

/-- What a message says about a selection, and for which festival. -/
theorem festivalMessage_selection (cfg : Config) (rt : Runtime) (env : Env)
    (festivalId id gameId : String) (event : String × Fields) :
    (festivalMessage cfg rt env festivalId event).selection id gameId =
      if festivalId = id then selection event gameId else none := by
  have hAggregate : (festivalMessage cfg rt env festivalId event).aggregateId = some festivalId := rfl
  rw [OutboxMessage.selection, hAggregate, festivalMessage_event]
  simp

theorem festivalMessage_discounts (cfg : Config) (rt : Runtime) (env : Env)
    (festivalId id : String) (event : String × Fields) :
    (festivalMessage cfg rt env festivalId event).discounts id =
      (festivalId = id && event.1 = Ev.discountApplied) := by
  have hAggregate : (festivalMessage cfg rt env festivalId event).aggregateId = some festivalId := rfl
  have hType : (festivalMessage cfg rt env festivalId event).eventType = event.1 := rfl
  simp [OutboxMessage.discounts, hAggregate, hType]

/-- An event of another type is about no selection. -/
theorem selection_other {eventType : String} (hAdded : eventType ≠ Ev.festivalGameAdded)
    (hRemoved : eventType ≠ Ev.festivalGameRemoved) (payload : Fields) (gameId : String) :
    selection (eventType, payload) gameId = none := by
  unfold selection
  rw [if_neg hAdded, if_neg hRemoved]
  exact ite_self none

/-- What a command does to the game list is what its event tells. So outbox and
rows change together. -/
theorem FestivalService.Command.selection_event {command : FestivalService.Command}
    {f f' : Festival} (h : Festival.Effect f command.operation f') (gameId : String) :
    (f'.games.get? gameId).isSome =
      ((command.event f').bind fun event => selection event gameId).getD
        (f.games.get? gameId).isSome := by
  obtain ⟨festivalId, adminId, operation, audience⟩ := command
  cases h with
  | reschedule draft window => rfl
  | @addGame g title developerId addedBy now editable absent =>
      change ((f.games.set g _).get? gameId).isSome = (selection _ gameId).getD _
      rw [Dict.get?_set]
      unfold selection
      by_cases hGame : g = gameId
      · simp [hGame, Json.get, Json.text?, List.lookup_cons]
      · simp [hGame, Json.get, Json.text?, List.lookup_cons]
  | @removeGame g editable selected =>
      change (Dict.get? (f.games.erase g) gameId).isSome = (selection _ gameId).getD _
      rw [Dict.get?_erase]
      unfold selection
      by_cases hGame : g = gameId
      · simp [hGame, Json.get, Json.text?, List.lookup_cons, Ev.festivalGameRemoved, Ev.festivalGameAdded]
      · simp [hGame, Json.get, Json.text?, List.lookup_cons]
  | start draft games => rfl
  | end_ active => rfl
  | cancel running => rfl

/-- The events about the festival tell which games have a row, and no discount
was announced for a game that had been removed. -/
structure Database.Announced (db : Database) (festivalId : String) : Prop where
  selected : ∀ gameId, selectedBy db.outboxMessages.rows festivalId gameId =
    (db.festivalGames.find? (festivalId, gameId)).isSome
  discounts : db.outboxMessages.DiscountsSelected festivalId

namespace Database.Announced
variable {cfg : Config} {rt : Runtime} {db db' : Database} {festivalId : String}

/-- Only the game rows of the festival and the outbox matter. -/
theorem frame (h : db.Announced festivalId)
    (hGames : ∀ gameId, db'.festivalGames.find? (festivalId, gameId) =
      db.festivalGames.find? (festivalId, gameId))
    (hLog : db'.outboxMessages = db.outboxMessages) : db'.Announced festivalId where
  selected := by
    intro gameId
    rw [hLog, hGames, h.selected]
  discounts := by
    rw [hLog]
    exact h.discounts

/-- One more event that tells what becomes of the game rows, and is no discount
of a game that is not selected. -/
theorem append (h : db.Announced festivalId) {env : Env} {id : String} {event : String × Fields}
    (skipped : Nat)
    (hGames : ∀ gameId, (db'.festivalGames.find? (festivalId, gameId)).isSome =
      (if id = festivalId then selection event gameId else none).getD
        (db.festivalGames.find? (festivalId, gameId)).isSome)
    (hDiscount : id = festivalId → event.1 = Ev.discountApplied →
      ∀ gameId, (Json.get event.2 "game_id").text? = some gameId →
        (db.festivalGames.find? (festivalId, gameId)).isSome = true)
    (hLog : db'.outboxMessages =
      db.outboxMessages.append skipped (festivalMessage cfg rt env id event)) :
    db'.Announced festivalId where
  selected := by
    intro gameId
    rw [hLog, OutboxLog.selectedBy_append, festivalMessage_selection, hGames, h.selected]
  discounts := by
    rw [hLog]
    apply h.discounts.append
    intro hRow gameId hGame
    rw [festivalMessage_discounts, Bool.and_eq_true, decide_eq_true_eq, decide_eq_true_eq] at hRow
    rw [h.selected]
    exact hDiscount hRow.1 hRow.2 gameId hGame

/-- A discount of a game that the festival has selected may be appended, for
the events before it tell of the selection. -/
theorem discount (h : db.Announced festivalId) {env : Env} {id gameId : String} {payload : Fields}
    (skipped : Nat) (hGame : (Json.get payload "game_id").text? = some gameId)
    (hSelected : id = festivalId → (db.festivalGames.find? (festivalId, gameId)).isSome = true)
    (hGames : db'.festivalGames = db.festivalGames)
    (hLog : db'.outboxMessages = db.outboxMessages.append skipped
      (festivalMessage cfg rt env id (Ev.discountApplied, payload))) :
    db'.Announced festivalId := by
  apply h.append skipped _ _ hLog
  · intro g
    rw [selection_other (by decide) (by decide), ite_self, hGames]
    rfl
  · intro hId _ g hOther
    obtain rfl := Option.some.inj (hGame.symm.trans hOther)
    exact hSelected hId

/-- Every request keeps it, when requests are served one after another. In
between the reading and the commit an admin can break it. -/
theorem change {request : Request} (h : db.Announced festivalId)
    (hChange : Change cfg rt db request db') : db'.Announced festivalId := by
  cases hChange with
  | idle => exact h
  | catalog => exact h.frame (fun _ => rfl) rfl
  | @created festival row payload log draft encoded absent enqueued =>
      apply h.append request.env.skipped _ _ (OutboxLog.insert_ok.mp enqueued).2
      · intro gameId
        rw [selection_other (by decide) (by decide), ite_self]
        rfl
      · intro _ hType
        change Ev.festivalCreated = Ev.discountApplied at hType
        exact absurd hType (by decide)
  | @changed command row f f' write log found loaded effect planned enqueued =>
      have hKeyed := effect.keyed loaded.keyed
      have hId : f'.id = row.id := by rw [effect.id, loaded.id]
      have hGames (gameId : String) :
          ((write.apply db).festivalGames.find? (festivalId, gameId)).isSome =
            (if f'.id = festivalId then (command.event f').bind fun event => selection event gameId
              else none).getD (db.festivalGames.find? (festivalId, gameId)).isSome := by
        split_ifs with hHere
        · subst hHere
          have hAfter := congrArg Option.isSome (planned.told loaded effect gameId)
          rw [Option.isSome_map, Option.isSome_map] at hAfter
          rw [hAfter, FestivalService.Command.selection_event effect, loaded.games, hId,
            Option.isSome_map]
        · rw [planned.find?_other hKeyed (fun he => hHere he.symm)]
          rfl
      rcases OutboxLog.insertAll_cases enqueued with ⟨hNone, rfl⟩ | ⟨event, hEvent, rfl⟩
      · refine ⟨?_, h.discounts⟩
        intro gameId
        rw [h.selected]
        refine Eq.trans ?_ (hGames gameId).symm
        rw [hNone]
        simp
      · rw [hEvent] at hGames
        refine Database.Announced.append h request.env.skipped hGames ?_ rfl
        intro _ hType
        exact absurd hType (FestivalService.Command.event_type hEvent).1
  | @recorded eventType promotionId id gameId payload row festival snapshot promotion log consumed
      promotionField festivalField gameField found loaded read upserted enqueued =>
      rcases OutboxLog.insertAll_cases enqueued with ⟨_, rfl⟩ | ⟨event, hEvent, rfl⟩
      · exact h.frame (fun _ => rfl) rfl
      · obtain ⟨_, _, game, hGame, rfl⟩ := CatalogSyncService.announcement_some hEvent
        have hField : (Json.get (CatalogSyncService.discountPayload snapshot.festivalId gameId
          game.title promotionId snapshot.discountBps payload) "game_id").text? = some gameId := rfl
        refine h.discount request.env.skipped hField ?_ rfl rfl
        rintro rfl
        rw [loaded.games, KeyedTable.key_of_find? found, Option.map_eq_some_iff] at hGame
        obtain ⟨gameRow, hRow, _⟩ := hGame
        rw [hRow]
        rfl

end Database.Announced

end Arcadia
