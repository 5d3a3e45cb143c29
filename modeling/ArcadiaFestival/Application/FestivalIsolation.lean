import ArcadiaFestival.Application.Commands
import ArcadiaFestival.Application.Concurrency
import ArcadiaFestival.Application.EventPipeline
import ArcadiaFestival.Library.Noninterference

/-! Festivals do not interfere with one another. What becomes of a festival depends on the
requests about it and on what Catalog says of the games, and on nothing else that goes on
in the service, as long as no two requests draw the same event id. -/
namespace Arcadia
open Library Fallible

/-- All that a request about a festival acts on, and the history it adds to.
The catalog is part of it, as selections read it. -/
@[ext] structure FestivalPart where
  row : Option FestivalRow
  games : List FestivalGameRow
  catalogGames : KeyedTable CatalogGameRow.gameId
  history : List (String × Fields)

def ofFestival (festivalId : String) (row : FestivalGameRow) : Bool := row.festivalId = festivalId

def Database.part (festivalId : String) (db : Database) : FestivalPart where
  row := db.festivals.find? festivalId
  games := db.festivalGames.rows.filter (ofFestival festivalId)
  catalogGames := db.catalogGames
  history := db.outboxMessages.history festivalId

/-- The request is about the festival, or about the games of the catalog.
Promotion events concern no festival in this sense. -/
def Request.concerns (festivalId : String) (request : Request) : Bool :=
  match request.operation with
  | .create _ _ _ _ _ => request.env.newId = festivalId
  | .reschedule id _ _ _ => id = festivalId
  | .addGame id _ _ => id = festivalId
  | .removeGame id _ _ => id = festivalId
  | .start id _ => id = festivalId
  | .end_ id _ => id = festivalId
  | .cancel id _ => id = festivalId
  | .consume (.promotion _) _ => false
  | .consume _ _ => true

/-- The event ids of the requests to come are new, and different from one
another. -/
structure Unused (db : Database) (requests : List Request) : Prop where
  fresh : ∀ request ∈ requests, ∀ row ∈ db.outboxMessages.rows,
    row.eventId ≠ request.env.stamp.eventId
  distinct : (requests.map fun request => request.env.stamp.eventId).Nodup

section
variable {cfg : Config} {rt : Runtime} {env : Env} {festivalId : String} {db db' : Database}

/-- Two databases that agree on a festival have the same rows of games for it. -/
theorem rowsOf_of_part (h : db.part festivalId = db'.part festivalId) :
    rowsOf festivalId db = rowsOf festivalId db' := by
  obtain ⟨hRow, hGames, _, _⟩ := FestivalPart.mk.inj h
  unfold rowsOf Database.gamesOf KeyedTable.select
  unfold ofFestival at hGames
  simp only [hRow, hGames]

/-- The game rows that a save adds are those of its own festival. -/
theorem Planned.added_key {festival : Festival} {write : FestivalWrite}
    (h : Planned rt db festival write) {game : FestivalGameRow} (hGame : game ∈ write.added) :
    game.festivalId = festival.id := by
  obtain ⟨entry, _, _, hNew⟩ := (h.added game).mp hGame
  obtain ⟨_, _, _, _, _, _, rfl⟩ := newFestivalGameRow_iff.mp hNew
  rfl

theorem ofFestival_of_key {row game : FestivalGameRow} (h : row.key = game.key) :
    ofFestival festivalId row = ofFestival festivalId game := by
  have hSame : row.festivalId = game.festivalId := congrArg Prod.fst h
  rw [ofFestival, ofFestival, hSame]

/-- A save writes the same in two databases that have the same of its festival. -/
theorem Planned.apply_congr {festival : Festival} {write : FestivalWrite}
    (h : Planned rt db festival write) (hId : festival.id = festivalId)
    (hPart : db.part festivalId = db'.part festivalId) :
    (write.apply db).part festivalId = (write.apply db').part festivalId := by
  obtain ⟨_, hGames, hCatalog, hHistory⟩ := FestivalPart.mk.inj hPart
  have hRow : (db.festivals.put write.row).find? festivalId =
      (db'.festivals.put write.row).find? festivalId := by
    rw [KeyedTable.find?_put, KeyedTable.find?_put, if_pos (h.row_id.trans hId),
      if_pos (h.row_id.trans hId)]
  have hAdded (game : FestivalGameRow) (hGame : game ∈ write.added) :
      ofFestival festivalId game = true ∧
        ∀ row : FestivalGameRow, row.key = game.key → ofFestival festivalId row = true := by
    have hOwn : ofFestival festivalId game = true := by
      rw [ofFestival, h.added_key hGame, hId, decide_eq_true rfl]
    exact ⟨hOwn, fun row hKey => (ofFestival_of_key hKey).trans hOwn⟩
  have hAfter := KeyedTable.filter_foldl_put_congr hAdded
    (KeyedTable.filter_foldl_erase_congr (write.removed.map fun gameId => (write.row.id, gameId)) hGames)
  exact FestivalPart.ext hRow hAfter hCatalog hHistory

/-- A save of another festival leaves the rows of this one alone. -/
theorem Planned.apply_other {festival : Festival} {write : FestivalWrite}
    (h : Planned rt db festival write) (hId : festival.id ≠ festivalId) :
    (write.apply db).part festivalId = db.part festivalId := by
  have hRow : (db.festivals.put write.row).find? festivalId = db.festivals.find? festivalId :=
    KeyedTable.find?_put_ne _ (by rw [h.row_id]; exact hId)
  have hOther {row : FestivalGameRow} (hKey : row.festivalId = festival.id) :
      ofFestival festivalId row = false := by
    rw [ofFestival, hKey, decide_eq_false hId]
  have hAdded (game : FestivalGameRow) (hGame : game ∈ write.added) (row : FestivalGameRow)
      (hKey : row.key = game.key) : ofFestival festivalId row = false :=
    (ofFestival_of_key hKey).trans (hOther (h.added_key hGame))
  have hRemoved (row : FestivalGameRow)
      (hKey : row.key ∈ write.removed.map fun gameId => (write.row.id, gameId)) :
      ofFestival festivalId row = false := by
    obtain ⟨gameId, _, hPair⟩ := List.mem_map.mp hKey
    exact hOther ((congrArg Prod.fst hPair).symm.trans h.row_id)
  have hGames : (write.apply db).festivalGames.rows.filter (ofFestival festivalId) =
      db.festivalGames.rows.filter (ofFestival festivalId) :=
    (KeyedTable.filter_foldl_put_of_false hAdded).trans
      (KeyedTable.filter_foldl_erase_of_false hRemoved)
  exact FestivalPart.ext hRow hGames rfl rfl

/-- A transaction that comes to its end on one database does so on the other,
and does the same to the part. -/
def Matched (cfg : Config) (rt : Runtime) (env : Env) (festivalId : String) (tx : Tx Unit)
    (db db' : Database) : Prop :=
  ∀ s, tx ⟨db, []⟩ = .ok ((), s) → ∃ s' id, ∃ event : Option (String × Fields),
    tx ⟨db', []⟩ = .ok ((), s') ∧ s.db.part festivalId = s'.db.part festivalId ∧
    s.db.outboxMessages = db.outboxMessages ∧ s'.db.outboxMessages = db'.outboxMessages ∧
    s.pending = (event.map (festivalMessage cfg rt env id)).toList ∧ s'.pending = s.pending

/-- The event id decides alone whether two logs accept a row, and it is new to
both. -/
theorem insertAll_matched {log log' : OutboxLog} {id : String} {event : Option (String × Fields)}
    {pending : List OutboxMessage}
    (hPending : pending = (event.map (festivalMessage cfg rt env id)).toList)
    (hFresh : ∀ row ∈ log.rows, row.eventId ≠ env.stamp.eventId)
    (hFresh' : ∀ row ∈ log'.rows, row.eventId ≠ env.stamp.eventId)
    (hSame : log.history festivalId = log'.history festivalId) :
    (∃ e e', log.insertAll env.skipped pending = .error e ∧
      log'.insertAll env.skipped pending = .error e') ∨
    ∃ after after', log.insertAll env.skipped pending = .ok after ∧
      log'.insertAll env.skipped pending = .ok after' ∧
      after.history festivalId = after'.history festivalId := by
  cases event with
  | none =>
      subst hPending
      exact Or.inr ⟨log, log', rfl, rfl, hSame⟩
  | some event =>
      have hAccepts {log log' : OutboxLog}
          (hFresh' : ∀ row ∈ log'.rows, row.eventId ≠ env.stamp.eventId)
          (h : log.Accepts (festivalMessage cfg rt env id event)) :
          log'.Accepts (festivalMessage cfg rt env id event) :=
        ⟨h.eventId, h.eventType, h.topic, h.partitionKey, h.envelope, hFresh'⟩
      have hPending : pending = [festivalMessage cfg rt env id event] := hPending
      subst hPending
      cases hInsert : log.insertAll env.skipped [festivalMessage cfg rt env id event] with
      | ok after =>
          right
          obtain ⟨log₁, hFirst, hNil⟩ := bind_ok.mp hInsert
          obtain rfl := pure_ok.mp hNil
          obtain ⟨hAccepted, rfl⟩ := OutboxLog.insert_ok.mp hFirst
          have hSecond : log'.insert env.skipped (festivalMessage cfg rt env id event) = .ok _ :=
            OutboxLog.insert_ok.mpr ⟨hAccepts hFresh' hAccepted, rfl⟩
          refine ⟨_, _, rfl, bind_ok.mpr ⟨_, hSecond, rfl⟩, ?_⟩
          rw [OutboxLog.history_append, OutboxLog.history_append, hSame]
      | error e =>
          left
          cases hInsert' : log'.insertAll env.skipped [festivalMessage cfg rt env id event] with
          | error e' => exact ⟨e, e', rfl, rfl⟩
          | ok after' =>
              obtain ⟨log₁, hFirst, _⟩ := bind_ok.mp hInsert'
              have hAccepted := (OutboxLog.insert_ok.mp hFirst).1
              have hBack : log.insertAll env.skipped [festivalMessage cfg rt env id event] =
                  .ok (log.append env.skipped (festivalMessage cfg rt env id event)) :=
                bind_ok.mpr ⟨_, OutboxLog.insert_ok.mpr ⟨hAccepts hFresh hAccepted, rfl⟩, rfl⟩
              cases hBack.symm.trans hInsert

/-- What two databases have of a festival stays the same through matched
transactions. -/
theorem begin_matched {tx : Tx Unit}
    (hFresh : ∀ row ∈ db.outboxMessages.rows, row.eventId ≠ env.stamp.eventId)
    (hFresh' : ∀ row ∈ db'.outboxMessages.rows, row.eventId ≠ env.stamp.eventId)
    (hPart : db.part festivalId = db'.part festivalId)
    (hThere : Matched cfg rt env festivalId tx db db')
    (hBack : Matched cfg rt env festivalId tx db' db) :
    (UnitOfWork.begin_ env tx db).2.part festivalId =
      (UnitOfWork.begin_ env tx db').2.part festivalId := by
  cases hTx : tx ⟨db, []⟩ with
  | error e =>
      cases hTx' : tx ⟨db', []⟩ with
      | error e' =>
          simp only [UnitOfWork.begin_, hTx, hTx']
          exact hPart
      | ok p =>
          obtain ⟨s, _, _, hOk, _⟩ := hBack p.2 hTx'
          cases hOk.symm.trans hTx
  | ok p =>
      obtain ⟨_, s⟩ := p
      obtain ⟨s', id, event, hTx', hState, hLog, hLog', hPending, hPending'⟩ := hThere s hTx
      have hHistory : db.outboxMessages.history festivalId = db'.outboxMessages.history festivalId :=
        congrArg FestivalPart.history hPart
      rcases insertAll_matched hPending hFresh hFresh' hHistory with
        ⟨e, e', hInsert, hInsert'⟩ | ⟨after, after', hInsert, hInsert', hAfter⟩
      · simp only [UnitOfWork.begin_, hTx, hTx', hLog, hLog', hPending', hInsert, hInsert']
        exact hPart
      · obtain ⟨hRow, hGames, hCatalog, _⟩ := FestivalPart.mk.inj hState
        have hCommitted : ({ s.db with outboxMessages := after } : Database).part festivalId =
            ({ s'.db with outboxMessages := after' } : Database).part festivalId :=
          FestivalPart.ext hRow hGames hCatalog hAfter
        simp only [UnitOfWork.begin_, hTx, hTx', hLog, hLog', hPending', hInsert, hInsert']
        cases env.commit with
        | committed => exact hCommitted
        | rolledBack e => exact hPart
        | unknown e => exact hCommitted

/-- A command on the festival itself reads and writes its part only, so that it
does the same in both databases. -/
theorem Matched.execute {command : FestivalService.Command} (hOwn : command.festivalId = festivalId)
    (hPart : db.part festivalId = db'.part festivalId) :
    Matched cfg rt env festivalId (FestivalService.execute cfg rt env command) db db' := by
  intro s h
  obtain ⟨festival, festival', write, ⟨hFault, hLoad⟩, hPerform, ⟨hFault', hPlan⟩, hTell, rfl⟩ :=
    FestivalService.execute_ok.mp h
  have hRows := rowsOf_of_part hPart
  have hId : festival'.id = festivalId := by
    rcases PostgresFestivalRepository.load_cases hLoad with ⟨_, hNone⟩ | ⟨row, f, hRow, hSome, hLoaded⟩
    · cases hNone
    · obtain rfl := Option.some.inj hSome
      rw [(FestivalService.perform_ok hPerform).id, hLoaded.id, KeyedTable.key_of_find? hRow, hOwn]
  refine ⟨_, festival'.id, command.event festival', FestivalService.execute_ok.mpr
    ⟨festival, festival', write, ⟨hFault, ?_⟩, hPerform, ⟨hFault', ?_⟩, hTell, rfl⟩, ?_, rfl, rfl,
    rfl, rfl⟩
  · rw [hOwn] at hLoad ⊢
    exact (load_congr hRows).symm.trans hLoad
  · exact (planSave_congr hId hRows).symm.trans hPlan
  · exact (planSave_planned hPlan).apply_congr hId hPart

/-- Adding a game reads the catalog as well, which is a part that both
databases share. -/
theorem Matched.addGame {adminId gameId : String} (hPart : db.part festivalId = db'.part festivalId) :
    Matched cfg rt env festivalId (do
      let command ← FestivalService.selectGame env festivalId adminId gameId
      FestivalService.execute cfg rt env command) db db' := by
  intro s h
  obtain ⟨command, t, hSelect, hExecute⟩ := Tx.bind_ok.mp h
  obtain ⟨hFault, rfl, game, hLoad, hPublished, rfl⟩ := FestivalService.selectGame_ok.mp hSelect
  obtain ⟨s', id, event, hExecute', hRest⟩ := Matched.execute rfl hPart s hExecute
  have hCatalog : db.catalogGames = db'.catalogGames := congrArg FestivalPart.catalogGames hPart
  have hLoad' : PostgresCatalogGameRepository.load db' gameId = .ok (some game) := by
    unfold PostgresCatalogGameRepository.load at hLoad ⊢
    rw [← hCatalog]
    exact hLoad
  have hSelect' : FestivalService.selectGame env festivalId adminId gameId ⟨db', []⟩ =
      .ok (_, ⟨db', []⟩) :=
    FestivalService.selectGame_ok.mpr ⟨hFault, rfl, game, hLoad', hPublished, rfl⟩
  exact ⟨s', id, event, Tx.bind_ok.mpr ⟨_, _, hSelect', hExecute'⟩, hRest⟩

theorem Matched.insert {adminId : String} {festival : Festival} (hId : festival.id = festivalId)
    (hPart : db.part festivalId = db'.part festivalId) :
    Matched cfg rt env festivalId (FestivalService.insert cfg rt env adminId festival) db db' := by
  intro s h
  obtain ⟨_, s₁, hAdd, hAnnounce⟩ := Tx.bind_ok.mp h
  obtain ⟨hFault, row, hRow, hAbsent, rfl⟩ := PostgresFestivalRepository.add_ok.mp hAdd
  obtain ⟨hTell, rfl⟩ := FestivalService.announce_ok.mp hAnnounce
  obtain ⟨hFind, hGames, hCatalog, hHistory⟩ := FestivalPart.mk.inj hPart
  have hKey : row.id = festivalId := (newFestivalRow_ok hRow).1.trans hId
  have hAbsent' : db'.festivals.find? row.id = none := by
    rw [hKey] at hAbsent ⊢
    exact hFind.symm.trans hAbsent
  refine ⟨_, festival.id, some _, Tx.bind_ok.mpr ⟨(), _, PostgresFestivalRepository.add_ok.mpr
    ⟨hFault, row, hRow, hAbsent', rfl⟩, FestivalService.announce_ok.mpr ⟨hTell, rfl⟩⟩, ?_, rfl, rfl,
    rfl, rfl⟩
  have hPut : (db.festivals.put row).find? festivalId = (db'.festivals.put row).find? festivalId := by
    rw [KeyedTable.find?_put, KeyedTable.find?_put, if_pos hKey, if_pos hKey]
  exact FestivalPart.ext hPut hGames hCatalog hHistory

/-- Writing a game of the catalog depends on the row of this game. -/
theorem Matched.upsert {snapshot : CatalogGameSnapshot}
    (hPart : db.part festivalId = db'.part festivalId) :
    Matched cfg rt env festivalId (PostgresCatalogGameRepository.upsert rt env snapshot) db db' := by
  intro s h
  obtain ⟨hFault, row, hRow, rfl⟩ := PostgresCatalogGameRepository.upsert_ok.mp h
  obtain ⟨hFind, hGames, hCatalog, hHistory⟩ := FestivalPart.mk.inj hPart
  have hCatalog : db.catalogGames = db'.catalogGames := hCatalog
  have hRow' : PostgresCatalogGameRepository.upsertRow rt
      (db'.catalogGames.find? snapshot.gameId) snapshot = .ok row := by
    rw [← hCatalog]
    exact hRow
  refine ⟨_, festivalId, none, PostgresCatalogGameRepository.upsert_ok.mpr ⟨hFault, row, hRow', rfl⟩,
    ?_, rfl, rfl, rfl, rfl⟩
  exact FestivalPart.ext hFind hGames (congrArg (KeyedTable.put · row) hCatalog) hHistory

theorem Matched.get_upsert {gameId : String}
    {snapshot : Option CatalogGameSnapshot → CatalogGameSnapshot}
    (hPart : db.part festivalId = db'.part festivalId) :
    Matched cfg rt env festivalId (do
      let existing ← PostgresCatalogGameRepository.get_ env gameId
      PostgresCatalogGameRepository.upsert rt env (snapshot existing)) db db' := by
  intro s h
  obtain ⟨existing, t, hGet, hUpsert⟩ := Tx.bind_ok.mp h
  obtain ⟨hFault, hLoad, rfl⟩ := PostgresCatalogGameRepository.get_ok.mp hGet
  obtain ⟨s', id, event, hUpsert', hRest⟩ := Matched.upsert hPart s hUpsert
  have hCatalog : db.catalogGames = db'.catalogGames := congrArg FestivalPart.catalogGames hPart
  have hLoad' : PostgresCatalogGameRepository.load db' gameId = .ok existing := by
    unfold PostgresCatalogGameRepository.load at hLoad ⊢
    rw [← hCatalog]
    exact hLoad
  exact ⟨s', id, event, Tx.bind_ok.mpr ⟨_, _, PostgresCatalogGameRepository.get_ok.mpr
    ⟨hFault, hLoad', rfl⟩, hUpsert'⟩, hRest⟩

/-- A handler of game events, on two databases with the same catalog. -/
theorem Handler.run_matched {handler : CatalogSyncService.Handler}
    (hGame : ∀ eventType, handler ≠ .promotion eventType) (payload : Fields)
    (hFresh : ∀ row ∈ db.outboxMessages.rows, row.eventId ≠ env.stamp.eventId)
    (hFresh' : ∀ row ∈ db'.outboxMessages.rows, row.eventId ≠ env.stamp.eventId)
    (hPart : db.part festivalId = db'.part festivalId) :
    (handler.run cfg rt env payload db).2.part festivalId =
      (handler.run cfg rt env payload db').2.part festivalId := by
  have hBegin {tx : Tx Unit} (hThere : Matched cfg rt env festivalId tx db db')
      (hBack : Matched cfg rt env festivalId tx db' db) :
      (UnitOfWork.begin_ env tx db).2.part festivalId =
        (UnitOfWork.begin_ env tx db').2.part festivalId :=
    begin_matched hFresh hFresh' hPart hThere hBack
  have hSet (published : Bool) :
      (CatalogSyncService.setPublished rt env published payload db).2.part festivalId =
        (CatalogSyncService.setPublished rt env published payload db').2.part festivalId := by
    unfold CatalogSyncService.setPublished
    cases CatalogSyncService.require rt payload "game_id" with
    | error e => exact hPart
    | ok gameId => exact hBegin (Matched.get_upsert hPart) (Matched.get_upsert hPart.symm)
  cases handler with
  | promotion eventType => exact absurd rfl (hGame eventType)
  | gameWithdrawn => exact hSet false
  | gameRelisted => exact hSet true
  | gamePublished =>
      simp only [CatalogSyncService.Handler.run, CatalogSyncService.gamePublished]
      cases CatalogSyncService.require rt payload "game_id" with
      | error e => exact hPart
      | ok gameId => exact hBegin (Matched.upsert hPart) (Matched.upsert hPart.symm)
  | gameUpdated =>
      simp only [CatalogSyncService.Handler.run, CatalogSyncService.gameUpdated]
      cases CatalogSyncService.require rt payload "game_id" with
      | error e => exact hPart
      | ok gameId =>
          simp only
          split
          · exact hPart
          · exact hBegin (Matched.get_upsert hPart) (Matched.get_upsert hPart.symm)

/-- A request acts on its part alone: from two databases with the same part it
leaves the same part. -/
theorem serve_consistent {request : Request} (hConcerns : request.concerns festivalId = true)
    (hFresh : ∀ row ∈ db.outboxMessages.rows, row.eventId ≠ request.env.stamp.eventId)
    (hFresh' : ∀ row ∈ db'.outboxMessages.rows, row.eventId ≠ request.env.stamp.eventId)
    (hPart : db.part festivalId = db'.part festivalId) :
    (serve cfg rt db request).part festivalId = (serve cfg rt db' request).part festivalId := by
  obtain ⟨operation, env⟩ := request
  have hHandle {id : String} {tx : Tx Unit} (hThere : Matched cfg rt env festivalId tx db db')
      (hBack : Matched cfg rt env festivalId tx db' db) :
      (FestivalService.handle rt env id tx db).2.part festivalId =
        (FestivalService.handle rt env id tx db').2.part festivalId := by
    rw [FestivalService.handle_database, FestivalService.handle_database]
    exact begin_matched hFresh hFresh' hPart hThere hBack
  have hExecute {command : FestivalService.Command} (hOwn : command.festivalId = festivalId) :
      (FestivalService.handle rt env festivalId (FestivalService.execute cfg rt env command)
          db).2.part festivalId =
        (FestivalService.handle rt env festivalId (FestivalService.execute cfg rt env command)
          db').2.part festivalId :=
    hHandle (Matched.execute hOwn hPart) (Matched.execute hOwn hPart.symm)
  cases operation with
  | create adminId name description startsAt endsAt =>
      have hNew : env.newId = festivalId := of_decide_eq_true hConcerns
      simp only [serve, FestivalService.create]
      cases hCreate : Festival.create env.newId name description startsAt endsAt adminId env.now with
      | error e => exact hPart
      | ok festival =>
          have hId : festival.id = festivalId := (Festival.create_new hCreate).1.trans hNew
          exact hHandle (Matched.insert hId hPart) (Matched.insert hId hPart.symm)
  | addGame id adminId gameId =>
      obtain rfl : id = festivalId := of_decide_eq_true hConcerns
      exact hHandle (Matched.addGame hPart) (Matched.addGame hPart.symm)
  | start id adminId =>
      obtain rfl : id = festivalId := of_decide_eq_true hConcerns
      simp only [serve, FestivalService.start]
      cases env.audience with
      | error e => exact hPart
      | ok audience => exact hExecute rfl
  | reschedule id adminId startsAt endsAt =>
      obtain rfl : id = festivalId := of_decide_eq_true hConcerns
      exact hExecute rfl
  | removeGame id adminId gameId =>
      obtain rfl : id = festivalId := of_decide_eq_true hConcerns
      exact hExecute rfl
  | end_ id adminId =>
      obtain rfl : id = festivalId := of_decide_eq_true hConcerns
      exact hExecute rfl
  | cancel id adminId =>
      obtain rfl : id = festivalId := of_decide_eq_true hConcerns
      exact hExecute rfl
  | consume handler payload =>
      apply Handler.run_matched _ payload hFresh hFresh' hPart
      rintro eventType rfl
      cases hConcerns

/-- Promotions are no part of a festival, and discounts no part of its history.
A promotion event leaves both. -/
theorem promotionEvent_part (eventType : String) (payload : Fields) :
    (CatalogSyncService.promotionEvent cfg rt env eventType payload db).2.part festivalId =
      db.part festivalId := by
  unfold CatalogSyncService.promotionEvent
  cases CatalogSyncService.require rt payload "promotion_id" with
  | error e => rfl
  | ok promotionId =>
      cases CatalogSyncService.require rt payload "game_id" with
      | error e => rfl
      | ok gameId =>
          simp only
          split_ifs
          · rfl
          · rcases UnitOfWork.begin_cases env (CatalogSyncService.recordPromotion cfg rt env eventType
              promotionId (CatalogSyncService.textField rt payload "festival_id") gameId payload)
              db with h | ⟨u, s, log, hOk, hLog, h⟩
            · rw [h]
            · rw [h]
              rcases (CatalogSyncService.recordPromotion_ok.mp hOk).2 with
                ⟨_, rfl⟩ | ⟨festival, previous, snapshot, promotion, _, _, _, _, _, rfl⟩
              · obtain rfl := pure_ok.mp hLog
                rfl
              · have hHistory : log.history festivalId = db.outboxMessages.history festivalId := by
                  rw [OutboxLog.history_insertAll hLog, Option.filter_eq_none_iff.mpr,
                    Option.toList_none, List.append_nil]
                  intro event hEvent
                  obtain ⟨_, _, game, _, rfl⟩ := CatalogSyncService.announcement_some hEvent
                  simp
                exact FestivalPart.ext rfl rfl rfl hHistory

/-- A request that does not concern a festival leaves its part as it is. -/
theorem serve_local {request : Request} (hConcerns : request.concerns festivalId = false) :
    (serve cfg rt db request).part festivalId = db.part festivalId := by
  have hOrigin := serve_origin cfg rt db request
  generalize hServe : serve cfg rt db request = served at hOrigin
  cases hOrigin with
  | idle => rfl
  | founded asked done =>
      cases done with
      | @intro festival row log built encoded absent enqueued =>
          have hNew : festival.id ≠ festivalId := by
            rw [(Festival.create_new built).1]
            rw [Request.concerns, asked] at hConcerns
            exact of_decide_eq_false hConcerns
          have hRow : (db.festivals.put row).find? festivalId = db.festivals.find? festivalId :=
            KeyedTable.find?_put_ne _ (by rw [(newFestivalRow_ok encoded).1]; exact hNew)
          have hHistory : log.history festivalId = db.outboxMessages.history festivalId := by
            rw [(OutboxLog.insert_ok.mp enqueued).2, OutboxLog.history_append, festivalMessage_tells]
            simp [hNew]
          exact FestivalPart.ext hRow rfl rfl hHistory
  | @enacted command _ asked done =>
      have hOther : command.festivalId ≠ festivalId := by
        rw [Request.concerns] at hConcerns
        generalize request.operation = operation at asked hConcerns
        cases asked with
        | _ => exact of_decide_eq_false hConcerns
      obtain ⟨row, festival, festival', write, log, hExecuted, hLog, rfl⟩ := done.executed
      obtain ⟨hRow, hGames, hCatalog, _⟩ := FestivalPart.mk.inj
        (hExecuted.planned.apply_other (by rw [hExecuted.id]; exact hOther))
      have hHistory : log.history festivalId = db.outboxMessages.history festivalId := by
        rw [hExecuted.history hLog, if_neg hOther.symm, List.append_nil]
      exact FestivalPart.ext hRow hGames hCatalog hHistory
  | @consumed handler payload _ asked change festivals festivalGames =>
      obtain ⟨operation, env⟩ := request
      obtain rfl : operation = .consume handler payload := asked
      rw [← hServe]
      cases handler with
      | promotion eventType => exact promotionEvent_part eventType payload
      | _ => cases hConcerns

/-- A request uses up its own event id, at most. The ids that are still to come
stay unused. -/
theorem Unused.serve {request : Request} {requests : List Request}
    (h : Unused db (request :: requests)) : Unused (serve cfg rt db request) requests := by
  have hDistinct := h.distinct
  rw [List.map_cons, List.nodup_cons] at hDistinct
  refine ⟨?_, hDistinct.2⟩
  intro other hOther row hRow
  have hOld := h.fresh other (List.mem_cons_of_mem _ hOther)
  rcases (serve_change cfg rt db request).log with hSame | ⟨id, event, _, hLog⟩
  · rw [hSame] at hRow
    exact hOld row hRow
  · rw [hLog] at hRow
    rcases List.mem_append.mp hRow with hIn | hNew
    · exact hOld row hIn
    · obtain rfl := List.mem_singleton.mp hNew
      intro hId
      have hId : request.env.stamp.eventId = other.env.stamp.eventId := hId
      exact hDistinct.1 (hId ▸ List.mem_map_of_mem hOther)

theorem Unused.skip {request : Request} {requests : List Request}
    (h : Unused db (request :: requests)) : Unused db requests :=
  ⟨fun other hOther => h.fresh other (List.mem_cons_of_mem _ hOther), (List.nodup_cons.mp h.distinct).2⟩

end

/-- Requests that concern the festival do the same on the same part, and those
that do not concern it leave the part. These are the conditions of the library. -/
theorem serve_unwinding (cfg : Config) (rt : Runtime) (festivalId : String) :
    Noninterference.Unwinding (serve cfg rt) (Database.part festivalId) (Request.concerns festivalId)
      Unused where
  kept _ _ _ h := h.serve
  skipped _ _ _ h := h.skip
  local_ _ _ hConcerns := serve_local hConcerns
  consistent _ _ _ _ hs ht hConcerns hView :=
    serve_consistent hConcerns (hs.fresh _ (List.mem_cons_self ..)) (ht.fresh _ (List.mem_cons_self ..))
      hView

/-- Two runs that begin with the same database and have the same requests about
a festival and about the games of the catalog leave the same festival behind,
with the same history, whatever else either of them does in between. The
requests of a run must draw event ids that are new and different from one
another. -/
theorem run_isolated (cfg : Config) (rt : Runtime) (db : Database) (festivalId : String)
    {requests requests' : List Request} (h : Unused db requests) (h' : Unused db requests')
    (hSame : requests.filter (Request.concerns festivalId) =
      requests'.filter (Request.concerns festivalId)) :
    (Trace.run (serve cfg rt) db requests).part festivalId =
      (Trace.run (serve cfg rt) db requests').part festivalId :=
  (serve_unwinding cfg rt festivalId).run_view_eq h h' hSame

namespace Sample

/-- The sale is prepared, with another one founded and a promotion recorded
meanwhile. -/
def crowded : List Request :=
  [⟨.create "admin-1" "Sale" "" ⟨100, some 0⟩ ⟨200, some 0⟩, env 1⟩,
    ⟨.create "admin-2" "Winter" "" ⟨300, some 0⟩ ⟨400, some 0⟩, { env 3 with newId := "fest-2" }⟩,
    ⟨.addGame "fest-2" "admin-2" "game-1", env 4⟩, deliver approved 5,
    ⟨.addGame "fest-1" "admin-1" "game-1", env 2⟩, ⟨.cancel "fest-2" "admin-1", env 6⟩]

end Sample

open Sample in
/-- A run with requests about other festivals in between, and the same run
without them. -/
theorem run_isolated_crowded :
    (Trace.run (serve cfg rt) start prepared).part "fest-1" =
      (Trace.run (serve cfg rt) start crowded).part "fest-1" :=
  run_isolated cfg rt start "fest-1" ⟨by decide, by decide⟩ ⟨by decide, by decide⟩ rfl

end Arcadia
