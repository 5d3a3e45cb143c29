import ArcadiaFestival.Adapters.FestivalMapping
import ArcadiaFestival.Application.CatalogSyncService
import ArcadiaFestival.Application.FestivalService
import ArcadiaFestival.Domain.FestivalLifecycle

/-! The whole service as one step function on the database: a request of an admin,
or one call of a handler of Catalog's events. `Change` says once what a step can do
to the database; everything about runs is derived from it. -/
namespace Arcadia
open Library Fallible

inductive Operation where
  | create (adminId name description : String) (startsAt endsAt : DateTime)
  | reschedule (festivalId adminId : String) (startsAt endsAt : DateTime)
  | addGame (festivalId adminId gameId : String)
  | removeGame (festivalId adminId gameId : String)
  | start (festivalId adminId : String)
  | end_ (festivalId adminId : String)
  | cancel (festivalId adminId : String)
  | consume (handler : CatalogSyncService.Handler) (payload : Fields)

structure Request where
  operation : Operation
  env : Env

/-- The committed database after a request. A request that raises is served
too, and its readings and faults are part of it. -/
def serve (cfg : Config) (rt : Runtime) (db : Database) (request : Request) : Database :=
  let env := request.env
  match request.operation with
  | .create adminId name description startsAt endsAt =>
      (FestivalService.create cfg rt env adminId name description startsAt endsAt db).2
  | .reschedule festivalId adminId startsAt endsAt =>
      (FestivalService.reschedule cfg rt env festivalId adminId startsAt endsAt db).2
  | .addGame festivalId adminId gameId =>
      (FestivalService.addGame cfg rt env festivalId adminId gameId db).2
  | .removeGame festivalId adminId gameId =>
      (FestivalService.removeGame cfg rt env festivalId adminId gameId db).2
  | .start festivalId adminId => (FestivalService.start cfg rt env festivalId adminId db).2
  | .end_ festivalId adminId => (FestivalService.end_ cfg rt env festivalId adminId db).2
  | .cancel festivalId adminId => (FestivalService.cancel cfg rt env festivalId adminId db).2
  | .consume handler payload => (handler.run cfg rt env payload db).2

/-- The outbox row for an event about a festival. -/
def festivalMessage (cfg : Config) (rt : Runtime) (env : Env) (festivalId : String)
    (event : String × Fields) : OutboxMessage :=
  OutboxEventPublisher.message cfg rt env event.1 Ev.aggregateFestival festivalId event.2 "" ""

/-- What the flush of one event or of none makes of the outbox. No transaction
of the service has more. -/
theorem OutboxLog.insertAll_cases {log log' : OutboxLog} {skipped : Nat} {cfg : Config} {rt : Runtime}
    {env : Env} {festivalId : String} {event : Option (String × Fields)}
    (h : log.insertAll skipped (event.map (festivalMessage cfg rt env festivalId)).toList =
      .ok log') :
    (event = none ∧ log' = log) ∨
      ∃ e, event = some e ∧ log' = log.append skipped (festivalMessage cfg rt env festivalId e) := by
  cases event with
  | none => exact Or.inl ⟨rfl, (pure_ok.mp h).symm⟩
  | some event =>
      obtain ⟨log₁, hInsert, hNil⟩ := bind_ok.mp h
      obtain rfl := pure_ok.mp hNil
      exact Or.inr ⟨event, rfl, (insert_ok.mp hInsert).2⟩

/-- The promotion is recorded as active. -/
def Database.recordedActive (db : Database) (promotionId : String) : Bool :=
  (db.promotionSnapshots.find? promotionId).any fun row => row.state = "ACTIVE"

/-- The event about an approved promotion of a selected game that is not
recorded as active yet. -/
def CatalogSyncService.announcement (db : Database) (eventType promotionId gameId : String)
    (payload : Fields) (festival : Festival) (snapshot : PromotionSnapshot) :
    Option (String × Fields) :=
  match festival.games.get? gameId with
  | some game =>
      if eventType = Ev.catalogPromotionApproved ∧ db.recordedActive promotionId = false then
        some (Ev.discountApplied,
          CatalogSyncService.discountPayload snapshot.festivalId gameId game.title promotionId
            snapshot.discountBps payload)
      else none
  | none => none

/-- A discount is announced for an approval, of a promotion that was not
recorded as active, for a game that the festival has selected. -/
theorem CatalogSyncService.announcement_some {db : Database}
    {eventType promotionId gameId : String} {payload : Fields} {festival : Festival}
    {snapshot : PromotionSnapshot} {event : String × Fields}
    (h : announcement db eventType promotionId gameId payload festival snapshot = some event) :
    eventType = Ev.catalogPromotionApproved ∧ db.recordedActive promotionId = false ∧
      ∃ game, festival.games.get? gameId = some game ∧
        event = (Ev.discountApplied, discountPayload snapshot.festivalId gameId game.title
          promotionId snapshot.discountBps payload) := by
  unfold announcement at h
  split at h
  · rename_i game hGame
    split_ifs at h with hNew
    exact ⟨hNew.1, hNew.2, game, hGame, (Option.some.inj h).symm⟩
  · cases h

/-- What a request can do: nothing, insert a festival, change one with its
event, write a row of the catalog read model, or record a promotion of a known
festival, with its announcement if it is newly approved for a selected game. -/
inductive Change (cfg : Config) (rt : Runtime) (db : Database) (request : Request) :
    Database → Prop where
  | idle : Change cfg rt db request db
  | created {festival : Festival} {row : FestivalRow} {payload : Fields} {log : OutboxLog}
      (draft : festival.state = .draft) (encoded : newFestivalRow rt festival = .ok row)
      (absent : db.festivals.find? row.id = none)
      (enqueued : db.outboxMessages.insert request.env.skipped
        (festivalMessage cfg rt request.env festival.id (Ev.festivalCreated, payload)) = .ok log) :
      Change cfg rt db request
        { db with festivals := db.festivals.put row, outboxMessages := log }
  | changed {command : FestivalService.Command} {row : FestivalRow} {festival festival' : Festival}
      {write : FestivalWrite} {log : OutboxLog}
      (found : db.festivals.find? command.festivalId = some row) (loaded : Loaded db row festival)
      (effect : Festival.Effect festival command.operation festival')
      (planned : Planned rt db festival' write)
      (enqueued : db.outboxMessages.insertAll request.env.skipped
        ((command.event festival').map (festivalMessage cfg rt request.env festival'.id)).toList =
          .ok log) :
      Change cfg rt db request { write.apply db with outboxMessages := log }
  | catalog {catalogGames : KeyedTable CatalogGameRow.gameId} :
      Change cfg rt db request { db with catalogGames := catalogGames }
  | recorded {eventType promotionId festivalId gameId : String} {payload : Fields}
      {row : FestivalRow} {festival : Festival} {snapshot : PromotionSnapshot}
      {promotion : PromotionSnapshotRow} {log : OutboxLog}
      (consumed : request.operation = .consume (.promotion eventType) payload)
      (promotionField : CatalogSyncService.require rt payload "promotion_id" = .ok promotionId)
      (festivalField : CatalogSyncService.textField rt payload "festival_id" = festivalId)
      (gameField : CatalogSyncService.require rt payload "game_id" = .ok gameId)
      (found : db.festivals.find? festivalId = some row) (loaded : Loaded db row festival)
      (read : CatalogSyncService.readSnapshot rt request.env promotionId festivalId gameId payload =
        .ok snapshot)
      (upserted : PostgresPromotionRepository.upsertRow rt
        (db.promotionSnapshots.find? promotionId) snapshot = .ok promotion)
      (enqueued : db.outboxMessages.insertAll request.env.skipped
        ((CatalogSyncService.announcement db eventType promotionId gameId payload festival
          snapshot).map (festivalMessage cfg rt request.env festivalId)).toList = .ok log) :
      Change cfg rt db request
        { db with
          promotionSnapshots := db.promotionSnapshots.put promotion, outboxMessages := log }

namespace FestivalService
variable {cfg : Config} {rt : Runtime} {env : Env}

theorem announce_ok {festivalId : String} {event : Option (String × Fields)} {s t : Session}
    {u : Unit} : announce cfg rt env festivalId event s = .ok (u, t) ↔
      (event ≠ none → env.fault .publisherEnqueue = none) ∧
        t = { s with
          pending := s.pending ++ (event.map (festivalMessage cfg rt env festivalId)).toList } := by
  cases event with
  | none => simp [announce, Tx.pure_ok]
  | some event =>
      rw [announce, OutboxEventPublisher.enqueue_ok]
      simp [festivalMessage]

/-- A method that returns has had the effect of its operation. The later proofs
go by the effects and never look into the methods. -/
theorem perform_ok {operation : Festival.Operation} {festival festival' : Festival}
    (h : perform operation festival = .ok festival') :
    Festival.Effect festival operation festival' := by
  rcases operation.run_cases festival with ⟨e, hRun⟩ | ⟨f, hRun, hEffect⟩
  · simp [perform, hRun] at h
  · obtain rfl : f = festival' := by simpa [perform, hRun] using h
    exact hEffect

/-- Loading under the lock reads the festival and leaves the session. -/
theorem load_ok {festivalId : String} {festival : Festival} {s t : Session} :
    load env festivalId s = .ok (festival, t) ↔ env.fault .festivalsGetForUpdate = none ∧
      PostgresFestivalRepository.load s.db festivalId = .ok (some festival) ∧ t = s := by
  unfold load
  rw [Tx.bind_ok]
  constructor
  · rintro ⟨found, s', hGet, hFound⟩
    obtain ⟨hFault, hLoad, rfl⟩ := PostgresFestivalRepository.getForUpdate_ok.mp hGet
    cases found with
    | none => exact (Tx.throw_ok.mp hFound).elim
    | some f =>
        obtain ⟨rfl, rfl⟩ := Tx.pure_ok.mp hFound
        exact ⟨hFault, hLoad, rfl⟩
  · rintro ⟨hFault, hLoad, rfl⟩
    exact ⟨some festival, t, PostgresFestivalRepository.getForUpdate_ok.mpr ⟨hFault, hLoad, rfl⟩,
      Tx.pure_ok.mpr ⟨rfl, rfl⟩⟩

/-- A command that does not raise has loaded its festival, changed it in
memory, and left its writes and its event in the session. -/
theorem execute_ok {command : Command} {s t : Session} {u : Unit} :
    execute cfg rt env command s = .ok (u, t) ↔ ∃ festival festival' write,
      (env.fault .festivalsGetForUpdate = none ∧
        PostgresFestivalRepository.load s.db command.festivalId = .ok (some festival)) ∧
      perform command.operation festival = .ok festival' ∧
      (env.fault .festivalsSave = none ∧ planSave rt s.db festival' = .ok write) ∧
      (command.event festival' ≠ none → env.fault .publisherEnqueue = none) ∧
      t = ⟨write.apply s.db, s.pending ++
        ((command.event festival').map (festivalMessage cfg rt env festival'.id)).toList⟩ := by
  unfold execute
  rw [Tx.bind_ok]
  constructor
  · rintro ⟨festival, s₁, hLoad, hRest⟩
    obtain ⟨hFault, hLoad, rfl⟩ := load_ok.mp hLoad
    obtain ⟨festival', hPerform, hWrite⟩ := Tx.lift_bind_ok.mp hRest
    obtain ⟨_, s₂, hSave, hAnnounce⟩ := Tx.bind_ok.mp hWrite
    obtain ⟨hFault', write, hPlan, rfl⟩ := PostgresFestivalRepository.save_ok.mp hSave
    obtain ⟨hFault'', rfl⟩ := announce_ok.mp hAnnounce
    exact ⟨festival, festival', write, ⟨hFault, hLoad⟩, hPerform, ⟨hFault', hPlan⟩, hFault'', rfl⟩
  · rintro ⟨festival, festival', write, ⟨hFault, hLoad⟩, hPerform, ⟨hFault', hPlan⟩, hFault'', rfl⟩
    refine ⟨festival, s, load_ok.mpr ⟨hFault, hLoad, rfl⟩, ?_⟩
    refine Tx.lift_bind_ok.mpr ⟨festival', hPerform, ?_⟩
    refine Tx.bind_ok.mpr ⟨(), _, PostgresFestivalRepository.save_ok.mpr ⟨hFault', write, hPlan, rfl⟩, ?_⟩
    exact announce_ok.mpr ⟨hFault'', rfl⟩

/-- What the detail view is made of: the festival, its promotions in the order
of the query, and the loop over them. -/
theorem detail_ok {festivalId : String} {db : Database} {view : FestivalDetailView} :
    detail rt env festivalId db = .ok view ↔ env.fault .festivalsGet = none ∧
      env.fault .promotionsListForFestival = none ∧ ∃ festival promotions,
        PostgresFestivalRepository.load db festivalId = .ok (some festival) ∧
        PostgresPromotionRepository.loadForFestival rt db festivalId = .ok promotions ∧
        FestivalDetailView.ofDetail festival promotions = .ok view := by
  constructor
  · intro h
    obtain ⟨⟨festival, promotions⟩, hRead, hView⟩ := bind_ok.mp h
    obtain ⟨⟨_, s⟩, hTx, hPair⟩ := map_ok.mp hRead
    obtain ⟨found, s₁, hGet, hRest⟩ := Tx.bind_ok.mp hTx
    obtain ⟨hFault, hLoad, rfl⟩ := PostgresFestivalRepository.get_ok.mp hGet
    cases found with
    | none => exact (Tx.throw_ok.mp hRest).elim
    | some f =>
        obtain ⟨listed, s₂, hList, hPair'⟩ := Tx.bind_ok.mp hRest
        obtain ⟨hFault', hListed, rfl⟩ := PostgresPromotionRepository.listForFestival_ok.mp hList
        obtain ⟨rfl, rfl⟩ := Tx.pure_ok.mp hPair'
        obtain ⟨rfl, rfl⟩ := Prod.mk.inj hPair
        exact ⟨hFault, hFault', f, listed, hLoad, hListed, hView⟩
  · rintro ⟨hFault, hFault', festival, promotions, hLoad, hListed, hView⟩
    refine bind_ok.mpr ⟨(festival, promotions), map_ok.mpr ⟨((festival, promotions), ⟨db, []⟩), ?_, rfl⟩, hView⟩
    refine Tx.bind_ok.mpr ⟨some festival, _, PostgresFestivalRepository.get_ok.mpr ⟨hFault, hLoad, rfl⟩, ?_⟩
    refine Tx.bind_ok.mpr
      ⟨promotions, _, PostgresPromotionRepository.listForFestival_ok.mpr ⟨hFault', hListed, rfl⟩, ?_⟩
    exact Tx.pure_ok.mpr ⟨rfl, rfl⟩

/-- The page that is read after the transaction does not change the database. -/
theorem handle_database (festivalId : String) (tx : Tx Unit) (db : Database) :
    (handle rt env festivalId tx db).2 = (UnitOfWork.begin_ env tx db).2 := by
  unfold handle
  rcases UnitOfWork.begin_ env tx db with ⟨_ | _, db'⟩
  · rfl
  · rfl

/-- What a command has left in the session, once it is flushed and committed,
in the terms of `Change`. -/
theorem execute_committed {request : Request} {db : Database} {command : Command} {u : Unit}
    {s : Session} {log : OutboxLog} (h : execute cfg rt request.env command ⟨db, []⟩ = .ok (u, s))
    (hLog : s.db.outboxMessages.insertAll request.env.skipped s.pending = .ok log) :
    Change cfg rt db request { s.db with outboxMessages := log } := by
  obtain ⟨festival, festival', write, ⟨_, hLoad⟩, hPerform, ⟨_, hPlan⟩, _, rfl⟩ := execute_ok.mp h
  rcases PostgresFestivalRepository.load_cases hLoad with ⟨_, hNone⟩ | ⟨row, f, hRow, hSome, hLoaded⟩
  · cases hNone
  · obtain rfl := Option.some.inj hSome
    exact .changed hRow hLoaded (perform_ok hPerform) (planSave_planned hPlan) hLog

/-- A use case whose transaction comes down to one command is a change of the
database that this command describes, or none. -/
theorem handle_change {request : Request} {db : Database} (festivalId : String) {tx : Tx Unit}
    (hTx : ∀ u t, tx ⟨db, []⟩ = .ok (u, t) →
      ∃ command, execute cfg rt request.env command ⟨db, []⟩ = .ok (u, t)) :
    Change cfg rt db request (handle rt request.env festivalId tx db).2 := by
  rw [handle_database]
  rcases UnitOfWork.begin_cases request.env tx db with h | ⟨u, s, log, hOk, hLog, h⟩
  · rw [h]
    exact .idle
  · obtain ⟨command, hCommand⟩ := hTx u s hOk
    rw [h]
    exact execute_committed hCommand hLog

/-- A use case around a command changes the database as `Change` says, or
leaves it. -/
theorem execute_change {request : Request} {db : Database} (command : Command)
    (festivalId : String) :
    Change cfg rt db request
      (handle rt request.env festivalId (execute cfg rt request.env command) db).2 :=
  handle_change festivalId fun _ _ h => ⟨command, h⟩

/-- A game is selected from the catalog as the catalog is now, and its title is
copied. -/
theorem selectGame_ok {festivalId adminId gameId : String} {command : Command} {s t : Session} :
    selectGame env festivalId adminId gameId s = .ok (command, t) ↔
      env.fault .catalogGamesGet = none ∧ t = s ∧
        ∃ game, PostgresCatalogGameRepository.load s.db gameId = .ok (some game) ∧
          game.published = true ∧ command = ⟨festivalId, adminId,
            .addGame game.gameId game.title game.developerId adminId env.now, []⟩ := by
  unfold selectGame
  rw [Tx.bind_ok]
  constructor
  · rintro ⟨found, s', hGet, hFound⟩
    obtain ⟨hFault, hLoad, rfl⟩ := PostgresCatalogGameRepository.get_ok.mp hGet
    cases found with
    | none => exact (Tx.throw_ok.mp hFound).elim
    | some game =>
        cases hPublished : game.published with
        | false =>
            simp only [hPublished, if_true, Tx.bind_ok, Tx.throw_ok] at hFound
            obtain ⟨_, _, hThrow, _⟩ := hFound
            exact hThrow.elim
        | true =>
            simp only [hPublished, Bool.true_eq_false, if_false] at hFound
            obtain ⟨rfl, rfl⟩ := Tx.pure_ok.mp hFound
            exact ⟨hFault, rfl, game, hLoad, hPublished, rfl⟩
  · rintro ⟨hFault, rfl, game, hLoad, hPublished, rfl⟩
    refine ⟨some game, t, PostgresCatalogGameRepository.get_ok.mpr ⟨hFault, hLoad, rfl⟩, ?_⟩
    simp only [hPublished, Bool.true_eq_false, if_false]
    exact Tx.pure_ok.mpr ⟨rfl, rfl⟩

/-- Selecting a game is a command that is decided after a look into the
catalog. -/
theorem addGame_change {request : Request} {db : Database}
    (festivalId adminId gameId : String) :
    Change cfg rt db request (addGame cfg rt request.env festivalId adminId gameId db).2 := by
  apply handle_change
  intro u t h
  obtain ⟨command, s, hSelect, hExecute⟩ := Tx.bind_ok.mp h
  obtain ⟨_, rfl, _⟩ := selectGame_ok.mp hSelect
  exact ⟨command, hExecute⟩

/-- Starting a festival asks for its audience first, and does nothing if that
fails. -/
theorem start_change {request : Request} {db : Database} (festivalId adminId : String) :
    Change cfg rt db request (start cfg rt request.env festivalId adminId db).2 := by
  unfold start
  cases request.env.audience with
  | error e => exact .idle
  | ok audience => exact execute_change _ festivalId

/-- Creating a festival puts its row and the event about it in one transaction. -/
theorem create_change {request : Request} {db : Database}
    (adminId name description : String) (startsAt endsAt : DateTime) :
    Change cfg rt db request
      (create cfg rt request.env adminId name description startsAt endsAt db).2 := by
  unfold create
  cases hCreate : Festival.create request.env.newId name description startsAt endsAt adminId
      request.env.now with
  | error e => exact .idle
  | ok festival =>
      simp only
      rw [handle_database]
      rcases UnitOfWork.begin_cases request.env (insert cfg rt request.env adminId festival) db with
        h | ⟨u, s, log, hOk, hLog, h⟩
      · rw [h]
        exact .idle
      · obtain ⟨_, s₁, hAdd, hAnnounce⟩ := Tx.bind_ok.mp hOk
        obtain ⟨_, row, hRow, hAbsent, rfl⟩ := PostgresFestivalRepository.add_ok.mp hAdd
        obtain ⟨_, rfl⟩ := announce_ok.mp hAnnounce
        obtain ⟨log', hInsert, hNil⟩ := bind_ok.mp hLog
        obtain rfl := pure_ok.mp hNil
        rw [h]
        exact .created ((Festival.create_new hCreate).2.2) hRow hAbsent hInsert

end FestivalService

namespace CatalogSyncService
variable {cfg : Config} {rt : Runtime} {env : Env} {request : Request} {db : Database}

/-- A transaction that may write to the catalog read model only. -/
theorem begin_games {tx : Tx Unit}
    (hTx : ∀ u t, tx ⟨db, []⟩ = .ok (u, t) →
      ∃ catalogGames, t = ⟨{ db with catalogGames := catalogGames }, []⟩) :
    ∃ catalogGames, (UnitOfWork.begin_ env tx db).2 = { db with catalogGames := catalogGames } := by
  rcases UnitOfWork.begin_cases env tx db with h | ⟨u, s, log, hOk, hLog, h⟩
  · exact ⟨db.catalogGames, h⟩
  · obtain ⟨catalogGames, rfl⟩ := hTx u s hOk
    obtain rfl := pure_ok.mp hLog
    exact ⟨catalogGames, h⟩

theorem upsert_games {snapshot : CatalogGameSnapshot} {u : Unit} {t : Session}
    (h : PostgresCatalogGameRepository.upsert rt env snapshot ⟨db, []⟩ = .ok (u, t)) :
    ∃ catalogGames, t = ⟨{ db with catalogGames := catalogGames }, []⟩ := by
  obtain ⟨_, row, _, rfl⟩ := PostgresCatalogGameRepository.upsert_ok.mp h
  exact ⟨_, rfl⟩

theorem get_upsert_games {gameId : String}
    {snapshot : Option CatalogGameSnapshot → CatalogGameSnapshot} {u : Unit} {t : Session}
    (h : (do
      let existing ← PostgresCatalogGameRepository.get_ env gameId
      PostgresCatalogGameRepository.upsert rt env (snapshot existing) : Tx Unit) ⟨db, []⟩ =
        .ok (u, t)) :
    ∃ catalogGames, t = ⟨{ db with catalogGames := catalogGames }, []⟩ := by
  obtain ⟨existing, s, hGet, hUpsert⟩ := Tx.bind_ok.mp h
  obtain ⟨_, _, rfl⟩ := PostgresCatalogGameRepository.get_ok.mp hGet
  exact upsert_games hUpsert

/-- A publication is about the catalog only, whatever its payload is. -/
theorem gamePublished_games (payload : Fields) :
    ∃ catalogGames, (gamePublished rt env payload db).2 =
      { db with catalogGames := catalogGames } := by
  unfold gamePublished
  cases require rt payload "game_id" with
  | error e => exact ⟨db.catalogGames, rfl⟩
  | ok gameId => exact begin_games fun u t h => upsert_games h

theorem setPublished_games (published : Bool) (payload : Fields) :
    ∃ catalogGames, (setPublished rt env published payload db).2 =
      { db with catalogGames := catalogGames } := by
  unfold setPublished
  cases require rt payload "game_id" with
  | error e => exact ⟨db.catalogGames, rfl⟩
  | ok gameId => exact begin_games fun u t h => get_upsert_games h

theorem gameUpdated_games (payload : Fields) :
    ∃ catalogGames, (gameUpdated rt env payload db).2 = { db with catalogGames := catalogGames } := by
  unfold gameUpdated
  cases require rt payload "game_id" with
  | error e => exact ⟨db.catalogGames, rfl⟩
  | ok gameId =>
      simp only
      split
      · exact ⟨db.catalogGames, rfl⟩
      · exact begin_games fun u t h => get_upsert_games h

/-- The handlers of game events write to the catalog read model only. They do
not touch a festival that lists the game. -/
theorem Handler.run_games (cfg : Config) (rt : Runtime) (env : Env) (db : Database)
    {handler : Handler} (hGame : ∀ eventType, handler ≠ .promotion eventType)
    (payload : Fields) : ∃ catalogGames, (handler.run cfg rt env payload db).2 =
      { db with catalogGames := catalogGames } := by
  cases handler with
  | gamePublished => exact gamePublished_games payload
  | gameWithdrawn => exact setPublished_games false payload
  | gameRelisted => exact setPublished_games true payload
  | gameUpdated => exact gameUpdated_games payload
  | promotion eventType => exact absurd rfl (hGame eventType)

theorem toPromotion_state {row : PromotionSnapshotRow} {snapshot : PromotionSnapshot}
    (h : toPromotion rt row = .ok snapshot) : snapshot.state = row.state := by
  obtain ⟨listPrice, _, hRest⟩ := bind_ok.mp h
  obtain ⟨effectivePrice, _, hPure⟩ := bind_ok.mp hRest
  obtain rfl := pure_ok.mp hPure
  rfl

/-- The snapshot of a payload is one of the promotion and of the festival that
the payload names. -/
theorem readSnapshot_ids {env : Env} {promotionId festivalId gameId : String} {payload : Fields}
    {snapshot : PromotionSnapshot}
    (h : readSnapshot rt env promotionId festivalId gameId payload = .ok snapshot) :
    snapshot.promotionId = promotionId ∧ snapshot.festivalId = festivalId := by
  obtain ⟨discountBps, _, hStarts⟩ := bind_ok.mp h
  obtain ⟨startsAt, _, hEnds⟩ := bind_ok.mp hStarts
  obtain ⟨endsAt, _, hList⟩ := bind_ok.mp hEnds
  obtain ⟨listPrice, _, hEffective⟩ := bind_ok.mp hList
  obtain ⟨effectivePrice, _, hPure⟩ := bind_ok.mp hEffective
  obtain rfl := pure_ok.mp hPure
  exact ⟨rfl, rfl⟩

/-- The handler looks for the promotion in the state the row has. -/
theorem wasAlreadyActive_eq {promotionId : String} {previous : Option PromotionSnapshot}
    (h : PostgresPromotionRepository.load rt db promotionId = .ok previous) :
    (previous.any fun snapshot => snapshot.state = "ACTIVE") = db.recordedActive promotionId := by
  obtain ⟨key, hKey, hBody⟩ := bind_ok.mp h
  obtain rfl := (Column.text_ok.mp hKey).2
  unfold Database.recordedActive
  split at hBody
  · rename_i hRow
    obtain rfl := pure_ok.mp hBody
    rw [hRow]
    rfl
  · rename_i row hRow
    obtain ⟨snapshot, hSnapshot, rfl⟩ := map_ok.mp hBody
    rw [hRow]
    simp [toPromotion_state hSnapshot]

/-- The end of the transaction enqueues the announcement, if there is one. -/
theorem tell_eq (cfg : Config) (env : Env) {promotionId festivalId : String}
    (eventType gameId : String) (payload : Fields) (festival : Festival) {previous : Option PromotionSnapshot}
    {snapshot : PromotionSnapshot}
    (hStored : PostgresPromotionRepository.load rt db promotionId = .ok previous)
    (hFestival : snapshot.festivalId = festivalId) :
    (match festival.games.get? gameId with
      | some game =>
          if eventType = Ev.catalogPromotionApproved ∧
              (previous.any fun snapshot => snapshot.state = "ACTIVE") = false then
            OutboxEventPublisher.enqueue cfg rt env Ev.discountApplied Ev.aggregateFestival
              festivalId (discountPayload festivalId gameId game.title promotionId
                snapshot.discountBps payload) "" ""
          else pure ()
      | none => pure ()) =
      FestivalService.announce cfg rt env festivalId
        (announcement db eventType promotionId gameId payload festival snapshot) := by
  rw [wasAlreadyActive_eq hStored]
  unfold announcement
  rw [hFestival]
  cases festival.games.get? gameId with
  | none => rfl
  | some game =>
      dsimp only
      split_ifs
      · rfl
      · rfl

/-- A transaction of a promotion event that does not raise has found no
festival, or has recorded the promotion and left its announcement in the
session. -/
theorem recordPromotion_ok {eventType promotionId festivalId gameId : String} {payload : Fields}
    {env : Env} {u : Unit} {t : Session} :
    recordPromotion cfg rt env eventType promotionId festivalId gameId payload ⟨db, []⟩ =
        .ok (u, t) ↔
      env.fault .festivalsGet = none ∧
        ((PostgresFestivalRepository.load db festivalId = .ok none ∧ t = ⟨db, []⟩) ∨
          ∃ festival previous snapshot promotion,
            PostgresFestivalRepository.load db festivalId = .ok (some festival) ∧
            (env.fault .promotionsGet = none ∧
              PostgresPromotionRepository.load rt db promotionId = .ok previous) ∧
            readSnapshot rt env promotionId festivalId gameId payload = .ok snapshot ∧
            (env.fault .promotionsUpsert = none ∧
              PostgresPromotionRepository.upsertRow rt (db.promotionSnapshots.find? promotionId)
                snapshot = .ok promotion) ∧
            (announcement db eventType promotionId gameId payload festival snapshot ≠ none →
              env.fault .publisherEnqueue = none) ∧
            t = ⟨{ db with promotionSnapshots := db.promotionSnapshots.put promotion },
              ((announcement db eventType promotionId gameId payload festival snapshot).map
                (festivalMessage cfg rt env festivalId)).toList⟩) := by
  rw [recordPromotion, Tx.bind_ok]
  constructor
  · rintro ⟨found, s₁, hGet, h⟩
    obtain ⟨hQuiet, hLoad, rfl⟩ := PostgresFestivalRepository.get_ok.mp hGet
    refine ⟨hQuiet, ?_⟩
    cases found with
    | none => exact Or.inl ⟨hLoad, (Tx.pure_ok.mp h).2⟩
    | some festival =>
        right
        obtain ⟨previous, s₂, hPromotion, h⟩ := Tx.bind_ok.mp h
        obtain ⟨hReads, hStored, rfl⟩ := PostgresPromotionRepository.get_ok.mp hPromotion
        obtain ⟨snapshot, hRead, h⟩ := Tx.lift_bind_ok.mp h
        obtain ⟨_, s₃, hUpsert, h⟩ := Tx.bind_ok.mp h
        obtain ⟨hWrites, promotion, hRow, rfl⟩ := PostgresPromotionRepository.upsert_ok.mp hUpsert
        obtain ⟨hPromotionId, hFestivalId⟩ := readSnapshot_ids hRead
        rw [hPromotionId] at hRow
        have hTell := tell_eq cfg env eventType gameId payload festival hStored hFestivalId
        obtain ⟨hTells, rfl⟩ := FestivalService.announce_ok.mp ((congrFun hTell _).symm.trans h)
        exact ⟨festival, previous, snapshot, promotion, hLoad, ⟨hReads, hStored⟩, hRead,
          ⟨hWrites, hRow⟩, hTells, rfl⟩
  · rintro ⟨hQuiet, ⟨hLoad, rfl⟩ | ⟨festival, previous, snapshot, promotion, hLoad,
      ⟨hReads, hStored⟩, hRead, ⟨hWrites, hRow⟩, hTells, rfl⟩⟩
    · exact ⟨none, _, PostgresFestivalRepository.get_ok.mpr ⟨hQuiet, hLoad, rfl⟩,
        Tx.pure_ok.mpr ⟨rfl, rfl⟩⟩
    · obtain ⟨hPromotionId, hFestivalId⟩ := readSnapshot_ids hRead
      rw [← hPromotionId] at hRow
      refine ⟨some festival, _, PostgresFestivalRepository.get_ok.mpr ⟨hQuiet, hLoad, rfl⟩, ?_⟩
      refine Tx.bind_ok.mpr
        ⟨previous, _, PostgresPromotionRepository.get_ok.mpr ⟨hReads, hStored, rfl⟩, ?_⟩
      refine Tx.lift_bind_ok.mpr ⟨snapshot, hRead, ?_⟩
      refine Tx.bind_ok.mpr
        ⟨(), _, PostgresPromotionRepository.upsert_ok.mpr ⟨hWrites, promotion, hRow, rfl⟩, ?_⟩
      have hTell := tell_eq cfg env eventType gameId payload festival hStored hFestivalId
      exact (congrFun hTell _).trans (FestivalService.announce_ok.mpr ⟨hTells, rfl⟩)

/-- An event of a promotion changes its row and enqueues at most one
announcement. -/
theorem promotionEvent_change {eventType : String} {payload : Fields}
    (hOperation : request.operation = .consume (.promotion eventType) payload) :
    Change cfg rt db request (promotionEvent cfg rt request.env eventType payload db).2 := by
  unfold promotionEvent
  cases hPromotion : require rt payload "promotion_id" with
  | error e => exact .idle
  | ok promotionId =>
      cases hGame : require rt payload "game_id" with
      | error e => exact .idle
      | ok gameId =>
          simp only
          split_ifs with hFestival
          · exact .idle
          · rcases UnitOfWork.begin_cases request.env (recordPromotion cfg rt request.env eventType
              promotionId (textField rt payload "festival_id") gameId payload) db with
              h | ⟨u, s, log, hOk, hLog, h⟩
            · rw [h]
              exact .idle
            · rw [h]
              rcases (recordPromotion_ok.mp hOk).2 with ⟨_, rfl⟩ | ⟨festival, previous, snapshot,
                promotion, hLoad, _, hRead, ⟨_, hUpserted⟩, _, rfl⟩
              · obtain rfl := pure_ok.mp hLog
                exact .idle
              · rcases PostgresFestivalRepository.load_cases hLoad with
                  ⟨_, hNone⟩ | ⟨row, f, hRow, hSome, hLoaded⟩
                · cases hNone
                · obtain rfl := Option.some.inj hSome
                  exact .recorded hOperation hPromotion rfl hGame hRow hLoaded hRead hUpserted hLog

/-- The promotion events write to the promotions and to the outbox only. -/
theorem promotionEvent_promotions (cfg : Config) (rt : Runtime) (env : Env) (db : Database)
    (eventType : String) (payload : Fields) :
    ∃ promotionSnapshots outboxMessages, (promotionEvent cfg rt env eventType payload db).2 =
      { db with promotionSnapshots := promotionSnapshots, outboxMessages := outboxMessages } := by
  unfold promotionEvent
  cases require rt payload "promotion_id" with
  | error e => exact ⟨_, _, rfl⟩
  | ok promotionId =>
      cases require rt payload "game_id" with
      | error e => exact ⟨_, _, rfl⟩
      | ok gameId =>
          simp only
          split_ifs with hFestival
          · exact ⟨_, _, rfl⟩
          · rcases UnitOfWork.begin_cases env (recordPromotion cfg rt env eventType promotionId
              (textField rt payload "festival_id") gameId payload) db with h | ⟨u, s, log, hOk, _, h⟩
            · exact ⟨_, _, h⟩
            · rcases (recordPromotion_ok.mp hOk).2 with
                ⟨_, rfl⟩ | ⟨festival, previous, snapshot, promotion, _, _, _, _, _, rfl⟩
              · exact ⟨_, _, h⟩
              · exact ⟨_, _, h⟩

end CatalogSyncService

/-- Whatever is asked of the service and whatever fails, it makes one of these
changes. -/
theorem serve_change (cfg : Config) (rt : Runtime) (db : Database) (request : Request) :
    Change cfg rt db request (serve cfg rt db request) := by
  obtain ⟨operation, env⟩ := request
  cases operation with
  | create adminId name description startsAt endsAt =>
      exact FestivalService.create_change adminId name description startsAt endsAt
  | reschedule festivalId adminId startsAt endsAt =>
      exact FestivalService.execute_change _ festivalId
  | addGame festivalId adminId gameId => exact FestivalService.addGame_change festivalId adminId gameId
  | removeGame festivalId adminId gameId => exact FestivalService.execute_change _ festivalId
  | start festivalId adminId => exact FestivalService.start_change festivalId adminId
  | end_ festivalId adminId => exact FestivalService.execute_change _ festivalId
  | cancel festivalId adminId => exact FestivalService.execute_change _ festivalId
  | consume handler payload =>
      by_cases hGame : ∀ eventType, handler ≠ .promotion eventType
      · obtain ⟨catalogGames, h⟩ := CatalogSyncService.Handler.run_games cfg rt env db hGame payload
        have hServe : serve cfg rt db ⟨.consume handler payload, env⟩ =
            { db with catalogGames := catalogGames } := h
        rw [hServe]
        exact .catalog
      · push Not at hGame
        obtain ⟨eventType, rfl⟩ := hGame
        exact CatalogSyncService.promotionEvent_change rfl

end Arcadia
