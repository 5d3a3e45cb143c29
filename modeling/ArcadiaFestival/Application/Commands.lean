import ArcadiaFestival.Application.History

/-! Where a change of the database comes from. `Change` says what a request may do;
`Origin` says in addition which request it was: the command it decided on from what it
had read, or the festival it built. -/
namespace Arcadia
open Library Fallible

/-- The command that a request decides on before it takes the lock of its
festival. -/
inductive Operation.Decides (env : Env) (db : Database) : Operation → FestivalService.Command → Prop where
  | reschedule {festivalId adminId : String} {startsAt endsAt : DateTime} :
      Decides env db (.reschedule festivalId adminId startsAt endsAt)
        ⟨festivalId, adminId, .reschedule startsAt endsAt env.now, []⟩
  | addGame {festivalId adminId gameId : String} {game : CatalogGameRow}
      (listed : db.catalogGames.find? gameId = some game) (published : game.published = true) :
      Decides env db (.addGame festivalId adminId gameId)
        ⟨festivalId, adminId, .addGame gameId game.title game.developerId adminId env.now, []⟩
  | removeGame {festivalId adminId gameId : String} :
      Decides env db (.removeGame festivalId adminId gameId)
        ⟨festivalId, adminId, .removeGame gameId, []⟩
  | start {festivalId adminId : String} {audience : List String}
      (fetched : env.audience = .ok audience) :
      Decides env db (.start festivalId adminId) ⟨festivalId, adminId, .start env.now, audience⟩
  | end_ {festivalId adminId : String} :
      Decides env db (.end_ festivalId adminId) ⟨festivalId, adminId, .end_ env.now, []⟩
  | cancel {festivalId adminId : String} :
      Decides env db (.cancel festivalId adminId) ⟨festivalId, adminId, .cancel env.now, []⟩

/-- A command that was carried out on the festival it names, and committed. The
festival is the one that was found under the lock. -/
inductive Enacted (cfg : Config) (rt : Runtime) (db : Database) (env : Env)
    (command : FestivalService.Command) : Database → Prop where
  | intro {row : FestivalRow} {festival festival' : Festival} {write : FestivalWrite}
      {log : OutboxLog} (found : db.festivals.find? command.festivalId = some row)
      (read : toFestival row (db.gamesOf row.id) = .ok festival)
      (effect : Festival.Effect festival command.operation festival')
      (plan : planSave rt db festival' = .ok write)
      (enqueued : db.outboxMessages.insertAll env.skipped
        ((command.event festival').map (festivalMessage cfg rt env festival'.id)).toList = .ok log) :
      Enacted cfg rt db env command { write.apply db with outboxMessages := log }

/-- The festival that a request to create one has built and committed, with the
event about it. -/
inductive Founded (cfg : Config) (rt : Runtime) (db : Database) (env : Env)
    (adminId name description : String) (startsAt endsAt : DateTime) : Database → Prop where
  | intro {festival : Festival} {row : FestivalRow} {log : OutboxLog}
      (built : Festival.create env.newId name description startsAt endsAt adminId env.now =
        .ok festival)
      (encoded : newFestivalRow rt festival = .ok row)
      (absent : db.festivals.find? row.id = none)
      (enqueued : db.outboxMessages.insert env.skipped
        (festivalMessage cfg rt env festival.id (Ev.festivalCreated,
          [("festival_id", .str festival.id), ("name", .str festival.name),
            ("starts_at", .str festival.startsAt.isoformat),
            ("ends_at", .str festival.endsAt.isoformat), ("created_by", .str adminId)])) = .ok log) :
      Founded cfg rt db env adminId name description startsAt endsAt
        { db with festivals := db.festivals.put row, outboxMessages := log }

/-- What a request has done to the database, and by which right. It refines
`Change`, which forgets the request. -/
inductive Origin (cfg : Config) (rt : Runtime) (db : Database) (request : Request) :
    Database → Prop where
  | idle : Origin cfg rt db request db
  | founded {adminId name description : String} {startsAt endsAt : DateTime} {db' : Database}
      (asked : request.operation = .create adminId name description startsAt endsAt)
      (done : Founded cfg rt db request.env adminId name description startsAt endsAt db') :
      Origin cfg rt db request db'
  | enacted {command : FestivalService.Command} {db' : Database}
      (asked : request.operation.Decides request.env db command)
      (done : Enacted cfg rt db request.env command db') : Origin cfg rt db request db'
  | consumed {handler : CatalogSyncService.Handler} {payload : Fields} {db' : Database}
      (asked : request.operation = .consume handler payload)
      (change : Change cfg rt db request db') (festivals : db'.festivals = db.festivals)
      (festivalGames : db'.festivalGames = db.festivalGames) : Origin cfg rt db request db'

namespace Enacted
variable {cfg : Config} {rt : Runtime} {db db' : Database} {env : Env}
  {command : FestivalService.Command}

/-- The body of a use case and the flush of its events together carry out the
command. -/
theorem of_execute {u : Unit} {s : Session} {log : OutboxLog}
    (h : FestivalService.execute cfg rt env command ⟨db, []⟩ = .ok (u, s))
    (hLog : s.db.outboxMessages.insertAll env.skipped s.pending = .ok log) :
    Enacted cfg rt db env command { s.db with outboxMessages := log } := by
  obtain ⟨festival, festival', write, ⟨_, hLoad⟩, hPerform, ⟨_, hPlan⟩, _, rfl⟩ :=
    FestivalService.execute_ok.mp h
  obtain ⟨_, row, hRow, hRead⟩ := PostgresFestivalRepository.load_some hLoad
  rw [← KeyedTable.key_of_find? hRow] at hRead
  exact .intro hRow hRead (FestivalService.perform_ok hPerform) hPlan hLog

/-- What was carried out and committed, in the terms of its parts. -/
theorem executed (h : Enacted cfg rt db env command db') : ∃ row festival festival' write log,
    Executed rt db command row festival festival' write ∧
      db.outboxMessages.insertAll env.skipped
        ((command.event festival').map (festivalMessage cfg rt env festival'.id)).toList = .ok log ∧
      db' = { write.apply db with outboxMessages := log } := by
  cases h with
  | intro found read effect plan enqueued =>
      exact ⟨_, _, _, _, _, ⟨found, toFestival_loaded read, effect, planSave_planned plan⟩,
        enqueued, rfl⟩

/-- A use case whose transaction comes down to the command leaves the database
as it was, or has carried the command out. -/
theorem of_handle {festivalId : String} {tx : Tx Unit}
    (hTx : ∀ u t, tx ⟨db, []⟩ = .ok (u, t) →
      FestivalService.execute cfg rt env command ⟨db, []⟩ = .ok (u, t)) :
    (FestivalService.handle rt env festivalId tx db).2 = db ∨
      Enacted cfg rt db env command (FestivalService.handle rt env festivalId tx db).2 := by
  rw [FestivalService.handle_database]
  rcases UnitOfWork.begin_cases env tx db with h | ⟨u, s, log, hOk, hLog, h⟩
  · exact Or.inl h
  · rw [h]
    exact Or.inr (of_execute (hTx u s hOk) hLog)

end Enacted

/-- A use case that carries out its command or leaves the database has the
request for its origin. -/
theorem Origin.of_enacted {cfg : Config} {rt : Runtime} {db db' : Database} {request : Request}
    {command : FestivalService.Command}
    (asked : request.operation.Decides request.env db command)
    (h : db' = db ∨ Enacted cfg rt db request.env command db') : Origin cfg rt db request db' := by
  rcases h with rfl | h
  · exact .idle
  · exact .enacted asked h

namespace FestivalService
variable {cfg : Config} {rt : Runtime} {db : Database} {request : Request}

/-- The look into the catalog leaves the session as it is, and decides on the
command. -/
theorem selectGame_decides {env : Env} {festivalId adminId gameId : String} {command : Command}
    {t : Session} (h : selectGame env festivalId adminId gameId ⟨db, []⟩ = .ok (command, t)) :
    t = ⟨db, []⟩ ∧ command.festivalId = festivalId ∧
      (Operation.addGame festivalId adminId gameId).Decides env db command := by
  obtain ⟨_, rfl, snapshot, hLoad, hPublished, rfl⟩ := selectGame_ok.mp h
  obtain ⟨_, hKey, hGame⟩ := bind_ok.mp hLoad
  obtain rfl := (Column.text_ok.mp hKey).2
  obtain ⟨game, hFound, rfl⟩ := Option.map_eq_some_iff.mp (pure_ok.mp hGame)
  obtain rfl := KeyedTable.key_of_find? hFound
  exact ⟨rfl, rfl, .addGame hFound hPublished⟩

/-- Adding a game is the one use case that decides inside of its transaction. -/
theorem addGame_origin {festivalId adminId gameId : String}
    (hOperation : request.operation = .addGame festivalId adminId gameId) :
    Origin cfg rt db request (addGame cfg rt request.env festivalId adminId gameId db).2 := by
  unfold addGame
  rw [handle_database]
  rcases UnitOfWork.begin_cases request.env _ db with h | ⟨u, s, log, hOk, hLog, h⟩
  · rw [h]
    exact .idle
  · obtain ⟨command, t, hSelect, hExecute⟩ := Tx.bind_ok.mp hOk
    obtain ⟨rfl, _, hDecides⟩ := selectGame_decides hSelect
    rw [h]
    refine .enacted ?_ (Enacted.of_execute hExecute hLog)
    rw [hOperation]
    exact hDecides

theorem start_origin {festivalId adminId : String}
    (hOperation : request.operation = .start festivalId adminId) :
    Origin cfg rt db request (start cfg rt request.env festivalId adminId db).2 := by
  unfold start
  cases hAudience : request.env.audience with
  | error e => exact .idle
  | ok audience =>
      refine .of_enacted ?_ (Enacted.of_handle fun _ _ h => h)
      rw [hOperation]
      exact .start hAudience

/-- Creating a festival founds it, with the values that the request has. -/
theorem create_origin {adminId name description : String} {startsAt endsAt : DateTime}
    (hOperation : request.operation = .create adminId name description startsAt endsAt) :
    Origin cfg rt db request
      (create cfg rt request.env adminId name description startsAt endsAt db).2 := by
  unfold create
  cases hCreate : Festival.create request.env.newId name description startsAt endsAt adminId
      request.env.now with
  | error e => exact .idle
  | ok festival =>
      simp only
      rw [handle_database]
      rcases UnitOfWork.begin_cases request.env (insert cfg rt request.env adminId festival) db with
        h | ⟨u, s, log, hOk, hLog, h⟩
      · rw [h]
        exact .idle
      · obtain ⟨_, s₁, hAdd, hAnnounce⟩ := Tx.bind_ok.mp hOk
        obtain ⟨_, row, hRow, hAbsent, rfl⟩ := PostgresFestivalRepository.add_ok.mp hAdd
        obtain ⟨_, rfl⟩ := announce_ok.mp hAnnounce
        obtain ⟨log', hInsert, hNil⟩ := bind_ok.mp hLog
        obtain rfl := pure_ok.mp hNil
        rw [h]
        exact .founded hOperation (.intro hCreate hRow hAbsent hInsert)

end FestivalService

/-- A handler writes nothing about the festivals themselves. -/
theorem CatalogSyncService.Handler.run_festivals (cfg : Config) (rt : Runtime) (env : Env)
    (db : Database) (handler : Handler) (payload : Fields) :
    (handler.run cfg rt env payload db).2.festivals = db.festivals ∧
      (handler.run cfg rt env payload db).2.festivalGames = db.festivalGames := by
  by_cases hGame : ∀ eventType, handler ≠ .promotion eventType
  · obtain ⟨catalogGames, h⟩ := run_games cfg rt env db hGame payload
    rw [h]
    exact ⟨rfl, rfl⟩
  · push Not at hGame
    obtain ⟨eventType, rfl⟩ := hGame
    obtain ⟨_, _, h⟩ := promotionEvent_promotions cfg rt env db eventType payload
    have hRun : (Handler.run cfg rt env payload (.promotion eventType) db).2 = _ := h
    rw [hRun]
    exact ⟨rfl, rfl⟩

/-- Every change of the database has the request for its origin. This refines
`serve_change`. -/
theorem serve_origin (cfg : Config) (rt : Runtime) (db : Database) (request : Request) :
    Origin cfg rt db request (serve cfg rt db request) := by
  have hChange := serve_change cfg rt db request
  obtain ⟨operation, env⟩ := request
  cases operation with
  | create adminId name description startsAt endsAt => exact FestivalService.create_origin rfl
  | reschedule festivalId adminId startsAt endsAt =>
      exact .of_enacted .reschedule (Enacted.of_handle fun _ _ h => h)
  | addGame festivalId adminId gameId => exact FestivalService.addGame_origin rfl
  | removeGame festivalId adminId gameId =>
      exact .of_enacted .removeGame (Enacted.of_handle fun _ _ h => h)
  | start festivalId adminId => exact FestivalService.start_origin rfl
  | end_ festivalId adminId => exact .of_enacted .end_ (Enacted.of_handle fun _ _ h => h)
  | cancel festivalId adminId => exact .of_enacted .cancel (Enacted.of_handle fun _ _ h => h)
  | consume handler payload =>
      obtain ⟨hFestivals, hGames⟩ := handler.run_festivals cfg rt env db payload
      exact .consumed rfl hChange hFestivals hGames

end Arcadia
