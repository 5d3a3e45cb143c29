import ArcadiaFestival.Application.CatalogReplay
import ArcadiaFestival.Application.SelectionOrigins
import ArcadiaFestival.Domain.SaleMachine

/-! The service carries out the sales of the marketplace. What its tables say about the
sales and about the market changes by the steps of the marketplace only, each asked for
by the request that makes it, whatever fails on the way. -/
namespace Arcadia
open Library Fallible

/-- The sale that a festival in memory is, with the window its row has. -/
def Festival.sale (festival : Festival) (opens closes : Timestamptz) : Sale String Timestamptz where
  phase := festival.state
  opens := opens
  closes := closes
  games := {gameId | (festival.games.get? gameId).isSome = true}

/-- The sales and the market as the tables have them. The outbox, the
promotions and the versions are forgotten. -/
def Database.marketplace (db : Database) : Marketplace String String Timestamptz where
  released := {gameId | ∃ row, db.catalogGames.find? gameId = some row ∧ row.published = true}
  sales festivalId := (db.festivals.find? festivalId).bind fun row =>
    match FestivalState.parse row.state with
    | .ok phase => some {
        phase := phase
        opens := row.startsAt
        closes := row.endsAt
        games := {gameId | (db.festivalGames.find? (festivalId, gameId)).isSome = true} }
    | .error _ => none

/-- What a request asks of the marketplace. A request to create a festival
chooses its key, the others name one. -/
inductive Request.Asks (rt : Runtime) (request : Request) :
    Marketplace.Action String String Timestamptz → Prop where
  | create {adminId name description : String} {startsAt endsAt : DateTime} {opens closes : Timestamptz}
      (asked : request.operation = .create adminId name description startsAt endsAt)
      (stored : rt.timestamptz startsAt = .ok opens) (stored' : rt.timestamptz endsAt = .ok closes) :
      Asks rt request (.plan request.env.newId opens closes)
  | reschedule {festivalId adminId : String} {startsAt endsAt : DateTime} {opens closes : Timestamptz}
      (asked : request.operation = .reschedule festivalId adminId startsAt endsAt)
      (stored : rt.timestamptz startsAt = .ok opens) (stored' : rt.timestamptz endsAt = .ok closes) :
      Asks rt request (.edit festivalId (.move opens closes))
  | addGame {festivalId adminId gameId : String}
      (asked : request.operation = .addGame festivalId adminId gameId) :
      Asks rt request (.edit festivalId (.pick gameId))
  | removeGame {festivalId adminId gameId : String}
      (asked : request.operation = .removeGame festivalId adminId gameId) :
      Asks rt request (.edit festivalId (.drop gameId))
  | start {festivalId adminId : String} (asked : request.operation = .start festivalId adminId) :
      Asks rt request (.edit festivalId .open_)
  | end_ {festivalId adminId : String} (asked : request.operation = .end_ festivalId adminId) :
      Asks rt request (.edit festivalId .close)
  | cancel {festivalId adminId : String} (asked : request.operation = .cancel festivalId adminId) :
      Asks rt request (.edit festivalId .callOff)
  | gamePublished {payload : Fields} (asked : request.operation = .consume .gamePublished payload) :
      Asks rt request (.release (CatalogSyncService.textField rt payload "game_id"))
  | gameRelisted {payload : Fields} (asked : request.operation = .consume .gameRelisted payload) :
      Asks rt request (.release (CatalogSyncService.textField rt payload "game_id"))
  | gameWithdrawn {payload : Fields} (asked : request.operation = .consume .gameWithdrawn payload) :
      Asks rt request (.withdraw (CatalogSyncService.textField rt payload "game_id"))

section
variable {cfg : Config} {rt : Runtime} {db db' : Database} {env : Env} {request : Request}

theorem Loaded.sale {row : FestivalRow} {festival : Festival} (h : Loaded db row festival)
    (hRow : db.festivals.find? row.id = some row) :
    db.marketplace.sales row.id = some (festival.sale row.startsAt row.endsAt) := by
  have hGames : {gameId | (db.festivalGames.find? (row.id, gameId)).isSome = true} =
      {gameId | (festival.games.get? gameId).isSome = true} := by
    ext gameId
    simp [h.games]
  simp only [Database.marketplace, hRow, Option.bind_some, h.state, FestivalState.parse_text,
    Festival.sale, hGames]

/-- The tables have a row for each game of the festival that was saved, and for
no other. -/
theorem Planned.isSome_games {festival : Festival} {write : FestivalWrite}
    (h : Planned rt db festival write)
    (hKeyed : ∀ entry ∈ festival.games.rows, entry.2.gameId = entry.1) (gameId : String) :
    ((write.apply db).festivalGames.find? (festival.id, gameId)).isSome =
      (festival.games.get? gameId).isSome := by
  cases hGame : festival.games.get? gameId with
  | none => rw [h.find?_unwanted hKeyed hGame, Option.isSome_none, Option.isSome_none]
  | some game =>
      cases hOld : db.festivalGames.find? (festival.id, gameId) with
      | some old => rw [h.find?_kept hKeyed hGame hOld, Option.isSome_some, Option.isSome_some]
      | none =>
          obtain ⟨new, _, hNew⟩ := h.find?_added hKeyed hGame hOld
          rw [hNew, Option.isSome_some, Option.isSome_some]

/-- What an operation on the festival is to the sale, which it leaves with this
window. -/
def Festival.Operation.action (opens closes : Timestamptz) :
    Festival.Operation → Sale.Action String Timestamptz
  | .reschedule _ _ _ => .move opens closes
  | .addGame gameId _ _ _ _ => .pick gameId
  | .removeGame gameId => .drop gameId
  | .start _ => .open_
  | .end_ _ => .close
  | .cancel _ => .callOff

namespace Festival

/-- To put a game into the dictionary of the festival is to insert it into the
set of games that the abstract sale has. -/
theorem sale_set (festival : Festival) (gameId : String) (game : FestivalGame)
    (opens closes : Timestamptz) :
    { festival with games := festival.games.set gameId game }.sale opens closes =
      { festival.sale opens closes with
        games := insert gameId (festival.sale opens closes).games } := by
  have hGames : {g | ((festival.games.set gameId game).get? g).isSome = true} =
      insert gameId {g | (festival.games.get? g).isSome = true} := by
    ext g
    by_cases hHere : g = gameId
    · subst hHere
      simp [Dict.get?_set]
    · have hOther : gameId ≠ g := fun h => hHere h.symm
      simp [Dict.get?_set_ne _ _ hOther, hHere]
  simp only [sale, hGames]

/-- To delete a game from the dictionary of the festival is to take it out of
the set of games that the abstract sale has. -/
theorem sale_erase (festival : Festival) (gameId : String) (opens closes : Timestamptz) :
    { festival with games := festival.games.erase gameId }.sale opens closes =
      { festival.sale opens closes with games := (festival.sale opens closes).games \ {gameId} } := by
  have hGames : {g | (Dict.get? (festival.games.erase gameId) g).isSome = true} =
      {g | (festival.games.get? g).isSome = true} \ {gameId} := by
    ext g
    by_cases hHere : g = gameId
    · simp [Dict.get?_erase, hHere]
    · have hOther : gameId ≠ g := fun h => hHere h.symm
      simp [Dict.get?_erase, hHere, hOther]
  simp only [sale, hGames]

/-- An operation on the festival is what it asks for, done to the sale. Every
operation but the one for it keeps the window. -/
theorem Effect.edit {festival festival' : Festival} {operation : Festival.Operation}
    (h : Effect festival operation festival') {released : Set String}
    {opens closes opens' closes' : Timestamptz} (hWindow : opens' < closes')
    (hKept : (∀ startsAt endsAt now, operation ≠ .reschedule startsAt endsAt now) →
      opens' = opens ∧ closes' = closes)
    (hReleased : ∀ gameId title developerId addedBy now,
      operation = .addGame gameId title developerId addedBy now → gameId ∈ released) :
    (festival.sale opens closes).Edit released (operation.action opens' closes')
      (festival'.sale opens' closes') := by
  cases h with
  | reschedule draft window => exact .move draft hWindow
  | @addGame gameId title developerId addedBy now editable absent =>
      obtain ⟨rfl, rfl⟩ := hKept (by intro _ _ _ h; cases h)
      have hAbsent : gameId ∉ (festival.sale opens' closes').games := by simp [sale, absent]
      rw [sale_set]
      exact .pick editable (hReleased _ _ _ _ _ rfl) hAbsent
  | @removeGame gameId editable selected =>
      obtain ⟨rfl, rfl⟩ := hKept (by intro _ _ _ h; cases h)
      rw [sale_erase]
      exact .drop editable selected
  | start draft games =>
      obtain ⟨rfl, rfl⟩ := hKept (by intro _ _ _ h; cases h)
      obtain ⟨entry, hEntry⟩ := List.exists_mem_of_ne_nil _ games
      have hGame : festival.games.get? entry.1 = some entry.2 := Dict.get?_eq_some_iff.mpr hEntry
      exact .open_ draft ⟨entry.1, by simp [sale, hGame]⟩
  | end_ active =>
      obtain ⟨rfl, rfl⟩ := hKept (by intro _ _ _ h; cases h)
      exact .close active
  | cancel running =>
      obtain ⟨rfl, rfl⟩ := hKept (by intro _ _ _ h; cases h)
      exact .callOff running

end Festival

namespace Executed
variable {command : FestivalService.Command} {row : FestivalRow} {festival festival' : Festival}
  {write : FestivalWrite} {log : OutboxLog}

/-- The sale that the command is about, as the tables have it. -/
theorem sale (h : Executed rt db command row festival festival' write) :
    db.marketplace.sales command.festivalId = some (festival.sale row.startsAt row.endsAt) := by
  have hKnown := h.loaded.sale (by rw [h.row_id]; exact h.found)
  rwa [h.row_id] at hKnown

/-- After the save the tables have the sale as the festival is in memory. -/
theorem sale_written (h : Executed rt db command row festival festival' write) :
    (write.apply db).marketplace.sales command.festivalId =
      some (festival'.sale write.row.startsAt write.row.endsAt) := by
  have hGames : {gameId | ((write.apply db).festivalGames.find?
      (command.festivalId, gameId)).isSome = true} =
      {gameId | (festival'.games.get? gameId).isSome = true} := by
    ext gameId
    rw [Set.mem_ofPred_eq, ← h.id, h.planned.isSome_games h.keyed]
    exact Iff.rfl
  simp only [Database.marketplace, h.find?_written, Option.bind_some, h.saved.state,
    FestivalState.parse_text, hGames, Festival.sale]

/-- The command changes one sale of the marketplace and nothing else of it. -/
theorem marketplace (h : Executed rt db command row festival festival' write) :
    ({ write.apply db with outboxMessages := log } : Database).marketplace =
      { db.marketplace with
        sales := Function.update db.marketplace.sales command.festivalId
          (some (festival'.sale write.row.startsAt write.row.endsAt)) } := by
  have hSales : (write.apply db).marketplace.sales =
      Function.update db.marketplace.sales command.festivalId
        (some (festival'.sale write.row.startsAt write.row.endsAt)) := by
    funext key
    by_cases hHere : key = command.festivalId
    · subst hHere
      rw [Function.update_self, h.sale_written]
    · obtain ⟨hRow, hGames⟩ := h.find?_other hHere
      rw [Function.update_of_ne hHere]
      simp only [Database.marketplace, hRow, hGames]
  exact congrArg (Marketplace.mk db.marketplace.released) hSales

/-- Only a command for it gives the festival another window. -/
theorem window (h : Executed rt db command row festival festival' write)
    (hNot : ∀ startsAt endsAt now, command.operation ≠ .reschedule startsAt endsAt now) :
    write.row.startsAt = row.startsAt ∧ write.row.endsAt = row.endsAt := by
  have hStart := h.saved.startsAt
  have hEnd := h.saved.endsAt
  have hSame : festival'.startsAt = festival.startsAt ∧ festival'.endsAt = festival.endsAt := by
    have hEffect := h.effect
    generalize command.operation = operation at hEffect hNot
    cases hEffect with
    | reschedule draft window => exact absurd rfl (hNot _ _ _)
    | _ => exact ⟨rfl, rfl⟩
  rw [hSame.1, h.loaded.startsAt] at hStart
  rw [hSame.2, h.loaded.endsAt] at hEnd
  exact ⟨timestamptz_ofTimestamptz hStart, timestamptz_ofTimestamptz hEnd⟩

/-- A new window is stored as it was asked for. -/
theorem rescheduled (h : Executed rt db command row festival festival' write)
    {startsAt endsAt now : DateTime} (hOperation : command.operation = .reschedule startsAt endsAt now) :
    rt.timestamptz startsAt = .ok write.row.startsAt ∧ rt.timestamptz endsAt = .ok write.row.endsAt := by
  have hEffect := h.effect
  have hSaved := h.saved
  rw [hOperation] at hEffect
  cases hEffect with
  | reschedule draft window => exact ⟨hSaved.startsAt, hSaved.endsAt⟩

/-- The command is a step of the marketplace, if what it adds is on the market. -/
theorem step (h : Executed rt db command row festival festival' write)
    (hReleased : ∀ gameId title developerId addedBy now,
      command.operation = .addGame gameId title developerId addedBy now →
        gameId ∈ db.marketplace.released) :
    Marketplace.Step db.marketplace
      (.edit command.festivalId (command.operation.action write.row.startsAt write.row.endsAt))
      ({ write.apply db with outboxMessages := log } : Database).marketplace := by
  rw [h.marketplace]
  exact .edit h.sale (h.effect.edit h.saved.window (fun hNot => h.window hNot) hReleased)

end Executed

namespace Operation.Decides
variable {command : FestivalService.Command}

/-- The command that a request has decided on is what it asks of the
marketplace. -/
theorem asks (asked : request.operation.Decides request.env db command) {opens closes : Timestamptz}
    (hWindow : ∀ startsAt endsAt now, command.operation = .reschedule startsAt endsAt now →
      rt.timestamptz startsAt = .ok opens ∧ rt.timestamptz endsAt = .ok closes) :
    Request.Asks rt request (.edit command.festivalId (command.operation.action opens closes)) := by
  generalize hOperation : request.operation = operation at asked
  cases asked with
  | reschedule =>
      obtain ⟨hOpens, hCloses⟩ := hWindow _ _ _ rfl
      exact .reschedule hOperation hOpens hCloses
  | addGame listed published => exact .addGame hOperation
  | removeGame => exact .removeGame hOperation
  | start fetched => exact .start hOperation
  | end_ => exact .end_ hOperation
  | cancel => exact .cancel hOperation

/-- A game is only added while it is on the market. -/
theorem released (asked : request.operation.Decides request.env db command)
    {gameId title developerId addedBy : String} {now : DateTime}
    (hAdded : command.operation = .addGame gameId title developerId addedBy now) :
    gameId ∈ db.marketplace.released := by
  generalize request.operation = operation at asked
  cases asked with
  | @addGame _ _ _ game listed published =>
      obtain ⟨rfl, _⟩ := Festival.Operation.addGame.inj hAdded
      exact ⟨game, listed, published⟩
  | _ => cases hAdded

end Operation.Decides

theorem Enacted.follows {command : FestivalService.Command}
    (asked : request.operation.Decides request.env db command)
    (h : Enacted cfg rt db request.env command db') :
    Simulation.Follows Marketplace.Step (Request.Asks rt) request db.marketplace db'.marketplace := by
  obtain ⟨row, festival, festival', write, log, hExecuted, _, rfl⟩ := h.executed
  exact Or.inr ⟨_, asked.asks fun _ _ _ hOperation => hExecuted.rescheduled hOperation,
    hExecuted.step fun _ _ _ _ _ hAdded => asked.released hAdded⟩

theorem Founded.follows (hdb : db.Chronicled) {adminId name description : String}
    {startsAt endsAt : DateTime}
    (asked : request.operation = .create adminId name description startsAt endsAt)
    (h : Founded cfg rt db request.env adminId name description startsAt endsAt db') :
    Simulation.Follows Marketplace.Step (Request.Asks rt) request db.marketplace db'.marketplace := by
  cases h with
  | @intro festival row log built encoded absent enqueued =>
      obtain ⟨hId, _, hDraft⟩ := Festival.create_new built
      obtain ⟨_, _, _, _, opens, closes, createdAt, hOpens, hCloses, _, hProper, hRow⟩ :=
        newFestivalRow_iff.mp encoded
      have hTimes : festival.startsAt = startsAt ∧ festival.endsAt = endsAt := by
        simp only [Festival.create, bind, Except.bind, throw, throwThe, MonadExceptOf.throw, pure,
          Except.pure] at built
        split_ifs at built
        split at built
        · cases built
        · obtain rfl := Except.ok.inj built
          exact ⟨rfl, rfl⟩
      rw [hTimes.1] at hOpens
      rw [hTimes.2] at hCloses
      have hKey : row.id = request.env.newId := by rw [hRow, ← hId]
      rw [hKey] at absent
      right
      refine ⟨_, .create asked hOpens hCloses, ?_⟩
      have hUnused : db.marketplace.sales request.env.newId = none := by
        simp only [Database.marketplace, absent, Option.bind_none]
      have hSales : ({ db with festivals := db.festivals.put row, outboxMessages := log } :
          Database).marketplace.sales = Function.update db.marketplace.sales request.env.newId
            (some ⟨.draft, opens, closes, ∅⟩) := by
        funext key
        by_cases hHere : key = request.env.newId
        · subst hHere
          have hGames : {gameId | (db.festivalGames.find?
              (request.env.newId, gameId)).isSome = true} = ∅ := by
            ext gameId
            simp [(hdb.unknown _ absent).2 gameId]
          have hState : row.state = FestivalState.draft.text := by rw [hRow, hDraft]
          change ((db.festivals.put row).find? _).bind _ = _
          rw [Function.update_self, KeyedTable.find?_put, if_pos hKey, Option.bind_some, hState,
            FestivalState.parse_text, hRow, hGames]
        · change ((db.festivals.put row).find? key).bind _ = _
          rw [Function.update_of_ne hHere, KeyedTable.find?_put_ne]
          · rfl
          · rw [hKey]
            exact fun h => hHere h.symm
      have hStep := Marketplace.Step.plan hUnused hProper
      rw [← hSales] at hStep
      exact hStep

/-- What a handler does to the read model of the catalog, whatever fails:
nothing, or it puts the row that its report makes of the one there is. -/
theorem CatalogSyncService.run_catalog (cfg : Config) (rt : Runtime) (env : Env) (db : Database)
    (handler : Handler) (payload : Fields) :
    (handler.run cfg rt env payload db).2.catalogGames = db.catalogGames ∨
      ∃ report row, gameReport rt payload handler = some report ∧ row.gameId = report.gameId ∧
        row.facts = report.onto ((db.catalogGames.find? report.gameId).map CatalogGameRow.facts) ∧
        (handler.run cfg rt env payload db).2.catalogGames = db.catalogGames.put row := by
  cases hReport : gameReport rt payload handler with
  | none => exact Or.inl (run_unreported hReport)
  | some report =>
      obtain ⟨snapshot, tx, hTx, hRun⟩ := run_runs cfg db hReport env
      have hBody := hRun env.commit
      change handler.run cfg rt env payload db = _ at hBody
      rw [hBody]
      split_ifs with hGame
      · exact Or.inl rfl
      · rcases UnitOfWork.begin_cases { env with commit := env.commit } tx db with
          h | ⟨u, s, log, hOk, _, h⟩
        · rw [h]
          exact Or.inl rfl
        · obtain ⟨row, hRow, rfl⟩ := hTx.written s hOk
          obtain ⟨_, _, _, _, _, hKey, hFacts, _⟩ :=
            PostgresCatalogGameRepository.upsertRow_ok.mp hRow
          rw [h]
          exact Or.inr ⟨report, row, rfl, hKey.trans hTx.key, hFacts.trans hTx.facts, rfl⟩

/-- Putting a row says of its game whether it is released. -/
theorem released_put (db : Database) (row : CatalogGameRow) :
    {gameId | ∃ r, (db.catalogGames.put row).find? gameId = some r ∧ r.published = true} =
      if row.published then insert row.gameId db.marketplace.released
      else db.marketplace.released \ {row.gameId} := by
  ext gameId
  rw [Set.mem_ofPred_eq, KeyedTable.find?_put]
  by_cases hHere : row.gameId = gameId
  · cases hPublished : row.published with
    | true => simp [hHere, hPublished]
    | false => simp [hHere, hPublished]
  · have hOther : gameId ≠ row.gameId := fun h => hHere h.symm
    rw [if_neg hHere]
    cases row.published with
    | true => simp [hOther, Database.marketplace]
    | false => simp [hOther, Database.marketplace]

/-- A row that says of its game what was known already leaves the market as it
is. -/
theorem released_put_same {row : CatalogGameRow}
    (h : row.published = true ↔ row.gameId ∈ db.marketplace.released) :
    {gameId | ∃ r, (db.catalogGames.put row).find? gameId = some r ∧ r.published = true} =
      db.marketplace.released := by
  rw [released_put]
  split_ifs with hPublished
  · exact Set.insert_eq_of_mem (h.mp hPublished)
  · exact Set.sdiff_singleton_eq_self fun hIn => hPublished (h.mpr hIn)

namespace GameReport
variable {report : GameReport} {row : CatalogGameRow}

/-- What a report says of the publication is what its row has. -/
theorem published_of_some {old : Option GameFacts} (hFacts : row.facts = report.onto old)
    {said : Bool} (hSaid : report.published = some said) : row.published = said := by
  have hPublished : row.published = (report.onto old).published :=
    congrArg GameFacts.published hFacts
  rw [hPublished]
  cases old with
  | none => exact congrArg (Option.getD · false) hSaid
  | some facts => exact congrArg (Option.getD · facts.published) hSaid

/-- A report that does not speak of the publication keeps what was known of it. -/
theorem published_of_none
    (hFacts : row.facts = report.onto ((db.catalogGames.find? report.gameId).map CatalogGameRow.facts))
    (hNone : report.published = none) :
    row.published = true ↔ report.gameId ∈ db.marketplace.released := by
  have hPublished : row.published = (report.onto
      ((db.catalogGames.find? report.gameId).map CatalogGameRow.facts)).published :=
    congrArg GameFacts.published hFacts
  have hReleased : report.gameId ∈ db.marketplace.released ↔
      ∃ r, db.catalogGames.find? report.gameId = some r ∧ r.published = true := Iff.rfl
  rw [hPublished, hReleased]
  cases hOld : db.catalogGames.find? report.gameId with
  | none => simp [onto, create, hNone]
  | some old => simp [onto, update, hNone, CatalogGameRow.facts]

end GameReport

/-- A change of the title says nothing of the publication. -/
theorem gameReport_updated {payload : Fields} {report : GameReport}
    (h : gameReport rt payload .gameUpdated = some report) : report.published = none := by
  unfold gameReport at h
  cases hTitle : Json.get payload "title" with
  | null => simp [hTitle] at h
  | _ =>
      simp only [hTitle, Option.some.injEq] at h
      rw [← h]

/-- A handler asks for what its event reports, and a title alone changes no
market. -/
theorem consumed_follows {handler : CatalogSyncService.Handler} {payload : Fields}
    (asked : request.operation = .consume handler payload)
    (hCatalog : db'.catalogGames = db.catalogGames ∨
      ∃ report row, gameReport rt payload handler = some report ∧ row.gameId = report.gameId ∧
        row.facts = report.onto ((db.catalogGames.find? report.gameId).map CatalogGameRow.facts) ∧
        db'.catalogGames = db.catalogGames.put row)
    (hFestivals : db'.festivals = db.festivals) (hGames : db'.festivalGames = db.festivalGames) :
    Simulation.Follows Marketplace.Step (Request.Asks rt) request db.marketplace db'.marketplace := by
  have hMarket : db'.marketplace =
      ⟨{gameId | ∃ r, db'.catalogGames.find? gameId = some r ∧ r.published = true},
        db.marketplace.sales⟩ := by
    simp only [Database.marketplace, hFestivals, hGames]
  rcases hCatalog with hSame | ⟨report, row, hReport, hKey, hFacts, hPut⟩
  · left
    rw [hMarket, hSame]
    rfl
  · rw [hMarket, hPut]
    cases handler with
    | gamePublished =>
        obtain rfl := Option.some.inj hReport
        rw [released_put, GameReport.published_of_some hFacts rfl, if_pos rfl, hKey]
        exact Or.inr ⟨_, .gamePublished asked, .release⟩
    | gameRelisted =>
        obtain rfl := Option.some.inj hReport
        rw [released_put, GameReport.published_of_some hFacts rfl, if_pos rfl, hKey]
        exact Or.inr ⟨_, .gameRelisted asked, .release⟩
    | gameWithdrawn =>
        obtain rfl := Option.some.inj hReport
        rw [released_put, GameReport.published_of_some hFacts rfl, if_neg (by decide), hKey]
        exact Or.inr ⟨_, .gameWithdrawn asked, .withdraw⟩
    | gameUpdated =>
        left
        rw [released_put_same (by
          rw [hKey]
          exact GameReport.published_of_none hFacts (gameReport_updated hReport))]
    | promotion eventType => cases hReport

/-- Each request does to the marketplace what it asks for, or nothing. This is
the step of the simulation. -/
theorem serve_follows (hdb : db.Chronicled) (cfg : Config) (rt : Runtime) (request : Request) :
    Simulation.Follows Marketplace.Step (Request.Asks rt) request db.marketplace
      (serve cfg rt db request).marketplace := by
  have hOrigin := serve_origin cfg rt db request
  generalize hServe : serve cfg rt db request = served at hOrigin
  cases hOrigin with
  | idle => exact Or.inl rfl
  | founded asked done => exact done.follows hdb asked
  | enacted asked done => exact done.follows asked
  | @consumed handler payload _ asked change festivals festivalGames =>
      refine consumed_follows asked ?_ festivals festivalGames
      obtain ⟨operation, env⟩ := request
      obtain rfl : operation = .consume handler payload := asked
      rw [← hServe]
      exact CatalogSyncService.run_catalog cfg rt env db handler payload

end

/-- Every run of requests, with whatever faults, is a path of the marketplace:
the steps that it takes were asked for by some of its requests, in their order.
So a sale never goes back, keeps its window once it is open, and does not
change at all once it is over. -/
theorem run_refines (cfg : Config) (rt : Runtime)
    (catalogGames : KeyedTable CatalogGameRow.gameId)
    (promotionSnapshots : KeyedTable PromotionSnapshotRow.promotionId)
    (before after : List Request) :
    let earlier := Trace.run (serve cfg rt) (.fresh catalogGames promotionSnapshots) before
    let later := Trace.run (serve cfg rt) (.fresh catalogGames promotionSnapshots) (before ++ after)
    (∃ actions, List.SublistForall₂ (fun action request => Request.Asks rt request action) actions after ∧
      Simulation.Path Marketplace.Step earlier.marketplace actions later.marketplace) ∧
    earlier.marketplace.Later later.marketplace := by
  intro earlier later
  have hKept (db : Database) (request : Request) (hdb : db.Chronicled) :
      (serve cfg rt db request).Chronicled :=
    hdb.change (serve_change cfg rt db request)
  obtain ⟨actions, hAsked, hPath⟩ := Simulation.run_path hKept
    (fun db request hdb => serve_follows hdb cfg rt request)
    (run_chronicled cfg rt catalogGames promotionSnapshots before) after
  rw [← Trace.run_append] at hPath
  exact ⟨⟨actions, hAsked, hPath⟩, Marketplace.path_later hPath⟩

end Arcadia
