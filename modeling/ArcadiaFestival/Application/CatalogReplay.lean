import ArcadiaFestival.Application.GameEvents

/-! What Catalog's messages make of the rows of `catalog_games`. A message says
something about one game; the row after it depends on that and on the row before,
and on the clock in `updated_at` only. -/
namespace Arcadia
open Library Fallible

/-- A row of the read model, without its key and its time. Two runs are
compared by these, since each delivery writes a time of its own. -/
structure GameFacts where
  title : String
  developerId : String
  published : Bool
  deriving DecidableEq, Repr

def CatalogGameRow.facts (row : CatalogGameRow) : GameFacts :=
  ⟨row.title, row.developerId, row.published⟩

/-- What a message says about a game. Only a publication replaces the developer
of a row that exists. -/
structure GameReport where
  gameId : String
  title : String
  developerId : String
  replacesDeveloper : Bool
  published : Option Bool

namespace GameReport

def create (report : GameReport) : GameFacts :=
  ⟨report.title, report.developerId, report.published.getD false⟩

def update (report : GameReport) (facts : GameFacts) : GameFacts where
  title := orText report.title facts.title
  developerId :=
    if report.replacesDeveloper then orText report.developerId facts.developerId
    else facts.developerId
  published := report.published.getD facts.published

def onto (report : GameReport) : Option GameFacts → GameFacts
  | none => report.create
  | some facts => report.update facts

/-- The columns hold all that the report says. -/
def storable (report : GameReport) : Bool :=
  Text.storable report.gameId && Text.storable report.title && Text.storable report.developerId

end GameReport

/-- What a payload says about a game to its handler. A title that is missing
makes a change of the title say nothing. -/
def gameReport (rt : Runtime) (payload : Fields) : CatalogSyncService.Handler → Option GameReport
  | .gamePublished => some {
      gameId := CatalogSyncService.textField rt payload "game_id"
      title := CatalogSyncService.textField rt payload "title"
      developerId := CatalogSyncService.textField rt payload "developer_id"
      replacesDeveloper := true
      published := some true }
  | .gameWithdrawn =>
      some ⟨CatalogSyncService.textField rt payload "game_id", "", "", false, some false⟩
  | .gameRelisted =>
      some ⟨CatalogSyncService.textField rt payload "game_id", "", "", false, some true⟩
  | .gameUpdated =>
      match Json.get payload "title" with
      | .null => none
      | title => some {
          gameId := CatalogSyncService.textField rt payload "game_id"
          title := rt.str title
          developerId := CatalogSyncService.textField rt payload "developer_id"
          replacesDeveloper := false
          published := none }
  | .promotion _ => none

/-- A default that is stored already adds nothing to what the column has to
take. -/
theorem storable_orText {value default : String} (h : Text.storable default = true) :
    Text.storable (orText value default) = Text.storable value := by
  unfold orText
  split_ifs with hEmpty
  · rw [hEmpty, h, Text.storable_empty]
  · rfl

/-- A text that a message leaves empty is the one that was there. -/
@[simp] theorem orText_empty (default : String) : orText "" default = default := rfl

@[simp] theorem orText_self (value : String) : orText value value = value := by
  unfold orText
  split_ifs with h
  · rfl
  · rfl

theorem orText_of_ne {value : String} (h : value ≠ "") (default : String) :
    orText value default = value := by
  rw [orText, if_neg h]

/-- Texts that one value makes equal stay so whatever came before it, because
an empty text keeps what is there. -/
theorem orText_congr {value other default default' : String}
    (h : orText value default = orText value default') :
    orText value (orText other default) = orText value (orText other default') := by
  by_cases hValue : value = ""
  · subst hValue
    rw [orText_empty, orText_empty] at h
    rw [h]
  · rw [orText_of_ne hValue, orText_of_ne hValue]

/-- Falling back twice is falling back once. This is what makes a redelivered
report harmless. -/
theorem orText_orText (value default : String) :
    orText value (orText value default) = orText value default := by
  by_cases hValue : value = ""
  · subst hValue
    rfl
  · rw [orText_of_ne hValue, orText_of_ne hValue]

namespace PostgresCatalogGameRepository
variable {rt : Runtime}

/-- What a snapshot makes of a row, or of none. The title and the developer
fall back on the row. -/
def upserted (existing : Option CatalogGameRow) (snapshot : CatalogGameSnapshot) : GameFacts :=
  match existing with
  | none => ⟨snapshot.title, snapshot.developerId, snapshot.published⟩
  | some row =>
      ⟨orText snapshot.title row.title, orText snapshot.developerId row.developerId,
        snapshot.published⟩

theorem upsertRow_eq (existing : Option CatalogGameRow) (snapshot : CatalogGameSnapshot) :
    upsertRow rt existing snapshot = (do
      return {
        gameId := ← Column.text snapshot.gameId
        title := ← Column.text (upserted existing snapshot).title
        developerId := ← Column.text (upserted existing snapshot).developerId
        published := (upserted existing snapshot).published
        updatedAt := ← rt.timestamptz snapshot.updatedAt }) := by
  cases existing with
  | none => rfl
  | some row => rfl

/-- An upsert of a game succeeds if the columns take the values, and the row
has these values then. -/
theorem upsertRow_ok {existing : Option CatalogGameRow} {snapshot : CatalogGameSnapshot}
    {row : CatalogGameRow} :
    upsertRow rt existing snapshot = .ok row ↔ Text.storable snapshot.gameId = true ∧
      Text.storable (upserted existing snapshot).title = true ∧
      Text.storable (upserted existing snapshot).developerId = true ∧
      ∃ t, rt.timestamptz snapshot.updatedAt = .ok t ∧ row.gameId = snapshot.gameId ∧
        row.facts = upserted existing snapshot ∧ row.updatedAt = t := by
  rw [upsertRow_eq]
  constructor
  · intro h
    obtain ⟨gameId, hGame, h⟩ := bind_ok.mp h
    obtain ⟨title, hTitle, h⟩ := bind_ok.mp h
    obtain ⟨developerId, hDeveloper, h⟩ := bind_ok.mp h
    obtain ⟨t, hTime, h⟩ := bind_ok.mp h
    obtain ⟨hGameText, rfl⟩ := Column.text_ok.mp hGame
    obtain ⟨hTitleText, rfl⟩ := Column.text_ok.mp hTitle
    obtain ⟨hDeveloperText, rfl⟩ := Column.text_ok.mp hDeveloper
    obtain rfl := pure_ok.mp h
    exact ⟨hGameText, hTitleText, hDeveloperText, t, hTime, rfl, rfl, rfl⟩
  · rintro ⟨hGame, hTitle, hDeveloper, t, hTime, hKey, hFacts, hUpdated⟩
    refine bind_ok.mpr ⟨_, Column.text_ok.mpr ⟨hGame, rfl⟩, ?_⟩
    refine bind_ok.mpr ⟨_, Column.text_ok.mpr ⟨hTitle, rfl⟩, ?_⟩
    refine bind_ok.mpr ⟨_, Column.text_ok.mpr ⟨hDeveloper, rfl⟩, ?_⟩
    refine bind_ok.mpr ⟨t, hTime, ?_⟩
    rw [← hKey, ← hFacts, ← hUpdated]
    rfl

end PostgresCatalogGameRepository

namespace CatalogSyncService
variable {cfg : Config} {rt : Runtime} {env : Env} {db : Database}

/-- What a handler does with its report on a game: it writes the row that the
report makes of the one there is, or it is rejected. -/
def Reported (report : GameReport) (db db' : Database) : Prop :=
  let facts := report.onto ((db.catalogGames.find? report.gameId).map CatalogGameRow.facts)
  if report.gameId ≠ "" ∧ Text.storable report.gameId = true ∧ Text.storable facts.title = true ∧
      Text.storable facts.developerId = true then
    ∃ row : CatalogGameRow, row.gameId = report.gameId ∧ row.facts = facts ∧
      db' = { db with catalogGames := db.catalogGames.put row }
  else db' = db

/-- The transaction of a handler upserts a snapshot that makes the reported
row. -/
structure Upserts (rt : Runtime) (env : Env) (db : Database) (report : GameReport)
    (snapshot : CatalogGameSnapshot) (tx : Tx Unit) : Prop where
  key : snapshot.gameId = report.gameId
  time : snapshot.updatedAt = env.now
  facts : PostgresCatalogGameRepository.upserted (db.catalogGames.find? report.gameId) snapshot =
    report.onto ((db.catalogGames.find? report.gameId).map CatalogGameRow.facts)
  written : ∀ t, tx ⟨db, []⟩ = .ok ((), t) → ∃ row,
    PostgresCatalogGameRepository.upsertRow rt (db.catalogGames.find? report.gameId) snapshot =
      .ok row ∧ t = ⟨{ db with catalogGames := db.catalogGames.put row }, []⟩
  writes : env.Healthy → ∀ row,
    PostgresCatalogGameRepository.upsertRow rt (db.catalogGames.find? report.gameId) snapshot =
      .ok row → tx ⟨db, []⟩ = .ok ((), ⟨{ db with catalogGames := db.catalogGames.put row }, []⟩)

/-- A row that the columns hold can be written. -/
theorem Upserts.accepted {report : GameReport} {snapshot : CatalogGameSnapshot} {tx : Tx Unit}
    (h : Upserts rt env db report snapshot tx) (hNow : ∃ t, rt.timestamptz env.now = .ok t)
    (hId : Text.storable report.gameId = true)
    (hTitle : Text.storable (PostgresCatalogGameRepository.upserted
      (db.catalogGames.find? report.gameId) snapshot).title = true)
    (hDeveloper : Text.storable (PostgresCatalogGameRepository.upserted
      (db.catalogGames.find? report.gameId) snapshot).developerId = true) :
    ∃ row, PostgresCatalogGameRepository.upsertRow rt (db.catalogGames.find? report.gameId) snapshot =
      .ok row := by
  obtain ⟨t, hTime⟩ := hNow
  rw [← h.key] at hId
  rw [← h.time] at hTime
  let facts := PostgresCatalogGameRepository.upserted (db.catalogGames.find? report.gameId) snapshot
  exact ⟨⟨snapshot.gameId, facts.title, facts.developerId, facts.published, t⟩,
    PostgresCatalogGameRepository.upsertRow_ok.mpr ⟨hId, hTitle, hDeveloper, t, hTime, rfl, rfl, rfl⟩⟩

/-- A snapshot that was made from a report on a row writes what the report
makes of the row. -/
theorem upsert_upserts {report : GameReport} {snapshot : CatalogGameSnapshot}
    (hKey : snapshot.gameId = report.gameId) (hTime : snapshot.updatedAt = env.now)
    (hFacts : PostgresCatalogGameRepository.upserted (db.catalogGames.find? report.gameId) snapshot =
      report.onto ((db.catalogGames.find? report.gameId).map CatalogGameRow.facts)) :
    Upserts rt env db report snapshot (PostgresCatalogGameRepository.upsert rt env snapshot) where
  key := hKey
  time := hTime
  facts := hFacts
  written := by
    intro t h
    obtain ⟨_, row, hRow, rfl⟩ := PostgresCatalogGameRepository.upsert_ok.mp h
    rw [hKey] at hRow
    exact ⟨row, hRow, rfl⟩
  writes := by
    intro hHealthy row hRow
    rw [← hKey] at hRow
    exact PostgresCatalogGameRepository.upsert_ok.mpr ⟨hHealthy.1 _, row, hRow, rfl⟩

theorem load_game {gameId : String} {result : Option CatalogGameSnapshot} :
    PostgresCatalogGameRepository.load db gameId = .ok result ↔
      Text.storable gameId = true ∧ result = (db.catalogGames.find? gameId).map toCatalogGame := by
  unfold PostgresCatalogGameRepository.load
  rw [bind_ok]
  constructor
  · rintro ⟨key, hText, h⟩
    obtain ⟨hText, rfl⟩ := Column.text_ok.mp hText
    exact ⟨hText, (pure_ok.mp h).symm⟩
  · rintro ⟨hText, rfl⟩
    exact ⟨gameId, Column.text_ok.mpr ⟨hText, rfl⟩, rfl⟩

/-- The existing row is read first, and is upserted as it was found. Nobody
else writes in between, as one consumer owns the row. -/
theorem get_upsert_upserts {report : GameReport}
    (snapshot : Option CatalogGameSnapshot → CatalogGameSnapshot)
    (hKey : ∀ existing, (snapshot existing).gameId = report.gameId)
    (hTime : ∀ existing, (snapshot existing).updatedAt = env.now)
    (hFacts : PostgresCatalogGameRepository.upserted (db.catalogGames.find? report.gameId)
        (snapshot ((db.catalogGames.find? report.gameId).map toCatalogGame)) =
      report.onto ((db.catalogGames.find? report.gameId).map CatalogGameRow.facts)) :
    Upserts rt env db report (snapshot ((db.catalogGames.find? report.gameId).map toCatalogGame)) (do
      let existing ← PostgresCatalogGameRepository.get_ env report.gameId
      PostgresCatalogGameRepository.upsert rt env (snapshot existing)) where
  key := hKey _
  time := hTime _
  facts := hFacts
  written := by
    intro t h
    obtain ⟨existing, s, hGet, hUpsert⟩ := Tx.bind_ok.mp h
    obtain ⟨_, hFound, rfl⟩ := PostgresCatalogGameRepository.get_ok.mp hGet
    obtain ⟨_, rfl⟩ := load_game.mp hFound
    obtain ⟨_, row, hRow, rfl⟩ := PostgresCatalogGameRepository.upsert_ok.mp hUpsert
    rw [hKey] at hRow
    exact ⟨row, hRow, rfl⟩
  writes := by
    intro hHealthy row hRow
    have hText := (PostgresCatalogGameRepository.upsertRow_ok.mp hRow).1
    rw [hKey] at hText
    refine Tx.bind_ok.mpr ⟨_, _, PostgresCatalogGameRepository.get_ok.mpr
      ⟨hHealthy.1 _, load_game.mpr ⟨hText, rfl⟩, rfl⟩, ?_⟩
    refine PostgresCatalogGameRepository.upsert_ok.mpr ⟨hHealthy.1 _, row, ?_, rfl⟩
    rw [hKey]
    exact hRow

/-- How every handler that has a report on a game runs: it rejects a payload
without a game's id, and makes the upsert in a transaction of its own. -/
def RunsUpsert (rt : Runtime) (db : Database) (report : GameReport)
    (run : Env → Except Exn Unit × Database) : Prop :=
  ∀ env, ∃ snapshot tx, Upserts rt env db report snapshot tx ∧
    ∀ commit, run { env with commit := commit } =
      if report.gameId = "" then
        (.error (invalidArgument "event carried no game_id" "MISSING_FIELD"), db)
      else UnitOfWork.begin_ { env with commit := commit } tx db

/-- A field that is missing or empty stops the handler, with an error that
names the field. -/
theorem require_missing {payload : Fields} {name : String} (h : textField rt payload name = "") :
    require rt payload name =
      .error (invalidArgument ("event carried no " ++ name) "MISSING_FIELD") := by
  rw [require, if_pos h]

theorem require_present {payload : Fields} {name : String} (h : textField rt payload name ≠ "") :
    require rt payload name = .ok (textField rt payload name) := by
  rw [require, if_neg h]

/-- A publication upserts what it reports, without reading the row first. -/
theorem gamePublished_runs {payload : Fields} {report : GameReport}
    (h : gameReport rt payload .gamePublished = some report) :
    RunsUpsert rt db report fun env => gamePublished rt env payload db := by
  obtain rfl := Option.some.inj h
  intro env
  let snapshot : CatalogGameSnapshot :=
    ⟨textField rt payload "game_id", textField rt payload "title",
      textField rt payload "developer_id", true, env.now⟩
  refine ⟨snapshot, _, upsert_upserts rfl rfl ?_, fun commit => ?_⟩
  · cases db.catalogGames.find? (textField rt payload "game_id") with
    | none => rfl
    | some row => rfl
  · change gamePublished rt { env with commit := commit } payload db = _
    unfold gamePublished
    by_cases hGame : textField rt payload "game_id" = ""
    · rw [require_missing hGame, if_pos hGame]
      rfl
    · rw [require_present hGame, if_neg hGame]
      rfl

/-- A withdrawal and a new listing read the row and upsert what they make of
it. -/
theorem setPublished_runs {payload : Fields} (published : Bool) :
    RunsUpsert rt db ⟨textField rt payload "game_id", "", "", false, some published⟩
      fun env => setPublished rt env published payload db := by
  intro env
  let snapshot (existing : Option CatalogGameSnapshot) : CatalogGameSnapshot :=
    ⟨textField rt payload "game_id", (existing.map CatalogGameSnapshot.title).getD "",
      (existing.map CatalogGameSnapshot.developerId).getD "", published, env.now⟩
  refine ⟨_, _, get_upsert_upserts snapshot (fun _ => rfl) (fun _ => rfl) ?_, fun commit => ?_⟩
  · cases db.catalogGames.find? (textField rt payload "game_id") with
    | none => rfl
    | some row =>
        change GameFacts.mk (orText row.title row.title) (orText row.developerId row.developerId)
          published = ⟨orText "" row.title, row.developerId, published⟩
        rw [orText_self, orText_self, orText_empty]
  · change setPublished rt { env with commit := commit } published payload db = _
    unfold setPublished
    by_cases hGame : textField rt payload "game_id" = ""
    · rw [require_missing hGame, if_pos hGame]
      rfl
    · rw [require_present hGame, if_neg hGame]
      rfl

theorem gameUpdated_runs {payload : Fields} {report : GameReport}
    (h : gameReport rt payload .gameUpdated = some report) :
    RunsUpsert rt db report fun env => gameUpdated rt env payload db := by
  obtain ⟨title, hTitle, hNull⟩ : ∃ title, Json.get payload "title" = title ∧ title ≠ .null := by
    refine ⟨_, rfl, ?_⟩
    intro hNull
    simp [gameReport, hNull] at h
  have hReport : report = ⟨textField rt payload "game_id", rt.str title,
      textField rt payload "developer_id", false, none⟩ := by
    unfold gameReport at h
    rw [hTitle] at h
    cases title with
    | null => exact absurd rfl hNull
    | _ => exact (Option.some.inj h).symm
  subst hReport
  intro env
  let snapshot (existing : Option CatalogGameSnapshot) : CatalogGameSnapshot :=
    ⟨textField rt payload "game_id", rt.str title,
      (existing.map CatalogGameSnapshot.developerId).getD (textField rt payload "developer_id"),
      (existing.map CatalogGameSnapshot.published).getD false, env.now⟩
  refine ⟨_, _, get_upsert_upserts snapshot (fun _ => rfl) (fun _ => rfl) ?_, fun commit => ?_⟩
  · cases db.catalogGames.find? (textField rt payload "game_id") with
    | none => rfl
    | some row =>
        change GameFacts.mk (orText (rt.str title) row.title) (orText row.developerId row.developerId)
          row.published = ⟨orText (rt.str title) row.title, row.developerId, row.published⟩
        rw [orText_self]
  · change gameUpdated rt { env with commit := commit } payload db = _
    unfold gameUpdated
    by_cases hGame : textField rt payload "game_id" = ""
    · rw [require_missing hGame, if_pos hGame]
      rfl
    · rw [require_present hGame, if_neg hGame]
      simp only [hTitle]
      rfl

/-- Every handler that has something to report upserts it, and does nothing
else. -/
theorem run_runs (cfg : Config) (db : Database) {handler : Handler} {payload : Fields}
    {report : GameReport} (h : gameReport rt payload handler = some report) :
    RunsUpsert rt db report fun env => handler.run cfg rt env payload db := by
  cases handler with
  | gamePublished => exact gamePublished_runs h
  | gameWithdrawn =>
      obtain rfl := Option.some.inj h
      exact setPublished_runs false
  | gameRelisted =>
      obtain rfl := Option.some.inj h
      exact setPublished_runs true
  | gameUpdated => exact gameUpdated_runs h
  | promotion eventType => cases h

/-- Every handler that has a report on a game does what the report says. -/
theorem run_reported (hHealthy : env.Healthy) (hNow : ∃ t, rt.timestamptz env.now = .ok t)
    (cfg : Config) (db : Database) {handler : Handler} {payload : Fields} {report : GameReport}
    (h : gameReport rt payload handler = some report) :
    Reported report db (handler.run cfg rt env payload db).2 := by
  obtain ⟨snapshot, tx, hTx, hRun⟩ := run_runs cfg db h env
  have hBody := congrArg Prod.snd (hRun env.commit)
  change (handler.run cfg rt env payload db).2 = _ at hBody
  unfold Reported
  dsimp only
  rw [hBody]
  by_cases hGame : report.gameId = ""
  · rw [if_pos hGame, if_neg fun h => h.1 hGame]
  · rw [if_neg hGame, ← hTx.facts]
    rcases UnitOfWork.begin_healthy hHealthy tx db with ⟨s, log, hOk, hLog, hDb⟩ | ⟨hNone, hDb⟩
    · obtain ⟨row, hRow, rfl⟩ := hTx.written s hOk
      obtain rfl := pure_ok.mp hLog
      obtain ⟨hId, hTitle, hDeveloper, t, _, hRowKey, hRowFacts, _⟩ :=
        PostgresCatalogGameRepository.upsertRow_ok.mp hRow
      rw [hTx.key] at hId hRowKey
      rw [if_pos ⟨hGame, hId, hTitle, hDeveloper⟩]
      exact ⟨row, hRowKey, hRowFacts, hDb⟩
    · rw [if_neg]
      · exact hDb
      · rintro ⟨_, hId, hTitle, hDeveloper⟩
        obtain ⟨row, hRow⟩ := hTx.accepted hNow hId hTitle hDeveloper
        exact hNone _ _ (hTx.writes hHealthy row hRow) rfl

theorem run_unreported {handler : Handler} {payload : Fields}
    (h : gameReport rt payload handler = none) :
    (handler.run cfg rt env payload db).2.catalogGames = db.catalogGames := by
  cases handler with
  | gamePublished => cases h
  | gameWithdrawn => cases h
  | gameRelisted => cases h
  | gameUpdated =>
      change (gameUpdated rt env payload db).2.catalogGames = _
      unfold gameReport at h
      unfold gameUpdated
      cases hTitle : Json.get payload "title" with
      | null =>
          cases require rt payload "game_id" with
          | error e => rfl
          | ok gameId => rfl
      | _ => simp [hTitle] at h
  | promotion eventType =>
      obtain ⟨_, _, hAfter⟩ := promotionEvent_promotions cfg rt env db eventType payload
      rw [Handler.run, hAfter]

end CatalogSyncService

namespace GameReport

/-- Where a row's texts can be stored, the report decides whether the new row's
can. -/
theorem storable_onto {report : GameReport} {existing : Option GameFacts}
    (hStored : ∀ facts ∈ existing,
      Text.storable facts.title = true ∧ Text.storable facts.developerId = true)
    (hDeveloper : report.replacesDeveloper = false → Text.storable report.developerId = true) :
    (Text.storable report.gameId = true ∧ Text.storable (report.onto existing).title = true ∧
      Text.storable (report.onto existing).developerId = true) ↔ report.storable = true := by
  unfold storable
  rw [Bool.and_eq_true, Bool.and_eq_true, and_assoc]
  refine and_congr_right fun _ => ?_
  cases existing with
  | none => rfl
  | some facts =>
      obtain ⟨hTitle, hId⟩ := hStored facts rfl
      have hOnto : Text.storable (orText report.title facts.title) = Text.storable report.title :=
        storable_orText hTitle
      change Text.storable (orText report.title facts.title) = true ∧
        Text.storable (if report.replacesDeveloper then orText report.developerId facts.developerId
          else facts.developerId) = true ↔ _
      rw [hOnto]
      refine and_congr_right fun _ => ?_
      cases hReplaces : report.replacesDeveloper with
      | true => rw [if_pos rfl, storable_orText hId]
      | false => rw [if_neg (by decide), hId, hDeveloper hReplaces]

/-- A report that is applied to the row that it has created changes nothing. -/
theorem update_create (report : GameReport) : report.update report.create = report.create := by
  unfold update create
  simp only [orText_self, ite_self]
  cases report.published with
  | none => rfl
  | some published => rfl

theorem update_update (report : GameReport) (facts : GameFacts) :
    report.update (report.update facts) = report.update facts := by
  unfold update
  simp only [orText_orText, GameFacts.mk.injEq, true_and]
  refine ⟨?_, ?_⟩
  · split_ifs
    · rw [orText_orText]
    · rfl
  · cases report.published with
    | none => rfl
    | some published => rfl

/-- Each column is either overwritten or kept, whatever is in it. So rows that
agree before an update agree after it. -/
theorem update_congr {report : GameReport} (other : GameReport) {facts facts' : GameFacts}
    (h : report.update facts = report.update facts') :
    report.update (other.update facts) = report.update (other.update facts') := by
  obtain ⟨hTitle, hDeveloper, hPublished⟩ := GameFacts.mk.inj h
  unfold update
  rw [GameFacts.mk.injEq]
  refine ⟨orText_congr hTitle, ?_, ?_⟩
  · cases hReplaces : report.replacesDeveloper with
    | true =>
        simp only [hReplaces, if_true] at hDeveloper ⊢
        split_ifs
        · exact orText_congr hDeveloper
        · exact hDeveloper
    | false =>
        simp only [hReplaces, Bool.false_eq_true, if_false] at hDeveloper ⊢
        rw [hDeveloper]
  · cases hGiven : report.published with
    | none =>
        rw [hGiven] at hPublished
        have hSame : facts.published = facts'.published := hPublished
        rw [hSame]
    | some published => rfl

end GameReport

/-! Messages on one game. -/

/-- What a message says about this game, if the columns hold it. A report that
they do not hold is never written. -/
def Envelope.gameReport (rt : Runtime) (gameId : String) (envelope : Envelope Json) :
    Option GameReport :=
  (envelope.handler?.bind (Arcadia.gameReport rt envelope.payload)).filter fun report =>
    report.gameId = gameId && report.gameId ≠ "" && report.storable

def createGame (rt : Runtime) (gameId : String) (envelope : Envelope Json) : Option GameFacts :=
  (envelope.gameReport rt gameId).map GameReport.create

def updateGame (rt : Runtime) (gameId : String) (envelope : Envelope Json) (facts : GameFacts) :
    GameFacts :=
  match envelope.gameReport rt gameId with
  | some report => report.update facts
  | none => facts

/-- Reports on a game absorb their own repetitions, and those of earlier
reports that later ones have replaced. -/
theorem games_absorbing (rt : Runtime) (gameId : String) :
    Redelivery.Absorbing (createGame rt gameId) (updateGame rt gameId) := by
  apply Redelivery.Absorbing.of_overwriting
  · intro envelope hNone facts
    have hReport : envelope.gameReport rt gameId = none := Option.map_eq_none_iff.mp hNone
    rw [updateGame, hReport]
  · intro envelope facts hSome
    obtain ⟨report, hReport, rfl⟩ := Option.map_eq_some_iff.mp hSome
    rw [updateGame, hReport]
    exact report.update_create
  · intro envelope facts
    unfold updateGame
    cases envelope.gameReport rt gameId with
    | none => rfl
    | some report => exact report.update_update facts
  · intro envelope other facts facts' h
    unfold updateGame at h ⊢
    cases hReport : envelope.gameReport rt gameId with
    | none =>
        rw [hReport] at h
        have hSame : facts = facts' := h
        rw [hSame]
    | some report =>
        rw [hReport] at h
        cases other.gameReport rt gameId with
        | none => exact h
        | some report' => exact GameReport.update_congr report' h

/-- A `GameUpdated` with a title names a developer that can be stored. Only
this message is rejected for its developer when there is no row, and not when
there is. -/
def DeveloperStorable (rt : Runtime) (envelope : Envelope Json) : Prop :=
  envelope.handler? = some .gameUpdated → Json.get envelope.payload "title" ≠ .null →
    Text.storable (CatalogSyncService.textField rt envelope.payload "developer_id") = true

/-- The stored texts of the games. -/
def Database.GamesStored (db : Database) : Prop :=
  ∀ row ∈ db.catalogGames.rows,
    Text.storable row.title = true ∧ Text.storable row.developerId = true

/-- Only a publication replaces the developer of a row. A change of the title
is about a row that has one. -/
theorem gameReport_developer {rt : Runtime} {payload : Fields}
    {handler : CatalogSyncService.Handler} {report : GameReport}
    (h : gameReport rt payload handler = some report) :
    report.replacesDeveloper = true ∨ report.developerId = "" ∨
      handler = .gameUpdated ∧ Json.get payload "title" ≠ .null ∧ report.developerId = CatalogSyncService.textField rt payload "developer_id" := by
  cases handler with
  | gamePublished =>
      obtain rfl := Option.some.inj h
      exact Or.inl rfl
  | gameWithdrawn =>
      obtain rfl := Option.some.inj h
      exact Or.inr (Or.inl rfl)
  | gameRelisted =>
      obtain rfl := Option.some.inj h
      exact Or.inr (Or.inl rfl)
  | gameUpdated =>
      unfold gameReport at h
      cases hTitle : Json.get payload "title" with
      | null => simp [hTitle] at h
      | _ =>
          rw [hTitle] at h
          obtain rfl := Option.some.inj h
          exact Or.inr (Or.inr ⟨rfl, (fun h => nomatch h), rfl⟩)
  | promotion eventType => cases h

theorem act_of_no_report {rt : Runtime} {gameId : String} {envelope : Envelope Json}
    (h : envelope.gameReport rt gameId = none) (facts : Option GameFacts) :
    Redelivery.act (createGame rt gameId) (updateGame rt gameId) facts envelope = facts := by
  cases facts with
  | none => rw [Redelivery.act, createGame, h, Option.map_none]
  | some facts => rw [Redelivery.act, updateGame, h]

/-- A message that reports on the game does to its facts what the report says. -/
theorem act_of_report {rt : Runtime} {gameId : String} {envelope : Envelope Json}
    {report : GameReport} (h : envelope.gameReport rt gameId = some report)
    (facts : Option GameFacts) :
    Redelivery.act (createGame rt gameId) (updateGame rt gameId) facts envelope =
      some (report.onto facts) := by
  cases facts with
  | none => rw [Redelivery.act, createGame, h, Option.map_some, GameReport.onto]
  | some facts => rw [Redelivery.act, updateGame, h, GameReport.onto]

section
variable {cfg : Config} {rt : Runtime} {db : Database} {delivered : Delivered}

/-- What one message does to the games: nothing, or it puts the row that its
report makes of the one there is. -/
theorem consume_games_cases (cfg : Config) (hCalm : Calm rt db delivered) :
    ((∀ report, delivered.envelope.handler?.bind (gameReport rt delivered.envelope.payload) =
        some report →
      ¬(report.gameId ≠ "" ∧ Text.storable report.gameId = true ∧
        let facts := report.onto ((db.catalogGames.find? report.gameId).map CatalogGameRow.facts)
        Text.storable facts.title = true ∧ Text.storable facts.developerId = true)) ∧
      (consume cfg rt db delivered).catalogGames = db.catalogGames) ∨
    ∃ report row, delivered.envelope.handler?.bind (gameReport rt delivered.envelope.payload) =
        some report ∧ report.gameId ≠ "" ∧ Text.storable report.gameId = true ∧
      Text.storable row.title = true ∧ Text.storable row.developerId = true ∧
      row.gameId = report.gameId ∧
      row.facts = report.onto ((db.catalogGames.find? report.gameId).map CatalogGameRow.facts) ∧
      (consume cfg rt db delivered).catalogGames = db.catalogGames.put row := by
  unfold consume
  cases delivered.envelope.handler? with
  | none => exact Or.inl ⟨(fun _ h => nomatch h), rfl⟩
  | some handler =>
      cases hReport : gameReport rt delivered.envelope.payload handler with
      | none =>
          refine Or.inl ⟨?_, CatalogSyncService.run_unreported hReport⟩
          intro report h
          cases hReport.symm.trans h
      | some report =>
          have hRun := CatalogSyncService.run_reported hCalm.healthy hCalm.now cfg db hReport
          unfold CatalogSyncService.Reported at hRun
          dsimp only at hRun
          split_ifs at hRun with hAccepted
          · obtain ⟨row, hKey, hFacts, hDb⟩ := hRun
            obtain ⟨hGame, hId, hTitle, hDeveloper⟩ := hAccepted
            rw [← hFacts] at hTitle hDeveloper
            refine Or.inr ⟨report, row, hReport, hGame, hId, hTitle, hDeveloper, hKey, hFacts, ?_⟩
            exact congrArg Database.catalogGames hDb
          · refine Or.inl ⟨?_, congrArg Database.catalogGames hRun⟩
            intro other h
            obtain rfl := Option.some.inj (hReport.symm.trans h)
            exact hAccepted

/-- A message with a report is processed and puts the row that its report
makes, or it fails and changes nothing. -/
theorem processed_cases (cfg : Config) {handler : CatalogSyncService.Handler} {report : GameReport}
    (hHandler : delivered.envelope.handler? = some handler)
    (hReport : gameReport rt delivered.envelope.payload handler = some report) :
    (delivered.processed cfg rt db = false ∧ consume cfg rt db delivered = db) ∨
      (delivered.processed cfg rt db = true ∧ ∃ row, Text.storable row.title = true ∧
        Text.storable row.developerId = true ∧ row.gameId = report.gameId ∧
        row.facts = report.onto ((db.catalogGames.find? report.gameId).map CatalogGameRow.facts) ∧
        (consume cfg rt db delivered).catalogGames = db.catalogGames.put row) := by
  obtain ⟨snapshot, tx, hTx, hRun⟩ := CatalogSyncService.run_runs cfg db hReport delivered.env
  have hBody := hRun delivered.env.commit
  change handler.run cfg rt delivered.env delivered.envelope.payload db = _ at hBody
  have hSettled := hRun delivered.env.settled.commit
  change handler.run cfg rt delivered.env.settled delivered.envelope.payload db = _ at hSettled
  unfold Delivered.processed consume
  rw [hHandler]
  dsimp only
  rw [hBody, hSettled]
  by_cases hGame : report.gameId = ""
  · rw [if_pos hGame, if_pos hGame]
    exact Or.inl ⟨rfl, rfl⟩
  · rw [if_neg hGame, if_neg hGame]
    rcases UnitOfWork.begin_settled delivered.env tx db with
      ⟨e, hError, hDb⟩ | ⟨hOk, s, log, hDone, hLog, hDb⟩
    · left
      refine ⟨?_, hDb⟩
      have hFails : (UnitOfWork.begin_
          { delivered.env with commit := delivered.env.settled.commit } tx db).1 = .error e := hError
      rw [hFails]
    · right
      obtain ⟨row, hRow, rfl⟩ := hTx.written s hDone
      obtain ⟨_, hTitle, hDeveloper, _, _, hKey, hFacts, _⟩ :=
        PostgresCatalogGameRepository.upsertRow_ok.mp hRow
      rw [← hFacts] at hTitle hDeveloper
      refine ⟨?_, row, hTitle, hDeveloper, hKey.trans hTx.key, hFacts.trans hTx.facts, ?_⟩
      · have hReturns : (UnitOfWork.begin_
            { delivered.env with commit := delivered.env.settled.commit } tx db).1 = .ok () := hOk
        rw [hReturns]
      · exact congrArg Database.catalogGames hDb

/-- A message without a report leaves the games alone. -/
theorem consume_unreported (cfg : Config)
    (h : delivered.envelope.handler?.bind (gameReport rt delivered.envelope.payload) = none) :
    (consume cfg rt db delivered).catalogGames = db.catalogGames := by
  unfold consume
  cases hHandler : delivered.envelope.handler? with
  | none => rfl
  | some handler =>
      rw [hHandler] at h
      exact CatalogSyncService.run_unreported h

/-- The texts of the games have passed the columns, and still do after every
message. -/
theorem consume_gamesStored (cfg : Config) (rt : Runtime) (delivered : Delivered)
    (hDb : db.GamesStored) : (consume cfg rt db delivered).GamesStored := by
  unfold Database.GamesStored
  cases hBind : delivered.envelope.handler?.bind (gameReport rt delivered.envelope.payload) with
  | none =>
      rw [consume_unreported cfg hBind]
      exact hDb
  | some report =>
      obtain ⟨handler, hHandler, hReport⟩ := Option.bind_eq_some_iff.mp hBind
      rcases processed_cases cfg hHandler hReport with
        ⟨_, hSame⟩ | ⟨_, row, hTitle, hDeveloper, _, _, hPut⟩
      · rw [hSame]
        exact hDb
      · rw [hPut]
        exact KeyedTable.forall_mem_put hDb ⟨hTitle, hDeveloper⟩

/-- One message does to the row of a game what its report says, and to no other
row. This is the step of the replay. -/
theorem consume_games (hCalm : Calm rt db delivered) (hDb : db.GamesStored)
    (hDeveloper : DeveloperStorable rt delivered.envelope) (gameId : String) :
    ((consume cfg rt db delivered).catalogGames.find? gameId).map CatalogGameRow.facts =
      Redelivery.act (createGame rt gameId) (updateGame rt gameId)
        ((db.catalogGames.find? gameId).map CatalogGameRow.facts) delivered.envelope := by
  have hStored (id : String) : ∀ facts ∈ (db.catalogGames.find? id).map CatalogGameRow.facts,
      Text.storable facts.title = true ∧ Text.storable facts.developerId = true := by
    intro facts hFacts
    obtain ⟨row, hRow, rfl⟩ := Option.map_eq_some_iff.mp hFacts
    exact hDb row (KeyedTable.mem_of_find? hRow)
  have hKept (report : GameReport)
      (h : delivered.envelope.handler?.bind (gameReport rt delivered.envelope.payload) =
        some report) (hReplaces : report.replacesDeveloper = false) :
      Text.storable report.developerId = true := by
    obtain ⟨handler, hHandler, hReport⟩ := Option.bind_eq_some_iff.mp h
    rcases gameReport_developer hReport with hTrue | hEmpty | ⟨rfl, hTitle, hField⟩
    · rw [hReplaces] at hTrue
      cases hTrue
    · rw [hEmpty]
      exact Text.storable_empty
    · rw [hField]
      exact hDeveloper hHandler hTitle
  rcases consume_games_cases cfg hCalm with
    ⟨hRejected, hSame⟩ | ⟨report, row, hReport, hGame, hId, hTitle, hDev, hKey, hFacts, hPut⟩
  · rw [hSame, act_of_no_report]
    rw [Envelope.gameReport, Option.filter_eq_none_iff]
    intro report hReport hAccepted
    simp only [Bool.and_eq_true, decide_eq_true_eq] at hAccepted
    obtain ⟨⟨_, hGame⟩, hStorable⟩ := hAccepted
    exact hRejected report hReport ⟨hGame,
      (GameReport.storable_onto (hStored report.gameId) (hKept report hReport)).mpr hStorable⟩
  · have hStorable : report.storable = true := by
      rw [← GameReport.storable_onto (hStored report.gameId) (hKept report hReport), ← hFacts]
      exact ⟨hId, hTitle, hDev⟩
    rw [hPut]
    by_cases hThis : report.gameId = gameId
    · subst hThis
      have hOf : delivered.envelope.gameReport rt report.gameId = some report := by
        simp [Envelope.gameReport, hReport, hGame, hStorable]
      rw [act_of_report hOf, ← hFacts, ← hKey, KeyedTable.find?_put_self]
      rfl
    · rw [act_of_no_report, KeyedTable.find?_put_ne _ (hKey ▸ hThis)]
      simp [Envelope.gameReport, hReport, hThis]

end
end Arcadia
