import ArcadiaFestival.Adapters.Session
import ArcadiaFestival.Application.Events

/-! The repositories run the queries and translate between rows and domain objects.
Writing a festival back is split into what is written, computed from the rows as
they are, and the writing itself. -/
namespace Arcadia
open Library

/-- The game rows of a festival, in the order in which its `games` are loaded. -/
def Database.gamesOf (db : Database) (festivalId : String) :
    KeyedTable FestivalGameRow.gameId :=
  (db.festivalGames.select (fun row => row.festivalId = festivalId) FestivalGameRow.gameId
    (fun r s hr hs h => by
      simp only [decide_eq_true_eq] at hr hs
      simp [FestivalGameRow.key, hr, hs, h])).orderBy (fun a b => a.addedAt ≤ b.addedAt)

theorem Database.find?_gamesOf (db : Database) (festivalId gameId : String) :
    (db.gamesOf festivalId).find? gameId = db.festivalGames.find? (festivalId, gameId) := by
  rw [gamesOf, KeyedTable.find?_orderBy]
  apply KeyedTable.find?_select
  intro r
  simp [FestivalGameRow.key]

def FestivalGameRow.toGame (row : FestivalGameRow) : FestivalGame where
  gameId := row.gameId
  title := row.title
  developerId := row.developerId
  addedBy := row.addedBy
  addedAt := .ofTimestamptz row.addedAt

/-- `_to_festival` -/
def toFestival (row : FestivalRow) (games : KeyedTable FestivalGameRow.gameId) :
    Except Exn Festival := do
  let state ← FestivalState.parse row.state
  return {
    id := row.id
    name := row.name
    description := row.description
    startsAt := .ofTimestamptz row.startsAt
    endsAt := .ofTimestamptz row.endsAt
    state := state
    createdBy := row.createdBy
    createdAt := .ofTimestamptz row.createdAt
    startedAt := row.startedAt.map .ofTimestamptz
    endedAt := row.endedAt.map .ofTimestamptz
    games := games.translate (fun game => (game.gameId, game.toGame)) Prod.fst (fun _ => rfl)
    version := row.version }

/-- `_to_catalog_game` -/
def toCatalogGame (row : CatalogGameRow) : CatalogGameSnapshot where
  gameId := row.gameId
  title := row.title
  developerId := row.developerId
  published := row.published
  updatedAt := .ofTimestamptz row.updatedAt

/-- `_money` of the repositories -/
def moneyOfColumns (rt : Runtime) (minor : Option Int) (currency : Option String) :
    Except Exn (Option Money) :=
  match minor, currency with
  | some minor, some currency =>
      if currency = "" then .ok none else (Money.new rt minor (.str currency)).map some
  | _, _ => .ok none

/-- `_to_promotion` -/
def toPromotion (rt : Runtime) (row : PromotionSnapshotRow) : Except Exn PromotionSnapshot := do
  let listPrice ← moneyOfColumns rt row.listPriceMinor row.listPriceCurrency
  let effectivePrice ← moneyOfColumns rt row.effectivePriceMinor row.effectivePriceCurrency
  return {
    promotionId := row.promotionId
    festivalId := row.festivalId
    gameId := row.gameId
    state := row.state
    discountBps := row.discountBps
    startsAt := .ofTimestamptz row.startsAt
    endsAt := .ofTimestamptz row.endsAt
    listPrice := listPrice
    effectivePrice := effectivePrice
    updatedAt := .ofTimestamptz row.updatedAt }

/-- `CONSTRAINT festivals_window_ck CHECK (ends_at > starts_at)` -/
def checkFestivalRow (row : FestivalRow) : Except Exn FestivalRow :=
  if row.startsAt < row.endsAt then .ok row
  else .error (databaseError "new row violates check constraint festivals_window_ck")

/-- The row that `add` inserts, if the columns take what the festival holds. -/
def newFestivalRow (rt : Runtime) (festival : Festival) : Except Exn FestivalRow := do
  checkFestivalRow {
    id := ← Column.text festival.id
    name := ← Column.text festival.name
    description := ← Column.text festival.description
    state := festival.state.text
    startsAt := ← rt.timestamptz festival.startsAt
    endsAt := ← rt.timestamptz festival.endsAt
    createdBy := ← Column.text festival.createdBy
    createdAt := ← rt.timestamptz festival.createdAt
    startedAt := none
    endedAt := none
    version := 0 }

/-- The row that `save` updates, with its new version. The id, the creator and
the time of the creation are not written. -/
def savedFestivalRow (rt : Runtime) (row : FestivalRow) (festival : Festival) :
    Except Exn FestivalRow := do
  let _ ← Column.int4 (festival.version + 1)
  checkFestivalRow { row with
    name := ← Column.text festival.name
    description := ← Column.text festival.description
    state := festival.state.text
    startsAt := ← rt.timestamptz festival.startsAt
    endsAt := ← rt.timestamptz festival.endsAt
    startedAt := ← Column.nullable rt.timestamptz festival.startedAt
    endedAt := ← Column.nullable rt.timestamptz festival.endedAt
    version := festival.version + 1 }

def newFestivalGameRow (rt : Runtime) (festivalId : String) (game : FestivalGame) :
    Except Exn FestivalGameRow := do
  return {
    festivalId := festivalId
    gameId := ← Column.text game.gameId
    title := ← Column.text game.title
    developerId := ← Column.text game.developerId
    addedBy := ← Column.text game.addedBy
    addedAt := ← rt.timestamptz game.addedAt }

/-- What one call of `save` writes: the festival row, and the game rows it
deletes and inserts. -/
structure FestivalWrite where
  row : FestivalRow
  removed : List String
  added : List FestivalGameRow

/-- The game list is replaced: rows of games that are no longer wanted go,
wanted games that have no row get one, and the other rows stay as they are. -/
def planSave (rt : Runtime) (db : Database) (festival : Festival) : Except Exn FestivalWrite := do
  match db.festivals.find? festival.id with
  | none => throw (notFound ("festival " ++ festival.id ++ " was not found") "")
  | some row =>
      if row.version ≠ festival.version then
        throw (conflict
          ("festival " ++ festival.id ++ " was modified by another request; retry")
          "CONCURRENT_MODIFICATION" [])
      let saved ← savedFestivalRow rt row festival
      let existing := db.gamesOf festival.id
      let removed := (existing.rows.map FestivalGameRow.gameId).filter fun gameId =>
        (festival.games.get? gameId).isNone
      let missing := festival.games.rows.filter fun entry => (existing.find? entry.1).isNone
      let added ← missing.mapM fun entry => newFestivalGameRow rt festival.id entry.2
      return ⟨saved, removed, added⟩

def FestivalWrite.apply (write : FestivalWrite) (db : Database) : Database :=
  { db with
    festivals := db.festivals.put write.row
    festivalGames := write.added.foldl KeyedTable.put
      ((write.removed.map fun gameId => (write.row.id, gameId)).foldl KeyedTable.erase
        db.festivalGames) }

namespace PostgresFestivalRepository
variable (rt : Runtime) (env : Env)

def add (festival : Festival) : Tx Unit := do
  Tx.call env .festivalsAdd
  let row ← Tx.lift (newFestivalRow rt festival)
  let session ← get
  if (session.db.festivals.find? row.id).isSome then
    Tx.lift (.error (databaseError "duplicate key value violates unique constraint"))
  modify fun session =>
    { session with db := { session.db with festivals := session.db.festivals.put row } }

/-- The festival as the database has it, read with or without a row lock. Both
queries read the same columns. -/
def load (db : Database) (festivalId : String) : Except Exn (Option Festival) := do
  let festivalId ← Column.text festivalId
  match db.festivals.find? festivalId with
  | none => return none
  | some row => some <$> toFestival row (db.gamesOf festivalId)

def get_ (festivalId : String) : Tx (Option Festival) := do
  Tx.call env .festivalsGet
  let session ← get
  Tx.lift (load session.db festivalId)

def getForUpdate (festivalId : String) : Tx (Option Festival) := do
  Tx.call env .festivalsGetForUpdate
  let session ← get
  Tx.lift (load session.db festivalId)

def save (festival : Festival) : Tx Unit := do
  Tx.call env .festivalsSave
  let session ← get
  let write ← Tx.lift (planSave rt session.db festival)
  modify fun session => { session with db := write.apply session.db }

/-- One page of the festivals in a state, or in any, those that start last
first, and how many there are on all pages. -/
def loadPage (collation : Collation) (db : Database) (limit offset : Nat)
    (state : Option FestivalState) : Except Exn (List Festival × Nat) := do
  let rows := db.festivals.rows.filter fun row => state.all fun s => row.state = s.text
  let sorted := rows.insertionSort fun a b =>
    b.startsAt < a.startsAt ∨ a.startsAt = b.startsAt ∧ collation.le a.id b.id = true
  let festivals ← ((sorted.drop offset).take limit).mapM fun row =>
    toFestival row (db.gamesOf row.id)
  return (festivals, rows.length)

def list (collation : Collation) (limit offset : Nat) (state : Option FestivalState) :
    Tx (List Festival × Nat) := do
  Tx.call env .festivalsList
  let session ← get
  Tx.lift (loadPage collation session.db limit offset state)

end PostgresFestivalRepository

/-- `snapshot.title or row.title` -/
def orText (value default : String) : String := if value = "" then default else value

namespace PostgresCatalogGameRepository
variable (rt : Runtime) (env : Env)

/-- The row after an upsert: empty texts keep what an existing row has. A
message without a title does not erase one. -/
def upsertRow (existing : Option CatalogGameRow) (snapshot : CatalogGameSnapshot) :
    Except Exn CatalogGameRow := do
  return {
    gameId := ← Column.text snapshot.gameId
    title := ← Column.text (match existing with
      | none => snapshot.title
      | some row => orText snapshot.title row.title)
    developerId := ← Column.text (match existing with
      | none => snapshot.developerId
      | some row => orText snapshot.developerId row.developerId)
    published := snapshot.published
    updatedAt := ← rt.timestamptz snapshot.updatedAt }

def upsert (snapshot : CatalogGameSnapshot) : Tx Unit := do
  Tx.call env .catalogGamesUpsert
  let session ← get
  let row ← Tx.lift (upsertRow rt (session.db.catalogGames.find? snapshot.gameId) snapshot)
  modify fun session =>
    { session with db := { session.db with catalogGames := session.db.catalogGames.put row } }

def load (db : Database) (gameId : String) : Except Exn (Option CatalogGameSnapshot) := do
  let gameId ← Column.text gameId
  return (db.catalogGames.find? gameId).map toCatalogGame

def get_ (gameId : String) : Tx (Option CatalogGameSnapshot) := do
  Tx.call env .catalogGamesGet
  let session ← get
  Tx.lift (load session.db gameId)

end PostgresCatalogGameRepository

namespace PostgresPromotionRepository
variable (rt : Runtime) (env : Env)

/-- What an existing row has is kept. -/
def kept (existing : Option PromotionSnapshotRow) (field : PromotionSnapshotRow → String)
    (value : String) : Except Exn String :=
  match existing with
  | none => Column.text value
  | some row => .ok (field row)

/-- The row after an upsert. An existing row keeps its festival and its game,
whatever the snapshot says of them. -/
def upsertRow (existing : Option PromotionSnapshotRow) (snapshot : PromotionSnapshot) :
    Except Exn PromotionSnapshotRow := do
  return {
    promotionId := ← Column.text snapshot.promotionId
    festivalId := ← kept existing PromotionSnapshotRow.festivalId snapshot.festivalId
    gameId := ← kept existing PromotionSnapshotRow.gameId snapshot.gameId
    state := ← Column.text snapshot.state
    discountBps := ← Column.int4 snapshot.discountBps
    startsAt := ← rt.timestamptz snapshot.startsAt
    endsAt := ← rt.timestamptz snapshot.endsAt
    listPriceMinor := ← Column.nullable Column.int8 (snapshot.listPrice.map Money.minor)
    listPriceCurrency := ← Column.nullable Column.text (snapshot.listPrice.map Money.currency)
    effectivePriceMinor := ← Column.nullable Column.int8 (snapshot.effectivePrice.map Money.minor)
    effectivePriceCurrency :=
      ← Column.nullable Column.text (snapshot.effectivePrice.map Money.currency)
    updatedAt := ← rt.timestamptz snapshot.updatedAt }

def upsert (snapshot : PromotionSnapshot) : Tx Unit := do
  Tx.call env .promotionsUpsert
  let session ← get
  let row ← Tx.lift
    (upsertRow rt (session.db.promotionSnapshots.find? snapshot.promotionId) snapshot)
  modify fun session =>
    { session with
      db := { session.db with promotionSnapshots := session.db.promotionSnapshots.put row } }

def load (db : Database) (promotionId : String) : Except Exn (Option PromotionSnapshot) := do
  let promotionId ← Column.text promotionId
  match db.promotionSnapshots.find? promotionId with
  | none => return none
  | some row => some <$> toPromotion rt row

def get_ (promotionId : String) : Tx (Option PromotionSnapshot) := do
  Tx.call env .promotionsGet
  let session ← get
  Tx.lift (load rt session.db promotionId)

/-- Newest first. -/
def listForFestival (festivalId : String) : Tx (List PromotionSnapshot) := do
  Tx.call env .promotionsListForFestival
  let session ← get
  let festivalId ← Tx.lift (Column.text festivalId)
  let rows := session.db.promotionSnapshots.rows.filter fun row => row.festivalId = festivalId
  (rows.insertionSort fun a b => a.updatedAt ≥ b.updatedAt).mapM fun row =>
    Tx.lift (toPromotion rt row)

end PostgresPromotionRepository

/-- The row for one event, with the envelope the publisher builds. The row
repeats what the dispatcher needs of it. -/
def OutboxEventPublisher.message (cfg : Config) (rt : Runtime) (env : Env)
    (eventType aggregateType aggregateId : String) (payload : Fields) (topic causationId : String) :
    OutboxMessage :=
  Outbox.enqueue rt (orText topic cfg.topicFestivalEvents)
    (EnvelopeFactory.build cfg.serviceName env.stamp eventType aggregateType aggregateId payload
      causationId)

/-- The row waits in the session for the flush, together with the change it
tells of. -/
def OutboxEventPublisher.enqueue (cfg : Config) (rt : Runtime) (env : Env)
    (eventType aggregateType aggregateId : String) (payload : Fields) (topic causationId : String) :
    Tx Unit := do
  Tx.call env .publisherEnqueue
  let row := message cfg rt env eventType aggregateType aggregateId payload topic causationId
  modify fun session => { session with pending := session.pending ++ [row] }

/-! What each call has done when it does not raise. -/

section
variable {cfg : Config} {rt : Runtime} {env : Env} {s t : Session}

theorem PostgresFestivalRepository.add_ok {festival : Festival} {u : Unit} :
    add rt env festival s = .ok (u, t) ↔ env.fault .festivalsAdd = none ∧
      ∃ row, newFestivalRow rt festival = .ok row ∧ s.db.festivals.find? row.id = none ∧
        t = { s with db := { s.db with festivals := s.db.festivals.put row } } := by
  unfold add
  rw [Tx.call_bind_ok]
  refine and_congr_right fun _ => ?_
  rw [Tx.lift_bind_ok]
  refine exists_congr fun row => and_congr_right fun _ => ?_
  rw [Tx.get_bind_ok]
  cases hRow : s.db.festivals.find? row.id with
  | none => simp [Tx.modify_ok]
  | some old => simp [Tx.lift_bind_ok]

theorem PostgresFestivalRepository.get_ok {festivalId : String} {result : Option Festival} :
    get_ env festivalId s = .ok (result, t) ↔
      env.fault .festivalsGet = none ∧ load s.db festivalId = .ok result ∧ t = s := by
  rw [get_, Tx.call_bind_ok, Tx.get_bind_ok, Tx.lift_ok]

theorem PostgresFestivalRepository.getForUpdate_ok {festivalId : String}
    {result : Option Festival} :
    getForUpdate env festivalId s = .ok (result, t) ↔
      env.fault .festivalsGetForUpdate = none ∧ load s.db festivalId = .ok result ∧ t = s := by
  rw [getForUpdate, Tx.call_bind_ok, Tx.get_bind_ok, Tx.lift_ok]

theorem PostgresFestivalRepository.save_ok {festival : Festival} {u : Unit} :
    save rt env festival s = .ok (u, t) ↔ env.fault .festivalsSave = none ∧
      ∃ write, planSave rt s.db festival = .ok write ∧ t = { s with db := write.apply s.db } := by
  unfold save
  rw [Tx.call_bind_ok]
  refine and_congr_right fun _ => ?_
  rw [Tx.get_bind_ok, Tx.lift_bind_ok]
  exact exists_congr fun write => and_congr_right fun _ => Tx.modify_ok

theorem PostgresCatalogGameRepository.get_ok {gameId : String}
    {result : Option CatalogGameSnapshot} :
    get_ env gameId s = .ok (result, t) ↔
      env.fault .catalogGamesGet = none ∧ load s.db gameId = .ok result ∧ t = s := by
  rw [get_, Tx.call_bind_ok, Tx.get_bind_ok, Tx.lift_ok]

theorem PostgresCatalogGameRepository.upsert_ok {snapshot : CatalogGameSnapshot} {u : Unit} :
    upsert rt env snapshot s = .ok (u, t) ↔ env.fault .catalogGamesUpsert = none ∧
      ∃ row, upsertRow rt (s.db.catalogGames.find? snapshot.gameId) snapshot = .ok row ∧
        t = { s with db := { s.db with catalogGames := s.db.catalogGames.put row } } := by
  unfold upsert
  rw [Tx.call_bind_ok]
  refine and_congr_right fun _ => ?_
  rw [Tx.get_bind_ok, Tx.lift_bind_ok]
  exact exists_congr fun row => and_congr_right fun _ => Tx.modify_ok

theorem PostgresPromotionRepository.get_ok {promotionId : String}
    {result : Option PromotionSnapshot} :
    get_ rt env promotionId s = .ok (result, t) ↔
      env.fault .promotionsGet = none ∧ load rt s.db promotionId = .ok result ∧ t = s := by
  rw [get_, Tx.call_bind_ok, Tx.get_bind_ok, Tx.lift_ok]

theorem PostgresPromotionRepository.upsert_ok {snapshot : PromotionSnapshot} {u : Unit} :
    upsert rt env snapshot s = .ok (u, t) ↔ env.fault .promotionsUpsert = none ∧
      ∃ row,
        upsertRow rt (s.db.promotionSnapshots.find? snapshot.promotionId) snapshot = .ok row ∧
        t = { s with
          db := { s.db with promotionSnapshots := s.db.promotionSnapshots.put row } } := by
  unfold upsert
  rw [Tx.call_bind_ok]
  refine and_congr_right fun _ => ?_
  rw [Tx.get_bind_ok, Tx.lift_bind_ok]
  exact exists_congr fun row => and_congr_right fun _ => Tx.modify_ok

/-- What `list_for_festival` reads. -/
def PostgresPromotionRepository.loadForFestival (rt : Runtime) (db : Database) (festivalId : String) :
    Except Exn (List PromotionSnapshot) := do
  let festivalId ← Column.text festivalId
  ((db.promotionSnapshots.rows.filter fun row => row.festivalId = festivalId).insertionSort
    fun a b => a.updatedAt ≥ b.updatedAt).mapM (toPromotion rt)

theorem PostgresPromotionRepository.listForFestival_eq (festivalId : String) :
    listForFestival rt env festivalId = (do
      Tx.call env .promotionsListForFestival
      let session ← get
      Tx.lift (loadForFestival rt session.db festivalId)) := by
  unfold listForFestival
  congr 1
  funext _
  congr 1
  funext session s
  unfold loadForFestival
  cases Column.text festivalId with
  | error e => rfl
  | ok key =>
      rw [Tx.bind_eq (Tx.lift_ok.mpr ⟨rfl, rfl⟩)]
      exact Tx.mapM_lift _ _ _

theorem PostgresPromotionRepository.listForFestival_ok {festivalId : String}
    {result : List PromotionSnapshot} :
    listForFestival rt env festivalId s = .ok (result, t) ↔
      env.fault .promotionsListForFestival = none ∧
        loadForFestival rt s.db festivalId = .ok result ∧ t = s := by
  rw [listForFestival_eq, Tx.call_bind_ok, Tx.get_bind_ok, Tx.lift_ok]

theorem PostgresPromotionRepository.loadForFestival_ok {db : Database} {festivalId : String}
    {result : List PromotionSnapshot} :
    loadForFestival rt db festivalId = .ok result ↔ Text.storable festivalId = true ∧
      ((db.promotionSnapshots.rows.filter fun row => row.festivalId = festivalId).insertionSort
        fun a b => a.updatedAt ≥ b.updatedAt).mapM (toPromotion rt) = .ok result := by
  unfold loadForFestival
  constructor
  · intro h
    cases hKey : Column.text festivalId with
    | error e =>
        rw [hKey] at h
        cases h
    | ok key =>
        rw [hKey] at h
        obtain ⟨hText, rfl⟩ := Column.text_ok.mp hKey
        exact ⟨hText, h⟩
  · rintro ⟨hText, h⟩
    rw [Column.text_ok.mpr ⟨hText, rfl⟩]
    exact h

/-- Where every stored promotion can be read, every festival has its list. -/
theorem PostgresPromotionRepository.exists_loadForFestival {db : Database} {festivalId : String}
    (hRows : ∀ row ∈ db.promotionSnapshots.rows, ∃ snapshot, toPromotion rt row = .ok snapshot)
    (hText : Text.storable festivalId = true) :
    ∃ result, loadForFestival rt db festivalId = .ok result := by
  have hListed : ∀ row ∈ (db.promotionSnapshots.rows.filter fun row =>
      row.festivalId = festivalId).insertionSort fun a b => a.updatedAt ≥ b.updatedAt,
      ∃ snapshot, toPromotion rt row = .ok snapshot := by
    intro row hRow
    exact hRows row (List.mem_of_mem_filter ((List.mem_insertionSort _).mp hRow))
  obtain ⟨result, hResult⟩ := Fallible.mapM_ok_of_forall hListed
  exact ⟨result, loadForFestival_ok.mpr ⟨hText, hResult⟩⟩

theorem PostgresPromotionRepository.mem_loadForFestival {db : Database} {festivalId : String}
    {result : List PromotionSnapshot} (h : loadForFestival rt db festivalId = .ok result)
    (snapshot : PromotionSnapshot) :
    snapshot ∈ result ↔ ∃ row ∈ db.promotionSnapshots.rows, row.festivalId = festivalId ∧
      toPromotion rt row = .ok snapshot := by
  obtain ⟨_, hRows⟩ := loadForFestival_ok.mp h
  rw [Fallible.mem_mapM_ok hRows]
  simp only [List.mem_insertionSort, List.mem_filter, decide_eq_true_eq, and_assoc]

/-- Each promotion of a festival is in its list. -/
theorem PostgresPromotionRepository.loadForFestival_lists {db : Database}
    {row : PromotionSnapshotRow} {result : List PromotionSnapshot}
    (h : loadForFestival rt db row.festivalId = .ok result)
    (hRow : row ∈ db.promotionSnapshots.rows) :
    ∃ snapshot ∈ result, toPromotion rt row = .ok snapshot := by
  obtain ⟨_, hRows⟩ := loadForFestival_ok.mp h
  obtain ⟨snapshot, hSnapshot⟩ := Fallible.exists_of_mapM_ok hRows
    ((List.mem_insertionSort _).mpr (List.mem_filter.mpr ⟨hRow, decide_eq_true rfl⟩))
  exact ⟨snapshot, (mem_loadForFestival h snapshot).mpr ⟨row, hRow, rfl, hSnapshot⟩, hSnapshot⟩

theorem OutboxEventPublisher.enqueue_ok {eventType aggregateType aggregateId : String}
    {payload : Fields} {topic causationId : String} {u : Unit} :
    enqueue cfg rt env eventType aggregateType aggregateId payload topic causationId s =
        .ok (u, t) ↔
      env.fault .publisherEnqueue = none ∧
        t = { s with
          pending := s.pending ++
            [message cfg rt env eventType aggregateType aggregateId payload topic causationId] } := by
  rw [enqueue, Tx.call_bind_ok, Tx.modify_ok]

end
end Arcadia
